import AmqpClient.Proofs.MechanismConduct
import AmqpClient.Sasl.Handshake

/-!
# The protocol of a handshake

Frames may come in any order, and mechanisms may do as they like. What one event can do is listed
once, case by case; from it follows how the answers of a whole run and the phase at its end belong
together.
-/

namespace AmqpClient.Sasl

def Event.frame : Event → Frame
  | mechanisms _ => .mechanisms
  | challenge _ => .challenge
  | outcome _ => .outcome

@[simp] lemma Event.frame_mechanisms (offered : List String) :
    (mechanisms offered).frame = .mechanisms := rfl

@[simp] lemma Event.frame_challenge (data : List UInt8) : (challenge data).frame = .challenge := rfl

@[simp] lemma Event.frame_outcome (o : Outcome) : (outcome o).frame = .outcome := rfl

/-- The frames that may come in a phase. -/
def Phase.permits : Phase → Frame → Bool
  | awaiting, .mechanisms => true
  | negotiating _, .challenge => true
  | negotiating _, .outcome => true
  | _, _ => false

def Phase.isFailed : Phase → Bool
  | failed _ => true
  | _ => false

/-- An error other than that a frame may not come. -/
def Error.isFailure : Error → Bool
  | unexpected _ => false
  | _ => true

def isFailure : Except Error Answer → Bool
  | .error e => e.isFailure
  | .ok _ => false

def isInit : Except Error Answer → Bool
  | .ok (.init _) => true
  | _ => false

/-- There is an element as `R` says of it and those after it, and all before it are as `Q` says. -/
def Until {α : Type} (Q : α → Prop) (R : α → List α → Prop) (l : List α) : Prop :=
  ∃ before x after, l = before ++ x :: after ∧ (∀ y ∈ before, Q y) ∧ R x after

lemma not_until_nil {α : Type} {Q : α → Prop} {R : α → List α → Prop} : ¬Until Q R [] := by
  rintro ⟨before, x, after, h, -⟩
  simp at h

lemma until_cons {α : Type} {Q : α → Prop} {R : α → List α → Prop} {x : α} {l : List α} :
    Until Q R (x :: l) ↔ R x l ∨ Q x ∧ Until Q R l := by
  constructor
  · rintro ⟨before, y, after, h, hbefore, hy⟩
    cases before with
    | nil =>
      cases h
      exact .inl hy
    | cons first before =>
      cases h
      exact .inr ⟨hbefore x List.mem_cons_self, before, y, after, rfl,
        fun z hz => hbefore z (List.mem_cons_of_mem _ hz), hy⟩
  · rintro (h | ⟨hx, before, y, after, rfl, hbefore, hy⟩)
    · exact ⟨[], x, l, rfl, by simp, h⟩
    · refine ⟨x :: before, y, after, rfl, fun z hz => ?_, hy⟩
      rcases List.mem_cons.1 hz with rfl | hz
      · exact hx
      · exact hbefore z hz

namespace Handshake

variable {h next : Handshake} {event : Event} {answer : Except Error Answer}

/-! ### What an offer and a challenge come to -/

section Offer

variable {offered : List String} {found i : Instance}

lemma onMechanisms_of_none (hp : h.phase = .awaiting) (hs : h.situation.select offered = none) :
    h.onMechanisms offered = (.error (.noMatch offered), { h with phase := .failed none }) := by
  unfold onMechanisms
  simp only [hp, hs]

lemma onMechanisms_of_error {e : Error} (hp : h.phase = .awaiting)
    (hs : h.situation.select offered = some found)
    (hr : Instance.initialResponse { found with credentials := h.credentials } = (.error e, i)) :
    h.onMechanisms offered = (.error e, { h with phase := .failed none }) := by
  unfold onMechanisms
  simp only [hp, hs, hr]

lemma onMechanisms_of_ok {response : Option (List UInt8)} (hp : h.phase = .awaiting)
    (hs : h.situation.select offered = some found)
    (hr : Instance.initialResponse { found with credentials := h.credentials } =
      (.ok response, i)) :
    h.onMechanisms offered = (.ok ⟨i.mechanism.name, response, h.settings.hostname⟩,
      { h with phase := .negotiating i }) := by
  unfold onMechanisms
  simp only [hp, hs, hr]

end Offer

section Challenge

variable {i j : Instance} {data : List UInt8}

lemma onChallenge_of_error {e : Error} (hp : h.phase = .negotiating i)
    (hr : i.challengeResponse data = (.error e, j)) :
    h.onChallenge data = (.error e, { h with phase := .failed j }) := by
  unfold onChallenge
  simp only [hp, hr]

lemma onChallenge_of_ok {response : List UInt8} (hp : h.phase = .negotiating i)
    (hr : i.challengeResponse data = (.ok response, j)) :
    h.onChallenge data = (.ok response, { h with phase := .negotiating j }) := by
  unfold onChallenge
  simp only [hp, hr]

end Challenge

/-- All that an event can do: the answer to it and the handshake after it. -/
inductive Transition (h : Handshake) : Event → Except Error Answer → Handshake → Prop where
  | refused (event : Event) (hp : h.phase.permits event.frame = false) :
    Transition h event (.error (.unexpected event.frame.name)) h
  | unmatched (offered : List String) (hp : h.phase = .awaiting)
      (hs : h.situation.select offered = none) :
    Transition h (.mechanisms offered) (.error (.noMatch offered)) { h with phase := .failed none }
  | uninitiated (offered : List String) (found i : Instance) (e : Error) (hp : h.phase = .awaiting)
      (hs : h.situation.select offered = some found)
      (hr : Instance.initialResponse { found with credentials := h.credentials } = (.error e, i)) :
    Transition h (.mechanisms offered) (.error e) { h with phase := .failed none }
  | chosen (offered : List String) (found i : Instance) (response : Option (List UInt8))
      (hp : h.phase = .awaiting) (hs : h.situation.select offered = some found)
      (hr : Instance.initialResponse { found with credentials := h.credentials } =
        (.ok response, i)) :
    Transition h (.mechanisms offered)
      (.ok (.init ⟨i.mechanism.name, response, h.settings.hostname⟩))
      { h with phase := .negotiating i }
  | answered (i j : Instance) (data response : List UInt8) (hp : h.phase = .negotiating i)
      (hr : i.challengeResponse data = (.ok response, j)) :
    Transition h (.challenge data) (.ok (.response response)) { h with phase := .negotiating j }
  | unanswered (i j : Instance) (data : List UInt8) (e : Error) (hp : h.phase = .negotiating i)
      (hr : i.challengeResponse data = (.error e, j)) :
    Transition h (.challenge data) (.error e) { h with phase := .failed j }
  | accepted (i : Instance) (o : Outcome) (hp : h.phase = .negotiating i) (ho : o.isOk = true) :
    Transition h (.outcome o) (.ok .done) { h with phase := .succeeded i }
  | rejected (i : Instance) (o : Outcome) (hp : h.phase = .negotiating i) (ho : o.isOk = false) :
    Transition h (.outcome o) (.error (.rejected o)) { h with phase := .failed i }

theorem step_transition (h : Handshake) (event : Event) :
    h.Transition event (h.step event).1 (h.step event).2 := by
  cases event with
  | mechanisms offered =>
    rw [step]
    cases hp : h.phase with
    | awaiting =>
      cases hs : h.situation.select offered with
      | none =>
        rw [onMechanisms_of_none hp hs]
        exact .unmatched offered hp hs
      | some found =>
        rcases hr : Instance.initialResponse { found with credentials := h.credentials } with
          ⟨e | response, i⟩
        · rw [onMechanisms_of_error hp hs hr]
          exact .uninitiated offered found i e hp hs hr
        · rw [onMechanisms_of_ok hp hs hr]
          exact .chosen offered found i response hp hs hr
    | _ =>
      rw [onMechanisms, hp]
      exact .refused (.mechanisms offered) (by rw [hp]; rfl)
  | challenge data =>
    rw [step]
    cases hp : h.phase with
    | negotiating i =>
      rcases hr : i.challengeResponse data with ⟨e | response, j⟩
      · rw [onChallenge_of_error hp hr]
        exact .unanswered i j data e hp hr
      · rw [onChallenge_of_ok hp hr]
        exact .answered i j data response hp hr
    | _ =>
      rw [onChallenge, hp]
      exact .refused (.challenge data) (by rw [hp]; rfl)
  | outcome o =>
    rw [step, onOutcome]
    cases hp : h.phase with
    | negotiating i =>
      cases ho : o.isOk with
      | true => exact .accepted i o hp ho
      | false => exact .rejected i o hp ho
    | _ => exact .refused (.outcome o) (by rw [hp]; rfl)

/-! ### Single events -/

lemma Transition.answer_of_not_permits (ht : h.Transition event answer next)
    (hp : h.phase.permits event.frame = false) :
    answer = .error (.unexpected event.frame.name) := by
  cases ht with
  | refused => rfl
  | _ => simp_all [Phase.permits]

lemma Transition.eq_of_not_permits (ht : h.Transition event answer next)
    (hp : h.phase.permits event.frame = false) : next = h := by
  cases ht with
  | refused => rfl
  | _ => simp_all [Phase.permits]

/-- A frame that may not come is refused, and changes nothing. -/
lemma step_of_not_permits (hp : h.phase.permits event.frame = false) :
    h.step event = (.error (.unexpected event.frame.name), h) :=
  Prod.ext ((h.step_transition event).answer_of_not_permits hp)
    ((h.step_transition event).eq_of_not_permits hp)

/-- A frame that may come either has no error for an answer, or makes the handshake fail. -/
lemma Transition.isFailed_eq (ht : h.Transition event answer next)
    (hp : h.phase.permits event.frame = true) :
    h.phase.isFailed = false ∧ next.phase.isFailed = !answer.isOk := by
  cases ht with
  | refused event hr =>
    rw [hr] at hp
    cases hp
  | _ => simp_all [Phase.isFailed, Except.isOk, Except.toBool]

lemma Transition.isFailed_iff (ht : h.Transition event answer next) :
    h.phase.permits event.frame = true ∧ answer.isOk = false ↔
      h.phase.isFailed = false ∧ next.phase.isFailed = true := by
  cases hp : h.phase.permits event.frame with
  | true =>
    obtain ⟨hbefore, hafter⟩ := ht.isFailed_eq hp
    simp [hbefore, hafter]
  | false =>
    refine iff_of_false (by simp) ?_
    rintro ⟨hbefore, hafter⟩
    rw [ht.eq_of_not_permits hp, hbefore] at hafter
    cases hafter

lemma Transition.isInit_eq (ht : h.Transition event answer next) :
    next.phase.mechanism?.isSome.toNat =
      h.phase.mechanism?.isSome.toNat + (isInit answer).toNat := by
  cases ht with
  | refused => rfl
  | unmatched _ hp => rw [hp]; rfl
  | uninitiated _ _ _ _ hp => rw [hp]; rfl
  | chosen _ _ _ _ hp => rw [hp]; rfl
  | answered _ _ _ _ hp => rw [hp]; rfl
  | unanswered _ _ _ _ hp => rw [hp]; rfl
  | accepted _ _ hp => rw [hp]; rfl
  | rejected _ _ hp => rw [hp]; rfl

/-- A mechanism in use stays in use, and becomes what its responses make of it. -/
lemma Transition.exists_continues (ht : h.Transition event answer next) {i : Instance}
    (hi : h.phase.mechanism? = some i) :
    ∃ j, next.phase.mechanism? = some j ∧ j.Continues i := by
  cases ht with
  | refused => exact ⟨i, hi, .refl i⟩
  | unmatched _ hp => rw [hp] at hi; cases hi
  | uninitiated _ _ _ _ hp => rw [hp] at hi; cases hi
  | chosen _ _ _ _ hp => rw [hp] at hi; cases hi
  | answered k j data response hp hr =>
    rw [hp] at hi
    cases hi
    exact ⟨j, rfl, Instance.continues_of_challengeResponse hr⟩
  | unanswered k j data e hp hr =>
    rw [hp] at hi
    cases hi
    exact ⟨j, rfl, Instance.continues_of_challengeResponse hr⟩
  | accepted _ _ hp =>
    rw [hp] at hi
    cases hi
    exact ⟨i, rfl, .refl i⟩
  | rejected _ _ hp =>
    rw [hp] at hi
    cases hi
    exact ⟨i, rfl, .refl i⟩

lemma Transition.phase_ne_awaiting (ht : h.Transition event answer next)
    (hp : h.phase ≠ .awaiting) : next.phase ≠ .awaiting := by
  cases ht with
  | refused => exact hp
  | _ => exact Phase.noConfusion

/-- All mechanisms that a handshake knows and the one that it uses are as `P` says. -/
structure All (P : Mechanism → Prop) (h : Handshake) : Prop where
  registry : h.registry.All P
  phase : ∀ i, h.phase.mechanism? = some i → P i.mechanism

lemma All.of_awaiting {P : Mechanism → Prop} (hregistry : h.registry.All P)
    (hp : h.phase = .awaiting) : h.All P :=
  ⟨hregistry, fun i hi => by rw [hp] at hi; cases hi⟩

lemma All.of_select {P : Mechanism → Prop} (hall : h.All P) {offered : List String}
    {found : Instance} (hs : h.situation.select offered = some found) : P found.mechanism :=
  Registry.All.of_select (s := h.situation) hall.registry hs

lemma Transition.registry_eq (ht : h.Transition event answer next) :
    next.registry = h.registry := by
  cases ht <;> rfl

lemma Transition.all {P : Mechanism → Prop} (ht : h.Transition event answer next) (hall : h.All P) :
    next.All P where
  registry := ht.registry_eq ▸ hall.registry
  phase := by
    intro j hj
    cases hi : h.phase.mechanism? with
    | some i =>
      obtain ⟨k, hk, hcontinues⟩ := ht.exists_continues hi
      cases hk.symm.trans hj
      rw [hcontinues.mechanism_eq]
      exact hall.phase i hi
    | none =>
      cases ht with
      | refused => exact absurd (hi.symm.trans hj) (by simp)
      | unmatched => cases hj
      | uninitiated => cases hj
      | chosen offered found i response hp hs hr =>
        cases hj
        have hfound := hall.of_select hs
        rwa [(Instance.continues_of_initialResponse hr).mechanism_eq]
      | answered _ _ _ _ hp => rw [hp] at hi; cases hi
      | unanswered _ _ _ _ hp => rw [hp] at hi; cases hi
      | accepted _ _ hp => rw [hp] at hi; cases hi
      | rejected _ _ hp => rw [hp] at hi; cases hi

/-- Where no mechanism says so itself, an answer says that an event may not come just if it may
not. -/
lemma Transition.isRefused_iff (ht : h.Transition event answer next)
    (hall : h.All Mechanism.NeverUnexpected) :
    (∃ text, answer = .error (.unexpected text)) ↔ h.phase.permits event.frame = false := by
  cases ht with
  | refused event hp => exact ⟨fun _ => hp, fun _ => ⟨event.frame.name, rfl⟩⟩
  | uninitiated offered found i e hp hs hr =>
    have hfound := hall.of_select hs
    refine iff_of_false ?_ (by simp [hp, Phase.permits])
    rintro ⟨text, ⟨⟩⟩
    exact Instance.ne_unexpected_of_initialResponse hr hfound text rfl
  | unanswered i j data e hp hr =>
    have hi : i.mechanism.NeverUnexpected := hall.phase i (by rw [hp]; rfl)
    refine iff_of_false ?_ (by simp [hp, Phase.permits])
    rintro ⟨text, ⟨⟩⟩
    exact Instance.ne_unexpected_of_challengeResponse hr hi text rfl
  | _ => simp_all [Phase.permits]

lemma isFailure_of_unexpected_ne (hne : ¬∃ text, answer = .error (.unexpected text)) :
    isFailure answer = !answer.isOk := by
  rcases answer with e | a
  · cases e with
    | unexpected text => exact absurd ⟨text, rfl⟩ hne
    | _ => rfl
  · rfl

lemma Transition.isFailure_iff (ht : h.Transition event answer next)
    (hall : h.All Mechanism.NeverUnexpected) :
    isFailure answer = true ↔ h.phase.isFailed = false ∧ next.phase.isFailed = true := by
  rw [← ht.isFailed_iff]
  cases hp : h.phase.permits event.frame with
  | true =>
    rw [isFailure_of_unexpected_ne (mt (ht.isRefused_iff hall).1 (by simp [hp]))]
    simp
  | false =>
    rw [ht.answer_of_not_permits hp]
    simp [isFailure, Error.isFailure]

/-! ### Runs -/

def history (h : Handshake) (events : List Event) : List (Event × Except Error Answer) :=
  events.zip (h.run events).1

lemma run_cons (h : Handshake) (event : Event) (rest : List Event) :
    h.run (event :: rest) =
      ((h.step event).1 :: ((h.step event).2.run rest).1, ((h.step event).2.run rest).2) := rfl

lemma history_cons (h : Handshake) (event : Event) (rest : List Event) :
    h.history (event :: rest) = (event, (h.step event).1) :: (h.step event).2.history rest := rfl

/-- Nothing happens any more once a handshake is complete. -/
lemma run_of_isComplete (hc : h.isComplete = true) (events : List Event) :
    h.run events = (events.map fun event => .error (.unexpected event.frame.name), h) := by
  induction events with
  | nil => rfl
  | cons event rest ih =>
    have hp : h.phase.permits event.frame = false := by
      unfold isComplete at hc
      split at hc <;> simp_all [Phase.permits]
    rw [run_cons, step_of_not_permits hp, ih]
    rfl

lemma Transition.isFailure_le (ht : h.Transition event answer next) :
    h.phase.isFailed.toNat + (isFailure answer).toNat ≤ next.phase.isFailed.toNat := by
  cases hp : h.phase.permits event.frame with
  | true =>
    obtain ⟨hbefore, hafter⟩ := ht.isFailed_eq hp
    rw [hbefore, hafter, Bool.toNat_false, Nat.zero_add]
    rcases answer with e | a
    · exact Bool.toNat_le _
    · exact Nat.le_refl _
  | false =>
    rw [ht.answer_of_not_permits hp, ht.eq_of_not_permits hp]
    exact Nat.le_refl _

lemma countP_cons_eq (answers : List (Except Error Answer)) (answer : Except Error Answer)
    (p : Except Error Answer → Bool) :
    (answer :: answers).countP p = answers.countP p + (p answer).toNat := by
  rw [List.countP_cons]
  cases p answer <;> rfl

/-- A run has no more failures than the handshake fails by it. -/
lemma countP_isFailure_le (h : Handshake) (events : List Event) :
    h.phase.isFailed.toNat + (h.run events).1.countP isFailure ≤
      (h.run events).2.phase.isFailed.toNat := by
  induction events generalizing h with
  | nil => exact Nat.le_refl _
  | cons event rest ih =>
    have hstep := (h.step_transition event).isFailure_le
    have hrest := ih (h.step event).2
    rw [run_cons, countP_cons_eq]
    dsimp only
    omega

/-- Each init that is answered puts a mechanism into use. -/
lemma countP_isInit_eq (h : Handshake) (events : List Event) :
    (h.run events).2.phase.mechanism?.isSome.toNat =
      h.phase.mechanism?.isSome.toNat + (h.run events).1.countP isInit := by
  induction events generalizing h with
  | nil => rfl
  | cons event rest ih =>
    rw [run_cons, ih, (h.step_transition event).isInit_eq, countP_cons_eq, Nat.add_assoc,
      Nat.add_comm (isInit _).toNat]

lemma countP_isInit (hp : h.phase = .awaiting) (events : List Event) :
    (h.run events).1.countP isInit = (h.run events).2.phase.mechanism?.isSome.toNat := by
  have hstart : h.phase.mechanism?.isSome.toNat = 0 := by rw [hp]; rfl
  rw [countP_isInit_eq h events, hstart, Nat.zero_add]

lemma exists_continues_run {i : Instance} (hi : h.phase.mechanism? = some i)
    (events : List Event) :
    ∃ j, (h.run events).2.phase.mechanism? = some j ∧ j.Continues i := by
  induction events generalizing h i with
  | nil => exact ⟨i, hi, .refl i⟩
  | cons event rest ih =>
    obtain ⟨j, hj, hnext⟩ := (h.step_transition event).exists_continues hi
    obtain ⟨k, hk, hrest⟩ := ih hj
    exact ⟨k, hk, hrest.trans hnext⟩

lemma All.run {P : Mechanism → Prop} (hall : h.All P) (events : List Event) :
    (h.run events).2.All P := by
  induction events generalizing h with
  | nil => exact hall
  | cons event rest ih => exact ih ((h.step_transition event).all hall)

lemma run_phase_ne_awaiting (hp : h.phase ≠ .awaiting) (events : List Event) :
    (h.run events).2.phase ≠ .awaiting := by
  induction events generalizing h with
  | nil => exact hp
  | cons event rest ih => exact ih ((h.step_transition event).phase_ne_awaiting hp)

lemma permits_of_awaiting (hp : h.phase = .awaiting) (he : event.frame ≠ .mechanisms) :
    h.phase.permits event.frame = false := by
  rw [hp]
  cases event with
  | mechanisms offered => exact absurd rfl he
  | _ => rfl

lemma Transition.phase_ne_awaiting_of_mechanisms (ht : h.Transition event answer next)
    (hp : h.phase = .awaiting) (he : event.frame = .mechanisms) : next.phase ≠ .awaiting := by
  cases ht with
  | refused event hr =>
    rw [hp, he] at hr
    cases hr
  | _ => exact Phase.noConfusion

lemma run_phase_eq_awaiting_iff (hp : h.phase = .awaiting) (events : List Event) :
    (h.run events).2.phase = .awaiting ↔ ∀ event ∈ events, event.frame ≠ .mechanisms := by
  induction events with
  | nil => simpa [run] using hp
  | cons event rest ih =>
    rw [run_cons, List.forall_mem_cons]
    by_cases he : event.frame = .mechanisms
    · have hne := (h.step_transition event).phase_ne_awaiting_of_mechanisms hp he
      constructor
      · exact fun h => absurd h (run_phase_ne_awaiting hne rest)
      · exact fun h => absurd he h.1
    · rw [step_of_not_permits (permits_of_awaiting hp he), ih]
      exact (and_iff_right he).symm

/-- The first outcome is `ok`, and every challenge before it has been answered. -/
def Authenticates (history : List (Event × Except Error Answer)) : Prop :=
  Until
    (fun entry => entry.1.frame ≠ .outcome ∧ (entry.1.frame = .challenge → entry.2.isOk = true))
    (fun entry _ => ∃ o, entry.1 = .outcome o ∧ o.isOk = true) history

lemma authenticates_cons (event : Event) (answer : Except Error Answer)
    (rest : List (Event × Except Error Answer)) :
    Authenticates ((event, answer) :: rest) ↔ (∃ o, event = .outcome o ∧ o.isOk = true) ∨
      (event.frame ≠ .outcome ∧ (event.frame = .challenge → answer.isOk = true)) ∧
        Authenticates rest :=
  until_cons

lemma succeeded_run_iff_of_negotiating {i : Instance} (hp : h.phase = .negotiating i)
    (events : List Event) :
    (h.run events).2.succeeded = true ↔ Authenticates (h.history events) := by
  -- only a challenge that is answered leads on; the others refuse or complete the handshake
  induction events generalizing h i with
  | nil =>
    refine iff_of_false ?_ not_until_nil
    simp [run, succeeded, hp]
  | cons event rest ih =>
    rw [run_cons, history_cons, authenticates_cons]
    have ht := h.step_transition event
    generalize h.step event = result at ht
    obtain ⟨answer, next⟩ := result
    cases ht with
    | refused event hr =>
      cases event with
      | mechanisms offered => simpa using ih hp
      | _ => rw [hp] at hr; cases hr
    | unmatched _ hp' => rw [hp] at hp'; cases hp'
    | uninitiated _ _ _ _ hp' => rw [hp] at hp'; cases hp'
    | chosen _ _ _ _ hp' => rw [hp] at hp'; cases hp'
    | answered _ j => simpa [Except.isOk, Except.toBool] using ih (i := j) rfl
    | unanswered _ j =>
      have hrun := run_of_isComplete (h := { h with phase := .failed (some j) }) rfl rest
      simp [hrun, succeeded, Except.isOk, Except.toBool]
    | accepted j _ _ ho =>
      have hrun := run_of_isComplete (h := { h with phase := .succeeded j }) rfl rest
      simp [hrun, succeeded, ho]
    | rejected j _ _ ho =>
      have hrun := run_of_isComplete (h := { h with phase := .failed (some j) }) rfl rest
      simp [hrun, succeeded, ho]

lemma succeeded_run_iff_of_awaiting (hp : h.phase = .awaiting) (events : List Event) :
    (h.run events).2.succeeded = true ↔
      Until (fun entry => entry.1.frame ≠ .mechanisms)
        (fun entry rest => entry.1.frame = .mechanisms ∧ entry.2.isOk = true ∧ Authenticates rest)
        (h.history events) := by
  induction events with
  | nil =>
    refine iff_of_false ?_ not_until_nil
    simp [run, succeeded, hp]
  | cons event rest ih =>
    rw [run_cons, history_cons, until_cons]
    by_cases he : event.frame = .mechanisms
    · have ht := h.step_transition event
      generalize h.step event = result at ht
      obtain ⟨answer, next⟩ := result
      cases ht with
      | refused event hr => rw [hp, he] at hr; cases hr
      | unmatched | uninitiated =>
        have hrun := run_of_isComplete (h := { h with phase := .failed none }) rfl rest
        simp [hrun, succeeded, Except.isOk, Except.toBool]
      | chosen _ _ i =>
        have hiff := succeeded_run_iff_of_negotiating
          (h := { h with phase := .negotiating i }) rfl rest
        simpa [Except.isOk, Except.toBool] using hiff
      | _ => cases he
    · rw [step_of_not_permits (permits_of_awaiting hp he), ih]
      simp [he]

lemma Transition.phase_eq_awaiting_of_init {init : Init}
    (ht : h.Transition event (.ok (.init init)) next) : h.phase = .awaiting := by
  cases ht with
  | chosen _ _ _ _ hp => exact hp

lemma init_notMem_run (hp : h.phase ≠ .awaiting) (init : Init) (events : List Event) :
    .ok (.init init) ∉ (h.run events).1 := by
  induction events generalizing h with
  | nil => simp [run]
  | cons event rest ih =>
    have ht := h.step_transition event
    rw [run_cons]
    intro hmem
    rcases List.mem_cons.1 hmem with hhead | htail
    · rw [← hhead] at ht
      exact hp ht.phase_eq_awaiting_of_init
    · exact ih (ht.phase_ne_awaiting hp) htail

/-- The answer to an offer that is an init names the mechanism which is in use from then on. -/
lemma mechanism?_run_of_init (hp : h.phase = .awaiting) {events : List Event}
    {offered : List String} {init : Init}
    (hinit : (Event.mechanisms offered, .ok (.init init)) ∈ h.history events) :
    ∃ found i, h.situation.select offered = some found ∧ init.mechanism = found.mechanism.name ∧
      (h.run events).2.phase.mechanism? = some i ∧
      i.Continues { found with credentials := h.credentials } := by
  induction events with
  | nil => cases hinit
  | cons event rest ih =>
    have ht := h.step_transition event
    rw [history_cons] at hinit
    rw [run_cons]
    rcases List.mem_cons.1 hinit with hhead | htail
    · obtain ⟨rfl, hanswer⟩ := Prod.mk.inj hhead
      rw [← hanswer] at ht
      generalize (h.step (.mechanisms offered)).2 = next at ht
      cases ht with
      | chosen _ found i _ _ hs hr =>
        have hchosen := Instance.continues_of_initialResponse hr
        obtain ⟨j, hj, hlater⟩ :=
          exists_continues_run (h := { h with phase := .negotiating i }) rfl rest
        exact ⟨found, j, hs, congrArg Mechanism.name hchosen.mechanism_eq, hj,
          hlater.trans hchosen⟩
    · by_cases he : event.frame = .mechanisms
      · have hne := ht.phase_ne_awaiting_of_mechanisms hp he
        exact absurd (List.of_mem_zip htail).2 (init_notMem_run hne init rest)
      · rw [step_of_not_permits (permits_of_awaiting hp he)] at htail ⊢
        exact ih htail

lemma mechanism?_run_eq_none_iff (hp : h.phase = .awaiting) (events : List Event) :
    (h.run events).2.phase.mechanism? = none ↔ ∀ init, .ok (.init init) ∉ (h.run events).1 := by
  rw [← Option.not_isSome_iff_eq_none, Bool.not_eq_true, ← Bool.toNat_eq_zero, ← countP_isInit hp,
    List.countP_eq_zero]
  constructor
  · intro hnone init hmem
    exact hnone _ hmem rfl
  · intro hnone answer hmem hinit
    unfold isInit at hinit
    split at hinit
    · exact hnone _ hmem
    · cases hinit

/-- How the answers to events and the handshake after them belong together. -/
structure Protocol (start : Handshake) (events : List Event) : Prop where
  /-- The phase is the first one up to the first offer, and never again. -/
  awaiting_iff : (start.run events).2.phase = .awaiting ↔
    ∀ event ∈ events, event.frame ≠ .mechanisms
  /-- The handshake has succeeded if the first offer was answered and the first outcome after it
  was `ok`, with every challenge between them answered. -/
  succeeded_iff : (start.run events).2.succeeded = true ↔
    Until (fun entry => entry.1.frame ≠ .mechanisms)
      (fun entry rest => entry.1.frame = .mechanisms ∧ entry.2.isOk = true ∧ Authenticates rest)
      (start.history events)
  /-- An event whose frame may not come in the phase is refused, and changes nothing. -/
  refused : ∀ event, (start.run events).2.phase.permits event.frame = false →
    (start.run events).2.step event =
      (.error (.unexpected event.frame.name), (start.run events).2)
  /-- A handshake that is complete refuses all further events. -/
  complete : (start.run events).2.isComplete = true → ∀ more,
    (start.run events).2.run more =
      (more.map fun event => .error (.unexpected event.frame.name), (start.run events).2)
  /-- The handshake fails by an event if its frame may come and an error is the answer, and only
  then. -/
  failed_iff : ∀ event, (start.run events).2.phase.permits event.frame = true ∧
      ((start.run events).2.step event).1.isOk = false ↔
    (start.run events).2.phase.isFailed = false ∧
      ((start.run events).2.step event).2.phase.isFailed = true
  failures_le : (start.run events).1.countP isFailure ≤ 1
  inits_le : (start.run events).1.countP isInit ≤ 1
  /-- No mechanism is in use before an init has been answered. -/
  mechanism_eq_none_iff : (start.run events).2.phase.mechanism? = none ↔
    ∀ init, .ok (.init init) ∉ (start.run events).1
  /-- Once an init has been answered, the mechanism that was chosen and named in it is in use, and
  it was given the credentials of the settings. -/
  mechanism_of_init : ∀ offered init,
    (Event.mechanisms offered, .ok (.init init)) ∈ start.history events →
      ∃ found i, start.situation.select offered = some found ∧
        init.mechanism = found.mechanism.name ∧
        (start.run events).2.phase.mechanism? = some i ∧
        i.Continues { found with credentials := start.credentials }

/-- How the error that answers the event after others tells what it has done. -/
structure ErrorsTell (start : Handshake) (events : List Event) : Prop where
  /-- The next event is refused if its frame may not come in the phase, and only then. -/
  refused_iff : ∀ event,
    (∃ text, ((start.run events).2.step event).1 = .error (.unexpected text)) ↔
      (start.run events).2.phase.permits event.frame = false
  /-- The next event is answered by another error if the handshake fails by it, and only then. -/
  failure_iff : ∀ event, isFailure ((start.run events).2.step event).1 = true ↔
    (start.run events).2.phase.isFailed = false ∧
      ((start.run events).2.step event).2.phase.isFailed = true

lemma protocol_of_awaiting (hp : h.phase = .awaiting) (events : List Event) :
    h.Protocol events where
  awaiting_iff := run_phase_eq_awaiting_iff hp events
  succeeded_iff := succeeded_run_iff_of_awaiting hp events
  refused _ hr := step_of_not_permits hr
  complete hc more := run_of_isComplete hc more
  failed_iff event := (step_transition _ event).isFailed_iff
  failures_le := by
    have hle := countP_isFailure_le h events
    have hone := Bool.toNat_le (h.run events).2.phase.isFailed
    omega
  inits_le := by
    rw [countP_isInit hp]
    exact Bool.toNat_le _
  mechanism_eq_none_iff := mechanism?_run_eq_none_iff hp events
  mechanism_of_init _ _ hinit := mechanism?_run_of_init hp hinit

lemma errorsTell_of_all (hall : h.All Mechanism.NeverUnexpected) (events : List Event) :
    h.ErrorsTell events where
  refused_iff event := (step_transition _ event).isRefused_iff (hall.run events)
  failure_iff event := (step_transition _ event).isFailure_iff (hall.run events)

/-- Whatever mechanisms a client knows, whatever its settings are, and whatever events come in
whatever order, a handshake keeps to the protocol. If no mechanism pretends that an event came at a
time when it may not, the errors tell which events were refused and which made the handshake
fail. -/
theorem run_protocol (registry : Registry) (settings : Config.SaslSettings)
    (principal : Option Principal) (events : List Event) :
    Protocol { registry, settings, principal } events ∧
    (registry.All Mechanism.NeverUnexpected →
      ErrorsTell { registry, settings, principal } events) :=
  ⟨protocol_of_awaiting rfl events, fun hall => errorsTell_of_all (.of_awaiting hall rfl) events⟩

/-- A mechanism that has an initial response and no answer to challenges. -/
def muteMechanism : Mechanism :=
  Script.mechanism ⟨"X-MUTE", .highest, .nothing, .ok (some [1]), .failure "no proof"⟩

/-- A client that knows `X-MUTE` besides the usual mechanisms. -/
def muteHandshake : Handshake where
  registry := ⟨[("ANONYMOUS", anonymous), ("EXTERNAL", external), ("PLAIN", plain),
    ("X-MUTE", muteMechanism)]⟩
  settings := { hostname := some "broker" }
  principal := none

/-- A challenge that comes before the offer is refused, and the one that comes after it makes the
handshake fail; the outcome is then too late. -/
theorem run_protocol_mute :
    (muteHandshake.run [.challenge [0], .mechanisms ["PLAIN", "X-MUTE"], .challenge [7]]).1 =
      [.error (.unexpected "sasl-challenge"), .ok (.init ⟨"X-MUTE", some [1], some "broker"⟩),
        .error (.noResponse "X-MUTE" "no proof")] ∧
    (muteHandshake.run [.challenge [0], .mechanisms ["PLAIN", "X-MUTE"]]).2.phase.isFailed =
      false ∧
    (muteHandshake.run
      [.challenge [0], .mechanisms ["PLAIN", "X-MUTE"], .challenge [7]]).2.phase.isFailed = true ∧
    (muteHandshake.run [.challenge [0], .mechanisms ["PLAIN", "X-MUTE"], .challenge [7]]).2.run
      [.outcome .ok] = ([.error (.unexpected "sasl-outcome")], (muteHandshake.run
        [.challenge [0], .mechanisms ["PLAIN", "X-MUTE"], .challenge [7]]).2) := by
  have hall : muteHandshake.registry.All Mechanism.NeverUnexpected :=
    Registry.all_cons.2 ⟨neverUnexpected_anonymous, Registry.all_cons.2 ⟨neverUnexpected_external,
      Registry.all_cons.2 ⟨neverUnexpected_plain, Registry.all_cons.2
        ⟨neverUnexpected_mechanism _, Registry.all_nil⟩⟩⟩⟩
  obtain ⟨-, htell⟩ := run_protocol muteHandshake.registry muteHandshake.settings none
    [.challenge [0], .mechanisms ["PLAIN", "X-MUTE"]]
  obtain ⟨hafter, -⟩ := run_protocol muteHandshake.registry muteHandshake.settings none
    [.challenge [0], .mechanisms ["PLAIN", "X-MUTE"], .challenge [7]]
  have hfails := ((htell hall).failure_iff (.challenge [7])).1 rfl
  exact ⟨rfl, hfails.1, hfails.2, hafter.complete rfl [.outcome .ok]⟩

/-- A mechanism that answers every challenge by an error that only a handshake should give. -/
def pretendingMechanism : Mechanism :=
  { muteMechanism with
    challengeResponse := fun holding _ => (.error (.unexpected "sasl-challenge"), holding) }

-- why the errors tell nothing of such a mechanism: the challenge was not refused
example :
    let registry : Registry := ⟨[("X-MUTE", pretendingMechanism)]⟩
    let h := (run { registry, settings := {}, principal := none } [.mechanisms ["X-MUTE"]]).2
    h.phase.permits .challenge = true ∧
      (h.step (.challenge [])).1 = .error (.unexpected "sasl-challenge") ∧
      (h.step (.challenge [])).2.phase.isFailed = true := ⟨rfl, rfl, rfl⟩

end Handshake

end AmqpClient.Sasl
