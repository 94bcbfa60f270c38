import AmqpClient.Proofs.HandshakeProtocol

/-!
# The mechanism in use is the mechanism chosen

An offer is answered by the mechanism that the choice by the same settings comes to, with the
credentials that it was found applicable to; and that mechanism answers all challenges that follow,
as what it has become by those before. If there is none, or it has no initial response, no mechanism
is in use, then or later.
-/

namespace AmqpClient.Sasl

/-- The challenge that an event is, if it is one. -/
def Event.challenge? : Event → Option (List UInt8)
  | challenge data => some data
  | _ => none

/-- What a mechanism in use becomes by challenges, in the order they come. -/
def Instance.afterAll (i : Instance) (challenges : List (List UInt8)) : Instance :=
  challenges.foldl (fun i challenge => (i.challengeResponse challenge).2) i

namespace Handshake

variable {h : Handshake} {offered : List String}

/-! ### What is in use while the handshake goes on -/

/-- A handshake that is still negotiating uses what all challenges since have made of the mechanism
it used before. -/
lemma run_phase_of_negotiating {i j : Instance} {events : List Event}
    (hp : h.phase = .negotiating i) (hafter : (h.run events).2.phase = .negotiating j) :
    j = i.afterAll (events.filterMap Event.challenge?) := by
  induction events generalizing h i with
  | nil =>
    have hphase : h.phase = .negotiating j := hafter
    rw [hp] at hphase
    cases hphase
    rfl
  | cons event rest ih =>
    rw [run_cons] at hafter
    have ht := h.step_transition event
    generalize h.step event = result at ht hafter
    obtain ⟨answer, next⟩ := result
    -- an event that completes the handshake leaves nothing that would lead back
    have hcomplete : next.isComplete = true → (next.run rest).2 = next := fun hc => by
      rw [run_of_isComplete hc rest]
    cases ht with
    | refused event hr =>
      cases event with
      | mechanisms offered => exact ih hp hafter
      | _ => rw [hp] at hr; cases hr
    | unmatched _ hp' => rw [hp] at hp'; cases hp'
    | uninitiated _ _ _ _ hp' => rw [hp] at hp'; cases hp'
    | chosen _ _ _ _ hp' => rw [hp] at hp'; cases hp'
    | answered k next data response hp' hr =>
      rw [hp] at hp'
      cases hp'
      have hnext : next = (i.challengeResponse data).2 := by rw [hr]
      rw [ih rfl hafter, hnext]
      rfl
    | unanswered | accepted | rejected =>
      rw [hcomplete rfl] at hafter
      cases hafter

/-- What is said of a mechanism that stays in use: it is there after any events, and every challenge
that may come is answered by what it has become by the challenges before. -/
structure Serves (h : Handshake) (i : Instance) : Prop where
  exists_continues : ∀ events, ∃ j, (h.run events).2.phase.mechanism? = some j ∧ j.Continues i
  challenge_eq : ∀ events data, (h.run events).2.phase.permits .challenge = true →
    ((h.run events).2.onChallenge data).1 =
      ((i.afterAll (events.filterMap Event.challenge?)).challengeResponse data).1

lemma serves_of_negotiating {i : Instance} (hp : h.phase = .negotiating i) : h.Serves i where
  exists_continues events := exists_continues_run (by rw [hp]; rfl) events
  challenge_eq events data hpermits := by
    cases hafter : (h.run events).2.phase with
    | negotiating j =>
      obtain rfl := run_phase_of_negotiating hp hafter
      rcases hr : (i.afterAll (events.filterMap Event.challenge?)).challengeResponse data with
        ⟨e | response, next⟩
      · rw [onChallenge_of_error hafter hr]
      · rw [onChallenge_of_ok hafter hr]
    | _ =>
      rw [hafter] at hpermits
      cases hpermits

lemma mechanism?_run_of_failed (hp : h.phase = .failed none) (events : List Event) :
    (h.run events).2.phase.mechanism? = none := by
  have hcomplete : h.isComplete = true := by
    unfold isComplete
    rw [hp]
  rw [run_of_isComplete hcomplete events, hp]
  rfl

/-! ### What an offer comes to -/

/-- An offer is answered in one of three ways, and each leaves its own phase. -/
inductive Exit (h : Handshake) (offered : List String) : Except Error Init × Handshake → Prop where
  | unmatched (hs : h.situation.select offered = none) :
    Exit h offered (.error (.noMatch offered), { h with phase := .failed none })
  | uninitiated (found i : Instance) (e : Error) (hs : h.situation.select offered = some found)
      (hr : Instance.initialResponse { found with credentials := h.credentials } = (.error e, i)) :
    Exit h offered (.error e, { h with phase := .failed none })
  | chosen (found i : Instance) (response : Option (List UInt8))
      (hs : h.situation.select offered = some found)
      (hr : Instance.initialResponse { found with credentials := h.credentials } =
        (.ok response, i)) :
    Exit h offered (.ok ⟨found.mechanism.name, response, h.settings.hostname⟩,
      { h with phase := .negotiating i })

lemma onMechanisms_exit (hp : h.phase = .awaiting) (offered : List String) :
    h.Exit offered (h.onMechanisms offered) := by
  cases hs : h.situation.select offered with
  | none =>
    rw [onMechanisms_of_none hp hs]
    exact .unmatched hs
  | some found =>
    rcases hr : Instance.initialResponse { found with credentials := h.credentials } with
      ⟨e | response, i⟩
    · rw [onMechanisms_of_error hp hs hr]
      exact .uninitiated found i e hs hr
    · rw [onMechanisms_of_ok hp hs hr, (Instance.continues_of_initialResponse hr).mechanism_eq]
      exact .chosen found i response hs hr

variable {result : Except Error Init × Handshake}

lemma Exit.ok_iff (hx : h.Exit offered result) {init : Init} :
    result.1 = .ok init ↔ ∃ found response, h.situation.select offered = some found ∧
      (Instance.initialResponse { found with credentials := h.credentials }).1 = .ok response ∧
      init = ⟨found.mechanism.name, response, h.settings.hostname⟩ := by
  cases hx with
  | unmatched hs =>
    rw [hs]
    simp
  | uninitiated found i e hs hr =>
    refine iff_of_false (fun hok => by cases hok) ?_
    rintro ⟨other, response, hother, hok, -⟩
    cases hs.symm.trans hother
    cases (congrArg Prod.fst hr).symm.trans hok
  | chosen found i response hs hr =>
    constructor
    · intro hok
      exact ⟨found, response, hs, congrArg Prod.fst hr, (Except.ok.inj hok).symm⟩
    · rintro ⟨other, again, hother, hagain, rfl⟩
      cases hs.symm.trans hother
      cases (congrArg Prod.fst hr).symm.trans hagain
      rfl

lemma Exit.error_iff (hx : h.Exit offered result) {e : Error} :
    result.1 = .error e ↔ h.situation.select offered = none ∧ e = .noMatch offered ∨
      ∃ found, h.situation.select offered = some found ∧
        (Instance.initialResponse { found with credentials := h.credentials }).1 = .error e := by
  cases hx with
  | unmatched hs =>
    rw [hs]
    simp [eq_comm]
  | uninitiated found i own hs hr =>
    constructor
    · intro herror
      cases herror
      exact .inr ⟨found, hs, congrArg Prod.fst hr⟩
    · rintro (⟨hnone, -⟩ | ⟨other, hother, hown⟩)
      · cases hs.symm.trans hnone
      · cases hs.symm.trans hother
        exact (congrArg Except.error (Except.error.inj ((congrArg Prod.fst hr).symm.trans hown)))
  | chosen found i response hs hr =>
    refine iff_of_false (fun herror => by cases herror) ?_
    rintro (⟨hnone, -⟩ | ⟨other, hother, hown⟩)
    · cases hs.symm.trans hnone
    · cases hs.symm.trans hother
      cases (congrArg Prod.fst hr).symm.trans hown

/-- What is in use after an offer that has been answered is what was chosen, as its initial response
has left it. -/
lemma Exit.phase_of_ok (hx : h.Exit offered result) {found : Instance} {init : Init}
    (hs : h.situation.select offered = some found) (hok : result.1 = .ok init) :
    result.2.phase = .negotiating
      (Instance.initialResponse { found with credentials := h.credentials }).2 := by
  cases hx with
  | unmatched => cases hok
  | uninitiated => cases hok
  | chosen other i response hother hr =>
    cases hs.symm.trans hother
    rw [hr]

lemma Exit.phase_of_error (hx : h.Exit offered result) {e : Error} (he : result.1 = .error e) :
    result.2.phase = .failed none := by
  cases hx with
  | unmatched => rfl
  | uninitiated => rfl
  | chosen => cases he

/-- A client that waits for an offer answers it if a mechanism is chosen, by its settings and with
the username and password of them, and that mechanism has an initial response once it is given the
same username and password. Then its name and that response are sent along with the host name, and
the mechanism, which is applicable, serves all that follows; it has those credentials still, if it
leaves them alone. Otherwise the answer is that nothing matches or the error of the mechanism,
whichever error that is, the handshake has failed, and no mechanism is ever in use. -/
theorem offer_answered_by_choice (h : Handshake) (hp : h.phase = .awaiting)
    (offered : List String) :
    let c : Credentials := ⟨h.settings.username, h.settings.password⟩
    let choice := Situation.select ⟨h.registry, c, h.principal, h.settings.restrictions⟩ offered
    let answer := (h.onMechanisms offered).1
    let after := (h.onMechanisms offered).2
    (∀ init, answer = .ok init ↔ ∃ found response, choice = some found ∧
      (Instance.initialResponse { found with credentials := c }).1 = .ok response ∧
      init = ⟨found.mechanism.name, response, h.settings.hostname⟩) ∧
    (∀ found init, choice = some found → answer = .ok init →
      let i := (Instance.initialResponse { found with credentials := c }).2
      found.mechanism.isApplicable c h.principal = true ∧
      after.phase = .negotiating i ∧ i.mechanism = found.mechanism ∧ after.Serves i ∧
      (found.mechanism.KeepsCredentials → i.credentials = c ∧ ∀ events,
        (after.run events).2.phase.mechanism?.map (·.credentials) = some c)) ∧
    (∀ e, answer = .error e ↔ choice = none ∧ e = .noMatch offered ∨
      ∃ found, choice = some found ∧
        (Instance.initialResponse { found with credentials := c }).1 = .error e) ∧
    ∀ e, answer = .error e → after.phase = .failed none ∧
      ∀ events, (after.run events).2.phase.mechanism? = none := by
  intro c choice answer after
  have hexit := onMechanisms_exit hp offered
  refine ⟨fun init => hexit.ok_iff, fun found init hs hok => ?_, fun e => hexit.error_iff,
    fun e he => ?_⟩
  · intro i
    obtain ⟨before, name, later, m, -, hm, rfl, -, -⟩ := Situation.select_eq_some_iff.1 hs
    have hphase := hexit.phase_of_ok hs hok
    have hserves := serves_of_negotiating hphase
    refine ⟨hm.applicable, hphase, rfl, hserves, fun hkeeps => ?_⟩
    have hcredentials : i.credentials = c := hkeeps.initialResponse_eq _
    refine ⟨hcredentials, fun events => ?_⟩
    obtain ⟨j, hj, hcontinues⟩ := hserves.exists_continues events
    rw [hj]
    exact congrArg some ((hcontinues.credentials_eq hkeeps).trans hcredentials)
  · have hphase := hexit.phase_of_error he
    exact ⟨hphase, mechanism?_run_of_failed hphase⟩

/-- A mechanism that sends the username, and with each answer how many responses came before it: it
adds an octet to its memory each time. -/
def countingMechanism : Mechanism where
  name := "X-COUNT"
  priority := .high
  isApplicable c _ := c.username.isSome
  initialResponse holding :=
    (.ok (holding.credentials.username.map Text.Utf8.encode),
      { holding with memory := 0 :: holding.memory })
  challengeResponse holding challenge :=
    (.ok (UInt8.ofNat holding.memory.length :: challenge),
      { holding with memory := 0 :: holding.memory })
  describe := describeAs "Counting"

/-- A mechanism that is always applicable and has nothing to say but an error of a handshake. -/
def brokenMechanism : Mechanism :=
  { countingMechanism with
    name := "X-BROKEN"
    priority := .highest
    isApplicable := fun _ _ => true
    initialResponse := fun holding => (.error (.rejected .sys), { holding with credentials := {} }) }

/-- A client that knows `X-BROKEN` and `X-COUNT` besides `ANONYMOUS`. -/
def countingHandshake : Handshake where
  registry := ⟨[("ANONYMOUS", anonymous), ("X-BROKEN", brokenMechanism),
    ("X-COUNT", countingMechanism)]⟩
  settings := { username := some "u", hostname := some "broker" }
  principal := none

/-- Where `X-BROKEN` is on offer it is chosen and fails, and `ANONYMOUS` does not take its place.
Where it is not, `X-COUNT` answers, also after an offer that comes too late. -/
theorem offer_answered_by_choice_counting :
    (countingHandshake.onMechanisms ["ANONYMOUS", "X-COUNT"]).1 =
      .ok ⟨"X-COUNT", some [117], some "broker"⟩ ∧
    (((countingHandshake.onMechanisms ["ANONYMOUS", "X-COUNT"]).2.run
      [.challenge [7], .mechanisms ["X-BROKEN"], .challenge [8]]).2.onChallenge [9]).1 =
        .ok [3, 9] ∧
    ((countingHandshake.onMechanisms ["ANONYMOUS", "X-COUNT"]).2.run
      [.challenge [7], .outcome .auth]).2.phase.mechanism?.map (·.credentials) =
        some ⟨some "u", none⟩ ∧
    (countingHandshake.onMechanisms ["ANONYMOUS", "X-BROKEN", "X-COUNT"]).1 =
      .error (.rejected .sys) ∧
    ((countingHandshake.onMechanisms ["ANONYMOUS", "X-BROKEN", "X-COUNT"]).2.run
      [.mechanisms ["X-COUNT"], .challenge [7]]).2.phase.mechanism? = none := by
  obtain ⟨hok, hserves, -, -⟩ :=
    offer_answered_by_choice countingHandshake rfl ["ANONYMOUS", "X-COUNT"]
  obtain ⟨-, -, herror, hnone⟩ :=
    offer_answered_by_choice countingHandshake rfl ["ANONYMOUS", "X-BROKEN", "X-COUNT"]
  have hanswer := (hok ⟨"X-COUNT", some [117], some "broker"⟩).2
    ⟨{ mechanism := countingMechanism }, some [117], rfl, rfl, rfl⟩
  have hbroken := (herror (.rejected .sys)).2 (.inr ⟨{ mechanism := brokenMechanism }, rfl, rfl⟩)
  have hkeeps : countingMechanism.KeepsCredentials := ⟨fun _ => rfl, fun _ _ => rfl⟩
  obtain ⟨-, -, -, hresponds, hcredentials⟩ :=
    hserves { mechanism := countingMechanism } _ rfl hanswer
  exact ⟨hanswer, hresponds.challenge_eq _ [9] rfl, (hcredentials hkeeps).2 _, hbroken,
    (hnone _ hbroken).2 _⟩

end Handshake

end AmqpClient.Sasl
