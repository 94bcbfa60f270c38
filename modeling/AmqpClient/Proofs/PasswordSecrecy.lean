import AmqpClient.Proofs.MechanismNames
import Mathlib.Data.List.Forall2

/-!
# Secrecy of the password

Two handshakes that differ in their passwords only are told apart by the initial response of
`PLAIN` and by nothing else: not by their answers and failures, not by where they stand, and not by
what is logged of them.
-/

namespace AmqpClient.Sasl

open Text

variable {p q : String}

/-! ### One password in the place of another -/

def Credentials.withPassword (c : Credentials) (p : String) : Credentials :=
  { c with password := some p }

def Holding.withPassword (holding : Holding) (p : String) : Holding :=
  { holding with credentials := holding.credentials.withPassword p }

def Instance.withPassword (i : Instance) (p : String) : Instance :=
  { i with toHolding := i.toHolding.withPassword p }

def Phase.withPassword (p : String) : Phase → Phase
  | awaiting => awaiting
  | negotiating chosen => negotiating (chosen.withPassword p)
  | succeeded chosen => succeeded (chosen.withPassword p)
  | failed chosen => failed (chosen.map (·.withPassword p))

/-- The handshake with a password in its settings and in the mechanism in use. -/
def Handshake.withPassword (h : Handshake) (p : String) : Handshake :=
  { h with settings := { h.settings with password := some p }, phase := h.phase.withPassword p }

/-! ### What may be seen -/

/-- Handshakes that stand alike and leave the same in a log. -/
structure Handshake.LooksAlike (h h' : Handshake) : Prop where
  state_eq : h.phase.name = h'.phase.name
  mechanism_eq : h.phase.mechanism?.map (·.mechanism.name) =
    h'.phase.mechanism?.map (·.mechanism.name)
  describe_eq : ∀ order, h.describeIn order = h'.describeIn order
  settings_eq : h.settings.describe = h'.settings.describe
  chosen_eq : h.phase.mechanism?.map (·.describe) = h'.phase.mechanism?.map (·.describe)
  credentials_eq : h.phase.mechanism?.map (·.credentials.describe) =
    h'.phase.mechanism?.map (·.credentials.describe)

/-- Answers that are the same, unless they choose `PLAIN`: then the initial responses are the same
up to where one ends with the first password and the other with the second. -/
def SameBut (p q : String) (answer answer' : Except Error Answer) : Prop :=
  match answer with
  | .ok (.init init) =>
    if init.mechanism = "PLAIN" then
      ∃ common, init.initialResponse = some (common ++ Utf8.encode p) ∧ answer' =
        .ok (.init { init with initialResponse := some (common ++ Utf8.encode q) })
    else answer = answer'
  | _ => answer = answer'

/-! ### Mechanisms that keep a secret -/

/-- A mechanism to which all passwords are the same, except that `PLAIN` sends them. -/
structure Mechanism.Discreet (m : Mechanism) : Prop where
  isApplicable_eq : ∀ (c : Credentials) principal p q, p ≠ "" → q ≠ "" →
    m.isApplicable (c.withPassword p) principal = m.isApplicable (c.withPassword q) principal
  exists_common : m.name = "PLAIN" → ∀ holding : Holding, ∃ common, ∃ after : Holding, ∀ p,
    m.initialResponse (holding.withPassword p) =
      (.ok (some (common ++ Utf8.encode p)), after.withPassword p)
  exists_initialResponse : m.name ≠ "PLAIN" → ∀ holding : Holding,
    ∃ response, ∃ after : Holding, ∀ p,
      m.initialResponse (holding.withPassword p) = (response, after.withPassword p)
  exists_challengeResponse : ∀ (holding : Holding) challenge,
    ∃ response, ∃ after : Holding, ∀ p,
      m.challengeResponse (holding.withPassword p) challenge = (response, after.withPassword p)
  describe_eq : ∀ (holding : Holding) p q,
    m.describe (holding.withPassword p) = m.describe (holding.withPassword q)

lemma discreet_plain : plain.Discreet := by
  refine ⟨fun c principal p q hp hq => ?_, fun _ holding => ?_, fun hne => absurd rfl hne,
    fun holding _ => ⟨_, holding, fun _ => rfl⟩, fun _ _ _ => rfl⟩
  · have hfirst : (p != "") = true := bne_iff_ne.2 hp
    have hsecond : (q != "") = true := bne_iff_ne.2 hq
    simp only [plain, Credentials.withPassword, Option.any_some, hfirst, hsecond]
  · refine ⟨0 :: Utf8.encode (holding.credentials.username.getD "") ++ [0], holding, fun p => ?_⟩
    simp [plain, Holding.withPassword, Credentials.withPassword]

lemma discreet_anonymous : anonymous.Discreet :=
  ⟨fun _ _ _ _ _ _ => rfl, fun hname => absurd hname (by decide),
    fun _ holding => ⟨_, holding, fun _ => rfl⟩, fun holding _ => ⟨_, holding, fun _ => rfl⟩,
    fun _ _ _ => rfl⟩

lemma discreet_external : external.Discreet :=
  ⟨fun _ _ _ _ _ _ => rfl, fun hname => absurd hname (by decide),
    fun _ holding => ⟨_, holding, fun _ => rfl⟩, fun holding _ => ⟨_, holding, fun _ => rfl⟩,
    fun _ _ _ => rfl⟩

/-! ### Two handshakes side by side -/

namespace Situation

variable {s : Situation}

lemma Eligible.withPassword {name : String} {m : Mechanism}
    (hs : s.registry.All Mechanism.Discreet)
    (hp : p ≠ "") (hq : q ≠ "")
    (h : Eligible { s with credentials := s.credentials.withPassword p } name m) :
    Eligible { s with credentials := s.credentials.withPassword q } name m := by
  have happlicable :=
    (hs.of_lookup h.registered).isApplicable_eq s.credentials s.principal q p hq hp
  exact ⟨h.name_ne, h.registered, h.allowed, happlicable.trans h.applicable⟩

/-- The same mechanism is chosen whatever the password, as long as there is one. -/
lemma select_withPassword (hs : s.registry.All Mechanism.Discreet) (hp : p ≠ "") (hq : q ≠ "")
    (offered : List String) :
    select { s with credentials := s.credentials.withPassword p } offered =
      select { s with credentials := s.credentials.withPassword q } offered :=
  select_congr fun _ _ _ => ⟨fun h => h.withPassword hs hp hq, fun h => h.withPassword hs hq hp⟩

end Situation

namespace Handshake

variable {h : Handshake}

/-- The answers of two handshakes that are one apart from the password, and what they become. -/
def Together (p q : String) (result result' : Except Error Answer × Handshake) : Prop :=
  SameBut p q result.1 result'.1 ∧ ∃ next : Handshake, next.All Mechanism.Discreet ∧
    result.2 = next.withPassword p ∧ result'.2 = next.withPassword q

lemma All.together (hd : h.All Mechanism.Discreet) (phase : Phase)
    (hphase : ∀ i, phase.mechanism? = some i → i.mechanism.Discreet)
    {answer answer' : Except Error Answer} (hanswer : SameBut p q answer answer') :
    Together p q (answer, withPassword { h with phase } p)
      (answer', withPassword { h with phase } q) :=
  ⟨hanswer, { h with phase }, ⟨hd.registry, hphase⟩, rfl, rfl⟩

lemma onMechanisms_together (hd : h.All Mechanism.Discreet) (hp : p ≠ "") (hq : q ≠ "")
    (hphase : h.phase = .awaiting) (offered : List String) :
    Together p q ((h.withPassword p).step (.mechanisms offered))
      ((h.withPassword q).step (.mechanisms offered)) := by
  have hawaiting : ∀ r, (h.withPassword r).phase = .awaiting := by
    intro r
    rw [withPassword, hphase]
    rfl
  have hselect : (h.withPassword p).situation.select offered =
      (h.withPassword q).situation.select offered :=
    Situation.select_withPassword (s := h.situation) hd.registry hp hq offered
  rw [step, step]
  cases hs : (h.withPassword p).situation.select offered with
  | none =>
    rw [onMechanisms_of_none (hawaiting p) hs,
      onMechanisms_of_none (hawaiting q) (hselect.symm.trans hs)]
    exact hd.together (.failed none) (fun i hi => by cases hi) rfl
  | some found =>
    have hs' := hselect.symm.trans hs
    have hdiscreet : found.mechanism.Discreet := 
      hd.registry.of_select (s := (h.withPassword p).situation) hs
    let i : Instance := { found with credentials := h.credentials }
    -- the one place where the password is sent
    by_cases hname : found.mechanism.name = "PLAIN"
    · obtain ⟨common, after, hcommon⟩ := hdiscreet.exists_common hname i.toHolding
      have hresponse := fun r => Instance.initialResponse_eq (i := i.withPassword r) (hcommon r)
      rw [onMechanisms_of_ok (hawaiting p) hs (hresponse p),
        onMechanisms_of_ok (hawaiting q) hs' (hresponse q)]
      refine hd.together (.negotiating { i with toHolding := after }) ?_
        ((if_pos hname).mpr ⟨common, rfl, rfl⟩)
      rintro _ ⟨⟩
      exact hdiscreet
    · obtain ⟨response, after, hsame⟩ := hdiscreet.exists_initialResponse hname i.toHolding
      have hresponse := fun r => Instance.initialResponse_eq (i := i.withPassword r) (hsame r)
      cases response with
      | error e =>
        rw [onMechanisms_of_error (hawaiting p) hs (hresponse p),
          onMechanisms_of_error (hawaiting q) hs' (hresponse q)]
        exact hd.together (.failed none) (fun i hi => by cases hi) rfl
      | ok response =>
        rw [onMechanisms_of_ok (hawaiting p) hs (hresponse p),
          onMechanisms_of_ok (hawaiting q) hs' (hresponse q)]
        refine hd.together (.negotiating { i with toHolding := after }) ?_
          ((if_neg hname).mpr rfl)
        rintro _ ⟨⟩
        exact hdiscreet

lemma phase_withPassword {chosen : Instance} (hphase : h.phase = .negotiating chosen)
    (p : String) : (h.withPassword p).phase = .negotiating (chosen.withPassword p) := by
  rw [withPassword, hphase]
  rfl

lemma onChallenge_together (hd : h.All Mechanism.Discreet) {chosen : Instance}
    (hphase : h.phase = .negotiating chosen) (data : List UInt8) :
    Together p q ((h.withPassword p).step (.challenge data))
      ((h.withPassword q).step (.challenge data)) := by
  have hdiscreet : chosen.mechanism.Discreet := hd.phase chosen (by rw [hphase]; rfl)
  obtain ⟨response, after, hsame⟩ := hdiscreet.exists_challengeResponse chosen.toHolding data
  have hresponse := fun r => Instance.challengeResponse_eq (i := chosen.withPassword r) (hsame r)
  rw [step, step]
  cases response with
  | error e =>
    rw [onChallenge_of_error (phase_withPassword hphase p) (hresponse p),
      onChallenge_of_error (phase_withPassword hphase q) (hresponse q)]
    refine hd.together (.failed (some { chosen with toHolding := after })) ?_ rfl
    rintro _ ⟨⟩
    exact hdiscreet
  | ok response =>
    rw [onChallenge_of_ok (phase_withPassword hphase p) (hresponse p),
      onChallenge_of_ok (phase_withPassword hphase q) (hresponse q)]
    refine hd.together (.negotiating { chosen with toHolding := after }) ?_ rfl
    rintro _ ⟨⟩
    exact hdiscreet

lemma onOutcome_together (hd : h.All Mechanism.Discreet) {chosen : Instance}
    (hphase : h.phase = .negotiating chosen) (o : Outcome) :
    Together p q ((h.withPassword p).step (.outcome o)) ((h.withPassword q).step (.outcome o)) := by
  have hdiscreet : ∀ i, some chosen = some i → i.mechanism.Discreet := by
    rintro _ ⟨⟩
    exact hd.phase chosen (by rw [hphase]; rfl)
  rw [step, step, onOutcome, onOutcome, phase_withPassword hphase, phase_withPassword hphase]
  by_cases ho : o.isOk = true
  · simp only [if_pos ho]
    exact hd.together (.succeeded chosen) hdiscreet rfl
  · simp only [if_neg ho]
    exact hd.together (.failed chosen) hdiscreet rfl

lemma permits_withPassword (phase : Phase) (p : String) (frame : Frame) :
    (phase.withPassword p).permits frame = phase.permits frame := by
  cases phase <;> cases frame <;> rfl

/-- Whatever comes, a handshake does the same with either password. -/
theorem step_together (hd : h.All Mechanism.Discreet) (hp : p ≠ "") (hq : q ≠ "") (event : Event) :
    Together p q ((h.withPassword p).step event) ((h.withPassword q).step event) := by
  by_cases hpermits : h.phase.permits event.frame = false
  · rw [step_of_not_permits ((permits_withPassword h.phase _ event.frame).trans hpermits),
      step_of_not_permits ((permits_withPassword h.phase _ event.frame).trans hpermits)]
    exact ⟨rfl, h, hd, rfl, rfl⟩
  · cases event with
    | mechanisms offered =>
      cases hphase : h.phase with
      | awaiting => exact onMechanisms_together hd hp hq hphase offered
      | _ => exact absurd (by rw [hphase]; rfl) hpermits
    | challenge data =>
      cases hphase : h.phase with
      | negotiating chosen => exact onChallenge_together hd hphase data
      | _ => exact absurd (by rw [hphase]; rfl) hpermits
    | outcome o =>
      cases hphase : h.phase with
      | negotiating chosen => exact onOutcome_together hd hphase o
      | _ => exact absurd (by rw [hphase]; rfl) hpermits

/-- Handshakes that are one apart from the password stay so for as long as they run. -/
lemma run_together (hd : h.All Mechanism.Discreet) (hp : p ≠ "") (hq : q ≠ "")
    (events : List Event) :
    List.Forall₂ (SameBut p q) ((h.withPassword p).run events).1
      ((h.withPassword q).run events).1 ∧
    ∃ next : Handshake, next.All Mechanism.Discreet ∧
      ((h.withPassword p).run events).2 = next.withPassword p ∧
      ((h.withPassword q).run events).2 = next.withPassword q := by
  induction events generalizing h with
  | nil => exact ⟨.nil, h, hd, rfl, rfl⟩
  | cons event rest ih =>
    obtain ⟨hanswer, next, hnext, hfirst, hsecond⟩ := step_together hd hp hq event
    obtain ⟨hanswers, hafter⟩ := ih hnext
    rw [run_cons, run_cons, hfirst, hsecond]
    exact ⟨.cons hanswer hanswers, hafter⟩

/-! ### What is seen of them -/

lemma name_withPassword (phase : Phase) (p : String) :
    (phase.withPassword p).name = phase.name := by
  cases phase <;> rfl

lemma mechanism?_withPassword (phase : Phase) (p : String) :
    (phase.withPassword p).mechanism? = phase.mechanism?.map (·.withPassword p) := by
  cases phase <;> rfl

/-- What is seen of a handshake does not depend on the password. -/
lemma looksAlike_withPassword (hd : h.All Mechanism.Discreet) (p q : String) :
    (h.withPassword p).LooksAlike (h.withPassword q) := by
  have hstate : ∀ r, (h.withPassword r).phase.name = h.phase.name := name_withPassword h.phase
  have hmechanism : ∀ r, (h.withPassword r).phase.mechanism? =
      h.phase.mechanism?.map (·.withPassword r) := mechanism?_withPassword h.phase
  have hname : ∀ r, (h.withPassword r).phase.mechanism?.map (·.mechanism.name) =
      h.phase.mechanism?.map (·.mechanism.name) := by
    intro r
    rw [hmechanism, Option.map_map]
    rfl
  refine ⟨?_, ?_, fun order => ?_, rfl, ?_, ?_⟩
  · rw [hstate, hstate]
  · rw [hname, hname]
  · unfold describeIn
    rw [hname, hname, hstate, hstate]
    rfl
  · rw [hmechanism, hmechanism]
    cases hchosen : h.phase.mechanism? with
    | none => rfl
    | some i => exact congrArg some ((hd.phase i hchosen).describe_eq i.toHolding p q)
  · rw [hmechanism, hmechanism, Option.map_map, Option.map_map]
    rfl

/-- Handshakes of clients whose settings differ in a password that is not empty give the same
answers to whatever comes, but for the initial response of `PLAIN`, and stand alike and leave the
same in a log after it. -/
theorem password_secret (settings : Config.SaslSettings) (principal : Option Principal)
    (hp : p ≠ "") (hq : q ≠ "") (events : List Event) :
    let first := (new { settings with password := some p } principal).run events
    let second := (new { settings with password := some q } principal).run events
    List.Forall₂ (SameBut p q) first.1 second.1 ∧ first.2.LooksAlike second.2 := by
  have hdiscreet : (new settings principal).All Mechanism.Discreet :=
    .of_awaiting (Registry.all_defaults discreet_plain discreet_anonymous discreet_external) rfl
  obtain ⟨hanswers, next, hnext, hfirst, hsecond⟩ := run_together hdiscreet hp hq events
  intro first second
  have hlooks := looksAlike_withPassword hnext p q
  rw [← hfirst, ← hsecond] at hlooks
  exact ⟨hanswers, hlooks⟩

/-- A client of one user, whatever the password. -/
def clientOf (password : String) : Handshake :=
  new { username := some "user", password := some password } none

def refusedAttempt : List Event :=
  [.mechanisms ["PLAIN"], .challenge [1], .outcome .auth]

theorem password_secret_refusedAttempt :
    List.Forall₂ (SameBut "first" "second") ((clientOf "first").run refusedAttempt).1
      ((clientOf "second").run refusedAttempt).1 ∧
    ((clientOf "first").run refusedAttempt).2.LooksAlike
      ((clientOf "second").run refusedAttempt).2 :=
  password_secret { username := some "user" } none (by decide) (by decide) refusedAttempt

end Handshake

end AmqpClient.Sasl
