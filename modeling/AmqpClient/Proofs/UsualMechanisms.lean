import AmqpClient.Proofs.PasswordSecrecy
import AmqpClient.Proofs.PlainResponse

/-!
# What a client with the usual mechanisms chooses

Of `EXTERNAL`, `PLAIN` and `ANONYMOUS` a client uses the first one that the peer offers, that the
settings allow and that it has all for. In what order and how often the names are on offer, and what
other names are, makes no difference.
-/

namespace AmqpClient.Sasl

open Text

/-- A name is on offer, and the settings let it through. -/
def Allowed (settings : Config.SaslSettings) (offered : List String) (name : String) : Prop :=
  name ∈ offered ∧ (settings.mechanisms = [] ∨ name ∈ settings.mechanisms)

instance (settings : Config.SaslSettings) (offered : List String) (name : String) :
    Decidable (Allowed settings offered name) :=
  inferInstanceAs (Decidable (_ ∧ _))

/-- The response of `PLAIN`, if there are a username and a password to send and neither is empty. -/
def plainResponse? (settings : Config.SaslSettings) : Option (List UInt8) :=
  match settings.username, settings.password with
  | some username, some password =>
    if username = "" ∨ password = "" then none else some (plainResponse username password)
  | _, _ => none

/-- The mechanism to use and its initial response, by the first line that applies. -/
def decision (settings : Config.SaslSettings) (principal : Option Principal)
    (offered : List String) : Option (Mechanism × List UInt8) :=
  (if Allowed settings offered "EXTERNAL" ∧ principal.isSome then some (external, []) else none) <|>
  (if Allowed settings offered "PLAIN" then (plainResponse? settings).map (plain, ·) else none) <|>
  (if Allowed settings offered "ANONYMOUS" then some (anonymous, []) else none)

/-- What a decision comes to: the answer to the offer, and the phase after it. -/
def Handshake.decided (settings : Config.SaslSettings) (principal : Option Principal)
    (offered : List String) : Except Error Init × Handshake :=
  match decision settings principal offered with
  | some (m, response) => (.ok ⟨m.name, some response, settings.hostname⟩,
      { Handshake.new settings principal with
        phase := .negotiating
          { mechanism := m, credentials := ⟨settings.username, settings.password⟩ } })
  | none => (.error (.noMatch offered),
      { Handshake.new settings principal with phase := .failed none })

/-! ### Who is eligible -/

lemma Registry.lookup_defaults (name : String) :
    defaults.entries.lookup name = if name = "ANONYMOUS" then some anonymous
      else if name = "EXTERNAL" then some external
      else if name = "PLAIN" then some plain else none := by
  have hentries : defaults.entries =
      [("ANONYMOUS", anonymous), ("EXTERNAL", external), ("PLAIN", plain)] := rfl
  rw [hentries, lookup_cons_name, lookup_cons_name, lookup_cons_name, List.lookup_nil]

/-- An eligible name that no other one on offer comes up to is chosen. -/
lemma Situation.select_of_eligible {s : Situation} {offered : List String} {name : String}
    {m : Mechanism} (hname : name ∈ offered) (hm : s.Eligible name m)
    (hbest : ∀ other ∈ offered, ∀ n, s.Eligible other n →
      other = name ∨ n.priority.value < m.priority.value) :
    s.select offered = some { mechanism := m } := by
  obtain ⟨before, after, rfl, hfirst⟩ := List.eq_append_cons_of_mem hname
  refine select_eq_some_iff.2 ⟨before, name, after, m, rfl, hm, rfl, fun other hother n hn => ?_,
    fun other hother n hn => ?_⟩
  · rcases hbest other (List.mem_append_left _ hother) n hn with rfl | hlt
    · exact absurd hother hfirst
    · exact hlt
  · rcases hbest other (List.mem_append_right _ (List.mem_cons_of_mem _ hother)) n hn with
      rfl | hlt
    · have hsame : some n = some m := hn.registered.symm.trans hm.registered
      cases hsame
      exact Nat.le_refl _
    · exact Nat.le_of_lt hlt

namespace Handshake

variable {settings : Config.SaslSettings} {principal : Option Principal} {offered : List String}

lemma plain_isApplicable_new :
    plain.isApplicable (Handshake.new settings principal).credentials principal =
      (plainResponse? settings).isSome := by
  obtain ⟨username, password, hostname, mechanisms⟩ := settings
  unfold plainResponse?
  cases username with
  | none => rfl
  | some u =>
    cases password with
    | none => exact Bool.and_false _
    | some p =>
      by_cases hu : u = "" <;> by_cases hp : p = "" <;>
        simp [plain, Handshake.credentials, Handshake.new, hu, hp]

/-- The usual mechanisms on offer are eligible under their own names, as far as they are allowed and
have what they need. -/
lemma eligible_new_iff {name : String} {m : Mechanism} (hname : name ∈ offered) :
    (Handshake.new settings principal).situation.Eligible name m ↔
      (name = "EXTERNAL" ∧ m = external ∧ Allowed settings offered name ∧
        principal.isSome = true) ∨
      (name = "PLAIN" ∧ m = plain ∧ Allowed settings offered name ∧
        (plainResponse? settings).isSome = true) ∨
      (name = "ANONYMOUS" ∧ m = anonymous ∧ Allowed settings offered name) := by
  have hallowed : (Handshake.new settings principal).situation.restrictions = [] ∨
      name ∈ (Handshake.new settings principal).situation.restrictions ↔
      Allowed settings offered name :=
    (or_congr restrictions_eq_nil_iff mem_sortedNames).trans (and_iff_right hname).symm
  constructor
  · intro h
    have hregistered := (Registry.lookup_defaults name).symm.trans h.registered
    have happlicable := h.applicable
    by_cases hanonymous : name = "ANONYMOUS"
    · rw [if_pos hanonymous] at hregistered
      cases hregistered
      exact .inr (.inr ⟨hanonymous, rfl, hallowed.1 h.allowed⟩)
    by_cases hexternal : name = "EXTERNAL"
    · rw [if_neg hanonymous, if_pos hexternal] at hregistered
      cases hregistered
      exact .inl ⟨hexternal, rfl, hallowed.1 h.allowed, happlicable⟩
    by_cases hplain : name = "PLAIN"
    · rw [if_neg hanonymous, if_neg hexternal, if_pos hplain] at hregistered
      cases hregistered
      have hresponse := plain_isApplicable_new.symm.trans happlicable
      exact .inr (.inl ⟨hplain, rfl, hallowed.1 h.allowed, hresponse⟩)
    · rw [if_neg hanonymous, if_neg hexternal, if_neg hplain] at hregistered
      cases hregistered
  · rintro (⟨rfl, rfl, ha, hp⟩ | ⟨rfl, rfl, ha, hresponse⟩ | ⟨rfl, rfl, ha⟩)
    · exact ⟨by decide, Registry.lookup_defaults _, hallowed.2 ha, hp⟩
    · have happlicable :
          plain.isApplicable (Handshake.new settings principal).credentials principal = true :=
        plain_isApplicable_new.trans hresponse
      exact ⟨by decide, Registry.lookup_defaults _, hallowed.2 ha, happlicable⟩
    · exact ⟨by decide, Registry.lookup_defaults _, hallowed.2 ha, rfl⟩

lemma plainResponse?_eq_some_iff {response : List UInt8} :
    plainResponse? settings = some response ↔ ∃ username password,
      settings.username = some username ∧ settings.password = some password ∧ username ≠ "" ∧
      password ≠ "" ∧ response = plainResponse username password := by
  unfold plainResponse?
  cases settings.username with
  | none => simp
  | some u =>
    cases settings.password with
    | none => simp
    | some p =>
      by_cases hempty : u = "" ∨ p = ""
      · simp only [if_pos hempty]
        constructor
        · exact fun h => by cases h
        · rintro ⟨_, _, ⟨rfl⟩, ⟨rfl⟩, hu, hp, -⟩
          exact absurd hempty (not_or.2 ⟨hu, hp⟩)
      · simp only [if_neg hempty]
        obtain ⟨hu, hp⟩ := not_or.1 hempty
        constructor
        · intro h
          cases h
          exact ⟨u, p, rfl, rfl, hu, hp, rfl⟩
        · rintro ⟨_, _, ⟨rfl⟩, ⟨rfl⟩, -, -, rfl⟩
          rfl

/-! ### What is chosen -/

lemma onMechanisms_new_of_eligible {m : Mechanism} {response : List UInt8} {name : String}
    (hdecision : decision settings principal offered = some (m, response))
    (hname : name ∈ offered) (hm : (Handshake.new settings principal).situation.Eligible name m)
    (hresponse : ∀ holding : Holding,
      holding.credentials = (Handshake.new settings principal).credentials →
      m.initialResponse holding = (.ok (some response), holding))
    (hbest : ∀ other ∈ offered, ∀ n,
      (Handshake.new settings principal).situation.Eligible other n →
      other = name ∨ n.priority.value < m.priority.value) :
    (Handshake.new settings principal).onMechanisms offered =
      decided settings principal offered := by
  have hselect := Situation.select_of_eligible hname hm hbest
  have hinit := Instance.initialResponse_eq
    (i := { mechanism := m, credentials := (Handshake.new settings principal).credentials })
    (hresponse _ rfl)
  rw [onMechanisms_of_ok rfl hselect hinit, decided, hdecision]
  rfl

section Rows

variable (hnoExternal : ¬(Allowed settings offered "EXTERNAL" ∧ principal.isSome = true))
  (hnoPlain : ¬(Allowed settings offered "PLAIN" ∧ (plainResponse? settings).isSome = true))
  (hnoAnonymous : ¬Allowed settings offered "ANONYMOUS")

lemma onMechanisms_new_external
    (h : Allowed settings offered "EXTERNAL" ∧ principal.isSome = true) :
    (Handshake.new settings principal).onMechanisms offered =
      decided settings principal offered := by
  have hdecision : decision settings principal offered = some (external, []) := by
    rw [decision, if_pos h]
    rfl
  have hm : (Handshake.new settings principal).situation.Eligible "EXTERNAL" external :=
    (eligible_new_iff h.1.1).2 (.inl ⟨rfl, rfl, h⟩)
  refine onMechanisms_new_of_eligible hdecision h.1.1 hm (fun _ _ => rfl) fun other hother n hn => ?_
  rcases (eligible_new_iff hother).1 hn with ⟨rfl, rfl, -⟩ | ⟨rfl, rfl, -⟩ | ⟨rfl, rfl, -⟩
  · exact .inl rfl
  · exact .inr (by decide)
  · exact .inr (by decide)

include hnoExternal in
lemma onMechanisms_new_plain
    (h : Allowed settings offered "PLAIN" ∧ (plainResponse? settings).isSome = true) :
    (Handshake.new settings principal).onMechanisms offered =
      decided settings principal offered := by
  obtain ⟨response, hresponse⟩ := Option.isSome_iff_exists.1 h.2
  have hdecision : decision settings principal offered = some (plain, response) := by
    rw [decision, if_neg hnoExternal, if_pos h.1, hresponse]
    rfl
  have hsent : ∀ holding : Holding,
      holding.credentials = (Handshake.new settings principal).credentials →
      plain.initialResponse holding = (.ok (some response), holding) := by
    obtain ⟨u, p, hu, hp, -, -, rfl⟩ := plainResponse?_eq_some_iff.1 hresponse
    intro holding hholding
    refine plain_initialResponse (hholding.trans ?_)
    rw [← hu, ← hp]
    rfl
  have hm : (Handshake.new settings principal).situation.Eligible "PLAIN" plain :=
    (eligible_new_iff h.1.1).2 (.inr (.inl ⟨rfl, rfl, h⟩))
  refine onMechanisms_new_of_eligible hdecision h.1.1 hm hsent fun other hother n hn => ?_
  rcases (eligible_new_iff hother).1 hn with ⟨rfl, rfl, he⟩ | ⟨rfl, rfl, -⟩ | ⟨rfl, rfl, -⟩
  · exact absurd he hnoExternal
  · exact .inl rfl
  · exact .inr (by decide)

include hnoPlain in
lemma decision_of_not_plain : decision settings principal offered =
    ((if Allowed settings offered "EXTERNAL" ∧ principal.isSome then some (external, []) else none)
      <|> if Allowed settings offered "ANONYMOUS" then some (anonymous, []) else none) := by
  unfold decision
  by_cases hallowed : Allowed settings offered "PLAIN"
  · have hnone : plainResponse? settings = none :=
      Option.not_isSome_iff_eq_none.1 fun h => hnoPlain ⟨hallowed, h⟩
    rw [if_pos hallowed, hnone]
    rfl
  · rw [if_neg hallowed]
    rfl

include hnoExternal hnoPlain in
lemma onMechanisms_new_anonymous (h : Allowed settings offered "ANONYMOUS") :
    (Handshake.new settings principal).onMechanisms offered =
      decided settings principal offered := by
  have hdecision : decision settings principal offered = some (anonymous, []) := by
    rw [decision_of_not_plain hnoPlain, if_neg hnoExternal, if_pos h]
    rfl
  have hm : (Handshake.new settings principal).situation.Eligible "ANONYMOUS" anonymous :=
    (eligible_new_iff h.1).2 (.inr (.inr ⟨rfl, rfl, h⟩))
  refine onMechanisms_new_of_eligible hdecision h.1 hm (fun _ _ => rfl) fun other hother n hn => ?_
  rcases (eligible_new_iff hother).1 hn with ⟨rfl, rfl, he⟩ | ⟨rfl, rfl, hp⟩ | ⟨rfl, rfl, -⟩
  · exact absurd he hnoExternal
  · exact absurd hp hnoPlain
  · exact .inl rfl

include hnoExternal hnoPlain hnoAnonymous in
lemma onMechanisms_new_none :
    (Handshake.new settings principal).onMechanisms offered =
      decided settings principal offered := by
  have hdecision : decision settings principal offered = none := by
    rw [decision_of_not_plain hnoPlain, if_neg hnoExternal, if_neg hnoAnonymous]
    rfl
  have hselect : (Handshake.new settings principal).situation.select offered = none := by
    refine Situation.select_eq_none_iff.2 fun other hother n hn => ?_
    rcases (eligible_new_iff hother).1 hn with ⟨rfl, -, he⟩ | ⟨rfl, -, hp⟩ | ⟨rfl, -, ha⟩
    · exact hnoExternal he
    · exact hnoPlain hp
    · exact hnoAnonymous ha
  rw [onMechanisms_of_none rfl hselect, decided, hdecision]

end Rows

lemma plainResponse?_of_decision {m : Mechanism} {response : List UInt8}
    (h : decision settings principal offered = some (m, response)) (hm : m.name = "PLAIN") :
    plainResponse? settings = some response := by
  by_cases hexternal : Allowed settings offered "EXTERNAL" ∧ principal.isSome = true
  · rw [decision, if_pos hexternal] at h
    cases h
    exact absurd hm (by decide)
  by_cases hplain : Allowed settings offered "PLAIN" ∧ (plainResponse? settings).isSome = true
  · obtain ⟨sent, hsent⟩ := Option.isSome_iff_exists.1 hplain.2
    rw [decision, if_neg hexternal, if_pos hplain.1, hsent] at h
    cases h
    exact hsent
  rw [decision_of_not_plain hplain, if_neg hexternal] at h
  by_cases hanonymous : Allowed settings offered "ANONYMOUS"
  · rw [if_pos hanonymous] at h
    cases h
    exact absurd hm (by decide)
  · rw [if_neg hanonymous] at h
    cases h

lemma onMechanisms_new (settings : Config.SaslSettings) (principal : Option Principal)
    (offered : List String) :
    (Handshake.new settings principal).onMechanisms offered =
      decided settings principal offered := by
  by_cases hexternal : Allowed settings offered "EXTERNAL" ∧ principal.isSome = true
  · exact onMechanisms_new_external hexternal
  by_cases hplain : Allowed settings offered "PLAIN" ∧ (plainResponse? settings).isSome = true
  · exact onMechanisms_new_plain hexternal hplain
  by_cases hanonymous : Allowed settings offered "ANONYMOUS"
  · exact onMechanisms_new_anonymous hexternal hplain hanonymous
  · exact onMechanisms_new_none hexternal hplain hanonymous

/-- Challenges and outcomes that come before an offer change nothing. -/
lemma run_before_offer {h : Handshake} (hp : h.phase = .awaiting) {events : List Event}
    (hevents : ∀ event ∈ events, event.frame ≠ .mechanisms) : (h.run events).2 = h := by
  induction events with
  | nil => rfl
  | cons event rest ih =>
    have hrefused := step_of_not_permits
      (permits_of_awaiting hp (hevents event List.mem_cons_self))
    rw [run_cons, hrefused]
    exact ih fun other hother => hevents other (List.mem_cons_of_mem _ hother)

/-- A client that knows the usual mechanisms answers the first offer, whatever has been refused
before it, by the decision and by nothing else. It sends a username and a password only if it has
both and neither is empty. -/
theorem first_offer_decided (settings : Config.SaslSettings) (principal : Option Principal)
    (earlier : List Event) (hearlier : ∀ event ∈ earlier, event.frame ≠ .mechanisms)
    (offered : List String) :
    ((Handshake.new settings principal).run earlier).2.onMechanisms offered =
      decided settings principal offered ∧
    ∀ init, (((Handshake.new settings principal).run earlier).2.onMechanisms offered).1 =
        .ok init → init.mechanism = "PLAIN" →
      ∃ username password, settings.username = some username ∧
        settings.password = some password ∧ username ≠ "" ∧ password ≠ "" ∧
        init.initialResponse = some (plainResponse username password) := by
  rw [run_before_offer rfl hearlier, onMechanisms_new]
  refine ⟨rfl, fun init hinit hname => ?_⟩
  unfold decided at hinit
  cases hdecision : decision settings principal offered with
  | none =>
    rw [hdecision] at hinit
    cases hinit
  | some chosen =>
    rw [hdecision] at hinit
    cases hinit
    obtain ⟨u, p, hu, hp, hne, hne', hresponse⟩ :=
      plainResponse?_eq_some_iff.1 (plainResponse?_of_decision hdecision hname)
    exact ⟨u, p, hu, hp, hne, hne', congrArg some hresponse⟩

/-- Settings with an empty password, and a name in them that stands for no mechanism. -/
def emptyPasswordSettings : Config.SaslSettings where
  username := some "user"
  password := some ""
  hostname := some "broker"
  mechanisms := ["PLAIN", "X-TOKEN", "ANONYMOUS"]

/-- `PLAIN` is allowed but has no password to send, and `EXTERNAL` is not allowed. A challenge that
came before the offer makes no difference. -/
theorem first_offer_decided_emptyPassword :
    ((Handshake.new emptyPasswordSettings (some ⟨"CN=client"⟩)).run
      [.challenge [1]]).2.onMechanisms ["", "PLAIN", "X-TOKEN", "ANONYMOUS", "EXTERNAL", "PLAIN"] =
        (.ok ⟨"ANONYMOUS", some [], some "broker"⟩,
          { Handshake.new emptyPasswordSettings (some ⟨"CN=client"⟩) with
            phase := .negotiating
              { mechanism := anonymous, credentials := ⟨some "user", some ""⟩ } }) := by
  have hdecision : decision emptyPasswordSettings (some ⟨"CN=client"⟩)
      ["", "PLAIN", "X-TOKEN", "ANONYMOUS", "EXTERNAL", "PLAIN"] = some (anonymous, []) := rfl
  obtain ⟨hdecided, -⟩ := first_offer_decided emptyPasswordSettings (some ⟨"CN=client"⟩)
    [.challenge [1]] (by decide) ["", "PLAIN", "X-TOKEN", "ANONYMOUS", "EXTERNAL", "PLAIN"]
  rw [hdecided, decided, hdecision]
  rfl

end Handshake

end AmqpClient.Sasl
