import AmqpClient.Proofs.NameOrder
import AmqpClient.Proofs.PasswordSecrecy

/-!
# Restrictions

Restrictions only take names away from an offer, before anything else is asked of it. What is known
of other names makes no difference then, nor how the restrictions are written down; and where they
take everything away, nothing is chosen.
-/

namespace AmqpClient.Sasl

open Text

/-! ### What is chosen under restrictions -/

namespace Situation

variable {s : Situation} {offered : List String}

/-- A choice under restrictions is a choice without any from the names that they let through. -/
lemma select_restricted (h : s.restrictions ≠ []) (offered : List String) :
    s.select offered =
      { s with restrictions := [] }.select (offered.filter s.restrictions.contains) := by
  have hallowed : ∀ name m, s.Eligible name m → s.restrictions.contains name = true :=
    fun name m hm => List.contains_iff_mem.2 (hm.allowed.resolve_left h)
  rw [← select_filter fun name _ m hm => hallowed name m hm]
  refine select_congr fun name hname m => ⟨fun hm => ?_, fun hm => ?_⟩
  · exact ⟨hm.name_ne, hm.registered, .inl rfl, hm.applicable⟩
  · have hmem : name ∈ s.restrictions := List.contains_iff_mem.1 (List.mem_filter.1 hname).2
    exact ⟨hm.name_ne, hm.registered, .inr hmem, hm.applicable⟩

lemma select_eq_none_of_restricted (h : s.restrictions ≠ [])
    (hnone : ∀ name ∈ s.restrictions, name ∉ offered) : s.select offered = none :=
  select_eq_none_iff.2 fun name hname _ hm => hnone name (hm.allowed.resolve_left h) hname

end Situation

/-! ### Restrictions that are written down in another way -/

namespace Handshake

variable {h : Handshake} {mechanisms : List String}

/-- A handshake with other mechanisms in its settings. -/
def withMechanisms (h : Handshake) (mechanisms : List String) : Handshake :=
  { h with settings := { h.settings with mechanisms } }

lemma situation_withMechanisms (hsame : sortedNames mechanisms = h.settings.restrictions) :
    (h.withMechanisms mechanisms).situation = h.situation :=
  congrArg (Situation.mk h.registry h.credentials h.principal) hsame

lemma describe_withMechanisms (hsame : sortedNames mechanisms = h.settings.restrictions) :
    (h.withMechanisms mechanisms).describe = h.describe := by
  have hrestrictions : (h.withMechanisms mechanisms).settings.restrictions =
      h.settings.restrictions := hsame
  unfold describe describeIn
  rw [hrestrictions]
  rfl

lemma onMechanisms_withMechanisms (hsame : sortedNames mechanisms = h.settings.restrictions)
    (offered : List String) : (h.withMechanisms mechanisms).onMechanisms offered =
      ((h.onMechanisms offered).1, (h.onMechanisms offered).2.withMechanisms mechanisms) := by
  have hphase : (h.withMechanisms mechanisms).phase = h.phase := rfl
  unfold onMechanisms
  rw [situation_withMechanisms hsame, hphase]
  cases h.phase with
  | awaiting =>
    cases h.situation.select offered with
    | none => rfl
    | some found =>
      have hcredentials : (h.withMechanisms mechanisms).credentials = h.credentials := rfl
      simp only [hcredentials]
      rcases Instance.initialResponse { found with credentials := h.credentials } with
        ⟨e | response, i⟩
      · rfl
      · rfl
  | _ => rfl

lemma step_withMechanisms (hsame : sortedNames mechanisms = h.settings.restrictions)
    (event : Event) : (h.withMechanisms mechanisms).step event =
      ((h.step event).1, (h.step event).2.withMechanisms mechanisms) := by
  have hphase : (h.withMechanisms mechanisms).phase = h.phase := rfl
  cases event with
  | mechanisms offered =>
    rw [step, onMechanisms_withMechanisms hsame]
    rfl
  | challenge data =>
    rw [step, step, onChallenge, onChallenge, hphase]
    cases h.phase with
    | negotiating chosen =>
      simp only
      rcases chosen.challengeResponse data with ⟨e | response, i⟩
      · rfl
      · rfl
    | _ => rfl
  | outcome o =>
    rw [step, step, onOutcome, onOutcome, hphase]
    cases h.phase with
    | negotiating chosen => cases o <;> rfl
    | _ => rfl

lemma Transition.settings_eq {event : Event} {answer : Except Error Answer} {next : Handshake}
    (ht : h.Transition event answer next) : next.settings = h.settings := by
  cases ht <;> rfl

/-- Whatever comes, a handshake does the same with restrictions that are written down otherwise. -/
lemma run_withMechanisms (hsame : sortedNames mechanisms = h.settings.restrictions)
    (events : List Event) : (h.withMechanisms mechanisms).run events =
      ((h.run events).1, (h.run events).2.withMechanisms mechanisms) ∧
    (h.run events).2.settings = h.settings := by
  induction events generalizing h with
  | nil => exact ⟨rfl, rfl⟩
  | cons event rest ih =>
    have hsettings := (h.step_transition event).settings_eq
    have hnext : sortedNames mechanisms = (h.step event).2.settings.restrictions := by
      rw [hsettings]
      exact hsame
    obtain ⟨hrun, hkept⟩ := ih hnext
    rw [run_cons, run_cons, step_withMechanisms hsame, hrun]
    exact ⟨rfl, hkept.trans hsettings⟩

/-- A choice under restrictions is a choice without any from the names on offer that they let
through, and does not depend on what else is known. Settings with the same mechanisms, in whatever
order and however often, have handshakes that give the same answers, reach the same phase and leave
the same in a log. If settings have mechanisms and none of them is on offer, nothing is chosen. -/
theorem restrictions_only_filter :
    (∀ (s : Situation) (offered : List String), s.restrictions ≠ [] →
      s.select offered =
        { s with restrictions := [] }.select (offered.filter s.restrictions.contains)) ∧
    (∀ (s : Situation) (other : Registry) (offered : List String), s.restrictions ≠ [] →
      (∀ name ∈ offered, name ∈ s.restrictions → name ≠ "" →
        other.find? name = s.registry.find? name) →
      { s with registry := other }.select offered = s.select offered) ∧
    (∀ (registry : Registry) (settings : Config.SaslSettings) (principal : Option Principal)
      (mechanisms : List String), (∀ name, name ∈ mechanisms ↔ name ∈ settings.mechanisms) →
      ∀ events,
        let first := Handshake.run { registry, settings, principal } events
        let second := Handshake.run
          { registry, settings := { settings with mechanisms }, principal } events
        second.1 = first.1 ∧ second.2.phase = first.2.phase ∧
          second.2.describe = first.2.describe) ∧
    ∀ (h : Handshake) (offered : List String), h.phase = .awaiting →
      h.settings.mechanisms ≠ [] → (∀ name ∈ h.settings.mechanisms, name ∉ offered) →
      h.onMechanisms offered = (.error (.noMatch offered), { h with phase := .failed none }) := by
  refine ⟨fun s offered hs => Situation.select_restricted hs offered,
    fun s other offered hs hsame => Situation.select_of_find?_eq fun name hname hallowed =>
      hsame name hname (hallowed.resolve_left hs),
    fun registry settings principal mechanisms hsame events => ?_,
    fun h offered hp hmechanisms hnone => ?_⟩
  · intro first second
    have hsorted : sortedNames mechanisms = settings.restrictions := sortedNames_eq_iff.2 hsame
    obtain ⟨hrun, hkept⟩ :=
      run_withMechanisms (h := { registry, settings, principal }) hsorted events
    have hsecond : second = (first.1, first.2.withMechanisms mechanisms) := hrun
    have hdescribe : (first.2.withMechanisms mechanisms).describe = first.2.describe :=
      describe_withMechanisms (by rw [hkept]; exact hsorted)
    rw [hsecond]
    exact ⟨rfl, rfl, hdescribe⟩
  · refine onMechanisms_of_none hp (Situation.select_eq_none_of_restricted
      (mt restrictions_eq_nil_iff.1 hmechanisms) fun name hname => ?_)
    exact hnone name (mem_sortedNames.1 hname)

/-- Settings that let through `PLAIN` and `ANONYMOUS` only, the one of them twice. -/
def twoAllowedSettings : Config.SaslSettings where
  username := some "user"
  password := some "pass"
  mechanisms := ["PLAIN", "ANONYMOUS", "PLAIN"]

def twoAllowed : Handshake :=
  new twoAllowedSettings (some ⟨"CN=client"⟩)

/-- `EXTERNAL` would be the best choice, but it is not allowed; then neither the offer of it nor
that it is known makes a difference. -/
theorem restrictions_only_filter_twoAllowed :
    twoAllowed.situation.select ["EXTERNAL", "ANONYMOUS", "PLAIN"] = some { mechanism := plain } ∧
    twoAllowed.situation.select ["EXTERNAL", "ANONYMOUS", "PLAIN"] =
      { twoAllowed.situation with restrictions := [] }.select ["ANONYMOUS", "PLAIN"] ∧
    { twoAllowed.situation with registry := ⟨[("ANONYMOUS", anonymous), ("PLAIN", plain)]⟩ }.select
        ["EXTERNAL", "ANONYMOUS", "PLAIN"] =
      twoAllowed.situation.select ["EXTERNAL", "ANONYMOUS", "PLAIN"] ∧
    (Handshake.run { twoAllowed with
        settings := { twoAllowedSettings with mechanisms := ["ANONYMOUS", "PLAIN"] } }
        [.mechanisms ["EXTERNAL", "PLAIN"], .challenge [1], .outcome .ok]).1 =
      (twoAllowed.run [.mechanisms ["EXTERNAL", "PLAIN"], .challenge [1], .outcome .ok]).1 ∧
    twoAllowed.onMechanisms ["EXTERNAL", "plain"] =
      (.error (.noMatch ["EXTERNAL", "plain"]), { twoAllowed with phase := .failed none }) := by
  obtain ⟨hfilter, hregistry, hsettings, hnone⟩ := restrictions_only_filter
  refine ⟨rfl, hfilter twoAllowed.situation _ (by decide), ?_, ?_, ?_⟩
  · refine hregistry twoAllowed.situation _ _ (by decide) fun name _ hallowed _ => ?_
    rcases List.mem_cons.1 hallowed with rfl | hallowed
    · rfl
    · cases List.mem_singleton.1 hallowed
      rfl
  · exact (hsettings .defaults twoAllowedSettings (some ⟨"CN=client"⟩) ["ANONYMOUS", "PLAIN"]
      (by simp [twoAllowedSettings, or_comm]) _).1
  · exact hnone twoAllowed _ rfl (by decide) (by decide)

end Handshake

end AmqpClient.Sasl
