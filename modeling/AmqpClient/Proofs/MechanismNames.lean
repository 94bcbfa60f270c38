import AmqpClient.Proofs.HandshakeProtocol
import AmqpClient.Proofs.SelectionRule
import AmqpClient.Sasl.Scripted

/-!
# Names on offer and names sent

A mechanism is found by the name in the registry, and offers and restrictions speak of that name.
What is sent is the name of the mechanism itself. The two are the same where every mechanism is
registered under its own name.
-/

namespace AmqpClient.Sasl

namespace Registry

variable {r after : Registry} {name key : String} {m : Mechanism}

/-- Adds mechanisms in order, each under a name that is not taken. -/
def registerAll (r : Registry) (added : List (String × Mechanism)) : Except Error Registry :=
  added.foldlM (fun r (name, m) => r.register name m) r

/-- Every mechanism is known under its own name. -/
def Named (r : Registry) : Prop :=
  ∀ name m, r.entries.lookup name = some m → m.name = name

lemma lookup_insertEntry {entries : List (String × Mechanism)} (h : entries.lookup name = none) :
    (insertEntry name m entries).lookup key =
      if key = name then some m else entries.lookup key := by
  induction entries with
  | nil => exact Text.lookup_cons_name name key m []
  | cons first rest ih =>
    obtain ⟨n, old⟩ := first
    rw [Text.lookup_cons_name] at h
    by_cases hn : name = n
    · rw [if_pos hn] at h
      cases h
    · rw [if_neg hn] at h
      unfold insertEntry
      by_cases hlt : name < n
      · rw [if_pos hlt, Text.lookup_cons_name]
      · rw [if_neg hlt, Text.lookup_cons_name, ih h, Text.lookup_cons_name]
        by_cases hk : key = n
        · have hne : key ≠ name := fun he => hn (he.symm.trans hk)
          rw [if_pos hk, if_neg hne, if_pos hk]
        · rw [if_neg hk, if_neg hk]

lemma register_eq_ok_iff : r.register name m = .ok after ↔
    r.entries.lookup name = none ∧ after = ⟨insertEntry name m r.entries⟩ := by
  unfold register contains
  cases r.entries.lookup name with
  | none => simp [eq_comm]
  | some old => simp

lemma lookup_register (h : r.register name m = .ok after) (key : String) :
    after.entries.lookup key = if key = name then some m else r.entries.lookup key := by
  obtain ⟨hfree, rfl⟩ := register_eq_ok_iff.1 h
  exact lookup_insertEntry hfree

lemma registerAll_cons (r : Registry) (name : String) (m : Mechanism)
    (rest : List (String × Mechanism)) :
    r.registerAll ((name, m) :: rest) = r.register name m >>= fun r => r.registerAll rest := rfl

/-- What is found after any number of registrations was there before or has been added. -/
theorem lookup_registerAll {added : List (String × Mechanism)}
    (hr : r.registerAll added = .ok after) (hkey : after.entries.lookup key = some m) :
    r.entries.lookup key = some m ∨ (key, m) ∈ added := by
  induction added generalizing r with
  | nil =>
    cases hr
    exact .inl hkey
  | cons first rest ih =>
    obtain ⟨name, n⟩ := first
    rw [registerAll_cons] at hr
    cases hn : r.register name n with
    | error e =>
      rw [hn] at hr
      cases hr
    | ok next =>
      rw [hn] at hr
      rcases ih hr with hnext | hrest
      · rw [lookup_register hn] at hnext
        by_cases hk : key = name
        · rw [if_pos hk] at hnext
          cases hnext
          exact .inr (hk ▸ List.mem_cons_self)
        · rw [if_neg hk] at hnext
          exact .inl hnext
      · exact .inr (List.mem_cons_of_mem _ hrest)

lemma named_empty : empty.Named := by
  intro name m h
  cases h

lemma Named.insertEntry (h : r.Named) (hfree : r.entries.lookup m.name = none) :
    Named ⟨Registry.insertEntry m.name m r.entries⟩ := by
  intro key n hkey
  rw [lookup_insertEntry hfree] at hkey
  by_cases hk : key = m.name
  · rw [if_pos hk] at hkey
    cases hkey
    exact hk.symm
  · rw [if_neg hk] at hkey
    exact h key n hkey

lemma named_defaults : defaults.Named := by
  have hplain := named_empty.insertEntry (m := plain) rfl
  have hanonymous := hplain.insertEntry (m := anonymous) rfl
  exact hanonymous.insertEntry (m := external) rfl

end Registry

namespace Handshake

variable {h : Handshake} {offered : List String} {init : Init}

lemma restrictions_eq_nil_iff {s : Config.SaslSettings} :
    s.restrictions = [] ↔ s.mechanisms = [] := by
  simp only [List.eq_nil_iff_forall_not_mem, Config.SaslSettings.restrictions,
    Text.mem_sortedNames]

/-- A mechanism that is taken into use was found by a name on offer, which is allowed. -/
lemma exists_eligible_of_onMechanisms (hi : (h.onMechanisms offered).1 = .ok init) :
    ∃ name m, name ∈ offered ∧ h.situation.Eligible name m ∧ init.mechanism = m.name ∧
      (h.onMechanisms offered).2.phase = .negotiating
        (Instance.initialResponse { mechanism := m, credentials := h.credentials }).2 := by
  have hanswer : (h.step (.mechanisms offered)).1 = .ok (.init init) := by
    rw [step, Prod.map_fst, hi]
    rfl
  have hafter : (h.step (.mechanisms offered)).2 = (h.onMechanisms offered).2 := by
    rw [step, Prod.map_snd]
    rfl
  have htransition := h.step_transition (.mechanisms offered)
  rw [hanswer, hafter] at htransition
  generalize (h.onMechanisms offered).2 = next at htransition
  cases htransition with
  | chosen _ found i response hp hs hr =>
    obtain ⟨before, name, after, m, rfl, hm, rfl, -, -⟩ := Situation.select_eq_some_iff.1 hs
    have hchosen := Instance.continues_of_initialResponse hr
    refine ⟨name, m, by simp, hm, congrArg Mechanism.name hchosen.mechanism_eq, ?_⟩
    rw [hr]

/-- Whatever has been registered besides the usual mechanisms or without them, the mechanism that
is taken into use was found by a name on offer, which the settings allow, and its own name is
announced. That is the same name, unless it was found under an added name that is not its own. -/
theorem announced_name (base : Registry) (hbase : base = .empty ∨ base = .defaults)
    (added : List (String × Mechanism)) (h : Handshake)
    (hregistry : base.registerAll added = .ok h.registry) (offered : List String) (init : Init)
    (hi : (h.onMechanisms offered).1 = .ok init) :
    (∃ name m, h.registry.find? name = some m ∧ name ∈ offered ∧
      (h.settings.mechanisms ≠ [] → name ∈ h.settings.mechanisms) ∧ init.mechanism = m.name ∧
      (h.onMechanisms offered).2.phase = .negotiating
        (Instance.initialResponse { mechanism := m, credentials := h.credentials }).2) ∧
    ((∀ entry ∈ added, entry.1 ∈ offered → entry.2.name = entry.1) → init.mechanism ∈ offered ∧
      (h.settings.mechanisms ≠ [] → init.mechanism ∈ h.settings.mechanisms)) := by
  obtain ⟨name, m, hoffered, hm, hname, hphase⟩ := exists_eligible_of_onMechanisms hi
  have hfind : h.registry.find? name = some m := (if_neg hm.name_ne).trans hm.registered
  have hallowed : h.settings.mechanisms ≠ [] → name ∈ h.settings.mechanisms := by
    intro hne
    rcases hm.allowed with hnil | hmem
    · exact absurd (restrictions_eq_nil_iff.1 hnil) hne
    · exact Text.mem_sortedNames.1 hmem
  refine ⟨⟨name, m, hfind, hoffered, hallowed, hname, hphase⟩, fun hadded => ?_⟩
  have hnamed : base.Named := by
    rcases hbase with rfl | rfl
    · exact Registry.named_empty
    · exact Registry.named_defaults
  have hown : m.name = name := by
    rcases Registry.lookup_registerAll hregistry hm.registered with hbefore | hmem
    · exact hnamed name m hbefore
    · exact hadded (name, m) hmem hoffered
  rw [hname, hown]
  exact ⟨hoffered, hallowed⟩

/-- A mechanism that needs nothing and outranks all others. -/
def tokenMechanism : Mechanism :=
  Script.mechanism ⟨"X-TOKEN", .highest, .nothing, .ok none, .echo⟩

/-- A client that knows `X-TOKEN` besides the usual mechanisms, and may use nothing else. -/
def tokenHandshake : Handshake where
  registry := ⟨[("ANONYMOUS", anonymous), ("EXTERNAL", external), ("PLAIN", plain),
    ("X-TOKEN", tokenMechanism)]⟩
  settings := { mechanisms := ["X-TOKEN"] }
  principal := none

theorem announced_name_token :
    (tokenHandshake.onMechanisms ["PLAIN", "X-TOKEN"]).1 = .ok ⟨"X-TOKEN", none, none⟩ ∧
    "X-TOKEN" ∈ ["PLAIN", "X-TOKEN"] :=
  ⟨rfl, ((announced_name .defaults (.inr rfl) [("X-TOKEN", tokenMechanism)] tokenHandshake rfl
    ["PLAIN", "X-TOKEN"] ⟨"X-TOKEN", none, none⟩ rfl).2 (by
      intro entry hentry _
      cases List.mem_singleton.1 hentry
      rfl)).1⟩

/-- A client that knows `PLAIN` under another name too, and may use it under that name only. -/
def aliasHandshake : Handshake where
  registry := ⟨[("ANONYMOUS", anonymous), ("EXTERNAL", external), ("PLAIN", plain),
    ("X-PLAIN", plain)]⟩
  settings := { username := some "user", password := some "pass", mechanisms := ["X-PLAIN"] }
  principal := none

/-- A mechanism that is offered and allowed under another name is announced under its own, which
is neither on offer nor allowed. -/
theorem alias_announces_own_name :
    Registry.defaults.registerAll [("X-PLAIN", plain)] = .ok aliasHandshake.registry ∧
    ∃ init, (aliasHandshake.onMechanisms ["X-PLAIN"]).1 = .ok init ∧
      init.mechanism = "PLAIN" ∧ init.mechanism ∉ ["X-PLAIN"] ∧
      aliasHandshake.settings.mechanisms ≠ [] ∧
      init.mechanism ∉ aliasHandshake.settings.mechanisms :=
  ⟨rfl, _, rfl, rfl, by decide, by decide, by decide⟩

end Handshake

end AmqpClient.Sasl
