import AmqpClient.Proofs.SelectionRule
import AmqpClient.Sasl.Scripted

/-!
# No downgrade by the offer

The set of names on offer decides the priority of the mechanism that is chosen, and a larger set
never lowers it. In what order names come and how often decides among mechanisms of one priority
only, and names that cannot be used decide nothing.
-/

namespace AmqpClient.Sasl

/-- A priority is known by its place among all of them. -/
lemma Priority.getElem?_value (p : Priority) : all[p.value]? = some p := by
  cases p <;> rfl

lemma Priority.value_injective : Function.Injective Priority.value := by
  intro p q h
  have hsame := getElem?_value p
  rw [h, getElem?_value q] at hsame
  exact (Option.some.inj hsame).symm

/-! ### The best of more candidates -/

section Best

variable {candidates more : List Instance} {found i : Instance}

lemma mem_of_best? (h : best? candidates = some found) : found ∈ candidates := by
  obtain ⟨before, after, rfl, -, -⟩ := best?_eq_some_iff.1 h
  exact List.mem_append_right _ List.mem_cons_self

lemma rank_le_of_best? (h : best? candidates = some found) (hi : i ∈ candidates) :
    i.rank ≤ found.rank := by
  obtain ⟨before, after, rfl, hbefore, hafter⟩ := best?_eq_some_iff.1 h
  rcases List.mem_append.1 hi with hi | hi
  · exact Nat.le_of_lt (hbefore i hi)
  rcases List.mem_cons.1 hi with rfl | hi
  · exact Nat.le_refl _
  · exact hafter i hi

/-- More candidates have a best one that ranks no lower. -/
lemma exists_best?_of_subset (hsub : candidates ⊆ more) (h : best? candidates = some found) :
    ∃ better, best? more = some better ∧ found.rank ≤ better.rank := by
  have hfound : found ∈ more := hsub (mem_of_best? h)
  cases hmore : best? more with
  | none =>
    rw [best?_eq_none_iff.1 hmore] at hfound
    cases hfound
  | some better => exact ⟨better, rfl, rank_le_of_best? hmore hfound⟩

end Best

namespace Situation

variable {s : Situation} {name : String} {m : Mechanism} {offered other : List String}

/-- Nothing can be chosen under a name: it is not known, not allowed, or what is known under it is
not applicable. -/
def Unusable (s : Situation) (name : String) : Prop :=
  s.registry.find? name = none ∨ s.allows name = false ∨
    ∃ m, s.registry.find? name = some m ∧ m.isApplicable s.credentials s.principal = false

/-- The second offer is the first one with unusable names added to it, anywhere. -/
inductive Padded (s : Situation) : List String → List String → Prop where
  | nil : Padded s [] []
  | offered (name : String) {offer padded : List String} (h : Padded s offer padded) :
    Padded s (name :: offer) (name :: padded)
  | added {name : String} (hname : s.Unusable name) {offer padded : List String}
      (h : Padded s offer padded) :
    Padded s offer (name :: padded)

lemma Unusable.not_eligible (h : s.Unusable name) (m : Mechanism) : ¬s.Eligible name m := by
  intro hm
  obtain ⟨hfind, hallowed, happlicable⟩ := eligible_iff.1 hm
  rcases h with hunknown | hrefused | ⟨n, hn, hinapplicable⟩
  · cases hfind.symm.trans hunknown
  · cases (allows_iff.2 hallowed).symm.trans hrefused
  · cases hfind.symm.trans hn
    cases happlicable.symm.trans hinapplicable

lemma Padded.filterMap_candidate? {offer padded : List String} (h : s.Padded offer padded) :
    padded.filterMap s.candidate? = offer.filterMap s.candidate? := by
  induction h with
  | nil => rfl
  | offered name h ih => rw [List.filterMap_cons, List.filterMap_cons, ih]
  | added hname h ih =>
    rw [List.filterMap_cons_none (candidate?_eq_none_iff.2 hname.not_eligible), ih]

lemma exists_select_of_subset {found : Instance} (hsub : offered ⊆ other)
    (h : s.select offered = some found) :
    ∃ better, s.select other = some better ∧ found.rank ≤ better.rank :=
  exists_best?_of_subset (List.filterMap_subset _ hsub) h

lemma priority_select_eq (hsame : ∀ name, name ∈ offered ↔ name ∈ other) :
    (s.select offered).map (·.mechanism.priority) =
      (s.select other).map (·.mechanism.priority) := by
  have hforth : offered ⊆ other := fun name => (hsame name).1
  have hback : other ⊆ offered := fun name => (hsame name).2
  cases hfirst : s.select offered with
  | none =>
    cases hsecond : s.select other with
    | none => rfl
    | some found =>
      obtain ⟨better, hbetter, -⟩ := exists_select_of_subset hback hsecond
      rw [hfirst] at hbetter
      cases hbetter
  | some found =>
    obtain ⟨better, hbetter, hle⟩ := exists_select_of_subset hforth hfirst
    obtain ⟨again, hagain, hge⟩ := exists_select_of_subset hback hbetter
    rw [hfirst] at hagain
    cases hagain
    rw [hbetter]
    exact congrArg some (Priority.value_injective (Nat.le_antisymm hle hge))

/-- If an offer has all names of another one, in whatever order and with whatever else, a mechanism
is chosen from it if one is chosen from the other, and its priority is no lower. Offers of the same
names have mechanisms of the same priority chosen from them, or none. Unusable names make no
difference, wherever they are added. -/
theorem select_not_downgraded (s : Situation) :
    (∀ offered more found, offered ⊆ more → s.select offered = some found →
      ∃ better, s.select more = some better ∧
        found.mechanism.priority.value ≤ better.mechanism.priority.value) ∧
    (∀ offered other, (∀ name, name ∈ offered ↔ name ∈ other) →
      (s.select offered).map (·.mechanism.priority) =
        (s.select other).map (·.mechanism.priority)) ∧
    ∀ offered padded, s.Padded offered padded → s.select padded = s.select offered := by
  refine ⟨fun offered more found => exists_select_of_subset,
    fun offered other => priority_select_eq, fun offered padded h => ?_⟩
  rw [select, select, h.filterMap_candidate?]

/-- A mechanism that needs nothing and sends nothing. -/
def readyMechanism (name : String) (priority : Priority) : Mechanism :=
  Script.mechanism ⟨name, priority, .nothing, .ok none, .echo⟩

/-- A client that knows two mechanisms of one priority and a better one that it can never use. -/
def tiedSituation : Situation where
  registry := ⟨[("X-FIRST", readyMechanism "X-FIRST" .high),
    ("X-NEVER", Script.mechanism ⟨"X-NEVER", .highest, .impossible, .ok none, .echo⟩),
    ("X-SECOND", readyMechanism "X-SECOND" .high), ("X-WEAK", readyMechanism "X-WEAK" .low)]⟩
  credentials := {}
  principal := none
  restrictions := []

/-- The order decides between `X-FIRST` and `X-SECOND` and not between them and `X-WEAK`; `X-NEVER`
and a name that is not known decide nothing. -/
theorem select_not_downgraded_tied :
    (∃ better, tiedSituation.select ["X-SECOND", "X-FIRST", "X-WEAK"] = some better ∧
      (readyMechanism "X-WEAK" .low).priority.value ≤ better.mechanism.priority.value) ∧
    (tiedSituation.select ["X-FIRST", "X-SECOND"]).map (·.mechanism.name) = some "X-FIRST" ∧
    (tiedSituation.select ["X-SECOND", "X-FIRST", "X-SECOND"]).map (·.mechanism.name) =
      some "X-SECOND" ∧
    (tiedSituation.select ["X-FIRST", "X-SECOND"]).map (·.mechanism.priority) =
      (tiedSituation.select ["X-SECOND", "X-FIRST", "X-SECOND"]).map (·.mechanism.priority) ∧
    tiedSituation.select ["X-NEVER", "X-SECOND", "GSSAPI", "X-FIRST"] =
      tiedSituation.select ["X-SECOND", "X-FIRST"] :=
  ⟨(select_not_downgraded tiedSituation).1 ["X-WEAK"] ["X-SECOND", "X-FIRST", "X-WEAK"]
      { mechanism := readyMechanism "X-WEAK" .low } (by decide) rfl,
    rfl, rfl,
    (select_not_downgraded tiedSituation).2.1 ["X-FIRST", "X-SECOND"]
      ["X-SECOND", "X-FIRST", "X-SECOND"] (by simp [or_comm]),
    (select_not_downgraded tiedSituation).2.2 _ _
      (.added (.inr (.inr ⟨_, rfl, rfl⟩)) (.offered _ (.added (.inl rfl) (.offered _ .nil))))⟩

end Situation

end AmqpClient.Sasl
