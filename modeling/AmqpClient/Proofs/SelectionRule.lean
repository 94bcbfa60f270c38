import AmqpClient.Sasl.Selection
import Mathlib.Data.List.Basic

/-!
# The rule of selection

The mechanism that is chosen is that of the first name on offer among the eligible names of maximal
priority, and none is chosen only if no name on offer is eligible.
-/

namespace AmqpClient.Sasl

def Instance.rank (i : Instance) : Nat :=
  i.mechanism.priority.value

/-- A name on offer may be chosen and stands for the mechanism. -/
structure Situation.Eligible (s : Situation) (name : String) (m : Mechanism) : Prop where
  name_ne : name ≠ ""
  registered : s.registry.entries.lookup name = some m
  allowed : s.restrictions = [] ∨ name ∈ s.restrictions
  applicable : m.isApplicable s.credentials s.principal = true

/-! ### The best of some candidates -/

lemma preferred_of_lt {best next : Instance} (h : best.rank < next.rank) :
    preferred best next = next :=
  if_pos h

lemma preferred_of_le {best next : Instance} (h : next.rank ≤ best.rank) :
    preferred best next = best :=
  if_neg (Nat.not_lt.2 h)

lemma foldl_preferred_of_le {best : Instance} {rest : List Instance}
    (h : ∀ i ∈ rest, i.rank ≤ best.rank) : rest.foldl preferred best = best := by
  induction rest with
  | nil => rfl
  | cons next rest ih =>
    rw [List.foldl_cons, preferred_of_le (h next List.mem_cons_self)]
    exact ih fun i hi => h i (List.mem_cons_of_mem _ hi)

lemma foldl_preferred_of_lt {best found : Instance} {before after : List Instance}
    (hbest : best.rank < found.rank) (hbefore : ∀ i ∈ before, i.rank < found.rank)
    (hafter : ∀ i ∈ after, i.rank ≤ found.rank) :
    (before ++ found :: after).foldl preferred best = found := by
  induction before generalizing best with
  | nil =>
    rw [List.nil_append, List.foldl_cons, preferred_of_lt hbest]
    exact foldl_preferred_of_le hafter
  | cons next before ih =>
    have hnext : (preferred best next).rank < found.rank := by
      unfold preferred
      split
      · exact hbefore next List.mem_cons_self
      · exact hbest
    exact ih hnext fun i hi => hbefore i (List.mem_cons_of_mem _ hi)

/-- The best candidate comes after worse ones only, and before none that is better. -/
lemma exists_split_foldl_preferred (best : Instance) (rest : List Instance) :
    ∃ before after, best :: rest = before ++ rest.foldl preferred best :: after ∧
      (∀ i ∈ before, i.rank < (rest.foldl preferred best).rank) ∧
      ∀ i ∈ after, i.rank ≤ (rest.foldl preferred best).rank := by
  induction rest generalizing best with
  | nil => exact ⟨[], [], rfl, by simp, by simp⟩
  | cons next rest ih =>
    rw [List.foldl_cons]
    by_cases hlt : best.rank < next.rank
    · rw [preferred_of_lt hlt]
      obtain ⟨before, after, hsplit, hbefore, hafter⟩ := ih next
      have hnext : next.rank ≤ (rest.foldl preferred next).rank := by
        cases before with
        | nil => exact Nat.le_of_eq (congrArg Instance.rank (List.cons.inj hsplit).1)
        | cons first before =>
          obtain ⟨hfirst, -⟩ := List.cons.inj hsplit
          exact Nat.le_of_lt (hbefore next (hfirst ▸ List.mem_cons_self))
      refine ⟨best :: before, after, by rw [hsplit, List.cons_append], fun i hi => ?_, hafter⟩
      rcases List.mem_cons.1 hi with rfl | hi
      · exact Nat.lt_of_lt_of_le hlt hnext
      · exact hbefore i hi
    · have hle : next.rank ≤ best.rank := Nat.le_of_not_lt hlt
      rw [preferred_of_le hle]
      obtain ⟨before, after, hsplit, hbefore, hafter⟩ := ih best
      -- the next goes behind the first, on the side of the best where the first is
      cases before with
      | nil =>
        obtain ⟨hbest, hrest⟩ := List.cons.inj hsplit
        refine ⟨[], next :: rest, by rw [← hbest, List.nil_append], by simp, fun i hi => ?_⟩
        rcases List.mem_cons.1 hi with rfl | hi
        · exact hbest ▸ hle
        · exact hafter i (hrest ▸ hi)
      | cons first before =>
        obtain ⟨hbest, hrest⟩ := List.cons.inj hsplit
        subst hbest
        have hfirst := hbefore best List.mem_cons_self
        refine ⟨best :: next :: before, after, congrArg (best :: next :: ·) hrest, fun i hi => ?_,
          hafter⟩
        rcases List.mem_cons.1 hi with rfl | hi
        · exact hfirst
        rcases List.mem_cons.1 hi with rfl | hi
        · exact Nat.lt_of_le_of_lt hle hfirst
        · exact hbefore i (List.mem_cons_of_mem _ hi)

/-- The best candidate is the first of those that rank highest. -/
theorem best?_eq_some_iff {candidates : List Instance} {found : Instance} :
    best? candidates = some found ↔ ∃ before after, candidates = before ++ found :: after ∧
      (∀ i ∈ before, i.rank < found.rank) ∧ ∀ i ∈ after, i.rank ≤ found.rank := by
  constructor
  · intro h
    cases candidates with
    | nil => cases h
    | cons first rest =>
      cases h
      exact exists_split_foldl_preferred first rest
  · rintro ⟨before, after, rfl, hbefore, hafter⟩
    cases before with
    | nil => exact congrArg some (foldl_preferred_of_le hafter)
    | cons first before =>
      have hfirst := hbefore first List.mem_cons_self
      exact congrArg some (foldl_preferred_of_lt hfirst
        (fun i hi => hbefore i (List.mem_cons_of_mem _ hi)) hafter)

lemma best?_eq_none_iff {candidates : List Instance} :
    best? candidates = none ↔ candidates = [] := by
  cases candidates <;> simp [best?]

lemma Registry.find?_eq_some_iff {r : Registry} {name : String} {m : Mechanism} :
    r.find? name = some m ↔ name ≠ "" ∧ r.entries.lookup name = some m := by
  unfold find?
  by_cases hname : name = ""
  · simp [hname]
  · rw [if_neg hname, and_iff_right hname]

namespace Situation

lemma allows_iff {s : Situation} {name : String} :
    s.allows name = true ↔ s.restrictions = [] ∨ name ∈ s.restrictions := by
  simp [allows]

lemma create?_eq_some_iff {r : Registry} {name : String} {found : Instance} :
    r.create? name = some found ↔
      ∃ m, name ≠ "" ∧ r.entries.lookup name = some m ∧ found = { mechanism := m } := by
  unfold Registry.create? Registry.find?
  by_cases hname : name = ""
  · simp [hname]
  · rw [if_neg hname, Option.map_eq_some_iff]
    constructor
    · rintro ⟨m, hm, rfl⟩
      exact ⟨m, hname, hm, rfl⟩
    · rintro ⟨m, -, hm, rfl⟩
      exact ⟨m, hm, rfl⟩

lemma candidate?_eq_some_iff {s : Situation} {name : String} {found : Instance} :
    s.candidate? name = some found ↔ ∃ m, s.Eligible name m ∧ found = { mechanism := m } := by
  have hcandidate : s.candidate? name = (s.registry.create? name).filter fun i =>
      s.allows name && i.mechanism.isApplicable s.credentials s.principal := by
    unfold candidate?
    cases s.registry.create? name with
    | none => rfl
    | some i =>
      change ((if _ then some () else none) >>= fun _ => some i) = _
      rw [Option.filter_some]
      by_cases hi : s.allows name && i.mechanism.isApplicable s.credentials s.principal
      · rw [if_pos hi, if_pos hi]
        rfl
      · rw [if_neg hi, if_neg hi]
        rfl
  rw [hcandidate, Option.filter_eq_some_iff, Bool.and_eq_true, allows_iff, create?_eq_some_iff]
  constructor
  · rintro ⟨⟨m, hname, hm, rfl⟩, hallowed, happlicable⟩
    exact ⟨m, ⟨hname, hm, hallowed, happlicable⟩, rfl⟩
  · rintro ⟨m, h, rfl⟩
    exact ⟨⟨m, h.name_ne, h.registered, rfl⟩, h.allowed, h.applicable⟩

lemma candidate?_eq_none_iff {s : Situation} {name : String} :
    s.candidate? name = none ↔ ∀ m, ¬s.Eligible name m := by
  rw [Option.eq_none_iff_forall_ne_some]
  constructor
  · exact fun h m hm => h { mechanism := m } (candidate?_eq_some_iff.2 ⟨m, hm, rfl⟩)
  · intro h found hfound
    obtain ⟨m, hm, -⟩ := candidate?_eq_some_iff.1 hfound
    exact h m hm

/-- The choice depends on nothing but which names on offer are eligible, and for what. -/
lemma select_congr {s t : Situation} {offered : List String}
    (h : ∀ name ∈ offered, ∀ m, s.Eligible name m ↔ t.Eligible name m) :
    s.select offered = t.select offered := by
  refine congrArg best? (List.filterMap_congr fun name hname => Option.ext fun found => ?_)
  rw [candidate?_eq_some_iff, candidate?_eq_some_iff]
  exact exists_congr fun m => and_congr_left fun _ => h name hname m

lemma eligible_iff {s : Situation} {name : String} {m : Mechanism} :
    s.Eligible name m ↔ s.registry.find? name = some m ∧
      (s.restrictions = [] ∨ name ∈ s.restrictions) ∧
      m.isApplicable s.credentials s.principal = true := by
  rw [Registry.find?_eq_some_iff]
  constructor
  · exact fun h => ⟨⟨h.name_ne, h.registered⟩, h.allowed, h.applicable⟩
  · exact fun h => ⟨h.1.1, h.1.2, h.2.1, h.2.2⟩

/-- Of a registry nothing matters but what is found in it under the names that are on offer and
allowed. -/
lemma select_of_find?_eq {s : Situation} {other : Registry} {offered : List String}
    (hsame : ∀ name ∈ offered, (s.restrictions = [] ∨ name ∈ s.restrictions) → name ≠ "" →
      other.find? name = s.registry.find? name) :
    { s with registry := other }.select offered = s.select offered := by
  refine select_congr fun name hname m => ?_
  rw [eligible_iff, eligible_iff]
  refine and_congr_left fun hm => ?_
  by_cases hempty : name = ""
  · rw [Registry.find?, Registry.find?, if_pos hempty, if_pos hempty]
  · exact Eq.congr_left (hsame name hname hm.1 hempty)

/-- Names that are not eligible may be left out of an offer. -/
lemma select_filter {s : Situation} {offered : List String} {keep : String → Bool}
    (h : ∀ name ∈ offered, ∀ m, s.Eligible name m → keep name = true) :
    s.select (offered.filter keep) = s.select offered := by
  rw [select, select, List.filterMap_filter]
  refine congrArg best? (List.filterMap_congr fun name hname => ?_)
  by_cases hkeep : keep name = true
  · exact if_pos hkeep
  · rw [if_neg hkeep]
    exact (candidate?_eq_none_iff.2 fun m hm => hkeep (h name hname m hm)).symm

lemma select_eq_none_iff {s : Situation} {offered : List String} :
    s.select offered = none ↔ ∀ name ∈ offered, ∀ m, ¬s.Eligible name m := by
  rw [select, best?_eq_none_iff, List.filterMap_eq_nil_iff]
  exact forall₂_congr fun _ _ => candidate?_eq_none_iff

lemma select_eq_some_iff {s : Situation} {offered : List String} {found : Instance} :
    s.select offered = some found ↔ ∃ before name after m,
      offered = before ++ name :: after ∧ s.Eligible name m ∧ found = { mechanism := m } ∧
      (∀ other ∈ before, ∀ n, s.Eligible other n → n.priority.value < m.priority.value) ∧
      ∀ other ∈ after, ∀ n, s.Eligible other n → n.priority.value ≤ m.priority.value := by
  rw [select, best?_eq_some_iff]
  constructor
  · rintro ⟨before', after', hsplit, hbefore, hafter⟩
    obtain ⟨first, second, rfl, rfl, hsecond⟩ := List.filterMap_eq_append_iff.1 hsplit
    obtain ⟨skipped, name, after, rfl, hskipped, hname, rfl⟩ := List.filterMap_eq_cons_iff.1 hsecond
    obtain ⟨m, hm, rfl⟩ := candidate?_eq_some_iff.1 hname
    refine ⟨first ++ skipped, name, after, m, by rw [List.append_assoc], hm, rfl, ?_, ?_⟩
    · intro other hother n hn
      have hcandidate := candidate?_eq_some_iff.2 ⟨n, hn, rfl⟩
      rcases List.mem_append.1 hother with hfirst | hskip
      · exact hbefore _ (List.mem_filterMap.2 ⟨other, hfirst, hcandidate⟩)
      · rw [hskipped other hskip] at hcandidate
        cases hcandidate
    · intro other hother n hn
      have hcandidate := candidate?_eq_some_iff.2 ⟨n, hn, rfl⟩
      exact hafter _ (List.mem_filterMap.2 ⟨other, hother, hcandidate⟩)
  · rintro ⟨before, name, after, m, rfl, hm, rfl, hbefore, hafter⟩
    have hname := candidate?_eq_some_iff.2 ⟨m, hm, rfl⟩
    refine ⟨before.filterMap s.candidate?, after.filterMap s.candidate?, ?_, ?_, ?_⟩
    · rw [List.filterMap_append, List.filterMap_cons_some hname]
    · intro i hi
      obtain ⟨other, hother, hcandidate⟩ := List.mem_filterMap.1 hi
      obtain ⟨n, hn, rfl⟩ := candidate?_eq_some_iff.1 hcandidate
      exact hbefore other hother n hn
    · intro i hi
      obtain ⟨other, hother, hcandidate⟩ := List.mem_filterMap.1 hi
      obtain ⟨n, hn, rfl⟩ := candidate?_eq_some_iff.1 hcandidate
      exact hafter other hother n hn

/-- None is chosen only if no name on offer is eligible. One that is chosen is a new one of the
mechanism under a name on offer, which is eligible and ranks higher than all eligible names before
it, and no lower than all after it; so no eligible name outranks it. -/
theorem select_iff (s : Situation) (offered : List String) :
    (s.select offered = none ↔ ∀ name ∈ offered, ∀ m, ¬s.Eligible name m) ∧
    (∀ found, s.select offered = some found ↔ ∃ before name after m,
      offered = before ++ name :: after ∧ s.Eligible name m ∧ found = { mechanism := m } ∧
      (∀ other ∈ before, ∀ n, s.Eligible other n → n.priority.value < m.priority.value) ∧
      ∀ other ∈ after, ∀ n, s.Eligible other n → n.priority.value ≤ m.priority.value) ∧
    ∀ found, s.select offered = some found → ∀ name ∈ offered, ∀ m, s.Eligible name m →
      found.comparePriority { mechanism := m } ≠ .lt := by
  refine ⟨select_eq_none_iff, fun _ => select_eq_some_iff, fun found hfound name hname n hn => ?_⟩
  obtain ⟨before, chosen, after, m, rfl, hm, rfl, hbefore, hafter⟩ := select_eq_some_iff.1 hfound
  have hle : n.priority.value ≤ m.priority.value := by
    rcases List.mem_append.1 hname with hmem | hmem
    · exact Nat.le_of_lt (hbefore name hmem n hn)
    rcases List.mem_cons.1 hmem with rfl | hmem
    · have hsame : some n = some m := hn.registered.symm.trans hm.registered
      cases hsame
      exact Nat.le_refl _
    · exact hafter name hmem n hn
  exact fun hlt => Nat.not_lt.2 hle (Nat.compare_eq_lt.1 hlt)

end Situation

end AmqpClient.Sasl
