import AmqpClient.Proofs.MechanismNames
import Mathlib.Data.List.Sort
import Mathlib.Data.String.Basic

/-!
# Names in order

Names in ascending order stand for a set: two such lists with the same names are the same list. The
names of settings are brought into this form, and a registry keeps its names in it.
-/

namespace AmqpClient.Text

/-- Names in the order of their code points, each of them once. -/
def Ascending (names : List String) : Prop :=
  names.Pairwise (· < ·)

variable {names other : List String}

lemma ascending_nil : Ascending [] :=
  List.Pairwise.nil

lemma Ascending.insertName (h : Ascending names) (name : String) :
    Ascending (insertName name names) := by
  induction names with
  | nil => exact List.pairwise_singleton _ _
  | cons first rest ih =>
    obtain ⟨hfirst, hrest⟩ := List.pairwise_cons.1 h
    unfold Text.insertName
    by_cases hlt : name < first
    · rw [if_pos hlt]
      refine List.pairwise_cons.2 ⟨fun s hs => ?_, h⟩
      rcases List.mem_cons.1 hs with rfl | hs
      · exact hlt
      · exact lt_trans hlt (hfirst s hs)
    rw [if_neg hlt]
    by_cases heq : name = first
    · rw [if_pos heq]
      exact h
    · rw [if_neg heq]
      refine List.pairwise_cons.2 ⟨fun s hs => ?_, ih hrest⟩
      rcases mem_insertName.1 hs with rfl | hs
      · exact lt_of_le_of_ne (not_lt.1 hlt) (Ne.symm heq)
      · exact hfirst s hs

lemma ascending_sortedNames (names : List String) : Ascending (sortedNames names) := by
  induction names with
  | nil => exact ascending_nil
  | cons first rest ih => exact ih.insertName first

/-- Names that are the same up to their order and number are the same once they are sorted. -/
theorem sortedNames_eq_iff :
    sortedNames names = sortedNames other ↔ ∀ name, name ∈ names ↔ name ∈ other := by
  constructor
  · intro h name
    rw [← mem_sortedNames, h, mem_sortedNames]
  · intro h
    refine List.Pairwise.eq_of_mem_iff (ascending_sortedNames names) (ascending_sortedNames other)
      fun name => ?_
    rw [mem_sortedNames, mem_sortedNames, h]

end AmqpClient.Text

namespace AmqpClient.Sasl.Registry

open Text

variable {r next : Registry} {name : String} {m : Mechanism}

lemma contains_of_lookup (h : r.entries.lookup name = some m) : r.contains name = true := by
  rw [contains, h]
  rfl

lemma contains_eq_false_iff : r.contains name = false ↔ r.entries.lookup name = none := by
  rw [contains, Option.isSome_eq_false_iff, Option.isNone_iff_eq_none]

lemma contains_iff_mem_names : r.contains name = true ↔ name ∈ r.names := by
  simp [contains, names, List.lookup_isSome_iff]

/-- Of the names alone, an entry with a new name is put in its place as the name is. -/
lemma map_fst_insertEntry {entries : List (String × Mechanism)}
    (hnew : name ∉ entries.map Prod.fst) :
    (insertEntry name m entries).map Prod.fst = insertName name (entries.map Prod.fst) := by
  induction entries with
  | nil => rfl
  | cons first rest ih =>
    obtain ⟨hfirst, hrest⟩ := not_or.1 (mt List.mem_cons.2 hnew)
    unfold insertEntry
    rw [List.map_cons, insertName, if_neg hfirst]
    by_cases hlt : name < first.1
    · rw [if_pos hlt, if_pos hlt, List.map_cons, List.map_cons]
    · rw [if_neg hlt, if_neg hlt, List.map_cons, ih hrest]

lemma names_register (h : r.register name m = .ok next) : next.names = insertName name r.names := by
  obtain ⟨hfree, rfl⟩ := register_eq_ok_iff.1 h
  refine map_fst_insertEntry fun hmem => ?_
  cases (contains_iff_mem_names.2 hmem).symm.trans (contains_eq_false_iff.2 hfree)

end AmqpClient.Sasl.Registry
