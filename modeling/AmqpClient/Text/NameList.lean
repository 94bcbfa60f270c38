/-!
# Lists of names

Names in ascending order of their code points, each of them once, and what is listed under a name.
-/

namespace AmqpClient.Text

/-- Puts a name in its place, unless it is there. -/
def insertName (name : String) : List String → List String
  | [] => [name]
  | first :: rest =>
    if name < first then name :: first :: rest
    else if name = first then first :: rest
    else first :: insertName name rest

/-- The names of a list in order, each once. -/
def sortedNames (names : List String) : List String :=
  names.foldr insertName []

@[simp] theorem mem_insertName {name s : String} {names : List String} :
    s ∈ insertName name names ↔ s = name ∨ s ∈ names := by
  induction names with
  | nil => simp [insertName]
  | cons first rest ih =>
    unfold insertName
    split
    · simp
    · split
      · rename_i h
        simp [h]
      · simp only [List.mem_cons, ih]
        constructor
        · rintro (h | h | h) <;> simp [h]
        · rintro (h | h | h) <;> simp [h]

@[simp] theorem mem_sortedNames {s : String} {names : List String} :
    s ∈ sortedNames names ↔ s ∈ names := by
  induction names with
  | nil => simp [sortedNames]
  | cons first rest ih =>
    have h : sortedNames (first :: rest) = insertName first (sortedNames rest) := rfl
    rw [h, mem_insertName, ih, List.mem_cons]

theorem lookup_cons_name {α : Type} (name key : String) (a : α) (rest : List (String × α)) :
    ((name, a) :: rest).lookup key = if key = name then some a else rest.lookup key := by
  by_cases h : key = name
  · rw [if_pos h, h, List.lookup_cons_self]
  · rw [if_neg h, List.lookup_cons, beq_false_of_ne h]

end AmqpClient.Text
