import AmqpClient.Buffer.Writer
import AmqpClient.Text.NameList

/-!
# Workspaces

Arrays, regions, readers and writers under names, and the memory they share.
-/

namespace AmqpClient.Buffer

inductive Object where
  /-- A handle of a region in the heap. -/
  | array (id : RegionId)
  /-- A handle of a region outside of the heap. -/
  | region (id : RegionId)
  | reader (r : Reader)
  | writer (w : Writer)
  deriving DecidableEq, Repr

/-- Names and what they stand for. -/
structure Workspace where
  memory : Memory := {}
  objects : List (String × Object) := []
  deriving DecidableEq, Repr

/-- Puts an object under a name, in the place of an older one if there is one. -/
def bindName (name : String) (o : Object) : List (String × Object) → List (String × Object)
  | [] => [(name, o)]
  | (n, old) :: rest => if n = name then (name, o) :: rest else (n, old) :: bindName name o rest

theorem lookup_bindName (name key : String) (o : Object) (objects : List (String × Object)) :
    (bindName name o objects).lookup key = if key = name then some o else objects.lookup key := by
  induction objects with
  | nil => simp only [bindName, Text.lookup_cons_name]
  | cons first rest ih =>
    obtain ⟨n, old⟩ := first
    unfold bindName
    split
    · rename_i hn
      simp only [Text.lookup_cons_name, hn]
      split <;> rfl
    · rename_i hn
      simp only [Text.lookup_cons_name, ih]
      by_cases h : key = n
      · have hne : key ≠ name := fun he => hn (h.symm.trans he)
        rw [if_pos h, if_neg hne, if_pos h]
      · rw [if_neg h, if_neg h]

namespace Workspace

def find? (ws : Workspace) (name : String) : Option Object :=
  ws.objects.lookup name

def bind (ws : Workspace) (name : String) (o : Object) : Workspace :=
  { ws with objects := bindName name o ws.objects }

def forget (ws : Workspace) (name : String) : Workspace :=
  { ws with objects := ws.objects.filter (·.1 != name) }

@[simp] theorem find?_bind (ws : Workspace) (name key : String) (o : Object) :
    (ws.bind name o).find? key = if key = name then some o else ws.find? key :=
  lookup_bindName name key o ws.objects

@[simp] theorem memory_bind (ws : Workspace) (name : String) (o : Object) :
    (ws.bind name o).memory = ws.memory := rfl

@[simp] theorem find?_forget (ws : Workspace) (name key : String) :
    (ws.forget name).find? key = if key = name then none else ws.find? key := by
  change (ws.objects.filter (·.1 != name)).lookup key = _
  unfold find?
  induction ws.objects with
  | nil => simp
  | cons first rest ih =>
    obtain ⟨n, o⟩ := first
    rw [List.filter_cons, Text.lookup_cons_name]
    by_cases hn : n = name
    · rw [if_neg (by simp [hn]), ih]
      by_cases h : key = name
      · rw [if_pos h, if_pos h]
      · rw [if_neg h, if_neg h, if_neg (fun he => h (he.trans hn))]
    · rw [if_pos (by simp [hn]), Text.lookup_cons_name, ih]
      by_cases h : key = n
      · rw [if_pos h, if_neg (fun he => hn (h.symm.trans he)), if_pos h]
      · rw [if_neg h, if_neg h]

@[simp] theorem memory_forget (ws : Workspace) (name : String) :
    (ws.forget name).memory = ws.memory := rfl

end Workspace

end AmqpClient.Buffer
