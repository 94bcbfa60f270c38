import AmqpClient.Buffer.Fault

/-!
# Memory

Regions of octets that buffers share. A region keeps its length and its place for good; what is
written through one buffer is seen through all others over the region.
-/

namespace AmqpClient.Buffer

/-- Where a region lies: in an array that can be handed out, or outside of the heap. -/
inductive Placement where
  | heap
  | direct
  deriving DecidableEq, Repr

structure Region where
  placement : Placement
  bytes : List UInt8
  deriving DecidableEq, Repr

/-- The name of a region, by the order in which they came. -/
abbrev RegionId := Nat

structure Memory where
  regions : List Region := []
  deriving DecidableEq, Repr

namespace Memory

/-- The octets of a region; there are none where no region is. -/
def content (m : Memory) (id : RegionId) : List UInt8 :=
  (m.regions[id]?).elim [] (·.bytes)

def size (m : Memory) (id : RegionId) : Nat :=
  (m.content id).length

def isArray (m : Memory) (id : RegionId) : Bool :=
  (m.regions[id]?).any (·.placement == .heap)

def read (m : Memory) (id : RegionId) (index length : Nat) : Except Fault (List UInt8) :=
  if index + length ≤ m.size id then .ok (((m.content id).drop index).take length)
  else .error .outsideRegion

def byte (m : Memory) (id : RegionId) (index : Nat) : Except Fault UInt8 :=
  match (m.content id)[index]? with
  | some b => .ok b
  | none => .error .outsideRegion

/-- Puts octets in the place of those at an index. -/
def splice (bytes : List UInt8) (index : Nat) (new : List UInt8) : List UInt8 :=
  bytes.take index ++ new ++ bytes.drop (index + new.length)

/-- The memory with other octets at an index of a region. -/
def replace (m : Memory) (id : RegionId) (index : Nat) (new : List UInt8) : Memory :=
  ⟨m.regions.modify id fun r => { r with bytes := splice r.bytes index new }⟩

def write (m : Memory) (id : RegionId) (index : Nat) (new : List UInt8) : Except Fault Memory :=
  if index + new.length ≤ m.size id then .ok (m.replace id index new)
  else .error .outsideRegion

def allocate (m : Memory) (region : Region) : RegionId × Memory :=
  (m.regions.length, ⟨m.regions ++ [region]⟩)

theorem length_splice {bytes new : List UInt8} {index : Nat}
    (h : index + new.length ≤ bytes.length) : (splice bytes index new).length = bytes.length := by
  simp only [splice, List.length_append, List.length_take, List.length_drop]
  omega

theorem write_eq_ok_iff {m after : Memory} {id : RegionId} {index : Nat} {new : List UInt8} :
    m.write id index new = .ok after ↔
      index + new.length ≤ m.size id ∧ after = m.replace id index new := by
  unfold write
  split
  · rename_i h
    simp [h, eq_comm]
  · rename_i h
    simp [h]

@[simp] theorem length_regions_replace (m : Memory) (id : RegionId) (index : Nat)
    (new : List UInt8) : (m.replace id index new).regions.length = m.regions.length :=
  List.length_modify ..

@[simp] theorem isArray_replace (m : Memory) (id : RegionId) (index : Nat) (new : List UInt8)
    (other : RegionId) : (m.replace id index new).isArray other = m.isArray other := by
  unfold isArray replace
  rw [List.getElem?_modify]
  cases m.regions[other]? with
  | none => rfl
  | some r => by_cases h : id = other <;> simp [h]

theorem content_replace {m : Memory} {id : RegionId} {index : Nat} {new : List UInt8}
    (h : index + new.length ≤ m.size id) (other : RegionId) :
    (m.replace id index new).content other =
      if other = id then splice (m.content id) index new else m.content other := by
  unfold content replace
  rw [List.getElem?_modify]
  by_cases ho : other = id
  · subst ho
    cases hr : m.regions[other]? with
    | none =>
      have hlen : index + new.length ≤ 0 := by simpa [size, content, hr] using h
      have hnew : new = [] := List.eq_nil_of_length_eq_zero (by omega)
      simp [splice, hnew]
    | some r => simp
  · have hne : id ≠ other := fun he => ho he.symm
    simp [ho, hne]

theorem size_replace {m : Memory} {id : RegionId} {index : Nat} {new : List UInt8}
    (h : index + new.length ≤ m.size id) (other : RegionId) :
    (m.replace id index new).size other = m.size other := by
  unfold size
  rw [content_replace h]
  split
  · rename_i ho
    subst ho
    exact length_splice h
  · rfl

theorem read_eq_ok_iff {m : Memory} {id : RegionId} {index length : Nat} {bytes : List UInt8} :
    m.read id index length = .ok bytes ↔ index + length ≤ m.size id ∧
      bytes = ((m.content id).drop index).take length := by
  unfold read
  split
  · rename_i h
    simp [h, eq_comm]
  · rename_i h
    simp [h]

end Memory

/-- A computation that may fail and may write to memory. What it wrote before it failed stays. -/
abbrev Effect := EStateM Fault Memory

namespace Effect

/-- A computation that does not write. -/
def ofExcept {α : Type} : Except Fault α → Effect α
  | .ok a => pure a
  | .error e => throw e

def read (id : RegionId) (index length : Nat) : Effect (List UInt8) := do
  ofExcept ((← get).read id index length)

def write (id : RegionId) (index : Nat) (new : List UInt8) : Effect Unit := do
  set (← ofExcept ((← get).write id index new))

def allocate (placement : Placement) (bytes : List UInt8) : Effect RegionId :=
  modifyGet (·.allocate ⟨placement, bytes⟩)

@[simp] theorem run_ofExcept_ok {α : Type} (a : α) (m : Memory) :
    (ofExcept (.ok a)).run m = .ok a m := rfl

@[simp] theorem run_ofExcept_error {α : Type} (f : Fault) (m : Memory) :
    (ofExcept (.error f : Except Fault α)).run m = .error f m := rfl

theorem run_read (id : RegionId) (index length : Nat) (m : Memory) :
    (read id index length).run m = match m.read id index length with
      | .ok bytes => .ok bytes m
      | .error f => .error f m := by
  change (ofExcept (m.read id index length)).run m = _
  cases m.read id index length <;> rfl

theorem run_write (id : RegionId) (index : Nat) (new : List UInt8) (m : Memory) :
    (write id index new).run m = match m.write id index new with
      | .ok after => .ok () after
      | .error f => .error f m := by
  change (ofExcept (m.write id index new) >>= set).run m = _
  cases m.write id index new <;> rfl

end Effect

end AmqpClient.Buffer
