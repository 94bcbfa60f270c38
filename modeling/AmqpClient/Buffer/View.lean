import AmqpClient.Buffer.Cursor
import AmqpClient.Buffer.Memory
import AmqpClient.Text.Diagnostic

/-!
# Views

A view is a window of a region and a cursor in it. Readers and writers are views; they differ in
what they do at the position.
-/

namespace AmqpClient.Buffer

open Text

/-- A window of a region, which starts at `offset` and is as long as the capacity of the cursor. -/
structure View where
  region : RegionId
  offset : Nat
  cursor : Cursor
  deriving DecidableEq, Repr

namespace View

/-- A window at its start. It may not reach beyond the region. -/
def window (m : Memory) (region : RegionId) (offset length : Nat) : Except Fault View :=
  if m.size region < offset + length then .error (.outOfBounds offset length (m.size region))
  else .ok ⟨region, offset, .new length⟩

def whole (m : Memory) (region : RegionId) : View :=
  ⟨region, 0, .new (m.size region)⟩

/-- Where the position is in the region. -/
def index (v : View) : Nat :=
  v.offset + v.cursor.position

/-- The region, if it is an array. -/
def array (v : View) (m : Memory) : Except Fault RegionId :=
  if m.isArray v.region then .ok v.region else .error .noArray

/-- The start of the window in the array. -/
def arrayOffset (v : View) (m : Memory) : Except Fault Nat := do
  discard (v.array m)
  return v.offset

def content (v : View) (m : Memory) : Except Fault (List UInt8) :=
  m.read v.region v.offset v.cursor.capacity

/-- The octets from the position to the limit. -/
def remainingBytes (v : View) (m : Memory) : Except Fault (List UInt8) :=
  m.read v.region v.index v.cursor.remaining

def describe (label : String) (v : View) (m : Memory) : String :=
  Diagnostic.record label [
    ("position", toString v.cursor.position),
    ("limit", toString v.cursor.limit),
    ("capacity", toString v.cursor.capacity),
    ("has_array", toString (m.isArray v.region))]

end View

end AmqpClient.Buffer
