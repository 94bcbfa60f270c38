import AmqpClient.Buffer.View
import AmqpClient.Bytes.Scalar

/-!
# Readers

Views that are read from the position on. A read takes all it asks for and moves past it, or fails
and moves nothing.
-/

namespace AmqpClient.Buffer

structure Reader extends View
  deriving DecidableEq, Repr

namespace Reader

def take (r : Reader) (m : Memory) (length : Nat) : Except Fault (List UInt8 × Reader) := do
  let cursor ← r.cursor.advance length
  let bytes ← m.read r.region r.index length
  return (bytes, { r with cursor })

def takeScalar (r : Reader) (m : Memory) (t : ScalarType) : Except Fault (Scalar × Reader) := do
  let (bytes, r) ← r.take m t.width
  return (.decode t bytes, r)

/-- The octet at an index of the window, between the position and the limit. -/
def byteAt (r : Reader) (m : Memory) (index : Nat) : Except Fault UInt8 := do
  r.cursor.checkIndex index
  m.byte r.region (r.offset + index)

/-- Takes as many octets as a target holds, and gives the target filled with them. -/
def fill (r : Reader) (m : Memory) (target : List UInt8) : Except Fault (List UInt8 × Reader) :=
  r.take m target.length

/-- Takes so many octets, and gives the target with them at an offset. -/
def fillRange (r : Reader) (m : Memory) (target : List UInt8) (offset length : Nat) :
    Except Fault (List UInt8 × Reader) := do
  if target.length < offset + length then throw (.outOfBounds offset length target.length)
  let (bytes, r) ← r.take m length
  return (Memory.splice target offset bytes, r)

/-- Takes all that remains as text. -/
def text (r : Reader) (m : Memory) (encoding : Text.Encoding) : Except Fault (String × Reader) := do
  let bytes ← r.remainingBytes m
  let text ← (encoding.decode bytes).mapError .notText
  let cursor ← r.cursor.advance r.cursor.remaining
  return (text, { r with cursor })

/-- Takes so many octets, one at a time. -/
def takeEach (m : Memory) : Nat → Reader → Except Fault (List UInt8 × Reader)
  | 0, r => .ok ([], r)
  | count + 1, r => do
    let (first, r) ← r.take m 1
    let (rest, r) ← takeEach m count r
    return (first ++ rest, r)

/-- Takes all that remains, one octet at a time. -/
def drain (r : Reader) (m : Memory) : Except Fault (List UInt8 × Reader) :=
  takeEach m r.cursor.remaining r

/-- A reader of exactly what remains. -/
def slice (r : Reader) : Reader :=
  ⟨r.region, r.index, .new r.cursor.remaining⟩

/-- Whether the same octets remain in two readers. -/
def sameRemaining (r s : Reader) (m : Memory) : Except Fault Bool := do
  if r.cursor.remaining = s.cursor.remaining then
    return (← r.remainingBytes m) == (← s.remainingBytes m)
  return false

def describe (r : Reader) (m : Memory) : String :=
  r.toView.describe "ReadableBuffer" m

end Reader

end AmqpClient.Buffer
