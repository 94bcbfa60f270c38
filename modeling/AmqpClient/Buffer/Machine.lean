import AmqpClient.Buffer.Execution
import Mathlib.Algebra.Group.Nat.Defs

/-!
# Machine words

The operations as a machine performs them. A number is held in a word of 64 bits: a sum may be too
large for one, and a difference must not fall below zero. Every access to a region checks where it
begins and ends. What goes wrong here is no answer to anybody, it breaks off with `outsideRegion`.
-/

namespace AmqpClient.Buffer.Machine

def wordCount : Nat :=
  2 ^ 64

/-- The length of the longest array that can be allocated. -/
def maxLength : Nat :=
  2 ^ 63 - 1

def sum (a b : Nat) : Except Fault Nat :=
  if a + b < wordCount then .ok (a + b) else .error .outsideRegion

/-- A sum that may be too large, and is not used if it is. -/
def sum? (a b : Nat) : Option Nat :=
  if a + b < wordCount then some (a + b) else none

def difference (a b : Nat) : Except Fault Nat :=
  if b ≤ a then .ok (a - b) else .error .outsideRegion

/-! ### Regions -/

def copyOut (m : Memory) (id : RegionId) (index length : Nat) : Except Fault (List UInt8) := do
  discard (sum index length)
  m.read id index length

def copyIn (m : Memory) (id : RegionId) (index : Nat) (new : List UInt8) : Except Fault Memory := do
  discard (sum index new.length)
  m.write id index new

/-- Copies octets to another place of their region, which they may overlap with. -/
def copyWithin (m : Memory) (id : RegionId) (source target length : Nat) : Except Fault Memory := do
  let bytes ← copyOut m id source length
  if (← difference (m.size id) length) < target then throw .outsideRegion
  m.write id target bytes

/-- Copies octets: inside of a region, out of an array, into an array, or through a staging area
if there is no array on either side. -/
def copy (m : Memory) (source : RegionId) (sourceIndex : Nat) (target : RegionId)
    (targetIndex length : Nat) : Except Fault Memory :=
  if source = target then copyWithin m source sourceIndex targetIndex length
  else
    match m.isArray source, m.isArray target with
    | true, _ => do
      let bytes ← copyOut m source sourceIndex length
      copyIn m target targetIndex bytes
    | false, true => do
      discard (copyOut m target targetIndex length)
      let bytes ← copyOut m source sourceIndex length
      m.write target targetIndex bytes
    | false, false => do
      let staging ← copyOut m source sourceIndex length
      copyIn m target targetIndex staging

/-! ### Cursors -/

def remaining (c : Cursor) : Except Fault Nat :=
  difference c.limit c.position

def checkRemaining (c : Cursor) (length : Nat) : Except Fault Unit := do
  if (← remaining c) < length then throw (.outOfBounds c.position length c.limit)

def advance (c : Cursor) (length : Nat) : Except Fault Cursor := do
  checkRemaining c length
  return { c with position := ← sum c.position length }

/-! ### Views -/

def index (v : View) : Except Fault Nat :=
  sum v.offset v.cursor.position

def window (m : Memory) (region : RegionId) (offset length : Nat) : Except Fault View :=
  match (sum? offset length).filter (· ≤ m.size region) with
  | some _ => .ok ⟨region, offset, .new length⟩
  | none => .error (.outOfBounds offset length (m.size region))

def content (v : View) (m : Memory) : Except Fault (List UInt8) :=
  copyOut m v.region v.offset v.cursor.capacity

def remainingBytes (v : View) (m : Memory) : Except Fault (List UInt8) := do
  copyOut m v.region (← index v) (← remaining v.cursor)

/-! ### Readers -/

def take (r : Reader) (m : Memory) (length : Nat) : Except Fault (List UInt8 × Reader) := do
  let cursor ← advance r.cursor length
  let bytes ← copyOut m r.region (← index r.toView) length
  return (bytes, { r with cursor })

/-- Takes an octet by its index. -/
def takeByte (r : Reader) (m : Memory) : Except Fault (UInt8 × Reader) := do
  let cursor ← advance r.cursor 1
  let b ← m.byte r.region (← index r.toView)
  return (b, { r with cursor })

def takeScalar (r : Reader) (m : Memory) : ScalarType → Except Fault (Scalar × Reader)
  | .byte => do
    let (b, r) ← takeByte r m
    return (.byte b, r)
  | t => do
    let (bytes, r) ← take r m t.width
    return (.decode t bytes, r)

def byteAt (r : Reader) (m : Memory) (index : Nat) : Except Fault UInt8 := do
  r.cursor.checkIndex index
  m.byte r.region (← sum r.offset index)

def fillRange (r : Reader) (m : Memory) (target : List UInt8) (offset length : Nat) :
    Except Fault (List UInt8 × Reader) :=
  match (sum? offset length).filter (· ≤ target.length) with
  | some stop => do
    let (bytes, r) ← take r m (← difference stop offset)
    return (Memory.splice target offset bytes, r)
  | none => .error (.outOfBounds offset length target.length)

def text (r : Reader) (m : Memory) (encoding : Text.Encoding) : Except Fault (String × Reader) := do
  let length ← remaining r.cursor
  let bytes ← copyOut m r.region (← index r.toView) length
  let text ← (encoding.decode bytes).mapError .notText
  let cursor ← advance r.cursor length
  return (text, { r with cursor })

def takeEach (m : Memory) : Nat → Reader → Except Fault (List UInt8 × Reader)
  | 0, r => .ok ([], r)
  | count + 1, r => do
    let (first, r) ← takeByte r m
    let (rest, r) ← takeEach m count r
    return (first :: rest, r)

def drain (r : Reader) (m : Memory) : Except Fault (List UInt8 × Reader) := do
  takeEach m (← remaining r.cursor) r

def slice (r : Reader) : Except Fault Reader := do
  return ⟨r.region, ← index r.toView, .new (← remaining r.cursor)⟩

def sameRemaining (r s : Reader) (m : Memory) : Except Fault Bool := do
  if (← remaining r.cursor) = (← remaining s.cursor) then
    return (← remainingBytes r.toView m) == (← remainingBytes s.toView m)
  return false

/-! ### Writers -/

def put (w : Writer) (bytes : List UInt8) : Effect Writer := do
  let cursor ← .ofExcept (advance w.cursor bytes.length)
  let index ← .ofExcept (index w.toView)
  set (← .ofExcept (copyIn (← get) w.region index bytes))
  return { w with cursor }

def transfer (r : Reader) (w : Writer) : Effect (Reader × Writer) := do
  let length ← .ofExcept (remaining r.cursor)
  .ofExcept (checkRemaining w.cursor length)
  let source ← .ofExcept (index r.toView)
  let target ← .ofExcept (index w.toView)
  set (← .ofExcept (copy (← get) r.region source w.region target length))
  let read ← .ofExcept (advance r.cursor length)
  let written ← .ofExcept (advance w.cursor length)
  return ({ r with cursor := read }, { w with cursor := written })

/-- Performs one operation in words. Operations that compute no number are performed as ever. -/
def step (ws : Workspace) : Operation → Reply × Workspace
  | .wrapArray name role source offset length =>
    ws.derive name source fun
      | .array id => some do
        return role.object (← .ofExcept (window (← get) id offset length))
      | _ => none
  | .slice name source =>
    ws.derive name source fun
      | .reader r => some do return .reader (← .ofExcept (slice r))
      | _ => none
  | .transfer source target => ws.transfer source target transfer
  | .same first second => (ws.same first second sameRemaining, ws)
  | .take name t => ws.readFrom name fun r m => (takeScalar r m t).map fun (s, r) => (.scalar s, r)
  | .byteAt name index =>
    ws.inspect name fun
      | .reader r => some (.ofExcept (.scalar ∘ .byte) (byteAt r ws.memory index))
      | _ => none
  | .fill name target => ws.fillFrom name target fun r m => take r m target.length
  | .fillRange name target offset length =>
    ws.fillFrom name target fun r m => fillRange r m target offset length
  | .window name =>
    ws.inspect name fun
      | .reader r => some (.ofExcept .bytes (content r.toView ws.memory))
      | _ => none
  | .text name encoding =>
    ws.readFrom name fun r m => (text r m encoding).map fun (s, r) => (.text s, r)
  | .drain name => ws.readFrom name fun r m => (drain r m).map fun (bytes, r) => (.bytes bytes, r)
  | .ensureRemaining name length =>
    ws.inspect name fun
      | .writer w => some (.ofExcept (fun _ => .nothing) (checkRemaining w.cursor length))
      | _ => none
  | .put name s => ws.writeTo name fun w => put w s.encode
  | .putBytes name bytes => ws.writeTo name fun w => put w bytes
  | .putText name s => ws.writeTo name fun w => put w (Text.Utf8.encode s)
  | op => ws.step op

/-- Performs operations in words and in order, and gives the reply to each. -/
def run (ws : Workspace) : List Operation → List Reply × Workspace
  | [] => ([], ws)
  | op :: rest =>
    let (reply, ws) := step ws op
    let (replies, ws) := run ws rest
    (reply :: replies, ws)

end AmqpClient.Buffer.Machine
