import AmqpClient.Buffer.Execution

/-!
# Work in place

The operations one change after another. Each change of a cursor, of memory or of an array of the
caller stays, whatever comes after it: where an operation fails, all that it has done up to there
has been done.
-/

namespace AmqpClient.Buffer.InPlace

variable {σ τ α : Type}

/-- Work that changes a state, and keeps what it has changed if it fails. -/
abbrev Work := EStateM Fault

def onPart (part : σ → τ) (put : σ → τ → σ) (work : Work τ α) : Work σ α := fun s =>
  match work.run (part s) with
  | .ok a t => .ok a (put s t)
  | .error f t => .error f (put s t)

def onFirst (work : Work σ α) : Work (σ × τ) α :=
  onPart Prod.fst (fun s first => (first, s.2)) work

def onSecond (work : Work τ α) : Work (σ × τ) α :=
  onPart Prod.snd (fun s second => (s.1, second)) work

def query : Except Fault α → Work σ α
  | .ok a => pure a
  | .error f => throw f

@[simp] theorem run_query_ok (a : α) (s : σ) : (query (.ok a)).run s = .ok a s := rfl

@[simp] theorem run_query_error (f : Fault) (s : σ) :
    (query (.error f : Except Fault α)).run s = .error f s := rfl

theorem run_onFirst (work : Work σ α) (s : σ) (t : τ) :
    (onFirst work).run (s, t) = match work.run s with
      | .ok a after => .ok a (after, t)
      | .error f after => .error f (after, t) := rfl

theorem run_onSecond (work : Work τ α) (s : σ) (t : τ) :
    (onSecond work).run (s, t) = match work.run t with
      | .ok a after => .ok a (s, after)
      | .error f after => .error f (s, after) := rfl

/-! ### Cursors -/

def onCursor (work : Work Cursor α) : Work View α :=
  onPart View.cursor (fun v cursor => { v with cursor }) work

theorem run_onCursor (work : Work Cursor α) (v : View) :
    (onCursor work).run v = match work.run v.cursor with
      | .ok a cursor => .ok a { v with cursor }
      | .error f cursor => .error f { v with cursor } := by
  change (onPart View.cursor _ work).run v = _
  unfold onPart EStateM.run
  dsimp only
  cases work v.cursor <;> rfl

def dropMark (position : Nat) : Work Cursor Unit := do
  if (← get).mark.any (position < ·) then modify fun c => { c with mark := none }

def setPosition (position : Nat) : Work Cursor Unit := do
  let c ← get
  if c.limit < position then throw (.outOfBounds position 0 c.limit)
  dropMark position
  modify fun c => { c with position }

def setLimit (limit : Nat) : Work Cursor Unit := do
  let c ← get
  if c.capacity < limit then throw (.outOfBounds limit 0 c.capacity)
  modify fun c => { c with limit }
  if limit < c.position then modify fun c => { c with position := limit }
  dropMark (← get).position

def reset : Work Cursor Unit := do
  match (← get).mark with
  | some m => modify fun c => { c with position := m }
  | none => throw .noMark

/-- Moves past octets, and gives the position where they start. -/
def advance (length : Nat) : Work Cursor Nat := do
  let c ← get
  query (c.checkRemaining length)
  modify fun c => { c with position := c.position + length }
  return c.position

def move : Move → Work Cursor Unit
  | .setPosition n => setPosition n
  | .setLimit n => setLimit n

def moveReader : ReaderMove → Work Cursor Unit
  | .mark => modify Cursor.setMark
  | .reset => reset
  | .rewind => modify Cursor.rewind
  | .clear => modify Cursor.clear
  | .flip => modify Cursor.flip
  | .reclaim => pure ()

/-! ### Reading -/

def take (m : Memory) (length : Nat) : Work View (List UInt8) := do
  let start ← onCursor (advance length)
  let v ← get
  query (m.read v.region (v.offset + start) length)

def takeScalar (m : Memory) (t : ScalarType) : Work View Scalar := do
  return .decode t (← take m t.width)

def fillAt (m : Memory) (offset length : Nat) : Work (View × List UInt8) Unit := do
  let bytes ← onFirst (take m length)
  onSecond (modify (Memory.splice · offset bytes))

def fill (m : Memory) : Work (View × List UInt8) Unit := do
  let (_, target) ← get
  fillAt m 0 target.length

def fillRange (m : Memory) (offset length : Nat) : Work (View × List UInt8) Unit := do
  let (_, target) ← get
  if target.length < offset + length then throw (.outOfBounds offset length target.length)
  fillAt m offset length

def text (m : Memory) (encoding : Text.Encoding) : Work View String := do
  let v ← get
  let bytes ← query (v.remainingBytes m)
  let text ← query ((encoding.decode bytes).mapError .notText)
  let _ ← onCursor (advance v.cursor.remaining)
  return text

def takeEach (m : Memory) : Nat → Work View (List UInt8)
  | 0 => pure []
  | count + 1 => do
    let first ← take m 1
    let rest ← takeEach m count
    return first ++ rest

def drain (m : Memory) : Work View (List UInt8) := do
  let v ← get
  takeEach m v.cursor.remaining

/-! ### Writing -/

def put (bytes : List UInt8) : Work (View × Memory) Unit := do
  let start ← onFirst (onCursor (advance bytes.length))
  let (v, _) ← get
  onSecond (Effect.write v.region (v.offset + start) bytes)

def shiftOne (id : RegionId) (source target : Nat) : Effect Unit := do
  let b ← query ((← get).byte id source)
  Effect.write id target [b]

/-- Moves octets to a place before them, the first one first. -/
def shiftBack (id : RegionId) (source target : Nat) : Nat → Effect Unit
  | 0 => pure ()
  | count + 1 => do
    shiftOne id source target
    shiftBack id (source + 1) (target + 1) count

/-- Moves octets to a place behind them, the last one first. -/
def shiftForth (id : RegionId) (source target : Nat) : Nat → Effect Unit
  | 0 => pure ()
  | count + 1 => do
    shiftOne id (source + count) (target + count)
    shiftForth id source target count

/-- Copies octets to another place of their region, from the end where they are overwritten
last. -/
def copyWithin (id : RegionId) (source target length : Nat) : Effect Unit := do
  let m ← get
  let _ ← query (m.read id source length)
  if m.size id < target + length then throw .outsideRegion
  if target ≤ source then shiftBack id source target length
  else shiftForth id source target length

/-- Copies octets: inside of a region, out of an array, into a part of an array, or through a
staging area if there is no array on either side. -/
def copy (source : RegionId) (sourceIndex : Nat) (target : RegionId) (targetIndex length : Nat) :
    Effect Unit := do
  let m ← get
  if source = target then copyWithin source sourceIndex targetIndex length
  else
    match m.isArray source, m.isArray target with
    | true, _ =>
      let bytes ← query (m.read source sourceIndex length)
      Effect.write target targetIndex bytes
    | false, true =>
      let _ ← query (m.read target targetIndex length)
      let bytes ← query (m.read source sourceIndex length)
      Effect.write target targetIndex bytes
    | false, false =>
      let staging ← query (m.read source sourceIndex length)
      Effect.write target targetIndex staging

def transfer : Work (View × View × Memory) Unit := do
  let (source, target, _) ← get
  let length := source.cursor.remaining
  query (target.cursor.checkRemaining length)
  onSecond (onSecond (copy source.region source.index target.region target.index length))
  let _ ← onFirst (onCursor (advance length))
  let _ ← onSecond (onFirst (onCursor (advance length)))

/-! ### Workspaces -/

/-- The reply to work, and the workspace with all that has been changed. -/
def conclude (result : EStateM.Result Fault σ Value) (after : σ → Workspace) : Reply × Workspace :=
  match result with
  | .ok v s => (.done v, after s)
  | .error f s => (.failed f, after s)

def withView (v : View) : Object → Object
  | .reader _ => .reader ⟨v⟩
  | .writer _ => .writer ⟨v⟩
  | o => o

def reader? : Object → Option View
  | .reader r => some r.toView
  | _ => none

def workOn (ws : Workspace) (name : String) (view? : Object → Option View)
    (work : Work View Value) : Reply × Workspace :=
  match ws.find? name with
  | some o =>
    match view? o with
    | some v => conclude (work.run v) fun v => ws.bind name (withView v o)
    | none => (.rejected, ws)
  | none => (.rejected, ws)

/-- Reads from a reader into a target, which the answer shows. -/
def fillFrom (ws : Workspace) (name : String) (target : List UInt8)
    (work : Work (View × List UInt8) Unit) : Reply × Workspace :=
  match ws.find? name with
  | some (.reader r) =>
    match work.run (r.toView, target) with
    | .ok _ (v, target) => (.done (.filled none target), ws.bind name (.reader ⟨v⟩))
    | .error f (v, target) => (.done (.filled (some f) target), ws.bind name (.reader ⟨v⟩))
  | _ => (.rejected, ws)

def writeTo (ws : Workspace) (name : String) (work : Work (View × Memory) Unit) :
    Reply × Workspace :=
  match ws.find? name with
  | some (.writer w) =>
    conclude ((work.map fun _ => .nothing).run (w.toView, ws.memory)) fun (v, memory) =>
      { ws with memory }.bind name (.writer ⟨v⟩)
  | _ => (.rejected, ws)

def transferBetween (ws : Workspace) (source target : String) : Reply × Workspace :=
  match ws.find? source, ws.find? target with
  | some (.reader r), some (.writer w) =>
    conclude ((transfer.map fun _ => .nothing).run (r.toView, w.toView, ws.memory))
      fun (v, u, memory) =>
        ({ ws with memory }.bind source (.reader ⟨v⟩)).bind target (.writer ⟨u⟩)
  | _, _ => (.rejected, ws)

/-- Performs one operation in place. Operations that change no object are performed as ever. -/
def step (ws : Workspace) : Operation → Reply × Workspace
  | .move name m => workOn ws name Object.view? ((onCursor (move m)).map fun _ => .nothing)
  | .moveReader name m => workOn ws name reader? ((onCursor (moveReader m)).map fun _ => .nothing)
  | .take name t => workOn ws name reader? ((takeScalar ws.memory t).map .scalar)
  | .text name encoding => workOn ws name reader? ((text ws.memory encoding).map .text)
  | .drain name => workOn ws name reader? ((drain ws.memory).map .bytes)
  | .fill name target => fillFrom ws name target (fill ws.memory)
  | .fillRange name target offset length =>
    fillFrom ws name target (fillRange ws.memory offset length)
  | .put name s => writeTo ws name (put s.encode)
  | .putBytes name bytes => writeTo ws name (put bytes)
  | .putText name s => writeTo ws name (put (Text.Utf8.encode s))
  | .transfer source target => transferBetween ws source target
  | op => ws.step op

def run (ws : Workspace) : List Operation → List Reply × Workspace
  | [] => ([], ws)
  | op :: rest =>
    let (reply, ws) := step ws op
    let (replies, ws) := run ws rest
    (reply :: replies, ws)

end AmqpClient.Buffer.InPlace
