import AmqpClient.Buffer.Operation

/-!
# Execution

What each operation does to a workspace. What an operation wrote to memory stays even if it fails
later on; all checks come before the first write, so a failed operation has written nothing.
-/

namespace AmqpClient.Buffer

def Role.object : Role → View → Object
  | .reader, v => .reader ⟨v⟩
  | .writer, v => .writer ⟨v⟩

def Move.apply (c : Cursor) : Move → Except Fault Cursor
  | .setPosition n => c.setPosition n
  | .setLimit n => c.setLimit n

def ReaderMove.apply (c : Cursor) : ReaderMove → Except Fault Cursor
  | .mark => .ok c.setMark
  | .reset => c.reset
  | .rewind => .ok c.rewind
  | .clear => .ok c.clear
  | .flip => .ok c.flip
  | .reclaim => .ok c

def Object.view? : Object → Option View
  | .reader r => some r.toView
  | .writer w => some w.toView
  | _ => none

def Object.handle? : Object → Option RegionId
  | .array id => some id
  | .region id => some id
  | _ => none

def Object.withCursor (c : Cursor) : Object → Object
  | .reader r => .reader { r with cursor := c }
  | .writer w => .writer { w with cursor := c }
  | o => o

/-- A handle as it may be logged, by the length of its region. -/
def describeHandle (label : String) (m : Memory) (id : RegionId) : String :=
  Text.Diagnostic.record label [("len", toString (m.size id))]

def Object.describe (m : Memory) : Object → String
  | .array id => describeHandle "HeapArray" m id
  | .region id => describeHandle "DirectRegion" m id
  | .reader r => r.describe m
  | .writer w => w.describe m

namespace Workspace

/-- Makes an object under a name, unless it cannot be made. -/
def create (ws : Workspace) (name : String) (make : Effect Object) : Reply × Workspace :=
  match make.run ws.memory with
  | .ok o m => (.done .nothing, { ws with memory := m }.bind name o)
  | .error f m => (.failed f, { ws with memory := m })

/-- Makes an object under a name out of another one. -/
def derive (ws : Workspace) (name source : String) (make : Object → Option (Effect Object)) :
    Reply × Workspace :=
  match (ws.find? source).bind make with
  | some effect => ws.create name effect
  | none => (.rejected, ws)

/-- Answers from an object without changing anything. -/
def inspect (ws : Workspace) (name : String) (answer : Object → Option Reply) :
    Reply × Workspace :=
  (((ws.find? name).bind answer).getD .rejected, ws)

def moveView (ws : Workspace) (name : String) (view? : Object → Option View)
    (move : Cursor → Except Fault Cursor) : Reply × Workspace :=
  match ws.find? name with
  | some o =>
    match view? o with
    | some v =>
      match move v.cursor with
      | .ok c => (.done .nothing, ws.bind name (o.withCursor c))
      | .error f => (.failed f, ws)
    | none => (.rejected, ws)
  | none => (.rejected, ws)

def readFrom (ws : Workspace) (name : String)
    (read : Reader → Memory → Except Fault (Value × Reader)) : Reply × Workspace :=
  match ws.find? name with
  | some (.reader r) =>
    match read r ws.memory with
    | .ok (v, r) => (.done v, ws.bind name (.reader r))
    | .error f => (.failed f, ws)
  | _ => (.rejected, ws)

/-- Reads from a reader into a target, which the answer shows. -/
def fillFrom (ws : Workspace) (name : String) (target : List UInt8)
    (read : Reader → Memory → Except Fault (List UInt8 × Reader)) : Reply × Workspace :=
  match ws.find? name with
  | some (.reader r) =>
    match read r ws.memory with
    | .ok (bytes, r) => (.done (.filled none bytes), ws.bind name (.reader r))
    | .error f => (.done (.filled (some f) target), ws)
  | _ => (.rejected, ws)

def writeTo (ws : Workspace) (name : String) (write : Writer → Effect Writer) :
    Reply × Workspace :=
  match ws.find? name with
  | some (.writer w) =>
    match (write w).run ws.memory with
    | .ok w m => (.done .nothing, { ws with memory := m }.bind name (.writer w))
    | .error f m => (.failed f, { ws with memory := m })
  | _ => (.rejected, ws)

def transfer (ws : Workspace) (source target : String)
    (move : Reader → Writer → Effect (Reader × Writer)) : Reply × Workspace :=
  match ws.find? source, ws.find? target with
  | some (.reader r), some (.writer w) =>
    match (move r w).run ws.memory with
    | .ok (r, w) m =>
      (.done .nothing, ({ ws with memory := m }.bind source (.reader r)).bind target (.writer w))
    | .error f m => (.failed f, { ws with memory := m })
  | _, _ => (.rejected, ws)

/-- Makes a reader under a name out of a writer, which is gone then. -/
def intoReader (ws : Workspace) (name source : String) : Reply × Workspace :=
  match ws.find? source with
  | some (.writer w) => (.done .nothing, (ws.forget source).bind name (.reader w.toReader))
  | _ => (.rejected, ws)

/-- Compares two readers or two handles of a kind. -/
def same (ws : Workspace) (first second : String)
    (compare : Reader → Reader → Memory → Except Fault Bool) : Reply :=
  match ws.find? first, ws.find? second with
  | some (.reader r), some (.reader s) => .ofExcept .flag (compare r s ws.memory)
  | some (.array a), some (.array b) => .done (.flag (a == b))
  | some (.region a), some (.region b) => .done (.flag (a == b))
  | _, _ => .rejected

/-- Writes into an array itself. -/
def overwrite (ws : Workspace) (name : String) (index : Nat) (bytes : List UInt8) :
    Reply × Workspace :=
  match ws.find? name with
  | some (.array id) =>
    match ws.memory.write id index bytes with
    | .ok m => (.done .nothing, { ws with memory := m })
    | .error _ => (.rejected, ws)
  | _ => (.rejected, ws)

def step (ws : Workspace) : Operation → Reply × Workspace
  | .allocate name placement bytes =>
    ws.create name do
      let id ← Effect.allocate placement bytes
      return match placement with
        | .heap => .array id
        | .direct => .region id
  | .make name role placement bytes =>
    ws.create name do
      let id ← Effect.allocate placement bytes
      return role.object (.whole (← get) id)
  | .wrapArray name role source offset length =>
    ws.derive name source fun
      | .array id => some do
        return role.object (← .ofExcept (View.window (← get) id offset length))
      | _ => none
  | .wrapRegion name role source =>
    ws.derive name source fun
      | .region id => some do return role.object (.whole (← get) id)
      | _ => none
  | .clone name source => ws.derive name source fun o => some (pure o)
  | .array name source =>
    ws.derive name source fun o => o.view?.map fun v => do
      return .array (← .ofExcept (v.array (← get)))
  | .duplicate name source =>
    ws.derive name source fun
      | .reader r => some (pure (.reader r))
      | _ => none
  | .slice name source =>
    ws.derive name source fun
      | .reader r => some (pure (.reader r.slice))
      | _ => none
  | .toReader name source =>
    ws.derive name source fun
      | .writer w => some (pure (.reader w.toReader))
      | _ => none
  | .intoReader name source => ws.intoReader name source
  | .transfer source target => ws.transfer source target Buffer.transfer
  | .same first second => (ws.same first second Reader.sameRemaining, ws)
  | .isEmpty name =>
    ws.inspect name fun o => o.handle?.map fun id => .done (.flag (ws.memory.size id == 0))
  | .content name =>
    ws.inspect name fun
      | .array id => some (.done (.bytes (ws.memory.content id)))
      | _ => none
  | .overwrite name index bytes => ws.overwrite name index bytes
  | .describe name => ws.inspect name fun o => some (.done (.text (o.describe ws.memory)))
  | .hasArray name =>
    ws.inspect name fun o =>
      o.view?.map fun v => .done (.flag (ws.memory.isArray v.region))
  | .arrayOffset name =>
    ws.inspect name fun o => o.view?.map fun v => .ofExcept .number (v.arrayOffset ws.memory)
  | .move name m => ws.moveView name Object.view? m.apply
  | .moveReader name m =>
    ws.moveView name (fun | .reader r => some r.toView | _ => none) m.apply
  | .take name t =>
    ws.readFrom name fun r m => (r.takeScalar m t).map fun (s, r) => (.scalar s, r)
  | .byteAt name index =>
    ws.inspect name fun
      | .reader r => some (.ofExcept (.scalar ∘ .byte) (r.byteAt ws.memory index))
      | _ => none
  | .fill name target => ws.fillFrom name target fun r m => r.fill m target
  | .fillRange name target offset length =>
    ws.fillFrom name target fun r m => r.fillRange m target offset length
  | .window name =>
    ws.inspect name fun
      | .reader r => some (.ofExcept .bytes (r.content ws.memory))
      | _ => none
  | .text name encoding =>
    ws.readFrom name fun r m => (r.text m encoding).map fun (s, r) => (.text s, r)
  | .drain name =>
    ws.readFrom name fun r m => (r.drain m).map fun (bytes, r) => (.bytes bytes, r)
  | .ensureRemaining name length =>
    ws.inspect name fun
      | .writer w => some (.ofExcept (fun _ => .nothing) (w.cursor.checkRemaining length))
      | _ => none
  | .put name s => ws.writeTo name fun w => w.putScalar s
  | .putBytes name bytes => ws.writeTo name fun w => w.put bytes
  | .putText name s => ws.writeTo name fun w => w.putText s

/-- Performs operations in order, and gives the reply to each. -/
def run (ws : Workspace) : List Operation → List Reply × Workspace
  | [] => ([], ws)
  | op :: rest =>
    let (reply, ws) := ws.step op
    let (replies, ws) := ws.run rest
    (reply :: replies, ws)

end Workspace

end AmqpClient.Buffer
