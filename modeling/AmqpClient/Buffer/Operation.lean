import AmqpClient.Buffer.Workspace

/-!
# Operations

All that can be done with the objects of a workspace, and how it can end: with a value, with a
fault, or not at all because the names do not stand for objects of the right kind.
-/

namespace AmqpClient.Buffer

/-- Whether a view is made to be read or written. -/
inductive Role where
  | reader
  | writer
  deriving DecidableEq, Repr

/-- Changes of a cursor that readers and writers share. -/
inductive Move where
  | setPosition (n : Nat)
  | setLimit (n : Nat)
  deriving DecidableEq, Repr

/-- Changes of a cursor that only readers know. -/
inductive ReaderMove where
  | mark
  | reset
  | rewind
  | clear
  | flip
  /-- Goes back to the buffer that is read in fact, which is the reader itself. -/
  | reclaim
  deriving DecidableEq, Repr

/-- An operation on the objects of a workspace. Operations that make an object begin with the name
it is to have; the other names are those of the objects worked on. -/
inductive Operation where
  /-- An array or region of its own, with these octets. -/
  | allocate (name : String) (placement : Placement) (bytes : List UInt8)
  /-- A view of a whole region of its own, with these octets. -/
  | make (name : String) (role : Role) (placement : Placement) (bytes : List UInt8)
  /-- A view of a part of an array. -/
  | wrapArray (name : String) (role : Role) (array : String) (offset length : Nat)
  /-- A view of a region. -/
  | wrapRegion (name : String) (role : Role) (region : String)
  | clone (name source : String)
  /-- The array under a view. -/
  | array (name view : String)
  | duplicate (name reader : String)
  | slice (name reader : String)
  | toReader (name writer : String)
  /-- Makes a reader of a writer, which is gone then. -/
  | intoReader (name writer : String)
  | transfer (reader writer : String)
  /-- Whether two readers have the same octets remaining, or two handles are of one region. -/
  | same (first second : String)
  | isEmpty (handle : String)
  | content (array : String)
  | overwrite (array : String) (index : Nat) (bytes : List UInt8)
  | describe (object : String)
  | hasArray (view : String)
  | arrayOffset (view : String)
  | move (view : String) (m : Move)
  | moveReader (reader : String) (m : ReaderMove)
  | take (reader : String) (t : ScalarType)
  | byteAt (reader : String) (index : Nat)
  | fill (reader : String) (target : List UInt8)
  | fillRange (reader : String) (target : List UInt8) (offset length : Nat)
  | window (reader : String)
  | text (reader : String) (encoding : Text.Encoding)
  | drain (reader : String)
  | ensureRemaining (writer : String) (length : Nat)
  | put (writer : String) (s : Scalar)
  | putBytes (writer : String) (bytes : List UInt8)
  | putText (writer : String) (s : String)

inductive Value where
  | nothing
  | flag (b : Bool)
  | number (n : Nat)
  | scalar (s : Scalar)
  | bytes (bytes : List UInt8)
  | text (s : String)
  /-- The target of a read after it, and the fault if it was left as it was. -/
  | filled (fault? : Option Fault) (target : List UInt8)
  deriving DecidableEq, Repr

inductive Reply where
  | done (v : Value)
  | failed (f : Fault)
  | rejected
  deriving DecidableEq, Repr

/-- The reply of a computation that changes nothing. -/
def Reply.ofExcept {α : Type} (value : α → Value) : Except Fault α → Reply
  | .ok a => .done (value a)
  | .error f => .failed f

end AmqpClient.Buffer
