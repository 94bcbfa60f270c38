import AmqpClient.Toml.Key
import AmqpClient.Toml.Value

/-!
# Making tables

Where the entries and headers of a document put things, and which of them contradict what was said
before. A table is made once: by its header or by dotted keys, and dotted keys add only to tables
that dotted keys made.
-/

namespace AmqpClient.Toml

/-- The tables a key may pass, and what the missing ones are made by. -/
inductive Route where
  /-- The way to a header passes any table. -/
  | header
  /-- The way along a dotted key passes no table that has a header of its own. -/
  | dotted
  deriving DecidableEq, Repr

/-- What a table is called that is missing on the way. -/
def Route.origin : Route → Origin
  | .header => .parent
  | .dotted => .dotted

def Route.passes : Route → Origin → Bool
  | .header, _ => true
  | .dotted, origin => origin != .header

/-- Follows a path from a table, makes what is missing on it, and changes the table at its end. Of
the tables under a doubled header the way leads into the last. -/
def Entries.changeAt (route : Route) (change : Origin → Entries → Option Entries) :
    Origin → List String → Entries → Option Entries
  | origin, [], entries => change origin entries
  | _, name :: path, entries =>
    match entries.lookup name with
    | none => do
      let inner ← changeAt route change route.origin path []
      return entries ++ [(name, .table route.origin inner)]
    | some (.table origin inner) => do
      guard (route.passes origin)
      let inner ← changeAt route change origin path inner
      return entries.replace name (.table origin inner)
    | some (.tables elements) => do
      let inner ← changeAt route change .header path (← elements.getLast?)
      return entries.replace name (.tables (elements.dropLast ++ [inner]))
    | some _ => none

/-- Puts a value under a name that is not taken. -/
def Entries.add (name : String) (value : Value) (entries : Entries) : Option Entries :=
  if (entries.lookup name).isSome then none else some (entries ++ [(name, value)])

/-- Puts a value in a table of the document. If the key has dots, a dotted key must have made the
table it leads to. -/
def Entries.define (key : Key) (value : Value) (entries : Entries) : Option Entries :=
  entries.changeAt .dotted (fun origin table => do
    guard (key.parents.isEmpty || origin == .dotted)
    table.add key.name value) .header key.parents

/-- Opens the table of a header. It may be there already if only headers of inner tables made it. -/
def Entries.openTable (key : Key) (entries : Entries) : Option Entries :=
  entries.changeAt .header (fun _ table =>
    match table.lookup key.name with
    | none => some (table ++ [(key.name, .table .header [])])
    | some (.table .parent inner) => some (table.replace key.name (.table .header inner))
    | some _ => none) .header key.parents

/-- Opens one more table under a doubled header. -/
def Entries.openNextTable (key : Key) (entries : Entries) : Option Entries :=
  entries.changeAt .header (fun _ table =>
    match table.lookup key.name with
    | none => some (table ++ [(key.name, .tables [[]])])
    | some (.tables elements) => some (table.replace key.name (.tables (elements ++ [[]])))
    | some _ => none) .header key.parents

/-- Puts a value in a table in braces, where dotted keys make and pass tables in braces alone. -/
def Entries.defineInline (name : String) (value : Value) : List String → Entries → Option Entries
  | [], entries => entries.add name value
  | parent :: path, entries =>
    match entries.lookup parent with
    | none => do
      let inner ← defineInline name value path []
      return entries ++ [(parent, .inline inner)]
    | some (.inline inner) => do
      let inner ← defineInline name value path inner
      return entries.replace parent (.inline inner)
    | some _ => none

end AmqpClient.Toml
