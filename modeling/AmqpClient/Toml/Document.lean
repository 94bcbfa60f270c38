import AmqpClient.Toml.DateTime
import AmqpClient.Toml.Number
import AmqpClient.Toml.Table

/-!
# Documents

A document is read in two steps: its lines into statements, and the statements one after the other
into a table.
-/

namespace AmqpClient.Toml

open AmqpClient.Toml.Parser

def boolean : Parser Bool :=
  (do word "true"; return true) <|> (do word "false"; return false)

def scalar : Parser Value :=
  .string <$> stringLiteral <|> .dateTime <$> dateTime <|> .float <$> fraction <|>
    .integer <$> integer <|> .boolean <$> boolean

/-- An array, given how its items are read; a comma may follow the last. -/
def array (item : Parser Value) : Parser Value := do
  char '['
  let items ← optional (separated ',' (gap *> item <* gap))
  if items.isSome then discard (optional (char ','))
  gap
  char ']'
  return .array (items.getD [])

/-- A key, an equals sign and a value. -/
def binding (item : Parser Value) : Parser (Key × Value) := do
  let key ← key
  char '='
  blanks
  return (key, ← item)

/-- A table in braces, given how its values are read; no comma follows the last. -/
def inlineTable (item : Parser Value) : Parser Value := do
  char '\x7b'
  let bindings ← optional (separated ',' (binding item <* blanks))
  blanks
  char '\x7d'
  let entries ← StateT.lift <| (bindings.getD []).foldlM
    (fun entries (key, value) => Entries.defineInline key.name value key.parents entries) []
  return .inline entries

/-- A value with at most `depth` arrays and tables one inside the other. -/
def value : Nat → Parser Value
  | 0 => scalar
  | depth + 1 => scalar <|> array (value depth) <|> inlineTable (value depth)

/-- What a line of a document says. -/
inductive Statement where
  | blank
  | entry (key : Key) (value : Value)
  | table (key : Key)
  | nextTable (key : Key)

def statement : Parser Statement :=
  (do
    discard (optional comment)
    newline
    return .blank) <|>
  (do
    comment
    atEnd
    return .blank) <|>
  (do
    word "[["
    let key ← key
    word "]]"
    lineEnd
    return .nextTable key) <|>
  (do
    char '['
    let key ← key
    char ']'
    lineEnd
    return .table key) <|>
  (do
    let (key, value) ← binding (value (nestingBound - 1))
    lineEnd
    return .entry key value)

/-- The statements of a text, which may begin with a byte order mark. -/
def statements : Parser (List Statement) := do
  discard (optional (char '\ufeff'))
  blanks
  let found ← many (statement <* blanks)
  atEnd
  return found

/-- A document being read: its entries, and the header under which the next entries stand. -/
structure Draft where
  root : Entries
  current? : Option Key

/-- Puts an entry under the header that is open. The way there is known and passes any table. -/
def Draft.define (draft : Draft) (key : Key) (value : Value) : Option Entries :=
  match draft.current? with
  | none => draft.root.define key value
  | some header =>
    draft.root.changeAt .header (fun _ table => table.define key value) .header
      (header.parents ++ [header.name])

/-- Takes up one statement, unless it contradicts those before it. -/
def Draft.add (draft : Draft) : Statement → Option Draft
  | .blank => some draft
  | .entry key value => do return { draft with root := ← draft.define key value }
  | .table key => do return ⟨← draft.root.openTable key, key⟩
  | .nextTable key => do return ⟨← draft.root.openNextTable key, key⟩

/-- The entries of a document, or nothing if the text is none. -/
def parse? (text : String) : Option Entries := do
  let (found, _) ← statements text.toList
  let draft ← found.foldlM Draft.add ⟨[], none⟩
  return draft.root

end AmqpClient.Toml
