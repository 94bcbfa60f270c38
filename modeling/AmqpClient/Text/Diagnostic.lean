import AmqpClient.Text.Quoted

/-!
# Diagnostic text

How values are shown to a person: records by name and fields, lists in brackets, sets in braces, and
optional values as `None` or `Some`.
-/

namespace AmqpClient.Text.Diagnostic

/-- The elements of a list in brackets. -/
def list (items : List String) : String :=
  "[" ++ ", ".intercalate items ++ "]"

/-- The elements of a set in braces, in the order given. -/
def set (items : List String) : String :=
  "\x7b" ++ ", ".intercalate items ++ "\x7d"

/-- An optional value that is shown already. -/
def optional : Option String → String
  | none => "None"
  | some shown => "Some(" ++ shown ++ ")"

/-- An optional text, quoted. -/
def optionalText (s : Option String) : String :=
  optional (s.map quoted)

/-- A record with its fields in order. -/
def record (name : String) (fields : List (String × String)) : String :=
  name ++ " \x7b " ++ ", ".intercalate (fields.map fun (label, shown) => label ++ ": " ++ shown) ++
    " \x7d"

/-- What stands for a secret: that there is one, and nothing of it. -/
def redacted (secret : Option String) : String :=
  optional (secret.map fun _ => quoted "<redacted>")

end AmqpClient.Text.Diagnostic
