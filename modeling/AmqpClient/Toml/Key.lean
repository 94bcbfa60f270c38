import AmqpClient.Toml.Text

/-!
# Keys

A key names a place by the tables on the way to it and a last name, with dots between them.
-/

namespace AmqpClient.Toml

open AmqpClient.Toml.Parser

/-- A place in a table: the names of the tables on the way, and the name in the last of them. -/
structure Key where
  parents : List String
  name : String
  deriving DecidableEq, Repr

/-- What a name holds that stands without quotes. -/
def isBareChar (c : Char) : Bool :=
  c.isAlphanum || c == '_' || c == '-'

def keyPart : Parser String :=
  basicString <|> literalString <|> String.ofList <$> run1 isBareChar

/-- The number of parts that a key may not reach, and of arrays and tables one inside the other. -/
def nestingBound : Nat := 128

/-- A key and the blanks around its parts. -/
def key : Parser Key := do
  let parts ← separated '.' (blanks *> keyPart <* blanks)
  check (parts.length < nestingBound)
  match parts.reverse with
  | name :: parents => return ⟨parents.reverse, name⟩
  | [] => failure

end AmqpClient.Toml
