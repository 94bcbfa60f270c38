import AmqpClient.Toml.Parser

/-!
# Blanks, line ends and digits

The smallest pieces of a document, shared by all that follows.
-/

namespace AmqpClient.Toml

open AmqpClient.Toml.Parser

/-- A space or a tab. -/
def isBlankChar (c : Char) : Bool :=
  c == ' ' || c == '\t'

/-- What may stand in a comment: anything but control characters, tabs apart. -/
def isCommentChar (c : Char) : Bool :=
  c == '\t' || (' ' ≤ c && c ≤ '~') || 0x80 ≤ c.toNat

def isDigit (c : Char) : Bool :=
  '0' ≤ c && c ≤ '9'

def isHexDigit (c : Char) : Bool :=
  isDigit c || ('a' ≤ c && c ≤ 'f') || ('A' ≤ c && c ≤ 'F')

/-- The value of a digit of any base up to sixteen. -/
def digitValue (c : Char) : Nat :=
  if c ≤ '9' then c.toNat - '0'.toNat
  else if c ≤ 'F' then c.toNat - 'A'.toNat + 10
  else c.toNat - 'a'.toNat + 10

/-- The number that digits spell, the first being the most significant. -/
def digitsValue (base : Nat) (digits : List Char) : Nat :=
  digits.foldl (fun n c => n * base + digitValue c) 0

def blanks : Parser Unit :=
  discard (run isBlankChar)

/-- A line feed, alone or after a carriage return. -/
def newline : Parser Unit :=
  char '\n' <|> char '\r' *> char '\n'

def comment : Parser Unit :=
  char '#' *> discard (run isCommentChar)

/-- The rest of a line that says nothing more. -/
def lineEnd : Parser Unit := do
  blanks
  discard (optional comment)
  newline <|> atEnd

/-- Blanks, line ends and comments, as they may stand between the items of an array. -/
def gap : Parser Unit :=
  discard (many (discard (run1 isBlankChar) <|> newline <|> comment))

end AmqpClient.Toml
