import AmqpClient.Toml.Lexical

/-!
# Strings

The four kinds of strings: between quotes with escapes, between apostrophes without, and both again
over several lines between tripled delimiters. Line ends inside a string become line feeds.
-/

namespace AmqpClient.Toml

open AmqpClient.Toml.Parser

/-- What a string between quotes holds without an escape. -/
def isBasicChar (c : Char) : Bool :=
  isCommentChar c && c != '"' && c != '\\'

/-- What a string between apostrophes holds. -/
def isLiteralChar (c : Char) : Bool :=
  isCommentChar c && c != '\''

/-- The character of a code point given in so many hexadecimal digits. -/
def codePoint (digits : Nat) : Parser Char := do
  let n := digitsValue 16 (← exactly isHexDigit digits)
  check (n < 0xd800 || (0xdfff < n && n < 0x110000))
  return .ofNat n

def escape : Parser Char := do
  char '\\'
  match ← satisfy fun _ => true with
  | 'b' => return '\x08'
  | 't' => return '\t'
  | 'n' => return '\n'
  | 'f' => return '\x0c'
  | 'r' => return '\r'
  | '"' => return '"'
  | '\\' => return '\\'
  | 'u' => codePoint 4
  | 'U' => codePoint 8
  | _ => failure

/-- A line end that is escaped stands for nothing, with all blanks and line ends that follow. -/
def escapedNewline : Parser Unit := do
  char '\\'
  blanks
  newline
  discard (many (discard (run1 isBlankChar) <|> newline))

/-- The text of pieces in their order. -/
def joinPieces (pieces : List (List Char)) : String :=
  String.ofList pieces.flatten

/-- One or two delimiters that do not close a string of several lines. -/
def innerDelimiters (delimiter : Char) : Parser (List Char) := do
  let found ← run1 (· == delimiter)
  check (found.length < 3)
  return found

/-- The three delimiters at the end; up to two right before them belong to the string. -/
def closingDelimiters (delimiter : Char) : Parser (List Char) := do
  let found ← run1 (· == delimiter)
  check (3 ≤ found.length && found.length ≤ 5)
  return found.drop 3

/-- A string of several lines made of pieces. A line end right behind the opening is dropped. -/
def multiline (delimiter : Char) (piece : Parser (List Char)) : Parser String := do
  word (String.ofList [delimiter, delimiter, delimiter])
  discard (optional newline)
  let pieces ← many (piece <|> innerDelimiters delimiter)
  let last ← closingDelimiters delimiter
  return joinPieces (pieces ++ [last])

def multilineBasic : Parser String :=
  multiline '"' (run1 isBasicChar <|> (do escapedNewline; return []) <|>
    (do return [← escape]) <|> (do newline; return ['\n']))

def multilineLiteral : Parser String :=
  multiline '\'' (run1 isLiteralChar <|> (do newline; return ['\n']))

def basicString : Parser String := do
  char '"'
  let pieces ← many (run1 isBasicChar <|> (do return [← escape]))
  char '"'
  return joinPieces pieces

def literalString : Parser String := do
  char '\''
  let s ← run isLiteralChar
  char '\''
  return String.ofList s

def stringLiteral : Parser String :=
  multilineBasic <|> basicString <|> multilineLiteral <|> literalString

end AmqpClient.Toml
