/-!
# Parsers

Readers of a prefix of a list of characters. A parser that fails reads nothing, so an alternative
starts where the first attempt did.
-/

namespace AmqpClient.Toml

/-- Reads something off the front of the characters, or fails. -/
abbrev Parser := StateT (List Char) Option

namespace Parser

variable {α : Type}

def satisfy (p : Char → Bool) : Parser Char
  | c :: rest => if p c then some (c, rest) else none
  | [] => none

def char (c : Char) : Parser Unit :=
  discard (satisfy (· == c))

def word (s : String) : Parser Unit :=
  s.toList.forM char

/-- The longest run of a class, which may be empty. -/
def run (p : Char → Bool) : Parser (List Char) :=
  fun cs => some (cs.span p)

/-- The longest run of a class, which may not be empty. -/
def run1 (p : Char → Bool) : Parser (List Char) := do
  return (← satisfy p) :: (← run p)

def atEnd : Parser Unit
  | [] => some ((), [])
  | _ :: _ => none

/-- Succeeds only if the condition holds. -/
def check (condition : Bool) : Parser Unit :=
  if condition then pure () else failure

/-- Runs a parser until it fails, at most once for each character of `bound`; `read` holds the
results in reverse. -/
def repeatOver (p : Parser α) : (bound : List Char) → List α → List Char → List α × List Char
  | [], read, cs => (read.reverse, cs)
  | _ :: bound, read, cs =>
    match p cs with
    | some (a, rest) => repeatOver p bound (a :: read) rest
    | none => (read.reverse, cs)

/-- Runs a parser until it fails. Each run reads a character at least, so there are no more runs
than characters. -/
def many (p : Parser α) : Parser (List α) :=
  fun cs => some (repeatOver p cs [] cs)

/-- Items with a separator between them, and at least one. -/
def separated (separator : Char) (p : Parser α) : Parser (List α) := do
  return (← p) :: (← many (char separator *> p))

/-- Exactly so many characters of a class. -/
def exactly (p : Char → Bool) : Nat → Parser (List Char)
  | 0 => pure []
  | n + 1 => do return (← satisfy p) :: (← exactly p n)

end Parser

end AmqpClient.Toml
