import AmqpClient.Toml.Lexical
import AmqpClient.Toml.Value

/-!
# Numbers

Integers in four bases within 64 bits, and decimal fractions. A fraction is refused when it is too
great for a double.
-/

namespace AmqpClient.Toml

open AmqpClient.Toml.Parser

/-- Digits of a class, where single underscores may stand between two of them. -/
def groupedDigits (p : Char → Bool) : Parser (List Char) := do
  return (← satisfy p) :: (← many (satisfy p <|> char '_' *> satisfy p))

/-- A sign, if there is one; whether it is a minus. -/
def sign : Parser Bool := do
  let s ← optional (satisfy fun c => c == '+' || c == '-')
  return s == some '-'

/-- The digits of a whole number: a zero alone, or digits that begin with another. -/
def wholeDigits : Parser (List Char) := do
  let first ← satisfy isDigit
  if first == '0' then return ['0']
  return first :: (← many (satisfy isDigit <|> char '_' *> satisfy isDigit))

/-- Whether a number is one of a signed word of 64 bits. -/
def fitsInt64 (n : Int) : Bool :=
  Int64.minValue.toInt ≤ n && n ≤ Int64.maxValue.toInt

/-- A whole number behind the mark of its base. -/
def basedInteger (mark : String) (base : Nat) (p : Char → Bool) : Parser Int := do
  word mark
  return digitsValue base (← groupedDigits p)

def decimalInteger : Parser Int := do
  let negative ← sign
  let n : Int := digitsValue 10 (← wholeDigits)
  return if negative then -n else n

def integer : Parser Int := do
  let n ← basedInteger "0x" 16 isHexDigit <|>
    basedInteger "0o" 8 (fun c => '0' ≤ c && c ≤ '7') <|>
    basedInteger "0b" 2 (fun c => c == '0' || c == '1') <|> decimalInteger
  check (fitsInt64 n)
  return n

/-- The least number that rounds to infinity among doubles: halfway from the greatest of them to
the power of two above it. -/
def doubleOverflow : Nat := (1 <<< 1024) - (1 <<< 970)

/-- Whether `significand * 10 ^ exponent` rounds to infinity. The first two answers follow from the
number of digits and keep the powers in the third one small. -/
def overflowsDouble (significand : Nat) (exponent : Int) : Bool :=
  let magnitude := (Nat.toDigits 10 significand).length + exponent
  if significand = 0 || magnitude < 300 then false
  else if 400 < magnitude then true
  else doubleOverflow * Nat.pow 10 (-exponent).toNat ≤ significand * Nat.pow 10 exponent.toNat

/-- The exponent of a fraction. -/
def exponent : Parser Int := do
  discard (satisfy fun c => c == 'e' || c == 'E')
  let negative ← sign
  let n : Int := digitsValue 10 (← groupedDigits isDigit)
  return if negative then -n else n

def decimalFraction : Parser Real := do
  let negative ← sign
  let whole ← wholeDigits
  let (places, power) ←
    (do return ([], ← exponent)) <|>
    (do
      char '.'
      let places ← groupedDigits isDigit
      return (places, (← optional exponent).getD 0))
  let significand := digitsValue 10 (whole ++ places)
  let power := power - places.length
  check (negative || !overflowsDouble significand power)
  return .decimal negative significand power

def specialFraction : Parser Real := do
  let negative ← sign
  (do word "inf"; return .infinity negative) <|> (do word "nan"; return .nan)

def fraction : Parser Real :=
  decimalFraction <|> specialFraction

end AmqpClient.Toml
