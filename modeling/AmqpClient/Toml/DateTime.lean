import AmqpClient.Toml.Lexical
import AmqpClient.Toml.Value

/-!
# Dates and times

A date and a time with an offset, without one, or either of the two alone. Each part is checked
against its own range: every month may have 31 days, and every minute 60 seconds and one more.
-/

namespace AmqpClient.Toml

open AmqpClient.Toml.Parser

/-- A number of two digits within a range. -/
def twoDigits (low high : Nat) : Parser Nat := do
  let n := digitsValue 10 (← exactly isDigit 2)
  check (low ≤ n && n ≤ high)
  return n

def date : Parser Date := do
  let year := digitsValue 10 (← exactly isDigit 4)
  char '-'
  let month ← twoDigits 1 12
  char '-'
  let day ← twoDigits 1 31
  return ⟨year, month, day⟩

def time : Parser Time := do
  let hour ← twoDigits 0 23
  char ':'
  let minute ← twoDigits 0 59
  char ':'
  let second ← twoDigits 0 60
  let fraction ← optional (char '.' *> run1 isDigit)
  return ⟨hour, minute, second, fraction.getD []⟩

/-- How many minutes a time is ahead of UTC. -/
def offset : Parser Int :=
  (do
    discard (satisfy fun c => c == 'Z' || c == 'z')
    return 0) <|>
  (do
    let s ← satisfy fun c => c == '+' || c == '-'
    let hour ← twoDigits 0 23
    char ':'
    let minute ← twoDigits 0 59
    let n : Int := hour * 60 + minute
    return if s == '-' then -n else n)

/-- The time of a date and its offset, behind a `T` or a space. -/
def timeOfDate : Parser (Time × Option Int) := do
  discard (satisfy fun c => c == 'T' || c == 't' || c == ' ')
  return (← time, ← optional offset)

def dateTime : Parser DateTime :=
  (do
    let date ← date
    let rest ← optional timeOfDate
    return ⟨some date, rest.map (·.1), rest.bind (·.2)⟩) <|>
  (do return ⟨none, ← time, none⟩)

end AmqpClient.Toml
