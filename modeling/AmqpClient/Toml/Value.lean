/-!
# TOML values

What a document says: scalars, arrays, and tables in the three ways a document can write them.
-/

namespace AmqpClient.Toml

/-- A floating-point number as written, `significand * 10 ^ exponent` unless it is special. -/
inductive Real where
  | decimal (negative : Bool) (significand : Nat) (exponent : Int)
  | infinity (negative : Bool)
  | nan
  deriving DecidableEq, Repr

/-- A day of the calendar; the length of its month is not looked at. -/
structure Date where
  year : Nat
  month : Nat
  day : Nat
  deriving DecidableEq, Repr

/-- A time of day, with the digits of the fraction of its second. -/
structure Time where
  hour : Nat
  minute : Nat
  second : Nat
  fraction : List Char
  deriving DecidableEq, Repr

/-- A date, a time, or both, and then perhaps the minutes by which it is ahead of UTC. -/
structure DateTime where
  date : Option Date
  time : Option Time
  offset : Option Int
  deriving DecidableEq, Repr

/-- What brought a table about, which decides what may still be added to it. -/
inductive Origin where
  /-- The document itself or a header of its own. -/
  | header
  /-- A header of a table inside it. -/
  | parent
  /-- A dotted key. -/
  | dotted
  deriving DecidableEq, Repr

/-- A value, under a key or in an array. -/
inductive Value where
  | string (s : String)
  | integer (n : Int)
  | float (x : Real)
  | boolean (b : Bool)
  | dateTime (d : DateTime)
  | array (items : List Value)
  /-- A table in braces. -/
  | inline (entries : List (String × Value))
  /-- A table made by a header or by dotted keys. -/
  | table (origin : Origin) (entries : List (String × Value))
  /-- The tables under one doubled header. -/
  | tables (elements : List (List (String × Value)))

/-- The entries of a table in the order they were made; no key occurs twice. -/
abbrev Entries := List (String × Value)

/-- Puts a value in the place of the one under a key. -/
def Entries.replace (key : String) (value : Value) : Entries → Entries
  | [] => []
  | (k, v) :: rest => if k = key then (k, value) :: rest else (k, v) :: replace key value rest

end AmqpClient.Toml
