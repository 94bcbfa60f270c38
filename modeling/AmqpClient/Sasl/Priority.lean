/-!
# Priorities

How mechanisms rank among each other; for the most part the more secure one ranks higher.
-/

namespace AmqpClient.Sasl

/-- The rank of a mechanism among others that could be used as well. -/
inductive Priority where
  | lowest
  | lower
  | low
  | medium
  | high
  | higher
  | highest
  deriving DecidableEq, Repr

namespace Priority

def value : Priority → Nat
  | lowest => 0
  | lower => 1
  | low => 2
  | medium => 3
  | high => 4
  | higher => 5
  | highest => 6

def name : Priority → String
  | lowest => "Lowest"
  | lower => "Lower"
  | low => "Low"
  | medium => "Medium"
  | high => "High"
  | higher => "Higher"
  | highest => "Highest"

def all : List Priority :=
  [lowest, lower, low, medium, high, higher, highest]

def ofName? (s : String) : Option Priority :=
  all.find? (·.name = s)

instance : Ord Priority := ⟨fun a b => compare a.value b.value⟩

theorem ofName?_name (p : Priority) : ofName? p.name = some p := by
  cases p <;> decide

end Priority

end AmqpClient.Sasl
