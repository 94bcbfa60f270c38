import AmqpClient.Text.Encoding

/-!
# Faults

Why an operation on a buffer fails.
-/

namespace AmqpClient.Buffer

/-- Why an operation on a buffer fails. -/
inductive Fault where
  /-- An access to `length` octets at `index` crosses `bound`. -/
  | outOfBounds (index length bound : Nat)
  /-- There is no mark to go back to. -/
  | noMark
  /-- The storage is not an array. -/
  | noArray
  | notText (cause : Text.DecodeError)
  /-- An access to storage outside its region, which no cursor lets happen. -/
  | outsideRegion
  deriving DecidableEq, Repr

def Fault.message : Fault → String
  | .outOfBounds index length bound =>
    s!"Out of bounds: {length} byte(s) at index {index} exceed bound {bound}"
  | .noMark => "Invalid mark: reset called without a mark"
  | .noArray => "No array: storage is not array-backed"
  | .notText cause => "Decode error: " ++ cause.message
  | .outsideRegion => "Storage accessed outside its region"

end AmqpClient.Buffer
