import AmqpClient.Sasl.Registry

/-!
# Selection

Which of the mechanisms on offer a client uses: of those it knows, may use and can use, the one of
the highest priority, and the first on offer among several.
-/

namespace AmqpClient.Sasl

/-- What a choice depends on besides the offer. If `restrictions` is not empty, no other names may
be chosen. -/
structure Situation where
  registry : Registry
  credentials : Credentials
  principal : Option Principal
  restrictions : List String

namespace Situation

/-- Whether the restrictions let a name through. -/
def allows (s : Situation) (name : String) : Bool :=
  s.restrictions.isEmpty || s.restrictions.contains name

/-- The mechanism under a name on offer, if it is known, allowed and applicable. -/
def candidate? (s : Situation) (name : String) : Option Instance := do
  let found ← s.registry.create? name
  guard (s.allows name && found.mechanism.isApplicable s.credentials s.principal)
  return found

end Situation

/-- The better of two candidates, of which the first came first. -/
def preferred (best next : Instance) : Instance :=
  if best.mechanism.priority.value < next.mechanism.priority.value then next else best

/-- The best of all candidates, in the order they came. -/
def best? : List Instance → Option Instance
  | [] => none
  | first :: rest => some (rest.foldl preferred first)

/-- The mechanism to use, given the names on offer. It has no credentials yet. -/
def Situation.select (s : Situation) (offered : List String) : Option Instance :=
  best? (offered.filterMap s.candidate?)

end AmqpClient.Sasl
