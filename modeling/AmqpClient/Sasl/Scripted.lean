import AmqpClient.Sasl.Mechanism

/-!
# Scripted mechanisms

Mechanisms that are described rather than programmed: what they need, and what they answer.
-/

namespace AmqpClient.Sasl

/-- What a scripted mechanism needs; an empty text is present. -/
inductive Requirement where
  | nothing
  | impossible
  | username
  | password
  | principal
  deriving DecidableEq, Repr

def Requirement.isMet (c : Credentials) (p : Option Principal) : Requirement → Bool
  | nothing => true
  | impossible => false
  | username => c.username.isSome
  | password => c.password.isSome
  | principal => p.isSome

/-- What a scripted mechanism answers to a challenge. -/
inductive Reply where
  /-- The challenge itself. -/
  | echo
  | fixed (bytes : List UInt8)
  | failure (reason : String)
  deriving DecidableEq, Repr

structure Script where
  name : String
  priority : Priority
  requirement : Requirement
  /-- The initial response, or the reason why there is none to be had. -/
  initial : Except String (Option (List UInt8))
  reply : Reply

def Script.mechanism (s : Script) : Mechanism where
  name := s.name
  priority := s.priority
  isApplicable c p := s.requirement.isMet c p
  initialResponse holding := (s.initial.mapError (.noResponse s.name), holding)
  challengeResponse holding challenge :=
    match s.reply with
    | .echo => (.ok challenge, holding)
    | .fixed bytes => (.ok bytes, holding)
    | .failure reason => (.error (.noResponse s.name reason), holding)
  describe := describeAs s.name

end AmqpClient.Sasl
