/-!
# Outcomes

The verdict of the peer at the end of a handshake.
-/

namespace AmqpClient.Sasl

/-- What the peer says about an attempt to authenticate. -/
inductive Outcome where
  | ok
  /-- The credentials were refused. -/
  | auth
  /-- The peer failed. -/
  | sys
  /-- The peer failed and will fail again. -/
  | sysPerm
  /-- The peer failed for the time being. -/
  | sysTemp
  deriving DecidableEq, Repr

namespace Outcome

def code : Outcome → Nat
  | ok => 0
  | auth => 1
  | sys => 2
  | sysPerm => 3
  | sysTemp => 4

def ofCode? : Nat → Option Outcome
  | 0 => some ok
  | 1 => some auth
  | 2 => some sys
  | 3 => some sysPerm
  | 4 => some sysTemp
  | _ => none

/-- Whether the client is authenticated. -/
def isOk (o : Outcome) : Bool :=
  o == ok

def name : Outcome → String
  | ok => "Ok"
  | auth => "Auth"
  | sys => "Sys"
  | sysPerm => "SysPerm"
  | sysTemp => "SysTemp"

theorem ofCode?_eq_some_iff {n : Nat} {o : Outcome} : ofCode? n = some o ↔ o.code = n := by
  constructor
  · intro h
    unfold ofCode? at h
    split at h <;> cases h <;> rfl
  · rintro rfl
    cases o <;> rfl

end Outcome

end AmqpClient.Sasl
