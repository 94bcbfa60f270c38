import AmqpClient.Sasl.Outcome
import AmqpClient.Text.Diagnostic

/-!
# Failures of authentication

Why a handshake or the setting up of one can fail.
-/

namespace AmqpClient.Sasl

open Text

/-- The frames that the peer sends in a handshake. -/
inductive Frame where
  | mechanisms
  | challenge
  | outcome
  deriving DecidableEq, Repr

def Frame.name : Frame → String
  | .mechanisms => "sasl-mechanisms"
  | .challenge => "sasl-challenge"
  | .outcome => "sasl-outcome"

/-- Why authentication fails. -/
inductive Error where
  /-- A mechanism has no response, and gives the reason. -/
  | noResponse (mechanism reason : String)
  /-- No mechanism on offer is known, allowed and applicable. -/
  | noMatch (offered : List String)
  | rejected (outcome : Outcome)
  | duplicate (name : String)
  /-- An event, which for a handshake is the name of a frame, came at a time when it may not. -/
  | unexpected (event : String)
  deriving DecidableEq, Repr

def Error.message : Error → String
  | .noResponse mechanism reason => "SASL-" ++ mechanism ++ ": " ++ reason
  | .noMatch offered =>
    "No matching SASL mechanism among " ++ Diagnostic.list (offered.map quoted)
  | .rejected outcome => "Authentication failed: " ++ outcome.name
  | .duplicate name => "Mechanism " ++ name ++ " already registered"
  | .unexpected event => "Unexpected SASL event: " ++ event

end AmqpClient.Sasl
