import AmqpClient.Config.Settings
import AmqpClient.Text.Blank

/-!
# Validation

Settings that no handshake could use are refused.
-/

namespace AmqpClient.Config

open Text

/-- What is wrong with settings. -/
inductive Flaw where
  | passwordWithoutUsername
  | blankMechanism (name : String)
  deriving DecidableEq, Repr

/-- What is said about a flaw. -/
def Flaw.message : Flaw → String
  | .passwordWithoutUsername => "password given without username"
  | .blankMechanism name => "blank mechanism name " ++ quoted name

/-- The first flaw of settings: a password without a username, then the first blank mechanism. -/
def SaslSettings.flaw? (s : SaslSettings) : Option Flaw :=
  if s.password.isSome && s.username.isNone then some .passwordWithoutUsername
  else (s.mechanisms.find? isBlank).map .blankMechanism

/-- Accepts settings that have no flaw. -/
def SaslSettings.validate (s : SaslSettings) : Except Flaw Unit :=
  match s.flaw? with
  | some flaw => .error flaw
  | none => .ok ()

end AmqpClient.Config
