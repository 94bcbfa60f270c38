import AmqpClient.Text.Diagnostic
import AmqpClient.Text.NameList

/-!
# Settings

What an operator may set: how much is logged, and the credentials and mechanisms of the SASL
handshake.
-/

namespace AmqpClient.Config

open Text

/-- Credentials and policy of the SASL handshake. If `mechanisms` is not empty, no others may be
used. -/
structure SaslSettings where
  username : Option String := none
  password : Option String := none
  /-- The host name that is sent with the choice of a mechanism. -/
  hostname : Option String := none
  mechanisms : List String := []
  deriving DecidableEq, Repr

structure Settings where
  logLevel : Option String := some "info"
  sasl : SaslSettings := {}
  deriving DecidableEq, Repr

/-- The only mechanisms allowed, in order; none means that every mechanism is. -/
def SaslSettings.restrictions (s : SaslSettings) : List String :=
  sortedNames s.mechanisms

/-- The settings as they may be logged, with the password hidden. -/
def SaslSettings.describe (s : SaslSettings) : String :=
  Diagnostic.record "SaslConfig" [
    ("username", Diagnostic.optionalText s.username),
    ("password", Diagnostic.redacted s.password),
    ("hostname", Diagnostic.optionalText s.hostname),
    ("mechanisms", Diagnostic.list (s.mechanisms.map quoted))]

/-- All settings as they may be logged. -/
def Settings.describe (s : Settings) : String :=
  Diagnostic.record "ProtonConfig" [
    ("log_level", Diagnostic.optionalText s.logLevel),
    ("sasl", s.sasl.describe)]

end AmqpClient.Config
