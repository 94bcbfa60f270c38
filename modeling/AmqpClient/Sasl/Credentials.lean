import AmqpClient.Text.Diagnostic

/-!
# Identities

What a client can prove itself with: a username and a password, or the identity that the transport
has established already.
-/

namespace AmqpClient.Sasl

open Text

/-- A username and a password, each of which may be missing. -/
structure Credentials where
  username : Option String := none
  password : Option String := none
  deriving DecidableEq, Repr

/-- Credentials as they may be logged, with the password hidden. -/
def Credentials.describe (c : Credentials) : String :=
  Diagnostic.record "Credentials" [
    ("username", Diagnostic.optionalText c.username),
    ("password", Diagnostic.redacted c.password)]

/-- The identity of this end of the transport, such as the subject of its certificate. -/
structure Principal where
  name : String
  deriving DecidableEq, Repr

/-- A principal as it may be logged. -/
def Principal.describe (p : Principal) : String :=
  Diagnostic.record "LocalPrincipal" [("name", quoted p.name)]

end AmqpClient.Sasl
