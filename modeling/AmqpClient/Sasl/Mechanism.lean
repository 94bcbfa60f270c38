import AmqpClient.Sasl.Credentials
import AmqpClient.Sasl.Error
import AmqpClient.Sasl.Priority
import AmqpClient.Text.Utf8

/-!
# Mechanisms

A mechanism is a way to authenticate: when it can be used, what it sends first, and how it answers
challenges. The three that every client knows are defined here.
-/

namespace AmqpClient.Sasl

open Text

/-- What a mechanism holds: the credentials it has been given, and in octets whatever else it
keeps. -/
structure Holding where
  credentials : Credentials := {}
  memory : List UInt8 := []
  deriving DecidableEq, Repr

/-- A way to authenticate. Its responses depend on what it holds and may change that, also where
they fail; and they may fail with any error. -/
structure Mechanism where
  /-- The name on the wire. -/
  name : String
  priority : Priority
  /-- Whether there is all that it needs. -/
  isApplicable : Credentials → Option Principal → Bool
  /-- What is sent along with the choice of this mechanism, if anything is. -/
  initialResponse : Holding → Except Error (Option (List UInt8)) × Holding
  /-- The answer to a challenge. -/
  challengeResponse : Holding → List UInt8 → Except Error (List UInt8) × Holding
  /-- The mechanism with what it holds, as it may be logged. -/
  describe : Holding → String

/-- A mechanism in use. -/
structure Instance extends Holding where
  mechanism : Mechanism

namespace Instance

def display (i : Instance) : String :=
  "SASL-" ++ i.mechanism.name

def describe (i : Instance) : String :=
  i.mechanism.describe i.toHolding

def comparePriority (i j : Instance) : Ordering :=
  compare i.mechanism.priority j.mechanism.priority

/-- The initial response, and the mechanism after it. -/
def initialResponse (i : Instance) : Except Error (Option (List UInt8)) × Instance :=
  let response := i.mechanism.initialResponse i.toHolding
  (response.1, { i with toHolding := response.2 })

/-- The answer to a challenge, and the mechanism after it. -/
def challengeResponse (i : Instance) (challenge : List UInt8) :
    Except Error (List UInt8) × Instance :=
  let response := i.mechanism.challengeResponse i.toHolding challenge
  (response.1, { i with toHolding := response.2 })

end Instance

/-- The log entry of a mechanism that holds nothing but credentials. -/
def describeAs (label : String) (holding : Holding) : String :=
  Diagnostic.record label [("credentials", holding.credentials.describe)]

/-- `PLAIN` of RFC 4616: a username and a password in the clear, behind a zero octet each. -/
def plain : Mechanism where
  name := "PLAIN"
  priority := .lower
  isApplicable c _ := c.username.any (· != "") && c.password.any (· != "")
  initialResponse holding :=
    let username := holding.credentials.username.getD ""
    let password := holding.credentials.password.getD ""
    (.ok (some (0 :: Utf8.encode username ++ 0 :: Utf8.encode password)), holding)
  challengeResponse holding _ := (.ok [], holding)
  describe := describeAs "Plain"

/-- `ANONYMOUS` of RFC 4505: no identity at all. -/
def anonymous : Mechanism where
  name := "ANONYMOUS"
  priority := .lowest
  isApplicable _ _ := true
  initialResponse holding := (.ok (some []), holding)
  challengeResponse holding _ := (.ok [], holding)
  describe := describeAs "Anonymous"

/-- `EXTERNAL` of RFC 4422: the identity that the transport has established. -/
def external : Mechanism where
  name := "EXTERNAL"
  priority := .higher
  isApplicable _ principal := principal.isSome
  initialResponse holding := (.ok (some []), holding)
  challengeResponse holding _ := (.ok [], holding)
  describe := describeAs "External"

end AmqpClient.Sasl
