import AmqpClient.Config.Settings
import AmqpClient.Sasl.Selection

/-!
# The handshake

The client's side of authentication. The peer offers mechanisms and the client chooses one; the peer
may then send challenges, and ends with an outcome. A frame that comes at another time is refused
and changes nothing.
-/

namespace AmqpClient.Sasl

open Text

inductive Phase where
  | awaiting
  | negotiating (chosen : Instance)
  | succeeded (chosen : Instance)
  /-- A handshake may fail before a mechanism is in use. -/
  | failed (chosen : Option Instance)

def Phase.name : Phase → String
  | awaiting => "AwaitingMechanisms"
  | negotiating _ => "Negotiating"
  | succeeded _ => "Succeeded"
  | failed _ => "Failed"

def Phase.mechanism? : Phase → Option Instance
  | awaiting => none
  | negotiating chosen => some chosen
  | succeeded chosen => some chosen
  | failed chosen => chosen

/-- The answer to an offer: the mechanism chosen, its initial response, and the host meant. -/
structure Init where
  mechanism : String
  initialResponse : Option (List UInt8)
  hostname : Option String
  deriving DecidableEq, Repr

structure Handshake where
  registry : Registry
  settings : Config.SaslSettings
  principal : Option Principal
  phase : Phase := .awaiting

namespace Handshake

/-- A handshake of a client that knows the usual mechanisms. -/
def new (settings : Config.SaslSettings) (principal : Option Principal) : Handshake :=
  { registry := .defaults, settings, principal }

def credentials (h : Handshake) : Credentials :=
  { username := h.settings.username, password := h.settings.password }

/-- What the choice of a mechanism depends on. -/
def situation (h : Handshake) : Situation where
  registry := h.registry
  credentials := h.credentials
  principal := h.principal
  restrictions := h.settings.restrictions

def isComplete (h : Handshake) : Bool :=
  match h.phase with
  | .succeeded _ | .failed _ => true
  | .awaiting | .negotiating _ => false

def succeeded (h : Handshake) : Bool :=
  match h.phase with
  | .succeeded _ => true
  | _ => false

/-- Chooses a mechanism, gives it the credentials, and takes it into use if it has an initial
response. -/
def onMechanisms (h : Handshake) (offered : List String) : Except Error Init × Handshake :=
  match h.phase with
  | .awaiting =>
    match h.situation.select offered with
    | none => (.error (.noMatch offered), { h with phase := .failed none })
    | some found =>
      match Instance.initialResponse { found with credentials := h.credentials } with
      | (.error e, _) => (.error e, { h with phase := .failed none })
      | (.ok response, chosen) =>
        (.ok ⟨chosen.mechanism.name, response, h.settings.hostname⟩,
          { h with phase := .negotiating chosen })
  | _ => (.error (.unexpected Frame.mechanisms.name), h)

/-- Answers a challenge by the mechanism in use. -/
def onChallenge (h : Handshake) (challenge : List UInt8) :
    Except Error (List UInt8) × Handshake :=
  match h.phase with
  | .negotiating chosen =>
    match chosen.challengeResponse challenge with
    | (.error e, chosen) => (.error e, { h with phase := .failed chosen })
    | (.ok response, chosen) => (.ok response, { h with phase := .negotiating chosen })
  | _ => (.error (.unexpected Frame.challenge.name), h)

/-- Takes note of the outcome. -/
def onOutcome (h : Handshake) (outcome : Outcome) : Except Error Unit × Handshake :=
  match h.phase with
  | .negotiating chosen =>
    if outcome.isOk then (.ok (), { h with phase := .succeeded chosen })
    else (.error (.rejected outcome), { h with phase := .failed chosen })
  | _ => (.error (.unexpected Frame.outcome.name), h)

/-- A handshake as it may be logged, with the restrictions in some order. -/
def describeIn (order : List String → List String) (h : Handshake) : String :=
  Diagnostic.record "SaslClientAuthenticator" [
    ("username", Diagnostic.optionalText h.settings.username),
    ("hostname", Diagnostic.optionalText h.settings.hostname),
    ("restrictions", Diagnostic.set ((order h.settings.restrictions).map quoted)),
    ("local_principal", Diagnostic.optional (h.principal.map (·.describe))),
    ("mechanism", Diagnostic.optionalText (h.phase.mechanism?.map (·.mechanism.name))),
    ("state", h.phase.name)]

def describe (h : Handshake) : String :=
  h.describeIn id

end Handshake

inductive Event where
  | mechanisms (offered : List String)
  | challenge (data : List UInt8)
  | outcome (outcome : Outcome)
  deriving DecidableEq, Repr

inductive Answer where
  | init (init : Init)
  | response (data : List UInt8)
  | done
  deriving DecidableEq, Repr

def Handshake.step (h : Handshake) : Event → Except Error Answer × Handshake
  | .mechanisms offered => (h.onMechanisms offered).map (·.map .init) id
  | .challenge data => (h.onChallenge data).map (·.map .response) id
  | .outcome outcome => (h.onOutcome outcome).map (·.map fun _ => .done) id

/-- Takes up events in order, and gives the answer to each. -/
def Handshake.run (h : Handshake) : List Event → List (Except Error Answer) × Handshake
  | [] => ([], h)
  | event :: rest =>
    let (answer, h) := h.step event
    let (answers, h) := h.run rest
    (answer :: answers, h)

end AmqpClient.Sasl
