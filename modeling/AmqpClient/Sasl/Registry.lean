import AmqpClient.Sasl.Mechanism

/-!
# The registry

The mechanisms that a client knows, by name. A name is taken once and for all; case matters.
-/

namespace AmqpClient.Sasl

open Text

/-- The mechanisms that a client knows, in the order of their names. -/
structure Registry where
  entries : List (String × Mechanism) := []

namespace Registry

/-- Puts an entry in its place among others in order. The name must be new. -/
def insertEntry (name : String) (m : Mechanism) :
    List (String × Mechanism) → List (String × Mechanism)
  | [] => [(name, m)]
  | first :: rest =>
    if name < first.1 then (name, m) :: first :: rest else first :: insertEntry name m rest

def contains (r : Registry) (name : String) : Bool :=
  (r.entries.lookup name).isSome

/-- Adds a mechanism under a name that is not taken. -/
def register (r : Registry) (name : String) (m : Mechanism) : Except Error Registry :=
  if r.contains name then .error (.duplicate name) else .ok ⟨insertEntry name m r.entries⟩

/-- The mechanism under a name. The empty name finds nothing, even if it is taken. -/
def find? (r : Registry) (name : String) : Option Mechanism :=
  if name = "" then none else r.entries.lookup name

/-- The mechanism under a name, ready for use and without credentials. -/
def create? (r : Registry) (name : String) : Option Instance :=
  (r.find? name).map ({ mechanism := · })

def names (r : Registry) : List String :=
  r.entries.map (·.1)

def describe (r : Registry) : String :=
  Diagnostic.list (r.names.map quoted)

def empty : Registry := {}

/-- The mechanisms that every client knows. -/
def defaults : Registry :=
  ⟨insertEntry "EXTERNAL" external (insertEntry "ANONYMOUS" anonymous
    (insertEntry "PLAIN" plain []))⟩

end Registry

end AmqpClient.Sasl
