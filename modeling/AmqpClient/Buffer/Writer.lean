import AmqpClient.Buffer.Reader

/-!
# Writers

Views that are written from the position on. A write that does not fit before the limit fails and
writes nothing.
-/

namespace AmqpClient.Buffer

structure Writer extends View
  deriving DecidableEq, Repr

namespace Writer

/-- Writes octets and moves past them. -/
def put (w : Writer) (bytes : List UInt8) : Effect Writer := do
  let cursor ← .ofExcept (w.cursor.advance bytes.length)
  Effect.write w.region w.index bytes
  return { w with cursor }

theorem run_put (w : Writer) (bytes : List UInt8) (m : Memory) :
    (w.put bytes).run m = match w.cursor.advance bytes.length with
      | .error f => .error f m
      | .ok cursor => match m.write w.region w.index bytes with
        | .error f => .error f m
        | .ok after => .ok { w with cursor } after := by
  unfold put
  rw [EStateM.run_bind]
  cases w.cursor.advance bytes.length with
  | error f => rfl
  | ok cursor =>
    simp only [Effect.run_ofExcept_ok]
    rw [EStateM.run_bind, Effect.run_write]
    cases m.write w.region w.index bytes <;> rfl

def putScalar (w : Writer) (s : Scalar) : Effect Writer :=
  w.put s.encode

def putText (w : Writer) (s : String) : Effect Writer :=
  w.put (Text.Utf8.encode s)

/-- A reader of what has been written since the start of the window. -/
def toReader (w : Writer) : Reader :=
  ⟨w.region, w.offset, .upTo w.cursor.position w.cursor.capacity⟩

def describe (w : Writer) (m : Memory) : String :=
  w.toView.describe "WritableBuffer" m

end Writer

/-- Writes all that remains in a reader to a writer, and moves past it in both. What is written is
what remained before, even if both lie over the same octets. -/
def transfer (r : Reader) (w : Writer) : Effect (Reader × Writer) := do
  let length := r.cursor.remaining
  .ofExcept (w.cursor.checkRemaining length)
  let bytes ← Effect.read r.region r.index length
  Effect.write w.region w.index bytes
  let source ← .ofExcept (r.cursor.advance length)
  let target ← .ofExcept (w.cursor.advance length)
  return ({ r with cursor := source }, { w with cursor := target })

end AmqpClient.Buffer
