import AmqpClient.Buffer.Fault

/-!
# Cursors

Where a buffer stands: a position, a limit that it may not pass, a capacity that the limit may not
pass, and perhaps a mark to go back to. All four keep their order, mark, position, limit, capacity.
-/

namespace AmqpClient.Buffer

/-- Where a buffer stands. -/
structure Cursor where
  position : Nat
  limit : Nat
  capacity : Nat
  mark : Option Nat
  deriving DecidableEq, Repr

namespace Cursor

/-- At the start of a window that may be used up to a limit. -/
def upTo (limit capacity : Nat) : Cursor :=
  ⟨0, limit, capacity, none⟩

def new (capacity : Nat) : Cursor :=
  upTo capacity capacity

/-- What lies between the position and the limit. -/
def remaining (c : Cursor) : Nat :=
  c.limit - c.position

structure Ordered (c : Cursor) : Prop where
  mark_le : ∀ m ∈ c.mark, m ≤ c.position
  position_le : c.position ≤ c.limit
  limit_le : c.limit ≤ c.capacity

/-- A mark that the position has not passed backwards. -/
def markUpTo (position : Nat) (mark : Option Nat) : Option Nat :=
  mark.filter (· ≤ position)

/-- Moves to a position up to the limit. A mark behind it is lost. -/
def setPosition (c : Cursor) (position : Nat) : Except Fault Cursor :=
  if c.limit < position then .error (.outOfBounds position 0 c.limit)
  else .ok { c with position, mark := markUpTo position c.mark }

/-- Sets a limit up to the capacity. The position gives way to it, and a mark behind it is lost. -/
def setLimit (c : Cursor) (limit : Nat) : Except Fault Cursor :=
  if c.capacity < limit then .error (.outOfBounds limit 0 c.capacity)
  else
    let position := min c.position limit
    .ok { c with position, limit, mark := markUpTo position c.mark }

def setMark (c : Cursor) : Cursor :=
  { c with mark := some c.position }

/-- Goes back to the mark, which stays. -/
def reset (c : Cursor) : Except Fault Cursor :=
  match c.mark with
  | some m => .ok { c with position := m }
  | none => .error .noMark

/-- Goes back to the start, without a mark. -/
def rewind (c : Cursor) : Cursor :=
  { c with position := 0, mark := none }

/-- Makes the whole window available, from its start and without a mark. -/
def clear (c : Cursor) : Cursor :=
  new c.capacity

/-- Makes the position the limit, and goes back to the mark or the start. -/
def flip (c : Cursor) : Cursor :=
  { c with limit := c.position, position := c.mark.getD 0 }

/-- Fails if less than so much remains. -/
def checkRemaining (c : Cursor) (length : Nat) : Except Fault Unit :=
  if c.remaining < length then .error (.outOfBounds c.position length c.limit) else .ok ()

/-- Fails if an index does not lie between the position and the limit. -/
def checkIndex (c : Cursor) (index : Nat) : Except Fault Unit :=
  if index < c.position ∨ c.limit ≤ index then .error (.outOfBounds index 1 c.limit) else .ok ()

def advance (c : Cursor) (length : Nat) : Except Fault Cursor := do
  c.checkRemaining length
  return { c with position := c.position + length }

theorem ordered_upTo {limit capacity : Nat} (h : limit ≤ capacity) :
    (upTo limit capacity).Ordered :=
  ⟨by simp [upTo], Nat.zero_le _, h⟩

theorem ordered_new (capacity : Nat) : (new capacity).Ordered :=
  ordered_upTo (Nat.le_refl _)

theorem le_of_mem_markUpTo {position m : Nat} {mark : Option Nat} (h : m ∈ markUpTo position mark) :
    m ≤ position := by
  obtain ⟨_, hm⟩ := Option.filter_eq_some_iff.1 h
  simpa using hm

theorem Ordered.setPosition {c d : Cursor} (hc : c.Ordered) {position : Nat}
    (h : c.setPosition position = .ok d) : d.Ordered := by
  unfold Cursor.setPosition at h
  split at h
  · cases h
  · rename_i hle
    cases h
    exact ⟨fun m hm => le_of_mem_markUpTo hm, Nat.le_of_not_lt hle, hc.limit_le⟩

theorem ordered_setLimit {c d : Cursor} {limit : Nat} (h : c.setLimit limit = .ok d) :
    d.Ordered := by
  unfold Cursor.setLimit at h
  split at h
  · cases h
  · rename_i hle
    cases h
    exact ⟨fun m hm => le_of_mem_markUpTo hm, Nat.min_le_right _ _, Nat.le_of_not_lt hle⟩

theorem Ordered.setMark {c : Cursor} (hc : c.Ordered) : c.setMark.Ordered :=
  ⟨by simp [Cursor.setMark], hc.position_le, hc.limit_le⟩

theorem Ordered.reset {c d : Cursor} (hc : c.Ordered) (h : c.reset = .ok d) : d.Ordered := by
  unfold Cursor.reset at h
  split at h
  · rename_i m hm
    cases h
    refine ⟨fun n hn => ?_, Nat.le_trans (hc.mark_le m hm) hc.position_le, hc.limit_le⟩
    simp_all
  · cases h

theorem Ordered.rewind {c : Cursor} (hc : c.Ordered) : c.rewind.Ordered :=
  ⟨by simp [Cursor.rewind], Nat.zero_le _, hc.limit_le⟩

theorem ordered_clear (c : Cursor) : c.clear.Ordered :=
  ordered_new c.capacity

theorem Ordered.flip {c : Cursor} (hc : c.Ordered) : c.flip.Ordered := by
  refine ⟨fun m hm => ?_, ?_, Nat.le_trans hc.position_le hc.limit_le⟩
  · have h : c.mark = some m := hm
    simp [Cursor.flip, h]
  · cases h : c.mark with
    | none => simp [Cursor.flip, h]
    | some m => simpa [Cursor.flip, h] using hc.mark_le m h

theorem advance_eq_ok_iff {c d : Cursor} {length : Nat} :
    c.advance length = .ok d ↔
      length ≤ c.remaining ∧ d = { c with position := c.position + length } := by
  unfold advance checkRemaining
  split
  · rename_i h
    constructor
    · rintro ⟨⟩
    · intro ⟨hle, _⟩
      omega
  · rename_i h
    constructor
    · rintro ⟨⟩
      exact ⟨by omega, rfl⟩
    · rintro ⟨_, rfl⟩
      rfl

theorem Ordered.advance {c d : Cursor} (hc : c.Ordered) {length : Nat}
    (h : c.advance length = .ok d) : d.Ordered := by
  obtain ⟨hle, rfl⟩ := advance_eq_ok_iff.1 h
  have hp := hc.position_le
  unfold remaining at hle
  exact ⟨fun m hm => Nat.le_trans (hc.mark_le m hm) (Nat.le_add_right _ _), by simp only; omega,
    hc.limit_le⟩

end Cursor

end AmqpClient.Buffer
