import AmqpClient.Buffer.Writer
import Mathlib.Tactic.Lemma

/-!
# Access through views

A view fits a memory if its cursor is in order and its window lies within its region. For views
that fit, this file says exactly what each read and each write answers: the only failure left is
that too little remains, and a failure has changed nothing.
-/

namespace AmqpClient.Buffer

open Memory

/-- A view in order, whose window lies within its region. -/
structure View.Fits (v : View) (m : Memory) : Prop where
  ordered : v.cursor.Ordered
  exists_region : v.region < m.regions.length
  within : v.offset + v.cursor.capacity ≤ m.size v.region

/-- The octets from the position to the limit. -/
def View.ahead (v : View) (m : Memory) : List UInt8 :=
  ((m.content v.region).drop v.index).take v.cursor.remaining

def View.windowBytes (v : View) (m : Memory) : List UInt8 :=
  ((m.content v.region).drop v.offset).take v.cursor.capacity

def Cursor.skip (c : Cursor) (length : Nat) : Cursor :=
  { c with position := c.position + length }

def Reader.skip (r : Reader) (length : Nat) : Reader :=
  { r with cursor := r.cursor.skip length }

def Writer.skip (w : Writer) (length : Nat) : Writer :=
  { w with cursor := w.cursor.skip length }

lemma View.ahead_congr {v : View} {m m' : Memory} (h : m'.content v.region = m.content v.region) :
    v.ahead m' = v.ahead m := by
  rw [ahead, ahead, h]

namespace Cursor

lemma checkRemaining_eq (c : Cursor) (length : Nat) :
    c.checkRemaining length = if length ≤ c.remaining then .ok ()
      else .error (.outOfBounds c.position length c.limit) := by
  unfold checkRemaining
  by_cases h : length ≤ c.remaining
  · rw [if_pos h, if_neg (by omega)]
  · rw [if_neg h, if_pos (by omega)]

lemma advance_eq (c : Cursor) (length : Nat) :
    c.advance length = if length ≤ c.remaining then .ok (c.skip length)
      else .error (.outOfBounds c.position length c.limit) := by
  unfold advance
  rw [checkRemaining_eq]
  split <;> rfl

lemma Ordered.skip {c : Cursor} (hc : c.Ordered) {length : Nat} (h : length ≤ c.remaining) :
    (c.skip length).Ordered :=
  hc.advance (advance_eq_ok_iff.2 ⟨h, rfl⟩)

lemma remaining_skip (c : Cursor) (length : Nat) :
    (c.skip length).remaining = c.remaining - length := by
  simp only [remaining, skip]
  omega

end Cursor

namespace View.Fits

variable {v : View} {m : Memory}

lemma index_add_le (h : v.Fits m) {length : Nat} (hl : length ≤ v.cursor.remaining) :
    v.index + length ≤ m.size v.region := by
  have hp := h.ordered.position_le
  have hc := h.ordered.limit_le
  have hw := h.within
  unfold Cursor.remaining at hl
  unfold View.index
  omega

lemma length_ahead (h : v.Fits m) : (v.ahead m).length = v.cursor.remaining := by
  have hi := h.index_add_le (Nat.le_refl _)
  unfold size at hi
  rw [View.ahead, List.length_take, List.length_drop]
  omega

lemma length_le_remaining (h : v.Fits m) {front rest : List UInt8}
    (hahead : v.ahead m = front ++ rest) : front.length ≤ v.cursor.remaining := by
  rw [← h.length_ahead, hahead, List.length_append]
  exact Nat.le_add_right _ _

lemma content_eq (h : v.Fits m) : v.content m = .ok (v.windowBytes m) :=
  read_eq_ok_iff.2 ⟨h.within, rfl⟩

lemma remainingBytes_eq (h : v.Fits m) : v.remainingBytes m = .ok (v.ahead m) :=
  read_eq_ok_iff.2 ⟨h.index_add_le (Nat.le_refl _), rfl⟩

lemma read_eq (h : v.Fits m) {length : Nat} (hl : length ≤ v.cursor.remaining) :
    m.read v.region v.index length = .ok ((v.ahead m).take length) := by
  refine read_eq_ok_iff.2 ⟨h.index_add_le hl, ?_⟩
  rw [View.ahead, List.take_take, Nat.min_eq_left hl]

end View.Fits

namespace Reader

variable {r : Reader} {m : Memory}

lemma fits_skip (h : r.Fits m) {length : Nat} (hl : length ≤ r.cursor.remaining) :
    (r.skip length).Fits m :=
  ⟨h.ordered.skip hl, h.exists_region, h.within⟩

lemma ahead_skip (r : Reader) (m : Memory) (length : Nat) :
    (r.skip length).ahead m = (r.ahead m).drop length := by
  have hi : (r.skip length).index = r.index + length := Nat.add_assoc _ _ _ |>.symm
  rw [View.ahead, View.ahead, List.drop_take, List.drop_drop, hi]
  exact congrArg (List.take · _) (r.cursor.remaining_skip length)

/-- A read answers the octets ahead and moves past them, or fails for want of octets. -/
theorem take_eq (h : r.Fits m) (length : Nat) :
    r.take m length = if length ≤ r.cursor.remaining then
      .ok ((r.ahead m).take length, r.skip length)
      else .error (.outOfBounds r.cursor.position length r.cursor.limit) := by
  unfold take
  rw [Cursor.advance_eq]
  by_cases hl : length ≤ r.cursor.remaining
  · rw [if_pos hl, if_pos hl]
    have hread := h.read_eq hl
    simp only [bind, Except.bind, hread]
    rfl
  · rw [if_neg hl, if_neg hl]
    rfl

lemma takeScalar_eq (h : r.Fits m) (t : ScalarType) :
    r.takeScalar m t = if t.width ≤ r.cursor.remaining then
      .ok (.decode t ((r.ahead m).take t.width), r.skip t.width)
      else .error (.outOfBounds r.cursor.position t.width r.cursor.limit) := by
  unfold takeScalar
  rw [take_eq h]
  split <;> rfl

lemma byteAt_eq (h : r.Fits m) (index : Nat) :
    r.byteAt m index = if r.cursor.position ≤ index ∧ index < r.cursor.limit then
      .ok ((m.content r.region).getD (r.offset + index) 0)
      else .error (.outOfBounds index 1 r.cursor.limit) := by
  unfold byteAt Cursor.checkIndex
  by_cases hi : r.cursor.position ≤ index ∧ index < r.cursor.limit
  · have hlt : r.offset + index < (m.content r.region).length := by
      have hc := h.ordered.limit_le
      have hw := h.within
      unfold size at hw
      omega
    rw [if_pos hi, if_neg (by omega), List.getD_eq_getElem?_getD]
    simp only [bind, Except.bind, byte, List.getElem?_eq_getElem hlt, Option.getD_some]
  · rw [if_neg hi, if_pos (by omega)]
    rfl

lemma fillRange_eq (h : r.Fits m) (target : List UInt8) (offset length : Nat) :
    r.fillRange m target offset length =
      if target.length < offset + length then
        .error (.outOfBounds offset length target.length)
      else if length ≤ r.cursor.remaining then
        .ok (splice target offset ((r.ahead m).take length), r.skip length)
      else .error (.outOfBounds r.cursor.position length r.cursor.limit) := by
  unfold fillRange
  split
  · rfl
  · rw [take_eq h]
    split <;> rfl

lemma text_eq (h : r.Fits m) (encoding : Text.Encoding) :
    r.text m encoding = match encoding.decode (r.ahead m) with
      | .ok s => .ok (s, r.skip r.cursor.remaining)
      | .error e => .error (.notText e) := by
  unfold text
  rw [h.remainingBytes_eq, Cursor.advance_eq, if_pos (Nat.le_refl _)]
  simp only [bind, Except.bind]
  cases encoding.decode (r.ahead m) <;> rfl

lemma takeEach_eq (h : r.Fits m) {count : Nat} (hc : count ≤ r.cursor.remaining) :
    takeEach m count r = .ok ((r.ahead m).take count, r.skip count) := by
  induction count generalizing r with
  | zero => rfl
  | succ count ih =>
    have h1 : 1 ≤ r.cursor.remaining := by omega
    have hrest := ih (fits_skip h h1) (by
      have hs := r.cursor.remaining_skip 1
      change count ≤ (r.cursor.skip 1).remaining
      omega)
    have hskip : (r.skip 1).skip count = r.skip (count + 1) := by
      simp only [skip, Cursor.skip, Nat.add_assoc, Nat.add_comm 1]
    unfold takeEach
    rw [take_eq h, if_pos h1]
    simp only [bind, Except.bind, hrest, hskip, ahead_skip]
    rw [Nat.add_comm count 1, List.take_add]
    rfl

lemma drain_eq (h : r.Fits m) :
    r.drain m = .ok (r.ahead m, r.skip r.cursor.remaining) := by
  unfold drain
  rw [takeEach_eq h (Nat.le_refl _), List.take_of_length_le (Nat.le_of_eq h.length_ahead)]

lemma sameRemaining_eq {s : Reader} (hr : r.Fits m) (hs : s.Fits m) :
    r.sameRemaining s m = .ok (r.ahead m == s.ahead m) := by
  unfold sameRemaining
  rw [hr.remainingBytes_eq, hs.remainingBytes_eq]
  split
  · rfl
  · rename_i hne
    have hneq : r.ahead m ≠ s.ahead m := by
      intro he
      rw [← hr.length_ahead, ← hs.length_ahead, he] at hne
      exact hne rfl
    rw [beq_false_of_ne hneq]
    rfl

lemma fits_slice (h : r.Fits m) : r.slice.Fits m :=
  ⟨Cursor.ordered_new _, h.exists_region, h.index_add_le (Nat.le_refl _)⟩

end Reader

namespace Writer

variable {w : Writer} {m : Memory}

lemma fits_skip (h : w.Fits m) {length : Nat} (hl : length ≤ w.cursor.remaining) :
    (w.skip length).Fits m :=
  ⟨h.ordered.skip hl, h.exists_region, h.within⟩

/-- A write replaces the octets ahead and moves past them, or fails for want of room. -/
theorem run_put_eq (h : w.Fits m) (bytes : List UInt8) :
    (w.put bytes).run m = if bytes.length ≤ w.cursor.remaining then
      .ok (w.skip bytes.length) (m.replace w.region w.index bytes)
      else .error (.outOfBounds w.cursor.position bytes.length w.cursor.limit) m := by
  rw [run_put, Cursor.advance_eq]
  by_cases hl : bytes.length ≤ w.cursor.remaining
  · rw [if_pos hl, if_pos hl]
    have hw := write_eq_ok_iff.2 ⟨h.index_add_le hl, rfl⟩
    simp only [hw]
    rfl
  · rw [if_neg hl, if_neg hl]

lemma fits_toReader (h : w.Fits m) : w.toReader.Fits m :=
  ⟨Cursor.ordered_upTo (Nat.le_trans h.ordered.position_le h.ordered.limit_le), h.exists_region,
    h.within⟩

end Writer

/-- A transfer writes what was ahead of the reader and moves past it on both sides, or fails for
want of room. -/
theorem run_transfer_eq {r : Reader} {w : Writer} {m : Memory} (hr : r.Fits m) (hw : w.Fits m) :
    (transfer r w).run m = if r.cursor.remaining ≤ w.cursor.remaining then
      .ok (r.skip r.cursor.remaining, w.skip r.cursor.remaining)
        (m.replace w.region w.index (r.ahead m))
      else .error (.outOfBounds w.cursor.position r.cursor.remaining w.cursor.limit) m := by
  unfold transfer
  simp only [Cursor.checkRemaining_eq, Cursor.advance_eq, if_pos (Nat.le_refl _)]
  by_cases hl : r.cursor.remaining ≤ w.cursor.remaining
  · have hread : m.read r.region r.index r.cursor.remaining = .ok (r.ahead m) :=
      hr.remainingBytes_eq
    have hwrite : m.write w.region w.index (r.ahead m) =
        .ok (m.replace w.region w.index (r.ahead m)) := by
      refine write_eq_ok_iff.2 ⟨hw.index_add_le ?_, rfl⟩
      rw [hr.length_ahead]
      exact hl
    simp only [if_pos hl, EStateM.run_bind, Effect.run_ofExcept_ok, Effect.run_read,
      Effect.run_write, hread, hwrite]
    rfl
  · simp only [if_neg hl]
    rfl

end AmqpClient.Buffer
