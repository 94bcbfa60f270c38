import AmqpClient.Proofs.MemorySplice
import AmqpClient.Proofs.WorkspaceRun
import Mathlib.Data.List.Forall2

/-!
# Reading back what was written

However many writes fail for want of room, those that succeed leave their octets one after another
from the position on, and nothing else changes. So a reader of what has been written, moved to where
the writing began, reads the same data again and ends at its limit.
-/

namespace AmqpClient.Buffer

/-- What is written in one piece and read in one piece. -/
inductive Datum where
  | scalar (s : Scalar)
  | block (bytes : List UInt8)
  deriving DecidableEq, Repr

namespace Datum

def octets : Datum → List UInt8
  | scalar s => s.encode
  | block bytes => bytes

def write (writer : String) : Datum → Operation
  | scalar s => .put writer s
  | block bytes => .putBytes writer bytes

/-- The operation reads a datum of the kind: a scalar of its type, octets into a target of their
length. -/
inductive ReadBy (reader : String) : Datum → Operation → Prop where
  | scalar (s : Scalar) : ReadBy reader (scalar s) (.take reader s.type)
  | block (bytes target : List UInt8) (h : target.length = bytes.length) :
    ReadBy reader (block bytes) (.fill reader target)

def reply : Datum → Reply
  | scalar s => .done (.scalar s)
  | block bytes => .done (.filled none bytes)

/-- The data whose writes succeeded. -/
def accepted (data : List Datum) (replies : List Reply) : List Datum :=
  ((data.zip replies).filter (·.2 = .done .nothing)).map (·.1)

lemma accepted_cons (d : Datum) (data : List Datum) (reply : Reply) (replies : List Reply) :
    accepted (d :: data) (reply :: replies) =
      if reply = .done .nothing then d :: accepted data replies else accepted data replies := by
  unfold accepted
  rw [List.zip_cons_cons, List.filter_cons]
  by_cases h : reply = .done .nothing
  · rw [if_pos (by simp [h]), if_pos h, List.map_cons]
  · rw [if_neg (by simp [h]), if_neg h]

end Datum

lemma Writer.index_skip (w : Writer) (length : Nat) : (w.skip length).index = w.index + length :=
  (Nat.add_assoc _ _ _).symm

lemma Writer.skip_skip (w : Writer) (first second : Nat) :
    (w.skip first).skip second = w.skip (first + second) := by
  simp only [skip, Cursor.skip, Nat.add_assoc]

/-- A reader of what has been written from a position on. -/
def Writer.readerFrom (w : Writer) (position : Nat) : Reader :=
  ⟨w.region, w.offset, ⟨position, w.cursor.position, w.cursor.capacity, none⟩⟩

lemma Writer.fits_readerFrom {w : Writer} {m : Memory} (h : w.Fits m) {position : Nat}
    (hp : position ≤ w.cursor.position) : (w.readerFrom position).Fits m :=
  ⟨⟨by simp [readerFrom], hp, Nat.le_trans h.ordered.position_le h.ordered.limit_le⟩,
    h.exists_region, h.within⟩

namespace Workspace

variable {ws after : Workspace} {name : String} {w : Writer} {r : Reader}

/-- What writes have done that came to `bytes` in all. -/
structure Written (ws : Workspace) (name : String) (w : Writer) (bytes : List UInt8)
    (after : Workspace) : Prop where
  fits : bytes.length ≤ w.cursor.remaining
  found : after.find? name = some (.writer (w.skip bytes.length))
  memory_eq : after.memory = ws.memory.replace w.region w.index bytes

lemma step_write (h : ws.Valid) (hw : ws.find? name = some (.writer w)) (d : Datum) :
    ws.step (d.write name) = if d.octets.length ≤ w.cursor.remaining then
      (.done .nothing, { ws with memory := ws.memory.replace w.region w.index d.octets }.bind name
        (.writer (w.skip d.octets.length)))
      else (.failed (.outOfBounds w.cursor.position d.octets.length w.cursor.limit), ws) := by
  have hput : ws.step (d.write name) = ws.writeTo name fun w => w.put d.octets := by
    cases d <;> rfl
  rw [hput, step_writeTo h hw]

lemma written_nil (hw : ws.find? name = some (.writer w)) : ws.Written name w [] ws :=
  ⟨Nat.zero_le _, hw, (Memory.replace_nil ..).symm⟩

lemma Written.cons {first rest : List UInt8} {next : Workspace} (hw : w.Fits ws.memory)
    (hl : first.length ≤ w.cursor.remaining)
    (hnext : next.memory = ws.memory.replace w.region w.index first)
    (h : next.Written name (w.skip first.length) rest after) :
    ws.Written name w (first ++ rest) after := by
  refine ⟨?_, ?_, ?_⟩
  · have hrest : rest.length ≤ (w.cursor.skip first.length).remaining := h.fits
    rw [Cursor.remaining_skip] at hrest
    rw [List.length_append]
    omega
  · rw [h.found, Writer.skip_skip, List.length_append]
  · rw [h.memory_eq, hnext, Writer.index_skip]
    exact Memory.replace_replace (hw.index_add_le hl) rest

lemma Written.getElem?_content (hw : w.Fits ws.memory) {bytes : List UInt8}
    (h : ws.Written name w bytes after) {id : RegionId} {i : Nat}
    (hi : id ≠ w.region ∨ i < w.index ∨ w.index + bytes.length ≤ i) :
    (after.memory.content id)[i]? = (ws.memory.content id)[i]? := by
  have hroom := hw.index_add_le h.fits
  rw [h.memory_eq, Memory.content_replace hroom]
  by_cases hid : id = w.region
  · subst hid
    rw [if_pos rfl, Memory.getElem?_splice hroom (hi.resolve_left fun hne => hne rfl)]
  · rw [if_neg hid]

/-- What has been written can be found where it was written. -/
lemma Written.content_slice (hw : w.Fits ws.memory) {bytes : List UInt8}
    (h : ws.Written name w bytes after) :
    ((after.memory.content w.region).drop w.index).take bytes.length = bytes := by
  have hroom := hw.index_add_le h.fits
  rw [h.memory_eq, Memory.content_replace hroom, if_pos rfl]
  exact Memory.take_drop_splice (Nat.le_trans (Nat.le_add_right _ _) hroom) bytes

lemma Written.ahead_readerFrom (hw : w.Fits ws.memory) {bytes : List UInt8}
    (h : ws.Written name w bytes after) :
    ((w.skip bytes.length).readerFrom w.cursor.position).ahead after.memory = bytes := by
  have hremaining : ((w.skip bytes.length).readerFrom w.cursor.position).cursor.remaining =
      bytes.length := Nat.add_sub_cancel_left ..
  rw [View.ahead, hremaining]
  exact h.content_slice hw

lemma run_write (h : ws.Valid) (hw : ws.find? name = some (.writer w)) (data : List Datum) :
    ws.Written name w
      ((Datum.accepted data (ws.run (data.map (Datum.write name))).1).flatMap Datum.octets)
      (ws.run (data.map (Datum.write name))).2 := by
  induction data generalizing ws w with
  | nil => exact written_nil hw
  | cons d data ih =>
    have hvalid := (step_sound h (d.write name)).valid
    rw [List.map_cons, run_cons, Datum.accepted_cons]
    rw [step_write h hw] at hvalid ⊢
    by_cases hl : d.octets.length ≤ w.cursor.remaining
    · simp only [if_pos hl] at hvalid ⊢
      rw [if_pos trivial, List.flatMap_cons]
      exact Written.cons (h name (.writer w) hw) hl rfl (ih hvalid (by simp))
    · -- a write that fails has changed nothing, so the others go on from the same workspace
      simp only [if_neg hl]
      rw [if_neg Reply.noConfusion]
      exact ih h hw

/-- Each write succeeds, or lacks room where the writes before it have ended. -/
lemma reply_write (h : ws.Valid) (hw : ws.find? name = some (.writer w)) (data : List Datum) :
    List.Forall₂ (fun d reply => reply = .done .nothing ∨ ∃ position,
        reply = .failed (.outOfBounds position d.octets.length w.cursor.limit) ∧
        position ≤ w.cursor.position + ((Datum.accepted data
          (ws.run (data.map (Datum.write name))).1).flatMap Datum.octets).length ∧
        w.cursor.limit < position + d.octets.length)
      data (ws.run (data.map (Datum.write name))).1 := by
  induction data generalizing ws w with
  | nil => exact .nil
  | cons d data ih =>
    have hvalid := (step_sound h (d.write name)).valid
    have hp := (h name (.writer w) hw : w.Fits ws.memory).ordered.position_le
    rw [List.map_cons, run_cons, Datum.accepted_cons]
    rw [step_write h hw] at hvalid ⊢
    by_cases hl : d.octets.length ≤ w.cursor.remaining
    · simp only [if_pos hl] at hvalid ⊢
      rw [if_pos trivial, List.flatMap_cons, List.length_append]
      refine .cons (.inl rfl) ((ih (w := w.skip d.octets.length) hvalid (by simp)).imp ?_)
      rintro e reply (hdone | ⟨position, hreply, hle, hlt⟩)
      · exact .inl hdone
      · have hskip : (w.skip d.octets.length).cursor.position =
            w.cursor.position + d.octets.length := rfl
        exact .inr ⟨position, hreply, by omega, hlt⟩
    · have hlt : w.cursor.limit < w.cursor.position + d.octets.length := by
        unfold Cursor.remaining at hl
        omega
      simp only [if_neg hl]
      rw [if_neg Reply.noConfusion]
      exact .cons (.inr ⟨w.cursor.position, rfl, Nat.le_add_right _ _, hlt⟩) (ih h hw)

lemma step_read (hr : ws.find? name = some (.reader r)) (hfits : r.Fits ws.memory) {d : Datum}
    {op : Operation} (hop : d.ReadBy name op) {rest : List UInt8}
    (hahead : r.ahead ws.memory = d.octets ++ rest) :
    ws.step op = (d.reply, ws.bind name (.reader (r.skip d.octets.length))) := by
  have hl := hfits.length_le_remaining hahead
  have htake : (r.ahead ws.memory).take d.octets.length = d.octets := by
    rw [hahead, List.take_left]
  cases hop with
  | scalar s =>
    have hwidth : (Datum.scalar s).octets.length = s.type.width := s.length_encode
    rw [hwidth] at hl htake ⊢
    rw [step, readFrom, hr]
    simp only [Reader.takeScalar_eq hfits, if_pos hl, htake, Except.map]
    exact congrArg (fun s => (Reply.done (.scalar s), _)) s.decode_encode
  | block bytes target htarget =>
    change bytes.length ≤ r.cursor.remaining at hl
    rw [step, fillFrom, hr]
    simp only [Reader.fill, Reader.take_eq hfits, htarget, if_pos hl]
    change (r.ahead ws.memory).take bytes.length = bytes at htake
    rw [htake]
    rfl

lemma run_read (hr : ws.find? name = some (.reader r)) (hfits : r.Fits ws.memory)
    {data : List Datum} {reads : List Operation}
    (hreads : List.Forall₂ (Datum.ReadBy name) data reads)
    (hahead : r.ahead ws.memory = data.flatMap Datum.octets) :
    (ws.run reads).1 = data.map Datum.reply ∧
      ∃ r, (ws.run reads).2.find? name = some (.reader r) ∧ r.cursor.remaining = 0 := by
  induction hreads generalizing ws r with
  | nil =>
    refine ⟨rfl, r, hr, ?_⟩
    rw [← hfits.length_ahead, hahead]
    rfl
  | @cons d op data reads hop _ ih =>
    rw [List.flatMap_cons] at hahead
    have hl := hfits.length_le_remaining hahead
    have hrest : (r.skip d.octets.length).ahead ws.memory = data.flatMap Datum.octets := by
      rw [Reader.ahead_skip, hahead, List.drop_left]
    rw [run_cons, step_read hr hfits hop hahead]
    have hfind : (ws.bind name (.reader (r.skip d.octets.length))).find? name =
        some (.reader (r.skip d.octets.length)) := by simp
    obtain ⟨hreplies, last, hlast, hend⟩ := ih hfind (Reader.fits_skip hfits hl) hrest
    exact ⟨by rw [hreplies, List.map_cons], last, hlast, hend⟩

lemma run_readerFrom (reader : String) {writer : String} (hw : ws.find? writer = some (.writer w))
    {make : String → String → Operation} (hmake : make = .toReader ∨ make = .intoReader)
    {position : Nat} (hp : position ≤ w.cursor.position) :
    ∃ after, ws.run [make reader writer, .move reader (.setPosition position)] =
        ([.done .nothing, .done .nothing], after) ∧
      after.memory = ws.memory ∧
      after.find? reader = some (.reader (w.readerFrom position)) := by
  obtain ⟨made, hstep, hmemory, hfind⟩ : ∃ made, ws.step (make reader writer) =
      (.done .nothing, made) ∧ made.memory = ws.memory ∧
        made.find? reader = some (.reader w.toReader) := by
    rcases hmake with rfl | rfl
    · refine ⟨ws.bind reader (.reader w.toReader), ?_, rfl, by simp⟩
      rw [step, derive, hw]
      rfl
    · refine ⟨(ws.forget writer).bind reader (.reader w.toReader), ?_, rfl, by simp⟩
      rw [step, intoReader, hw]
  have hmove : made.step (.move reader (.setPosition position)) =
      (.done .nothing, made.bind reader (.reader (w.readerFrom position))) := by
    have hset : w.toReader.cursor.setPosition position = .ok (w.readerFrom position).cursor :=
      if_neg (Nat.not_lt.2 hp)
    rw [step, moveView, hfind]
    simp only [Object.view?, Move.apply, hset]
    rfl
  refine ⟨made.bind reader (.reader (w.readerFrom position)), ?_, hmemory, by simp⟩
  rw [run_cons, hstep, run_cons, hmove]
  rfl

/-- After any writes with any writer there is, each of which has succeeded or has lacked room up to
the limit, the writer has moved past the data that were accepted, and no octet has changed before
its old position, from its new position on, or in another region. A reader that is made of the
writer and moved back to the old position replies the accepted data in order, and then nothing
remains. -/
theorem run_write_read (setup : List Operation) (data : List Datum) {writer : String} {w : Writer}
    (hw : (run {} setup).2.find? writer = some (.writer w)) :
    let before := (run {} setup).2
    let written := before.run (data.map (Datum.write writer))
    let kept := Datum.accepted data written.1
    let length := (kept.flatMap Datum.octets).length
    List.Forall₂ (fun d reply => reply = .done .nothing ∨ ∃ position,
      reply = .failed (.outOfBounds position d.octets.length w.cursor.limit) ∧
      position ≤ w.cursor.position + length ∧
      w.cursor.limit < position + d.octets.length) data written.1 ∧
    written.2.find? writer = some (.writer (w.skip length)) ∧
    (∀ id i, id ≠ w.region ∨ i < w.index ∨ w.index + length ≤ i →
      (written.2.memory.content id)[i]? = (before.memory.content id)[i]?) ∧
    ∀ (reader : String) (make : String → String → Operation) (reads : List Operation),
      make = .toReader ∨ make = .intoReader → List.Forall₂ (Datum.ReadBy reader) kept reads →
      let moved := written.2.run [make reader writer, .move reader (.setPosition w.cursor.position)]
      moved.1 = [.done .nothing, .done .nothing] ∧
        (moved.2.run reads).1 = kept.map Datum.reply ∧
        ∃ r, (moved.2.run reads).2.find? reader = some (.reader r) ∧ r.cursor.remaining = 0 := by
  have hvalid := run_valid valid_empty setup
  have hfits : w.Fits (run {} setup).2.memory := hvalid writer (.writer w) hw
  have hwritten := run_write hvalid hw data
  intro before written kept length
  refine ⟨reply_write hvalid hw data, hwritten.found, fun id i => hwritten.getElem?_content hfits,
    ?_⟩
  intro reader make reads hmake hreads
  have hskip : (w.skip length).Fits written.2.memory :=
    run_valid hvalid _ writer (.writer (w.skip length)) hwritten.found
  have hp : w.cursor.position ≤ (w.skip length).cursor.position := Nat.le_add_right _ _
  obtain ⟨after, hrun, hmemory, hfind⟩ := run_readerFrom reader hwritten.found hmake hp
  have hreader := Writer.fits_readerFrom hskip hp
  have hahead := hwritten.ahead_readerFrom hfits
  rw [← hmemory] at hreader hahead
  intro moved
  have hmoved : moved = ([.done .nothing, .done .nothing], after) := hrun
  rw [hmoved]
  exact ⟨rfl, run_read hfind hreader hreads hahead⟩

/-- A writer of six octets with room from the second to the fifth. -/
def partialRoom : List Operation :=
  [.make "writer" .writer .direct [0, 0, 0, 0, 0, 0], .move "writer" (.setPosition 1),
    .move "writer" (.setLimit 5)]

/-- The second of three writes lacks room, the first and the third are read back. -/
theorem run_write_read_partialRoom :
    (run {} partialRoom).2.find? "writer" = some (.writer ⟨0, 0, ⟨1, 5, 6, none⟩⟩) ∧
      let written := (run {} partialRoom).2.run
        ([Datum.scalar (.short (-2)), .scalar (.long 0), .block [7]].map (Datum.write "writer"))
      let moved := written.2.run [.toReader "reader" "writer", .move "reader" (.setPosition 1)]
      (moved.2.run [.take "reader" .short, .fill "reader" [0]]).1 =
        [.done (.scalar (.short (-2))), .done (.filled none [7])] := by
  have hw : (run {} partialRoom).2.find? "writer" =
      some (.writer ⟨0, 0, ⟨1, 5, 6, none⟩⟩) := by decide
  refine ⟨hw, ?_⟩
  intro written moved
  have hkept : Datum.accepted [.scalar (.short (-2)), .scalar (.long 0), .block [7]] written.1 =
      [.scalar (.short (-2)), .block [7]] := by decide +kernel
  obtain ⟨-, -, -, hread⟩ :=
    run_write_read partialRoom [.scalar (.short (-2)), .scalar (.long 0), .block [7]] hw
  have hreads : List.Forall₂ (Datum.ReadBy "reader")
      (Datum.accepted [.scalar (.short (-2)), .scalar (.long 0), .block [7]] written.1)
      [.take "reader" .short, .fill "reader" [0]] := by
    rw [hkept]
    exact .cons (.scalar (.short (-2))) (.cons (.block [7] [0] rfl) .nil)
  have hreplies := (hread "reader" .toReader _ (.inl rfl) hreads).2.1
  rw [hkept] at hreplies
  exact hreplies

end Workspace

end AmqpClient.Buffer
