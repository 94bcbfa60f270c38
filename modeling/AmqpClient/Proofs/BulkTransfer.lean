import AmqpClient.Proofs.InPlaceExecution

/-!
# Transfers between views

A transfer moves what is ahead of a reader into a writer if there is room for all of it. What
arrives is what was there before the transfer began, also where the two windows overlap.
-/

namespace AmqpClient.Buffer

/-- What was ahead of a reader has been moved to a writer, and nothing else has changed. -/
structure Workspace.Transferred (ws after : Workspace) (source target : String) (r : Reader)
    (w : Writer) : Prop where
  arrived : ∀ i < r.cursor.remaining, ∃ b, (ws.memory.content r.region)[r.index + i]? = some b ∧
    (after.memory.content w.region)[w.index + i]? = some b
  elsewhere : ∀ id i, (id = w.region → i < w.index ∨ w.index + r.cursor.remaining ≤ i) →
    (after.memory.content id)[i]? = (ws.memory.content id)[i]?
  source_eq : after.find? source =
    some (.reader { r with cursor := { r.cursor with position := r.cursor.limit } })
  target_eq : after.find? target = some (.writer
    { w with cursor := { w.cursor with position := w.cursor.position + r.cursor.remaining } })
  others : ∀ name, name ≠ source → name ≠ target → after.find? name = ws.find? name
  isArray_eq : ∀ id, after.memory.isArray id = ws.memory.isArray id

lemma View.ahead_getElem? (v : View) (m : Memory) {i : Nat} (hi : i < v.cursor.remaining) :
    (v.ahead m)[i]? = (m.content v.region)[v.index + i]? := by
  rw [View.ahead, List.getElem?_take_of_lt hi, List.getElem?_drop]

lemma Cursor.Ordered.skip_remaining {c : Cursor} (h : c.Ordered) :
    c.skip c.remaining = { c with position := c.limit } := by
  have hend : c.position + c.remaining = c.limit := by
    have hp := h.position_le
    unfold remaining
    omega
  rw [Cursor.skip, hend]

namespace Workspace

variable {ws : Workspace} {source target : String} {r : Reader} {w : Writer}

lemma step_transfer (h : ws.Valid) (hr : ws.find? source = some (.reader r))
    (hw : ws.find? target = some (.writer w)) :
    ws.step (.transfer source target) = if r.cursor.remaining ≤ w.cursor.remaining then
      (.done .nothing, ({ ws with
        memory := ws.memory.replace w.region w.index (r.ahead ws.memory) }.bind source
          (.reader (r.skip r.cursor.remaining))).bind target
          (.writer (w.skip r.cursor.remaining)))
      else (.failed (.outOfBounds w.cursor.position r.cursor.remaining w.cursor.limit), ws) := by
  have hrun := run_transfer_eq (h source _ hr) (h target _ hw)
  rw [step, transfer, hr, hw]
  simp only [hrun]
  by_cases hl : r.cursor.remaining ≤ w.cursor.remaining
  · simp only [if_pos hl]
  · simp only [if_neg hl]

lemma transferred_step (h : ws.Valid) (hr : ws.find? source = some (.reader r))
    (hw : ws.find? target = some (.writer w)) (hl : r.cursor.remaining ≤ w.cursor.remaining) :
    ws.Transferred (ws.step (.transfer source target)).2 source target r w := by
  have hreads : r.Fits ws.memory := h source _ hr
  have hwrites : w.Fits ws.memory := h target _ hw
  have hlength := hreads.length_ahead
  have hroom : w.index + (r.ahead ws.memory).length ≤ ws.memory.size w.region := by
    rw [hlength]
    exact hwrites.index_add_le hl
  have hne : source ≠ target := by
    intro he
    rw [he, hw] at hr
    cases hr
  rw [step_transfer h hr hw, if_pos hl]
  refine ⟨fun i hi => ?_, fun id i hi => ?_, ?_, ?_, fun name hs ht => ?_, fun id => ?_⟩
  · have hsome : i < (r.ahead ws.memory).length := by
      rw [hlength]
      exact hi
    refine ⟨(r.ahead ws.memory)[i], ?_, ?_⟩
    · rw [← r.ahead_getElem? ws.memory hi, List.getElem?_eq_getElem hsome]
    · simp only [memory_bind, Memory.content_replace hroom, if_true]
      rw [Memory.getElem?_splice_add hroom hsome, List.getElem?_eq_getElem hsome]
  · simp only [memory_bind, Memory.content_replace hroom]
    by_cases hid : id = w.region
    · subst hid
      rw [if_pos rfl]
      exact Memory.getElem?_splice hroom (by rw [hlength]; exact hi rfl)
    · rw [if_neg hid]
  · rw [find?_bind, if_neg hne, find?_bind, if_pos rfl, Reader.skip,
      hreads.ordered.skip_remaining]
  · rw [find?_bind, if_pos rfl]
    rfl
  · rw [find?_bind, if_neg ht, find?_bind, if_neg hs]
    rfl
  · simp only [memory_bind, Memory.isArray_replace]

end Workspace

namespace InPlace

/-- After any operations whatever, a transfer performed octet by octet succeeds if and only if
there is room for all that is ahead of the reader. Then it has the effect of a snapshot, and
otherwise none. -/
theorem transfer_snapshot (setup : List Operation) (source target : String) (r : Reader)
    (w : Writer) (hr : (run {} setup).2.find? source = some (.reader r))
    (hw : (run {} setup).2.find? target = some (.writer w)) :
    let result := step (run {} setup).2 (.transfer source target)
    (result.1 = .done .nothing ↔ r.cursor.remaining ≤ w.cursor.remaining) ∧
    (result.1 = .done .nothing →
      (run {} setup).2.Transferred result.2 source target r w) ∧
    (result.1 ≠ .done .nothing → result =
      (.failed (.outOfBounds w.cursor.position r.cursor.remaining w.cursor.limit),
        (run {} setup).2)) := by
  rw [run_eq Workspace.valid_empty setup] at hr hw ⊢
  have hvalid := Workspace.run_valid Workspace.valid_empty setup
  have hstep := Workspace.step_transfer hvalid hr hw
  intro result
  have hresult : result = (Workspace.run {} setup).2.step (.transfer source target) :=
    step_eq hvalid _
  rw [hresult]
  by_cases hl : r.cursor.remaining ≤ w.cursor.remaining
  · have hdone : ((Workspace.run {} setup).2.step (.transfer source target)).1 =
        .done .nothing := by
      rw [hstep, if_pos hl]
    exact ⟨⟨fun _ => hl, fun _ => hdone⟩,
      fun _ => Workspace.transferred_step hvalid hr hw hl, fun hne => absurd hdone hne⟩
  · rw [if_neg hl] at hstep
    rw [hstep]
    refine ⟨⟨fun hd => ?_, fun hle => absurd hle hl⟩, fun hd => ?_, fun _ => rfl⟩
    · cases hd
    · cases hd

/-- A reader of the first three octets of an array and a writer of the last four of its five. -/
def overlapping : List Operation :=
  [.allocate "array" .heap [1, 2, 3, 4, 5], .wrapArray "reader" .reader "array" 0 3,
    .wrapArray "writer" .writer "array" 1 4]

/-- Octets that are overwritten before they are read would arrive as 1, 1, 1. -/
theorem transfer_snapshot_overlapping :
    (run {} overlapping).2.Transferred
      (step (run {} overlapping).2 (.transfer "reader" "writer")).2 "reader" "writer"
      ⟨0, 0, .new 3⟩ ⟨0, 1, .new 4⟩ ∧
    (step (run {} overlapping).2 (.transfer "reader" "writer")).2.memory.content 0 =
      [1, 1, 2, 3, 5] :=
  ⟨(transfer_snapshot overlapping "reader" "writer" ⟨0, 0, .new 3⟩ ⟨0, 1, .new 4⟩ rfl rfl).2.1 rfl,
    rfl⟩

end InPlace

end AmqpClient.Buffer
