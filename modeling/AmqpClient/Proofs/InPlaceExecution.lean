import AmqpClient.Buffer.InPlace
import AmqpClient.Proofs.MemorySplice
import AmqpClient.Proofs.WorkspaceRun

/-!
# What work in place comes to

Where every view fits the memory, each operation performed one change after another comes to what
it does at once: all its changes, or none of them and a fault. Octets that are copied over
themselves arrive as they were before the copy began.
-/

namespace AmqpClient.Buffer
namespace InPlace

variable {σ τ α : Type}

/-- The result of work that changes a state at its end or not at all. -/
def settle (s : σ) : Except Fault (α × σ) → EStateM.Result Fault σ α
  | .ok (a, after) => .ok a after
  | .error f => .error f s

lemma run_dropMark (c : Cursor) (position : Nat) :
    (dropMark position).run c = .ok () { c with mark := Cursor.markUpTo position c.mark } := by
  obtain ⟨p, limit, capacity, mark⟩ := c
  cases mark with
  | none => rfl
  | some m =>
    unfold dropMark Cursor.markUpTo
    rw [EStateM.run_bind, EStateM.run_get]
    by_cases h : m ≤ position
    · simp [Option.filter, h, Nat.not_lt.2 h]
    · simp [Option.filter, h, Nat.lt_of_not_le h]

lemma run_setPosition (c : Cursor) (n : Nat) :
    (setPosition n).run c = settle c ((c.setPosition n).map ((), ·)) := by
  unfold setPosition Cursor.setPosition
  by_cases h : c.limit < n
  · simp only [EStateM.run_bind, EStateM.run_get, if_pos h]
    rfl
  · simp only [EStateM.run_bind, EStateM.run_get, if_neg h, run_dropMark]
    rfl

lemma run_setLimit (c : Cursor) (n : Nat) :
    (setLimit n).run c = settle c ((c.setLimit n).map ((), ·)) := by
  unfold setLimit Cursor.setLimit
  by_cases h : c.capacity < n
  · simp only [EStateM.run_bind, EStateM.run_get, if_pos h]
    rfl
  · simp only [EStateM.run_bind, EStateM.run_get, EStateM.run_modify, if_neg h]
    by_cases hp : n < c.position
    · rw [if_pos hp, Nat.min_eq_right (Nat.le_of_lt hp)]
      simp only [EStateM.run_bind, EStateM.run_modify, EStateM.run_get, run_dropMark]
      rfl
    · rw [if_neg hp, Nat.min_eq_left (Nat.le_of_not_lt hp)]
      simp only [EStateM.run_bind, EStateM.run_get, run_dropMark]
      rfl

lemma run_reset (c : Cursor) : reset.run c = settle c (c.reset.map ((), ·)) := by
  obtain ⟨position, limit, capacity, mark⟩ := c
  cases mark <;> rfl

lemma run_advance (c : Cursor) (length : Nat) :
    (advance length).run c = if length ≤ c.remaining then .ok c.position (c.skip length)
      else .error (.outOfBounds c.position length c.limit) c := by
  unfold advance
  simp only [EStateM.run_bind, EStateM.run_get, Cursor.checkRemaining_eq]
  by_cases hl : length ≤ c.remaining
  · rw [if_pos hl, if_pos hl]
    rfl
  · rw [if_neg hl, if_neg hl]
    rfl

lemma run_move (c : Cursor) (m : Move) : (move m).run c = settle c ((m.apply c).map ((), ·)) := by
  cases m with
  | setPosition n => exact run_setPosition c n
  | setLimit n => exact run_setLimit c n

lemma run_moveReader (c : Cursor) (m : ReaderMove) :
    (moveReader m).run c = settle c ((m.apply c).map ((), ·)) := by
  cases m with
  | reset => exact run_reset c
  | _ => rfl

variable {r : Reader} {m : Memory}

lemma run_take (h : r.Fits m) (length : Nat) :
    (take m length).run r.toView =
      settle r.toView ((r.take m length).map fun (bytes, s) => (bytes, s.toView)) := by
  unfold take
  rw [Reader.take_eq h]
  simp only [EStateM.run_bind, run_onCursor, run_advance]
  by_cases hl : length ≤ r.cursor.remaining
  · have hread : m.read r.region (r.offset + r.cursor.position) length =
        .ok ((r.ahead m).take length) := h.read_eq hl
    simp only [if_pos hl, EStateM.run_get, hread]
    rfl
  · simp only [if_neg hl]
    rfl

lemma run_takeScalar (h : r.Fits m) (t : ScalarType) :
    (takeScalar m t).run r.toView =
      settle r.toView ((r.takeScalar m t).map fun (s, r) => (s, r.toView)) := by
  unfold takeScalar Reader.takeScalar
  rw [EStateM.run_bind, run_take h]
  cases r.take m t.width <;> rfl

lemma run_fillAt (h : r.Fits m) (target : List UInt8) (offset length : Nat) :
    (fillAt m offset length).run (r.toView, target) =
      settle (r.toView, target) ((r.take m length).map fun (bytes, s) =>
        ((), s.toView, Memory.splice target offset bytes)) := by
  unfold fillAt
  rw [EStateM.run_bind, run_onFirst, run_take h]
  cases r.take m length <;> rfl

lemma run_fill (h : r.Fits m) (target : List UInt8) :
    (fill m).run (r.toView, target) = settle (r.toView, target)
      ((r.fill m target).map fun (bytes, s) => ((), s.toView, bytes)) := by
  unfold fill Reader.fill
  simp only [EStateM.run_bind, EStateM.run_get, run_fillAt h]
  rw [Reader.take_eq h]
  by_cases hl : target.length ≤ r.cursor.remaining
  · have hlen : ((r.ahead m).take target.length).length = target.length := by
      rw [List.length_take, h.length_ahead]
      omega
    have hsplice := Memory.splice_whole hlen
    simp only [if_pos hl, Except.map, hsplice]
  · simp only [if_neg hl]
    rfl

lemma run_fillRange (h : r.Fits m) (target : List UInt8) (offset length : Nat) :
    (fillRange m offset length).run (r.toView, target) = settle (r.toView, target)
      ((r.fillRange m target offset length).map fun (bytes, s) => ((), s.toView, bytes)) := by
  unfold fillRange Reader.fillRange
  simp only [EStateM.run_bind, EStateM.run_get]
  by_cases ht : target.length < offset + length
  · rw [if_pos ht, if_pos ht]
    rfl
  · rw [if_neg ht, if_neg ht, run_fillAt h]
    cases r.take m length <;> rfl

lemma run_text (h : r.Fits m) (encoding : Text.Encoding) :
    (text m encoding).run r.toView =
      settle r.toView ((r.text m encoding).map fun (s, r) => (s, r.toView)) := by
  unfold text
  rw [Reader.text_eq h]
  simp only [EStateM.run_bind, EStateM.run_get, h.remainingBytes_eq, run_query_ok]
  cases encoding.decode (r.ahead m) with
  | error e => rfl
  | ok s =>
    have hread : (Except.ok s : Except Text.DecodeError String).mapError Fault.notText =
        .ok s := rfl
    simp only [hread, run_query_ok, run_onCursor, run_advance, Nat.le_refl, if_true]
    rfl

lemma run_takeEach (h : r.Fits m) {count : Nat} (hc : count ≤ r.cursor.remaining) :
    (takeEach m count).run r.toView = .ok ((r.ahead m).take count) (r.skip count).toView := by
  induction count generalizing r with
  | zero => rfl
  | succ count ih =>
    have hone : 1 ≤ r.cursor.remaining := by omega
    have hrest := ih (Reader.fits_skip h hone) (by
      have hs := r.cursor.remaining_skip 1
      change count ≤ (r.cursor.skip 1).remaining
      omega)
    have hskip : (r.skip 1).skip count = r.skip (count + 1) := by
      simp only [Reader.skip, Cursor.skip, Nat.add_assoc, Nat.add_comm 1]
    have htake : (take m 1).run r.toView = .ok ((r.ahead m).take 1) (r.skip 1).toView := by
      rw [run_take h, Reader.take_eq h, if_pos hone]
      rfl
    unfold takeEach
    simp only [EStateM.run_bind, htake, hrest, hskip, Reader.ahead_skip]
    rw [Nat.add_comm count 1, List.take_add]
    rfl

lemma run_drain (h : r.Fits m) :
    (drain m).run r.toView = settle r.toView ((r.drain m).map fun (b, s) => (b, s.toView)) := by
  unfold drain
  rw [Reader.drain_eq h, EStateM.run_bind, EStateM.run_get]
  simp only [run_takeEach h (Nat.le_refl _),
    List.take_of_length_le (Nat.le_of_eq h.length_ahead)]
  rfl

lemma run_put {w : Writer} (h : w.Fits m) (bytes : List UInt8) :
    (put bytes).run (w.toView, m) = match (w.put bytes).run m with
      | .ok v after => .ok () (v.toView, after)
      | .error f after => .error f (w.toView, after) := by
  unfold put
  rw [Writer.run_put_eq h]
  simp only [EStateM.run_bind, run_onFirst, run_onCursor, run_advance]
  by_cases hl : bytes.length ≤ w.cursor.remaining
  · have hwrite : m.write w.region (w.offset + w.cursor.position) bytes =
        .ok (m.replace w.region w.index bytes) :=
      Memory.write_eq_ok_iff.2 ⟨h.index_add_le hl, rfl⟩
    simp only [if_pos hl, EStateM.run_get, run_onSecond, Effect.run_write, hwrite]
    rfl
  · simp only [if_neg hl]

lemma run_shiftOne {id : RegionId} {i j : Nat} (hi : i < (m.content id).length)
    (hj : j < m.size id) :
    (shiftOne id i j).run m = .ok () (m.replace id j [(m.content id)[i]]) := by
  have hbyte : m.byte id i = .ok (m.content id)[i] := by
    simp only [Memory.byte, List.getElem?_eq_getElem hi]
  have hwrite : m.write id j [(m.content id)[i]] = .ok (m.replace id j [(m.content id)[i]]) :=
    Memory.write_eq_ok_iff.2 ⟨hj, rfl⟩
  unfold shiftOne
  simp only [EStateM.run_bind, EStateM.run_get, hbyte, run_query_ok, Effect.run_write, hwrite]

/-- Octets that are moved to a place before them, the first one first, arrive as they were. -/
lemma run_shiftBack {id : RegionId} {i j count : Nat} (hi : i + count ≤ m.size id) (hle : j ≤ i) :
    (shiftBack id i j count).run m =
      .ok () (m.replace id j (((m.content id).drop i).take count)) := by
  -- what is still to be moved lies behind the octet that has just been written
  induction count generalizing m i j with
  | zero => exact congrArg (EStateM.Result.ok ()) (Memory.replace_nil m id j).symm
  | succ count ih =>
    have hlt : i < (m.content id).length := by
      unfold Memory.size at hi
      omega
    have hroom : j + [(m.content id)[i]].length ≤ m.size id := by
      rw [List.length_singleton]
      omega
    have hsize := Memory.size_replace hroom id
    have hcontent := Memory.content_replace hroom id
    rw [if_pos rfl] at hcontent
    have hahead : ((Memory.splice (m.content id) j [(m.content id)[i]]).drop (i + 1)).take count =
        ((m.content id).drop (i + 1)).take count :=
      Memory.take_drop_splice_of_apart hroom (.inr (by rw [List.length_singleton]; omega))
    have hrest := ih (m := m.replace id j [(m.content id)[i]]) (i := i + 1) (j := j + 1)
      (by omega) (by omega)
    rw [shiftBack, EStateM.run_bind, run_shiftOne hlt (by omega)]
    simp only
    rw [hrest, hcontent, hahead, List.drop_eq_getElem_cons hlt, List.take_succ_cons]
    exact congrArg (EStateM.Result.ok ()) (Memory.replace_replace hroom _)

/-- Octets that are moved to a place behind them, the last one first, arrive as they were. -/
lemma run_shiftForth {id : RegionId} {i j count : Nat} (hj : j + count ≤ m.size id) (hle : i ≤ j) :
    (shiftForth id i j count).run m =
      .ok () (m.replace id j (((m.content id).drop i).take count)) := by
  -- what is still to be moved lies before the octet that has just been written
  induction count generalizing m with
  | zero => exact congrArg (EStateM.Result.ok ()) (Memory.replace_nil m id j).symm
  | succ count ih =>
    have hlt : i + count < (m.content id).length := by
      unfold Memory.size at hj
      omega
    have hroom : j + count + [(m.content id)[i + count]].length ≤ m.size id := by
      rw [List.length_singleton]
      omega
    have hsize := Memory.size_replace hroom id
    have hcontent := Memory.content_replace hroom id
    rw [if_pos rfl] at hcontent
    have hahead : ((Memory.splice (m.content id) (j + count)
        [(m.content id)[i + count]]).drop i).take count = ((m.content id).drop i).take count :=
      Memory.take_drop_splice_of_apart hroom (.inl (by omega))
    have hrest := ih (m := m.replace id (j + count) [(m.content id)[i + count]]) (by omega)
    have hlen : (((m.content id).drop i).take count).length = count := by
      rw [List.length_take, List.length_drop]
      omega
    have hlast : ((m.content id).drop i).take (count + 1) =
        ((m.content id).drop i).take count ++ [(m.content id)[i + count]] := by
      rw [List.take_add_one, List.getElem?_drop, List.getElem?_eq_getElem hlt, Option.toList_some]
    have hfirst : j + (((m.content id).drop i).take count).length ≤ m.size id := by omega
    have hboth := Memory.replace_replace_before hfirst [(m.content id)[i + count]]
    rw [hlen] at hboth
    rw [shiftForth, EStateM.run_bind, run_shiftOne hlt (by omega)]
    simp only
    rw [hrest, hcontent, hahead, hlast]
    exact congrArg (EStateM.Result.ok ()) hboth

lemma run_copyWithin {id : RegionId} {i j count : Nat} (hi : i + count ≤ m.size id)
    (hj : j + count ≤ m.size id) :
    (copyWithin id i j count).run m =
      .ok () (m.replace id j (((m.content id).drop i).take count)) := by
  have hread : m.read id i count = .ok (((m.content id).drop i).take count) :=
    Memory.read_eq_ok_iff.2 ⟨hi, rfl⟩
  unfold copyWithin
  simp only [EStateM.run_bind, EStateM.run_get, hread, run_query_ok, if_neg (Nat.not_lt.2 hj)]
  by_cases hle : j ≤ i
  · rw [if_pos hle]
    exact run_shiftBack hi hle
  · rw [if_neg hle]
    exact run_shiftForth hj (Nat.le_of_not_le hle)

/-- Whichever way octets are copied, what is written is what was there before. -/
lemma run_copy {source target : RegionId} {i j count : Nat} (hs : i + count ≤ m.size source)
    (ht : j + count ≤ m.size target) :
    (copy source i target j count).run m =
      .ok () (m.replace target j (((m.content source).drop i).take count)) := by
  have hread : m.read source i count = .ok (((m.content source).drop i).take count) :=
    Memory.read_eq_ok_iff.2 ⟨hs, rfl⟩
  have hover : m.read target j count = .ok (((m.content target).drop j).take count) :=
    Memory.read_eq_ok_iff.2 ⟨ht, rfl⟩
  have hwrite : m.write target j (((m.content source).drop i).take count) =
      .ok (m.replace target j (((m.content source).drop i).take count)) := by
    refine Memory.write_eq_ok_iff.2 ⟨?_, rfl⟩
    rw [List.length_take]
    omega
  unfold copy
  rw [EStateM.run_bind, EStateM.run_get]
  by_cases he : source = target
  · subst he
    simp only [if_pos trivial]
    exact run_copyWithin hs ht
  · simp only [if_neg he]
    cases m.isArray source with
    | true => simp only [EStateM.run_bind, hread, run_query_ok, Effect.run_write, hwrite]
    | false =>
      cases m.isArray target with
      | true => simp only [EStateM.run_bind, hover, hread, run_query_ok, Effect.run_write, hwrite]
      | false => simp only [EStateM.run_bind, hread, run_query_ok, Effect.run_write, hwrite]

lemma run_transfer {w : Writer} (hr : r.Fits m) (hw : w.Fits m) :
    transfer.run (r.toView, w.toView, m) = match (Buffer.transfer r w).run m with
      | .ok (s, v) after => .ok () (s.toView, v.toView, after)
      | .error f after => .error f (r.toView, w.toView, after) := by
  unfold transfer
  rw [run_transfer_eq hr hw, EStateM.run_bind, EStateM.run_get]
  simp only [EStateM.run_bind, Cursor.checkRemaining_eq]
  by_cases hl : r.cursor.remaining ≤ w.cursor.remaining
  · have hcopy : (copy r.region r.index w.region w.index r.cursor.remaining).run m =
        .ok () (m.replace w.region w.index (r.ahead m)) :=
      run_copy (hr.index_add_le (Nat.le_refl _)) (hw.index_add_le hl)
    simp only [if_pos hl, run_query_ok, run_onSecond, hcopy, run_onFirst, run_onCursor,
      run_advance, Nat.le_refl, if_true]
    rfl
  · simp only [if_neg hl, run_query_error]

/-! ### Workspaces -/

variable {ws : Workspace}

lemma withView_self {o : Object} {v : View} (h : o.view? = some v) : withView v o = o := by
  cases o <;> cases h <;> rfl

lemma withView_cursor {o : Object} {v : View} (h : o.view? = some v) (cursor : Cursor) :
    withView { v with cursor } o = o.withCursor cursor := by
  cases o <;> cases h <;> rfl

lemma view?_of_reader? {o : Object} {v : View} (h : reader? o = some v) : o.view? = some v := by
  cases o <;> cases h
  rfl

lemma run_map (work : Work σ α) (g : α → τ) (s : σ) :
    (work.map g).run s = match work.run s with
      | .ok a after => .ok (g a) after
      | .error f after => .error f after := by
  change work.map g s = _
  unfold EStateM.map EStateM.run
  cases work s <;> rfl

lemma run_map_settle {work : Work σ α} {s : σ} {x : Except Fault (α × σ)}
    (h : work.run s = settle s x) (g : α → τ) :
    (work.map g).run s = settle s (x.map fun (a, after) => (g a, after)) := by
  rw [run_map, h]
  cases x <;> rfl

lemma workOn_eq_moveView {view? : Object → Option View} {work : Work Cursor Unit}
    {change : Cursor → Except Fault Cursor} (hview : ∀ o v, view? o = some v → o.view? = some v)
    (hwork : ∀ c, work.run c = settle c ((change c).map ((), ·))) (name : String) :
    workOn ws name view? ((onCursor work).map fun _ => .nothing) =
      ws.moveView name view? change := by
  unfold workOn Workspace.moveView
  cases ho : ws.find? name with
  | none => rfl
  | some o =>
    cases hv : view? o with
    | none => simp only [hv]
    | some v =>
      have hov := hview o v hv
      have hrun : (onCursor work).run v =
          settle v ((change v.cursor).map fun cursor => ((), { v with cursor })) := by
        rw [run_onCursor, hwork]
        cases change v.cursor <;> rfl
      simp only [hv, run_map_settle hrun]
      cases change v.cursor with
      | ok c => exact congrArg (Prod.mk _ <| ws.bind name ·) (withView_cursor hov c)
      | error f =>
        have hback : ws.bind name (withView v o) = ws := by
          rw [withView_self hov, Workspace.bind_self ho]
        exact congrArg (Prod.mk _) hback

lemma workOn_eq_readFrom (h : ws.Valid) {work : Work View Value}
    {read : Reader → Memory → Except Fault (Value × Reader)}
    (hwork : ∀ r : Reader, r.Fits ws.memory → work.run r.toView =
      settle r.toView ((read r ws.memory).map fun (a, s) => (a, s.toView))) (name : String) :
    workOn ws name reader? work = ws.readFrom name read := by
  unfold workOn Workspace.readFrom
  cases ho : ws.find? name with
  | none => rfl
  | some o =>
    cases o with
    | reader r =>
      simp only [reader?, hwork r (h name _ ho)]
      cases read r ws.memory with
      | ok p => rfl
      | error f => exact congrArg (Prod.mk _) (Workspace.bind_self ho)
    | _ => rfl

lemma fillFrom_eq (h : ws.Valid) {work : Work (View × List UInt8) Unit} {target : List UInt8}
    {read : Reader → Memory → Except Fault (List UInt8 × Reader)}
    (hwork : ∀ r : Reader, r.Fits ws.memory → work.run (r.toView, target) =
      settle (r.toView, target) ((read r ws.memory).map fun (bytes, s) => ((), s.toView, bytes)))
    (name : String) : fillFrom ws name target work = ws.fillFrom name target read := by
  unfold fillFrom Workspace.fillFrom
  cases ho : ws.find? name with
  | none => rfl
  | some o =>
    cases o with
    | reader r =>
      simp only [hwork r (h name _ ho)]
      cases read r ws.memory with
      | ok p => rfl
      | error f => exact congrArg (Prod.mk _) (Workspace.bind_self ho)
    | _ => rfl

lemma writeTo_eq (h : ws.Valid) (name : String) (bytes : List UInt8) :
    writeTo ws name (put bytes) = ws.writeTo name (·.put bytes) := by
  unfold writeTo Workspace.writeTo
  cases ho : ws.find? name with
  | none => rfl
  | some o =>
    cases o with
    | writer w =>
      have hfits : w.Fits ws.memory := h name _ ho
      simp only [run_map, run_put hfits, Writer.run_put_eq hfits]
      by_cases hl : bytes.length ≤ w.cursor.remaining
      · simp only [if_pos hl]
        rfl
      · simp only [if_neg hl]
        exact congrArg (Prod.mk _) (Workspace.bind_self ho)
    | _ => rfl

lemma transferBetween_eq (h : ws.Valid) (source target : String) :
    transferBetween ws source target = ws.transfer source target Buffer.transfer := by
  unfold transferBetween Workspace.transfer
  cases hs : ws.find? source with
  | none => rfl
  | some o =>
    cases o with
    | reader r =>
      cases ht : ws.find? target with
      | none => rfl
      | some o =>
        cases o with
        | writer w =>
          have hr : r.Fits ws.memory := h source _ hs
          have hw : w.Fits ws.memory := h target _ ht
          simp only [run_map, run_transfer hr hw, run_transfer_eq hr hw]
          by_cases hl : r.cursor.remaining ≤ w.cursor.remaining
          · simp only [if_pos hl]
            rfl
          · simp only [if_neg hl]
            have hback : (ws.bind source (.reader r)).bind target (.writer w) = ws := by
              rw [Workspace.bind_self hs, Workspace.bind_self ht]
            exact congrArg (Prod.mk _) hback
        | _ => rfl
    | _ => rfl

/-- An operation performed in place does what it does otherwise. -/
theorem step_eq (h : ws.Valid) (op : Operation) : step ws op = ws.step op := by
  cases op with
  | move name m => exact workOn_eq_moveView (fun _ _ hv => hv) (run_move · m) name
  | moveReader name m =>
    exact workOn_eq_moveView (fun _ _ hv => view?_of_reader? hv) (run_moveReader · m) name
  | take name t =>
    rw [step, Workspace.step]
    refine workOn_eq_readFrom h (fun r hr => ?_) name
    rw [run_map_settle (run_takeScalar hr t)]
    cases r.takeScalar ws.memory t <;> rfl
  | text name encoding =>
    rw [step, Workspace.step]
    refine workOn_eq_readFrom h (fun r hr => ?_) name
    rw [run_map_settle (run_text hr encoding)]
    cases r.text ws.memory encoding <;> rfl
  | drain name =>
    rw [step, Workspace.step]
    refine workOn_eq_readFrom h (fun r hr => ?_) name
    rw [run_map_settle (run_drain hr)]
    cases r.drain ws.memory <;> rfl
  | fill name target =>
    rw [step, Workspace.step]
    exact fillFrom_eq h (fun r hr => run_fill hr target) name
  | fillRange name target offset length =>
    rw [step, Workspace.step]
    exact fillFrom_eq h (fun r hr => run_fillRange hr target offset length) name
  | put name s => exact writeTo_eq h name s.encode
  | putBytes name bytes => exact writeTo_eq h name bytes
  | putText name s => exact writeTo_eq h name (Text.Utf8.encode s)
  | transfer source target => exact transferBetween_eq h source target
  | _ => rfl

/-- A run in place is the run as it is otherwise. -/
theorem run_eq (h : ws.Valid) (ops : List Operation) : run ws ops = ws.run ops := by
  induction ops generalizing ws with
  | nil => rfl
  | cons op rest ih =>
    have hrest := ih (Workspace.step_sound h op).valid
    rw [Workspace.run_cons, ← hrest, ← step_eq h op]
    rfl

end InPlace
end AmqpClient.Buffer
