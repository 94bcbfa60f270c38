import AmqpClient.Buffer.Machine
import AmqpClient.Proofs.WorkspaceRun

/-!
# Execution in machine words

As long as no array is longer than can be allocated, no operation on a valid workspace computes a
number that a word cannot hold, and none accesses a region outside of its bounds: performed in
words, every run gives the replies and the workspace that it gives with unbounded numbers.
-/

namespace AmqpClient.Buffer

/-- No region is longer than can be allocated. -/
def Memory.Allocatable (m : Memory) : Prop :=
  ∀ id, m.size id ≤ Machine.maxLength

namespace Machine

open Memory

variable {m : Memory}

lemma sum_eq {a b : Nat} (h : a + b ≤ maxLength) : sum a b = .ok (a + b) :=
  if_pos (Nat.lt_of_le_of_lt h (by decide))

lemma difference_eq {a b : Nat} (h : b ≤ a) : difference a b = .ok (a - b) :=
  if_pos h

lemma sum?_filter {a b top : Nat} (h : top ≤ maxLength) :
    (sum? a b).filter (· ≤ top) = if a + b ≤ top then some (a + b) else none := by
  unfold sum?
  by_cases hle : a + b ≤ top
  · have hlt : a + b < wordCount := Nat.lt_of_le_of_lt (Nat.le_trans hle h) (by decide)
    rw [if_pos hlt, if_pos hle]
    simp [hle]
  · rw [if_neg hle]
    split
    · simpa using Nat.lt_of_not_le hle
    · rfl

lemma copyOut_eq (hm : m.Allocatable) {id : RegionId} {index length : Nat}
    (h : index + length ≤ m.size id) : copyOut m id index length = m.read id index length := by
  unfold copyOut
  rw [sum_eq (Nat.le_trans h (hm id))]
  rfl

lemma copyIn_eq (hm : m.Allocatable) {id : RegionId} {index : Nat} {new : List UInt8}
    (h : index + new.length ≤ m.size id) :
    copyIn m id index new = .ok (m.replace id index new) := by
  unfold copyIn
  rw [sum_eq (Nat.le_trans h (hm id))]
  exact write_eq_ok_iff.2 ⟨h, rfl⟩

/-- Whatever the way octets are copied, they arrive as they were before. -/
theorem copy_eq (hm : m.Allocatable) {source target : RegionId} {i j length : Nat}
    (hs : i + length ≤ m.size source) (ht : j + length ≤ m.size target) :
    copy m source i target j length =
      .ok (m.replace target j (((m.content source).drop i).take length)) := by
  have hread : copyOut m source i length = .ok (((m.content source).drop i).take length) := by
    rw [copyOut_eq hm hs]
    exact read_eq_ok_iff.2 ⟨hs, rfl⟩
  have hlen : (((m.content source).drop i).take length).length = length := by
    unfold size at hs
    rw [List.length_take, List.length_drop]
    omega
  have hroom : j + (((m.content source).drop i).take length).length ≤ m.size target := by
    rw [hlen]
    exact ht
  have hwrite := write_eq_ok_iff.2 ⟨hroom, rfl⟩
  unfold copy
  split
  · rename_i heq
    subst heq
    unfold copyWithin
    -- the target is checked against the last place where so many octets fit
    rw [hread, difference_eq (Nat.le_trans (Nat.le_add_left _ _) hs)]
    simp only [bind, Except.bind]
    rw [if_neg (by omega)]
    exact hwrite
  · split
    · rw [hread]
      exact copyIn_eq hm hroom
    · rw [hread, copyOut_eq hm ht, read_eq_ok_iff.2 ⟨ht, rfl⟩]
      exact hwrite
    · rw [hread]
      exact copyIn_eq hm hroom

/-! ### Cursors -/

lemma remaining_eq {c : Cursor} (hc : c.Ordered) : remaining c = .ok c.remaining :=
  difference_eq hc.position_le

lemma checkRemaining_eq {c : Cursor} (hc : c.Ordered) (length : Nat) :
    checkRemaining c length = c.checkRemaining length := by
  unfold checkRemaining
  rw [remaining_eq hc]
  rfl

lemma advance_eq {c : Cursor} (hc : c.Ordered) (hmax : c.limit ≤ maxLength) (length : Nat) :
    advance c length = c.advance length := by
  unfold advance Cursor.advance
  rw [checkRemaining_eq hc, Cursor.checkRemaining_eq]
  by_cases hl : length ≤ c.remaining
  · have hle : c.position + length ≤ maxLength := by
      have hp := hc.position_le
      unfold Cursor.remaining at hl
      omega
    rw [if_pos hl, sum_eq hle]
    rfl
  · rw [if_neg hl]
    rfl

end Machine

namespace View.Fits

variable {v : View} {m : Memory}

lemma limit_le_maxLength (h : v.Fits m) (hm : m.Allocatable) :
    v.cursor.limit ≤ Machine.maxLength := by
  have hl := h.ordered.limit_le
  have hw := h.within
  have hs := hm v.region
  omega

lemma machine_index_eq (h : v.Fits m) (hm : m.Allocatable) : Machine.index v = .ok v.index :=
  Machine.sum_eq (Nat.le_trans (h.index_add_le (Nat.zero_le _)) (hm _))

lemma machine_advance_eq (h : v.Fits m) (hm : m.Allocatable) (length : Nat) :
    Machine.advance v.cursor length = if length ≤ v.cursor.remaining then
      .ok (v.cursor.skip length)
      else .error (.outOfBounds v.cursor.position length v.cursor.limit) := by
  rw [Machine.advance_eq h.ordered (h.limit_le_maxLength hm), Cursor.advance_eq]

lemma machine_copyOut_eq (h : v.Fits m) (hm : m.Allocatable) {length : Nat}
    (hl : length ≤ v.cursor.remaining) :
    Machine.copyOut m v.region v.index length = .ok ((v.ahead m).take length) := by
  rw [Machine.copyOut_eq hm (h.index_add_le hl), h.read_eq hl]

end View.Fits

namespace Machine

open Memory

variable {m : Memory}

lemma content_eq {v : View} (h : v.Fits m) (hm : m.Allocatable) : content v m = v.content m :=
  copyOut_eq hm h.within

lemma remainingBytes_eq {v : View} (h : v.Fits m) (hm : m.Allocatable) :
    remainingBytes v m = v.remainingBytes m := by
  unfold remainingBytes
  rw [h.machine_index_eq hm, remaining_eq h.ordered]
  exact copyOut_eq hm (h.index_add_le (Nat.le_refl _))

lemma window_eq (hm : m.Allocatable) (region : RegionId) (offset length : Nat) :
    window m region offset length = View.window m region offset length := by
  unfold window View.window
  rw [sum?_filter (hm region)]
  by_cases h : offset + length ≤ m.size region
  · rw [if_pos h, if_neg (by omega)]
  · rw [if_neg h, if_pos (by omega)]

/-! ### Readers -/

section Readers

variable {r : Reader}

lemma take_eq (h : r.Fits m) (hm : m.Allocatable) (length : Nat) :
    take r m length = r.take m length := by
  unfold take
  rw [Reader.take_eq h, h.machine_advance_eq hm, h.machine_index_eq hm]
  by_cases hl : length ≤ r.cursor.remaining
  · have hcopy := h.machine_copyOut_eq hm hl
    rw [if_pos hl, if_pos hl]
    simp only [bind, Except.bind, hcopy]
    rfl
  · rw [if_neg hl, if_neg hl]
    rfl

lemma takeByte_eq (h : r.Fits m) (hm : m.Allocatable) (hl : 1 ≤ r.cursor.remaining) :
    ∃ b, (r.ahead m).take 1 = [b] ∧ takeByte r m = .ok (b, r.skip 1) := by
  have hlt : r.index < (m.content r.region).length := h.index_add_le hl
  refine ⟨(m.content r.region)[r.index], ?_, ?_⟩
  · rw [View.ahead, List.take_take, Nat.min_eq_left hl, List.drop_eq_getElem_cons hlt]
    rfl
  · unfold takeByte
    rw [h.machine_advance_eq hm, if_pos hl, h.machine_index_eq hm]
    simp only [bind, Except.bind, byte, List.getElem?_eq_getElem hlt]
    rfl

lemma takeByte_eq_error (h : r.Fits m) (hm : m.Allocatable) (hl : ¬1 ≤ r.cursor.remaining) :
    takeByte r m = .error (.outOfBounds r.cursor.position 1 r.cursor.limit) := by
  unfold takeByte
  rw [h.machine_advance_eq hm, if_neg hl]
  rfl

lemma decode_byte (b : UInt8) : Scalar.decode .byte [b] = .byte b := by
  simp [Scalar.decode, Scalar.ofBits, BigEndian.decode, BigEndian.count]

lemma takeScalar_eq (h : r.Fits m) (hm : m.Allocatable) (t : ScalarType) :
    takeScalar r m t = r.takeScalar m t := by
  cases t with
  | byte =>
    rw [takeScalar, Reader.takeScalar_eq h, ScalarType.width]
    by_cases hl : 1 ≤ r.cursor.remaining
    · obtain ⟨b, hb, htake⟩ := takeByte_eq h hm hl
      rw [if_pos hl, hb, htake, decode_byte]
      rfl
    · rw [if_neg hl, takeByte_eq_error h hm hl]
      rfl
  | _ => simp only [takeScalar, Reader.takeScalar, take_eq h hm]

lemma byteAt_eq (h : r.Fits m) (hm : m.Allocatable) (index : Nat) :
    byteAt r m index = r.byteAt m index := by
  unfold byteAt Reader.byteAt Cursor.checkIndex
  split
  · rfl
  · have hlimit := h.ordered.limit_le
    have hwithin := h.within
    have hsize := hm r.region
    rw [sum_eq (by omega)]
    rfl

lemma fillRange_eq (h : r.Fits m) (hm : m.Allocatable) {target : List UInt8}
    (ht : target.length ≤ maxLength) (offset length : Nat) :
    fillRange r m target offset length = r.fillRange m target offset length := by
  unfold fillRange Reader.fillRange
  rw [sum?_filter ht]
  by_cases hle : offset + length ≤ target.length
  · rw [if_pos hle, if_neg (by omega)]
    simp only
    rw [difference_eq (Nat.le_add_right _ _), Nat.add_sub_cancel_left]
    simp only [bind, Except.bind, take_eq h hm]
  · rw [if_neg hle, if_pos (by omega)]
    rfl

lemma text_eq (h : r.Fits m) (hm : m.Allocatable) (encoding : Text.Encoding) :
    text r m encoding = r.text m encoding := by
  unfold text
  rw [Reader.text_eq h, remaining_eq h.ordered, h.machine_index_eq hm]
  have hcopy := h.machine_copyOut_eq hm (Nat.le_refl _)
  rw [List.take_of_length_le (Nat.le_of_eq h.length_ahead)] at hcopy
  simp only [bind, Except.bind, hcopy, h.machine_advance_eq hm, if_pos (Nat.le_refl _)]
  cases encoding.decode (r.ahead m) <;> rfl

lemma takeEach_eq (h : r.Fits m) (hm : m.Allocatable) {count : Nat}
    (hc : count ≤ r.cursor.remaining) : takeEach m count r = Reader.takeEach m count r := by
  induction count generalizing r with
  | zero => rfl
  | succ count ih =>
    have hl : 1 ≤ r.cursor.remaining := by omega
    obtain ⟨b, hb, htake⟩ := takeByte_eq h hm hl
    have hrest := ih (Reader.fits_skip h hl) (by
      have hs := r.cursor.remaining_skip 1
      change count ≤ (r.cursor.skip 1).remaining
      omega)
    unfold takeEach Reader.takeEach
    rw [htake, Reader.take_eq h, if_pos hl, hb]
    simp only [bind, Except.bind, hrest]
    rfl

lemma drain_eq (h : r.Fits m) (hm : m.Allocatable) : drain r m = r.drain m := by
  unfold drain
  rw [remaining_eq h.ordered]
  exact takeEach_eq h hm (Nat.le_refl _)

lemma slice_eq (h : r.Fits m) (hm : m.Allocatable) : slice r = .ok r.slice := by
  unfold slice
  rw [h.machine_index_eq hm, remaining_eq h.ordered]
  rfl

lemma sameRemaining_eq {s : Reader} (hr : r.Fits m) (hs : s.Fits m) (hm : m.Allocatable) :
    sameRemaining r s m = r.sameRemaining s m := by
  unfold sameRemaining Reader.sameRemaining
  rw [remaining_eq hr.ordered, remaining_eq hs.ordered, remainingBytes_eq hr hm,
    remainingBytes_eq hs hm]
  rfl

end Readers

/-! ### Writers -/

lemma run_put_eq {w : Writer} (h : w.Fits m) (hm : m.Allocatable) (bytes : List UInt8) :
    (put w bytes).run m = (w.put bytes).run m := by
  unfold put
  rw [Writer.run_put_eq h, h.machine_advance_eq hm, h.machine_index_eq hm]
  by_cases hl : bytes.length ≤ w.cursor.remaining
  · have hcopy := copyIn_eq hm (h.index_add_le hl)
    rw [if_pos hl, if_pos hl]
    simp only [EStateM.run_bind, EStateM.run_get, EStateM.run_set, Effect.run_ofExcept_ok, hcopy]
    rfl
  · rw [if_neg hl, if_neg hl]
    rfl

lemma run_transfer_eq {r : Reader} {w : Writer} (hr : r.Fits m) (hw : w.Fits m)
    (hm : m.Allocatable) : (transfer r w).run m = (Buffer.transfer r w).run m := by
  unfold transfer
  rw [Buffer.run_transfer_eq hr hw, remaining_eq hr.ordered, hr.machine_index_eq hm,
    hw.machine_index_eq hm]
  simp only [EStateM.run_bind, Effect.run_ofExcept_ok, checkRemaining_eq hw.ordered,
    Cursor.checkRemaining_eq]
  by_cases hl : r.cursor.remaining ≤ w.cursor.remaining
  · have hcopy := copy_eq hm (hr.index_add_le (Nat.le_refl _)) (hw.index_add_le hl)
    simp only [if_pos hl, if_pos (Nat.le_refl _), EStateM.run_get, EStateM.run_set,
      Effect.run_ofExcept_ok, hcopy, hr.machine_advance_eq hm, hw.machine_advance_eq hm]
    rfl
  · rw [if_neg hl, if_neg hl]
    rfl

end Machine

/-! ### Operations that do the same on every view that fits -/

namespace Workspace

variable {ws : Workspace}

lemma create_congr (name : String) {make make' : Effect Object}
    (hmake : make.run ws.memory = make'.run ws.memory) :
    ws.create name make = ws.create name make' := by
  unfold create
  rw [hmake]

lemma derive_congr (h : ws.Valid) (name source : String)
    {make make' : Object → Option (Effect Object)}
    (hsome : ∀ o, (make o).isSome = (make' o).isSome)
    (hmake : ∀ o effect effect', o.Fits ws.memory → make o = some effect →
      make' o = some effect' → effect.run ws.memory = effect'.run ws.memory) :
    ws.derive name source make = ws.derive name source make' := by
  unfold derive
  cases ho : ws.find? source with
  | none => rfl
  | some o =>
    have hs := hsome o
    simp only [Option.bind_some]
    cases he : make o with
    | none =>
      rw [he] at hs
      have hnone : make' o = none := Option.not_isSome_iff_eq_none.1 (by simp [← hs])
      rw [hnone]
    | some effect =>
      rw [he] at hs
      obtain ⟨effect', he'⟩ := Option.isSome_iff_exists.1 hs.symm
      rw [he']
      exact create_congr name (hmake o effect effect' (h source o ho) he he')

lemma inspect_congr (h : ws.Valid) (name : String) {answer answer' : Object → Option Reply}
    (hanswer : ∀ o, o.Fits ws.memory → answer o = answer' o) :
    ws.inspect name answer = ws.inspect name answer' := by
  unfold inspect
  cases ho : ws.find? name with
  | none => rfl
  | some o =>
    simp only [Option.bind_some]
    rw [hanswer o (h name o ho)]

lemma readFrom_congr (h : ws.Valid) (name : String)
    {read read' : Reader → Memory → Except Fault (Value × Reader)}
    (hread : ∀ r : Reader, r.Fits ws.memory → read r ws.memory = read' r ws.memory) :
    ws.readFrom name read = ws.readFrom name read' := by
  unfold readFrom
  split
  · rename_i r hr
    rw [hread r (h name (.reader r) hr)]
  · rfl

lemma fillFrom_congr (h : ws.Valid) (name : String) (target : List UInt8)
    {read read' : Reader → Memory → Except Fault (List UInt8 × Reader)}
    (hread : ∀ r : Reader, r.Fits ws.memory → read r ws.memory = read' r ws.memory) :
    ws.fillFrom name target read = ws.fillFrom name target read' := by
  unfold fillFrom
  split
  · rename_i r hr
    rw [hread r (h name (.reader r) hr)]
  · rfl

lemma writeTo_congr (h : ws.Valid) (name : String) {write write' : Writer → Effect Writer}
    (hwrite : ∀ w : Writer, w.Fits ws.memory →
      (write w).run ws.memory = (write' w).run ws.memory) :
    ws.writeTo name write = ws.writeTo name write' := by
  unfold writeTo
  split
  · rename_i w hw
    rw [hwrite w (h name (.writer w) hw)]
  · rfl

lemma transfer_congr (h : ws.Valid) (source target : String)
    {move move' : Reader → Writer → Effect (Reader × Writer)}
    (hmove : ∀ (r : Reader) (w : Writer), r.Fits ws.memory → w.Fits ws.memory →
      (move r w).run ws.memory = (move' r w).run ws.memory) :
    ws.transfer source target move = ws.transfer source target move' := by
  unfold transfer
  split
  · rename_i r w hr hw
    rw [hmove r w (h source (.reader r) hr) (h target (.writer w) hw)]
  · rfl

lemma same_congr (h : ws.Valid) (first second : String)
    {compare compare' : Reader → Reader → Memory → Except Fault Bool}
    (hcompare : ∀ r s : Reader, r.Fits ws.memory → s.Fits ws.memory →
      compare r s ws.memory = compare' r s ws.memory) :
    ws.same first second compare = ws.same first second compare' := by
  unfold same
  split
  · rename_i r s hr hs
    rw [hcompare r s (h first (.reader r) hr) (h second (.reader s) hs)]
  · rfl
  · rfl
  · rfl

end Workspace

namespace Machine

variable {ws : Workspace}

/-- An operation performed in words does what it does with unbounded numbers. -/
theorem step_eq (h : ws.Valid) (hm : ws.memory.Allocatable) (op : Operation)
    (hop : op.payload.length ≤ maxLength) : step ws op = ws.step op := by
  cases op with
  | wrapArray name role source offset length =>
    refine Workspace.derive_congr h name source (fun o => by cases o <;> rfl)
      fun o effect effect' ho he he' => ?_
    cases o with
    | array id =>
      cases he
      cases he'
      simp only [EStateM.run_bind, EStateM.run_get, window_eq hm]
    | _ => cases he
  | slice name source =>
    refine Workspace.derive_congr h name source (fun o => by cases o <;> rfl)
      fun o effect effect' ho he he' => ?_
    cases o with
    | reader r =>
      cases he
      cases he'
      rw [slice_eq ho hm]
      rfl
    | _ => cases he
  | transfer source target =>
    rw [step, Workspace.step]
    exact Workspace.transfer_congr h source target fun r w hr hw => run_transfer_eq hr hw hm
  | same first second =>
    rw [step, Workspace.step]
    rw [Workspace.same_congr h first second fun r s hr hs => sameRemaining_eq hr hs hm]
  | take name t =>
    rw [step, Workspace.step]
    refine Workspace.readFrom_congr h name fun r hr => ?_
    rw [takeScalar_eq hr hm]
  | byteAt name index =>
    refine Workspace.inspect_congr h name fun o ho => ?_
    cases o with
    | reader r => simp only [byteAt_eq ho hm]
    | _ => rfl
  | fill name target =>
    rw [step, Workspace.step]
    exact Workspace.fillFrom_congr h name target fun r hr => take_eq hr hm target.length
  | fillRange name target offset length =>
    rw [step, Workspace.step]
    exact Workspace.fillFrom_congr h name target fun r hr => fillRange_eq hr hm hop offset length
  | window name =>
    refine Workspace.inspect_congr h name fun o ho => ?_
    cases o with
    | reader r => simp only [content_eq ho hm]
    | _ => rfl
  | text name encoding =>
    rw [step, Workspace.step]
    refine Workspace.readFrom_congr h name fun r hr => ?_
    rw [text_eq hr hm]
  | drain name =>
    rw [step, Workspace.step]
    refine Workspace.readFrom_congr h name fun r hr => ?_
    rw [drain_eq hr hm]
  | ensureRemaining name length =>
    refine Workspace.inspect_congr h name fun o ho => ?_
    cases o with
    | writer w => simp only [checkRemaining_eq (View.Fits.ordered ho)]
    | _ => rfl
  | put name s =>
    rw [step, Workspace.step]
    exact Workspace.writeTo_congr h name fun w hw => run_put_eq hw hm s.encode
  | putBytes name bytes =>
    rw [step, Workspace.step]
    exact Workspace.writeTo_congr h name fun w hw => run_put_eq hw hm bytes
  | putText name s =>
    rw [step, Workspace.step]
    exact Workspace.writeTo_congr h name fun w hw => run_put_eq hw hm (Text.Utf8.encode s)
  -- the others compute no number
  | _ => rfl

lemma allocatable_empty : ({} : Memory).Allocatable := by
  intro id
  simp [Memory.size, Memory.content]

lemma allocatable_grows {m after : Memory} (hm : m.Allocatable)
    (h : m.Grows after maxLength) : after.Allocatable := by
  intro id
  by_cases hid : id < m.regions.length
  · rw [h.size_eq id hid]
    exact hm id
  · exact h.size_le id (Nat.le_of_not_lt hid)

/-- A run performed in words is the run with unbounded numbers. -/
theorem run_eq (h : ws.Valid) (hm : ws.memory.Allocatable) (ops : List Operation)
    (hops : ∀ op ∈ ops, op.payload.length ≤ maxLength) : run ws ops = ws.run ops := by
  induction ops generalizing ws with
  | nil => rfl
  | cons op rest ih =>
    have hop := hops op List.mem_cons_self
    have hstep := Workspace.step_sound h op
    have hrest := ih hstep.valid (allocatable_grows hm (hstep.grows.mono hop)) fun other hother =>
      hops other (List.mem_cons_of_mem _ hother)
    rw [Workspace.run_cons, ← hrest, ← step_eq h hm op hop]
    rfl

end Machine

namespace Workspace

/-- After any operations whatever, every view is in order and its window lies within its region,
no region changes its length any more, and nothing has reached outside of a region. If no array was
too long to be allocated, the operations can be performed in words of 64 bits, where no sum was too
large, no difference fell below zero, and every index was in its region. -/
theorem run_safe (ops : List Operation) :
    (∀ name o v, (run {} ops).2.find? name = some o → o.view? = some v →
      v.cursor.Ordered ∧ v.region < (run {} ops).2.memory.regions.length ∧
        v.offset + v.cursor.capacity ≤ (run {} ops).2.memory.size v.region) ∧
    (∀ more, ∀ id < (run {} ops).2.memory.regions.length,
      ((run {} ops).2.run more).2.memory.size id = (run {} ops).2.memory.size id) ∧
    (∀ reply ∈ (run {} ops).1, reply.fault? ≠ some .outsideRegion) ∧
    ((∀ op ∈ ops, op.payload.length ≤ Machine.maxLength) →
      Machine.run {} ops = run {} ops) := by
  obtain ⟨bound, hbound⟩ := exists_payload_bound ops
  obtain ⟨hvalid, -, hreplies⟩ := run_sound valid_empty ops hbound
  refine ⟨fun name o v ho hv => ?_, fun more id hid => ?_, hreplies, fun hops => ?_⟩
  · have hfits := (hvalid name o ho).view hv
    exact ⟨hfits.ordered, hfits.exists_region, hfits.within⟩
  · obtain ⟨bound', hmore⟩ := exists_payload_bound more
    exact (run_sound hvalid more hmore).2.1.size_eq id hid
  · exact Machine.run_eq valid_empty Machine.allocatable_empty ops hops

/-- A window of an array is written past its limit, read back, and wrapped again from an offset
that no array reaches. -/
def windowOperations : List Operation :=
  [.allocate "array" .heap [0, 0, 0, 0, 0], .wrapArray "writer" .writer "array" 2 3,
    .put "writer" (.short 258), .put "writer" (.long 0), .toReader "reader" "writer",
    .take "reader" .short, .wrapArray "other" .reader "array" (2 ^ 64 - 1) 2]

theorem run_safe_windowOperations :
    (∀ op ∈ windowOperations, op.payload.length ≤ Machine.maxLength) ∧
      Machine.run {} windowOperations = run {} windowOperations := by
  have hops : ∀ op ∈ windowOperations, op.payload.length ≤ Machine.maxLength := by
    simp [windowOperations, Operation.payload, Machine.maxLength]
  exact ⟨hops, (run_safe windowOperations).2.2.2 hops⟩

end Workspace

end AmqpClient.Buffer
