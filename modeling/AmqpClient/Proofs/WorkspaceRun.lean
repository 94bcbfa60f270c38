import AmqpClient.Proofs.WorkspaceInvariant

/-!
# Runs of workspaces

What every operation keeps is kept by a run of any length, from any valid workspace on.
-/

namespace AmqpClient.Buffer

variable {m : Memory} {bound : Nat}

namespace Cursor

variable {c : Cursor}

lemma setPosition_safe (hc : c.Ordered) (n : Nat) :
    SafeResult (c.setPosition n) fun d => d.Ordered ∧ d.capacity = c.capacity := by
  by_cases h : c.limit < n
  · rw [setPosition, if_pos h]
    exact Fault.noConfusion
  · obtain ⟨d, hd, hcap⟩ : ∃ d, c.setPosition n = .ok d ∧ d.capacity = c.capacity :=
      ⟨_, if_neg h, rfl⟩
    rw [hd]
    exact ⟨hc.setPosition hd, hcap⟩

lemma setLimit_safe (c : Cursor) (n : Nat) :
    SafeResult (c.setLimit n) fun d => d.Ordered ∧ d.capacity = c.capacity := by
  by_cases h : c.capacity < n
  · rw [setLimit, if_pos h]
    exact Fault.noConfusion
  · obtain ⟨d, hd, hcap⟩ : ∃ d, c.setLimit n = .ok d ∧ d.capacity = c.capacity :=
      ⟨_, if_neg h, rfl⟩
    rw [hd]
    exact ⟨ordered_setLimit hd, hcap⟩

lemma reset_safe (hc : c.Ordered) :
    SafeResult c.reset fun d => d.Ordered ∧ d.capacity = c.capacity := by
  cases hm : c.mark with
  | none =>
    simp only [reset, hm]
    exact Fault.noConfusion
  | some mark =>
    have hd : c.reset = .ok { c with position := mark } := by simp only [reset, hm]
    rw [hd]
    exact ⟨hc.reset hd, rfl⟩

lemma checkRemaining_safe (c : Cursor) (length : Nat) :
    SafeResult (c.checkRemaining length) fun _ => True := by
  rw [checkRemaining_eq]
  exact .ite (fun _ => trivial) Fault.noConfusion

end Cursor

lemma Move.apply_safe (move : Move) {c : Cursor} (hc : c.Ordered) :
    SafeResult (move.apply c) fun d => d.Ordered ∧ d.capacity = c.capacity := by
  cases move with
  | setPosition n => exact Cursor.setPosition_safe hc n
  | setLimit n => exact c.setLimit_safe n

lemma ReaderMove.apply_safe (move : ReaderMove) {c : Cursor} (hc : c.Ordered) :
    SafeResult (move.apply c) fun d => d.Ordered ∧ d.capacity = c.capacity := by
  cases move with
  | mark => exact ⟨hc.setMark, rfl⟩
  | reset => exact Cursor.reset_safe hc
  | rewind => exact ⟨hc.rewind, rfl⟩
  | clear => exact ⟨c.ordered_clear, rfl⟩
  | flip => exact ⟨hc.flip, rfl⟩
  | reclaim => exact ⟨hc, rfl⟩

namespace View

lemma fits_whole {region : RegionId} (h : region < m.regions.length) : (whole m region).Fits m :=
  ⟨Cursor.ordered_new _, h, by simp [whole, Cursor.new, Cursor.upTo]⟩

lemma window_safe {region : RegionId} (h : region < m.regions.length) (offset length : Nat) :
    SafeResult (window m region offset length) fun v => v.Fits m := by
  unfold window
  split
  · exact Fault.noConfusion
  · rename_i hle
    exact ⟨Cursor.ordered_new _, h, Nat.le_of_not_lt hle⟩

lemma array_safe (v : View) (m : Memory) : SafeResult (v.array m) fun id => id = v.region := by
  unfold array
  exact .ite (fun _ => rfl) Fault.noConfusion

lemma arrayOffset_safe (v : View) (m : Memory) : SafeResult (v.arrayOffset m) fun _ => True := by
  unfold arrayOffset array
  split
  · trivial
  · exact Fault.noConfusion

end View

/-- A reader that has moved past some of what remained. -/
def Reader.Advanced (r s : Reader) : Prop :=
  ∃ length ≤ r.cursor.remaining, s = r.skip length

namespace Reader

variable {r s : Reader}

lemma Advanced.fits (hs : r.Advanced s) (h : r.Fits m) : s.Fits m := by
  obtain ⟨length, hl, rfl⟩ := hs
  exact fits_skip h hl

lemma take_safe (h : r.Fits m) (length : Nat) :
    SafeResult (r.take m length) fun p => r.Advanced p.2 := by
  rw [take_eq h]
  exact .ite (fun hl => ⟨length, hl, rfl⟩) Fault.noConfusion

lemma takeScalar_safe (h : r.Fits m) (t : ScalarType) :
    SafeResult (r.takeScalar m t) fun p => r.Advanced p.2 := by
  rw [takeScalar_eq h]
  exact .ite (fun hl => ⟨t.width, hl, rfl⟩) Fault.noConfusion

lemma fillRange_safe (h : r.Fits m) (target : List UInt8) (offset length : Nat) :
    SafeResult (r.fillRange m target offset length) fun p => r.Advanced p.2 := by
  rw [fillRange_eq h]
  split
  · exact Fault.noConfusion
  · exact .ite (fun hl => ⟨length, hl, rfl⟩) Fault.noConfusion

lemma text_safe (h : r.Fits m) (encoding : Text.Encoding) :
    SafeResult (r.text m encoding) fun p => r.Advanced p.2 := by
  rw [text_eq h]
  cases encoding.decode (r.ahead m) with
  | ok s => exact ⟨_, Nat.le_refl _, rfl⟩
  | error e => exact Fault.noConfusion

lemma drain_safe (h : r.Fits m) : SafeResult (r.drain m) fun p => r.Advanced p.2 := by
  rw [drain_eq h]
  exact ⟨_, Nat.le_refl _, rfl⟩

lemma byteAt_safe (h : r.Fits m) (index : Nat) :
    SafeResult (r.byteAt m index) fun _ => True := by
  rw [byteAt_eq h]
  exact .ite (fun _ => trivial) Fault.noConfusion

end Reader

namespace Effect

variable {α : Type} {P : α → Memory → Prop}

lemma sound_pure {a : α} (h : P a m) : (pure a : Effect α).Sound m bound P :=
  ⟨Memory.Grows.refl _ _, h⟩

/-- A computation that only looks at the memory. -/
lemma sound_query {β : Type} {x : Memory → Except Fault β} {f : β → α}
    (h : SafeResult (x m) fun b => P (f b) m) :
    (do return f (← Effect.ofExcept (x (← get))) : Effect α).Sound m bound P := by
  change (ofExcept (x m) >>= fun b => pure (f b)).Sound m bound P
  cases hx : x m with
  | ok b =>
    rw [hx] at h
    exact ⟨Memory.Grows.refl _ _, h⟩
  | error e =>
    rw [hx] at h
    exact ⟨h, rfl⟩

end Effect

lemma Writer.put_sound {w : Writer} (h : w.Fits m) (bytes : List UInt8) :
    (w.put bytes).Sound m bound fun w m => w.Fits m := by
  unfold Effect.Sound
  rw [run_put_eq h]
  by_cases hl : bytes.length ≤ w.cursor.remaining
  · have hgrows := Memory.grows_replace (h.index_add_le hl) bound
    rw [if_pos hl]
    exact ⟨hgrows, (fits_skip h hl).grows hgrows⟩
  · rw [if_neg hl]
    exact ⟨Fault.noConfusion, rfl⟩

lemma transfer_sound {r : Reader} {w : Writer} (hr : r.Fits m) (hw : w.Fits m) :
    (transfer r w).Sound m bound fun p m => p.1.Fits m ∧ p.2.Fits m := by
  unfold Effect.Sound
  rw [run_transfer_eq hr hw]
  by_cases hl : r.cursor.remaining ≤ w.cursor.remaining
  · have hroom : w.index + (r.ahead m).length ≤ m.size w.region := by
      rw [hr.length_ahead]
      exact hw.index_add_le hl
    have hgrows := Memory.grows_replace hroom bound
    rw [if_pos hl]
    exact ⟨hgrows, (Reader.fits_skip hr (Nat.le_refl _)).grows hgrows,
      (Writer.fits_skip hw hl).grows hgrows⟩
  · rw [if_neg hl]
    exact ⟨Fault.noConfusion, rfl⟩

namespace Workspace

variable {ws : Workspace}

lemma allocate_sound (h : ws.Valid) (name : String) (placement : Placement) (bytes : List UInt8)
    (object : RegionId → Memory → Object)
    (hobject : ∀ id m, id < m.regions.length → (object id m).Fits m) :
    ws.Sound bytes.length (ws.create name do
      let id ← Effect.allocate placement bytes
      return object id (← get)) := by
  refine create_sound h name ⟨Memory.grows_allocate ws.memory ⟨placement, bytes⟩, hobject _ _ ?_⟩
  simp

/-- Every operation keeps a workspace valid and its regions as long as they are, and changes
nothing if it fails. -/
theorem step_sound (h : ws.Valid) (op : Operation) :
    ws.Sound op.payload.length (ws.step op) := by
  cases op with
  | allocate name placement bytes =>
    cases placement with
    | heap => exact allocate_sound h name .heap bytes (fun id _ => .array id) fun _ _ hid => hid
    | direct =>
      exact allocate_sound h name .direct bytes (fun id _ => .region id) fun _ _ hid => hid
  | make name role placement bytes =>
    exact allocate_sound h name placement bytes (fun id m => role.object (.whole m id))
      fun id m hid => role.fits_object (View.fits_whole hid)
  | wrapArray name role source offset length =>
    refine derive_sound h name source fun o effect ho he => ?_
    cases o with
    | array id =>
      cases he
      refine Effect.sound_query (x := fun m => View.window m id offset length) ?_
      have hsafe := View.window_safe ho offset length
      cases hw : View.window ws.memory id offset length with
      | ok v => rw [hw] at hsafe; exact role.fits_object hsafe
      | error f => rw [hw] at hsafe; exact hsafe
    | _ => cases he
  | wrapRegion name role source =>
    refine derive_sound h name source fun o effect ho he => ?_
    cases o with
    | region id =>
      cases he
      exact ⟨Memory.Grows.refl _ _, role.fits_object (View.fits_whole ho)⟩
    | _ => cases he
  | clone name source =>
    refine derive_sound h name source fun o effect ho he => ?_
    cases he
    exact Effect.sound_pure ho
  | array name source =>
    refine derive_sound h name source fun o effect ho he => ?_
    obtain ⟨v, hv, rfl⟩ := Option.map_eq_some_iff.1 he
    have hfits := ho.view hv
    refine Effect.sound_query (x := v.array) ?_
    have hsafe := v.array_safe ws.memory
    cases ha : v.array ws.memory with
    | ok id => rw [ha] at hsafe; cases hsafe; exact hfits.exists_region
    | error f => rw [ha] at hsafe; exact hsafe
  | duplicate name source =>
    refine derive_sound h name source fun o effect ho he => ?_
    cases o with
    | reader r => cases he; exact Effect.sound_pure ho
    | _ => cases he
  | slice name source =>
    refine derive_sound h name source fun o effect ho he => ?_
    cases o with
    | reader r => cases he; exact Effect.sound_pure (Reader.fits_slice ho)
    | _ => cases he
  | toReader name source =>
    refine derive_sound h name source fun o effect ho he => ?_
    cases o with
    | writer w => cases he; exact Effect.sound_pure (Writer.fits_toReader ho)
    | _ => cases he
  | intoReader name source => exact intoReader_sound h name source
  | transfer source target =>
    exact transfer_sound h source target fun r w hr hw => Buffer.transfer_sound hr hw
  | same first second =>
    refine same_sound h first second fun r s hr hs => ?_
    rw [Reader.sameRemaining_eq hr hs]
    trivial
  | isEmpty name =>
    refine inspect_sound h name fun o reply ho hr f hf => ?_
    obtain ⟨id, _, rfl⟩ := Option.map_eq_some_iff.1 hr
    cases hf
  | content name =>
    refine inspect_sound h name fun o reply ho hr f hf => ?_
    cases o with
    | array id => cases hr; cases hf
    | _ => cases hr
  | overwrite name index bytes => exact overwrite_sound h name index bytes
  | describe name =>
    refine inspect_sound h name fun o reply ho hr f hf => ?_
    cases hr
    cases hf
  | hasArray name =>
    refine inspect_sound h name fun o reply ho hr f hf => ?_
    obtain ⟨v, _, rfl⟩ := Option.map_eq_some_iff.1 hr
    cases hf
  | arrayOffset name =>
    refine inspect_sound h name fun o reply ho hr => ?_
    obtain ⟨v, _, rfl⟩ := Option.map_eq_some_iff.1 hr
    exact (v.arrayOffset_safe ws.memory).fault_ofExcept fun _ => rfl
  | move name move =>
    exact moveView_sound h name (fun o v hv => hv) fun c hc => move.apply_safe hc
  | moveReader name move =>
    refine moveView_sound h name (fun o v hv => ?_) fun c hc => move.apply_safe hc
    cases o with
    | reader r => exact hv
    | _ => cases hv
  | take name t =>
    rw [step]
    refine readFrom_sound h name fun r hr => ?_
    exact (Reader.takeScalar_safe hr t).map fun _ hp => ⟨hp.fits hr, rfl⟩
  | byteAt name index =>
    refine inspect_sound h name fun o reply ho hr => ?_
    cases o with
    | reader r => cases hr; exact (Reader.byteAt_safe ho index).fault_ofExcept fun _ => rfl
    | _ => cases hr
  | fill name target =>
    rw [step]
    refine fillFrom_sound h name target fun r hr => ?_
    exact (Reader.take_safe hr target.length).imp fun _ hp => hp.fits hr
  | fillRange name target offset length =>
    rw [step]
    refine fillFrom_sound h name target fun r hr => ?_
    exact (Reader.fillRange_safe hr target offset length).imp fun _ hp => hp.fits hr
  | window name =>
    refine inspect_sound h name fun o reply ho hr f hf => ?_
    cases o with
    | reader r =>
      cases hr
      rw [View.Fits.content_eq ho] at hf
      cases hf
    | _ => cases hr
  | text name encoding =>
    rw [step]
    refine readFrom_sound h name fun r hr => ?_
    exact (Reader.text_safe hr encoding).map fun _ hp => ⟨hp.fits hr, rfl⟩
  | drain name =>
    rw [step]
    refine readFrom_sound h name fun r hr => ?_
    exact (Reader.drain_safe hr).map fun _ hp => ⟨hp.fits hr, rfl⟩
  | ensureRemaining name length =>
    refine inspect_sound h name fun o reply ho hr => ?_
    cases o with
    | writer w => cases hr; exact (w.cursor.checkRemaining_safe length).fault_ofExcept fun _ => rfl
    | _ => cases hr
  | put name s => exact writeTo_sound h name fun w hw => w.put_sound hw s.encode
  | putBytes name bytes => exact writeTo_sound h name fun w hw => w.put_sound hw bytes
  | putText name s => exact writeTo_sound h name fun w hw => w.put_sound hw (Text.Utf8.encode s)

/-- A write by a writer: all of it and a move past it, or nothing for want of room. -/
lemma step_writeTo (h : ws.Valid) {name : String} {w : Writer}
    (hw : ws.find? name = some (.writer w)) (bytes : List UInt8) :
    ws.writeTo name (·.put bytes) = if bytes.length ≤ w.cursor.remaining then
        (.done .nothing, { ws with memory := ws.memory.replace w.region w.index bytes }.bind name
          (.writer (w.skip bytes.length)))
      else (.failed (.outOfBounds w.cursor.position bytes.length w.cursor.limit), ws) := by
  have hfits : w.Fits ws.memory := h name _ hw
  rw [writeTo, hw]
  simp only [Writer.run_put_eq hfits]
  by_cases hl : bytes.length ≤ w.cursor.remaining
  · simp only [if_pos hl]
  · simp only [if_neg hl]

lemma run_cons (ws : Workspace) (op : Operation) (rest : List Operation) :
    ws.run (op :: rest) =
      ((ws.step op).1 :: ((ws.step op).2.run rest).1, ((ws.step op).2.run rest).2) := rfl

lemma run_append (ws : Workspace) (first second : List Operation) :
    ws.run (first ++ second) =
      ((ws.run first).1 ++ ((ws.run first).2.run second).1, ((ws.run first).2.run second).2) := by
  induction first generalizing ws with
  | nil => rfl
  | cons op rest ih =>
    rw [List.cons_append, run_cons, run_cons, ih]
    rfl

/-- A run of any length keeps what its steps keep. -/
theorem run_sound (h : ws.Valid) (ops : List Operation)
    (hops : ∀ op ∈ ops, op.payload.length ≤ bound) :
    (ws.run ops).2.Valid ∧ ws.memory.Grows (ws.run ops).2.memory bound ∧
      ∀ reply ∈ (ws.run ops).1, reply.fault? ≠ some .outsideRegion := by
  induction ops generalizing ws with
  | nil => exact ⟨h, Memory.Grows.refl _ _, fun reply hr => by cases hr⟩
  | cons op rest ih =>
    have hstep := step_sound h op
    obtain ⟨hvalid, hgrows, hreplies⟩ := ih hstep.valid fun op hop =>
      hops op (List.mem_cons_of_mem _ hop)
    have hfirst := hstep.grows.mono (hops op List.mem_cons_self)
    rw [run_cons]
    refine ⟨hvalid, hfirst.trans hgrows, fun reply hr => ?_⟩
    rcases List.mem_cons.1 hr with rfl | hr
    · exact fun hf => (hstep.refused _ hf).1 rfl
    · exact hreplies reply hr

lemma exists_payload_bound (ops : List Operation) :
    ∃ bound, ∀ op ∈ ops, op.payload.length ≤ bound := by
  induction ops with
  | nil => exact ⟨0, fun op h => by cases h⟩
  | cons op rest ih =>
    obtain ⟨bound, hrest⟩ := ih
    refine ⟨max op.payload.length bound, fun other hother => ?_⟩
    rcases List.mem_cons.1 hother with rfl | hmem
    · exact Nat.le_max_left _ _
    · exact Nat.le_trans (hrest other hmem) (Nat.le_max_right _ _)

lemma run_valid (h : ws.Valid) (ops : List Operation) : (ws.run ops).2.Valid := by
  obtain ⟨bound, hops⟩ := exists_payload_bound ops
  exact (run_sound h ops hops).1

end Workspace

end AmqpClient.Buffer
