import AmqpClient.Proofs.BulkTransfer

/-!
# What one operation can change

An operation changes octets only where it reports to have written them, moves no cursor but those it
is called on, and puts objects only under the names that it is given.
-/

namespace AmqpClient.Buffer

namespace Operation

/-- The names that stand for another object afterwards, or for none. -/
def replaced : Operation → List String
  | allocate name _ _ | make name _ _ _ | wrapArray name _ _ _ _ | wrapRegion name _ _
  | clone name _ | array name _ | duplicate name _ | slice name _ | toReader name _ => [name]
  | intoReader name source => [name, source]
  | _ => []

/-- The names of the cursors that an operation is called on to move them. -/
def moved : Operation → List String
  | transfer source target => [source, target]
  | move name _ | moveReader name _ | take name _ | fill name _ | fillRange name _ _ _
  | text name _ | drain name | put name _ | putBytes name _ | putText name _ => [name]
  | _ => []

def isAllocation : Operation → Bool
  | allocate .. | make .. => true
  | _ => false

/-- Operations that can write octets of a region that is there. -/
def isWrite : Operation → Bool
  | put .. | putBytes .. | putText .. | transfer .. | overwrite .. => true
  | _ => false

end Operation

/-- A computation that leaves memory alone. -/
def Effect.Quiet {α : Type} (x : Effect α) : Prop :=
  ∀ m, (∃ a, x.run m = .ok a m) ∨ ∃ f, x.run m = .error f m

namespace Workspace

/-- The range of a region that an operation reports to have written, by its reply: what it was given
to write, from the position of the writer or from the index in the array. -/
inductive Reports (ws : Workspace) : Operation → Reply → RegionId → Nat → Nat → Prop
  | put {name : String} {w : Writer} (hw : ws.find? name = some (.writer w)) (s : Scalar) :
    Reports ws (.put name s) (.done .nothing) w.region (w.offset + w.cursor.position)
      s.encode.length
  | putBytes {name : String} {w : Writer} (hw : ws.find? name = some (.writer w))
    (bytes : List UInt8) :
    Reports ws (.putBytes name bytes) (.done .nothing) w.region (w.offset + w.cursor.position)
      bytes.length
  | putText {name : String} {w : Writer} (hw : ws.find? name = some (.writer w)) (s : String) :
    Reports ws (.putText name s) (.done .nothing) w.region (w.offset + w.cursor.position)
      (Text.Utf8.encode s).length
  | transfer {source target : String} {r : Reader} {w : Writer}
    (hr : ws.find? source = some (.reader r)) (hw : ws.find? target = some (.writer w)) :
    Reports ws (.transfer source target) (.done .nothing) w.region (w.offset + w.cursor.position)
      r.cursor.remaining
  | overwrite {name : String} {id : RegionId} (ha : ws.find? name = some (.array id)) (index : Nat)
    (bytes : List UInt8) :
    Reports ws (.overwrite name index bytes) (.done .nothing) id index bytes.length

/-- An operation has changed what it reports to have written, the cursors that it was called on, and
the objects under names that it was given, and nothing else. -/
structure Framed (ws : Workspace) (op : Operation) (result : Reply × Workspace) : Prop where
  /-- Octets outside of the range that is reported as written are as they were. -/
  octets : ∀ id < ws.memory.regions.length, ∀ i,
    (∀ start length, ws.Reports op result.1 id start length → i < start ∨ start + length ≤ i) →
    (result.2.memory.content id)[i]? = (ws.memory.content id)[i]?
  /-- Reads and moves, and all else that is no write and no allocation, leave memory alone. -/
  quiet : op.isWrite = false → op.isAllocation = false → result.2.memory = ws.memory
  others : ∀ name, (name ∈ op.replaced → result.1 ≠ .done .nothing) → name ∉ op.moved →
    result.2.find? name = ws.find? name

variable {ws : Workspace} {name source key : String}

/-! ### Memory -/

lemma quiet_pure {α : Type} (a : α) : Effect.Quiet (pure a : Effect α) :=
  fun _ => .inl ⟨a, rfl⟩

lemma quiet_query {α β : Type} (x : Memory → Except Fault β) (f : β → α) :
    Effect.Quiet (do return f (← Effect.ofExcept (x (← get))) : Effect α) := by
  intro m
  change (∃ a, (Effect.ofExcept (x m) >>= fun b => pure (f b)).run m = .ok a m) ∨
    ∃ e, (Effect.ofExcept (x m) >>= fun b => pure (f b)).run m = .error e m
  cases x m with
  | ok b => exact .inl ⟨f b, rfl⟩
  | error e => exact .inr ⟨e, rfl⟩

lemma memory_derive {make : Object → Option (Effect Object)}
    (hquiet : ∀ o effect, make o = some effect → effect.Quiet) :
    (ws.derive name source make).2.memory = ws.memory := by
  unfold derive create
  cases hmake : (ws.find? source).bind make with
  | none => rfl
  | some effect =>
    obtain ⟨o, -, heffect⟩ := Option.bind_eq_some_iff.1 hmake
    rcases hquiet o effect heffect ws.memory with ⟨made, hrun⟩ | ⟨f, hrun⟩
    · simp only [hrun, memory_bind]
    · simp only [hrun]

lemma memory_intoReader : (ws.intoReader name source).2.memory = ws.memory := by
  unfold intoReader
  split <;> rfl

lemma memory_moveView (view? : Object → Option View) (move : Cursor → Except Fault Cursor) :
    (ws.moveView name view? move).2.memory = ws.memory := by
  unfold moveView
  split
  · split
    · split <;> rfl
    · rfl
  · rfl

lemma memory_readFrom (read : Reader → Memory → Except Fault (Value × Reader)) :
    (ws.readFrom name read).2.memory = ws.memory := by
  unfold readFrom
  split
  · split <;> rfl
  · rfl

lemma memory_fillFrom (target : List UInt8)
    (read : Reader → Memory → Except Fault (List UInt8 × Reader)) :
    (ws.fillFrom name target read).2.memory = ws.memory := by
  unfold fillFrom
  split
  · split <;> rfl
  · rfl

/-- What is no write and no allocation leaves memory alone. -/
theorem memory_step {op : Operation} (hwrite : op.isWrite = false)
    (hallocation : op.isAllocation = false) : (ws.step op).2.memory = ws.memory := by
  cases op with
  | allocate name placement bytes => cases hallocation
  | make name role placement bytes => cases hallocation
  | transfer source target => cases hwrite
  | overwrite name index bytes => cases hwrite
  | put name s => cases hwrite
  | putBytes name bytes => cases hwrite
  | putText name s => cases hwrite
  | wrapArray name role source offset length =>
    refine memory_derive fun o effect he => ?_
    cases o <;> cases he
    exact quiet_query (fun m => View.window m _ offset length) role.object
  | wrapRegion name role source =>
    refine memory_derive fun o effect he => ?_
    cases o <;> cases he
    exact fun m => .inl ⟨role.object (.whole m _), rfl⟩
  | clone name source =>
    refine memory_derive fun o effect he => ?_
    cases he
    exact quiet_pure o
  | array name source =>
    refine memory_derive fun o effect he => ?_
    obtain ⟨v, -, rfl⟩ := Option.map_eq_some_iff.1 he
    exact quiet_query v.array Object.array
  | duplicate name source =>
    refine memory_derive fun o effect he => ?_
    cases o <;> cases he
    exact quiet_pure _
  | slice name source =>
    refine memory_derive fun o effect he => ?_
    cases o <;> cases he
    exact quiet_pure _
  | toReader name source =>
    refine memory_derive fun o effect he => ?_
    cases o <;> cases he
    exact quiet_pure _
  | intoReader name source => exact memory_intoReader
  | move name m => exact memory_moveView _ _
  | moveReader name m => exact memory_moveView _ _
  | take name t => exact memory_readFrom _
  | text name encoding => exact memory_readFrom _
  | drain name => exact memory_readFrom _
  | fill name target => exact memory_fillFrom _ _
  | fillRange name target offset length => exact memory_fillFrom _ _
  -- the others only look
  | _ => rfl

lemma octets_replace {id other : RegionId} {start i : Nat} {bytes : List UInt8} {m : Memory}
    (hroom : start + bytes.length ≤ m.size id)
    (hi : other = id → i < start ∨ start + bytes.length ≤ i) :
    ((m.replace id start bytes).content other)[i]? = (m.content other)[i]? := by
  rw [Memory.content_replace hroom]
  by_cases hid : other = id
  · subst hid
    rw [if_pos rfl, Memory.getElem?_splice hroom (hi rfl)]
  · rw [if_neg hid]

/-- A write by a writer keeps the octets outside of the range that it reports. -/
lemma octets_writeTo (h : ws.Valid) (bytes : List UInt8) {id : RegionId} {i : Nat}
    (hi : ∀ w : Writer, ws.find? name = some (.writer w) →
      (ws.writeTo name (·.put bytes)).1 = .done .nothing → id = w.region →
      i < w.offset + w.cursor.position ∨ w.offset + w.cursor.position + bytes.length ≤ i) :
    ((ws.writeTo name (·.put bytes)).2.memory.content id)[i]? = (ws.memory.content id)[i]? := by
  cases ho : ws.find? name with
  | none => rw [writeTo, ho]
  | some o =>
    cases o with
    | writer w =>
      have hout := hi w ho
      rw [step_writeTo h ho] at hout ⊢
      by_cases hl : bytes.length ≤ w.cursor.remaining
      · rw [if_pos hl] at hout ⊢
        have hfits : w.Fits ws.memory := h name _ ho
        exact octets_replace (hfits.index_add_le hl) (hout rfl)
      · rw [if_neg hl]
    | _ => rw [writeTo, ho]

lemma octets_transfer (h : ws.Valid) {target : String} {id : RegionId} {i : Nat}
    (hi : ∀ (r : Reader) (w : Writer), ws.find? source = some (.reader r) →
      ws.find? target = some (.writer w) →
      (ws.step (.transfer source target)).1 = .done .nothing → id = w.region →
      i < w.offset + w.cursor.position ∨
        w.offset + w.cursor.position + r.cursor.remaining ≤ i) :
    ((ws.step (.transfer source target)).2.memory.content id)[i]? =
      (ws.memory.content id)[i]? := by
  cases hs : ws.find? source with
  | none => rw [step, transfer, hs]
  | some o =>
    cases o with
    | reader r =>
      cases ht : ws.find? target with
      | none => rw [step, transfer, hs, ht]
      | some o =>
        cases o with
        | writer w =>
          have hout := hi r w hs ht
          by_cases hl : r.cursor.remaining ≤ w.cursor.remaining
          · have hmoved := transferred_step h hs ht hl
            have hdone : (ws.step (.transfer source target)).1 = .done .nothing := by
              rw [step_transfer h hs ht, if_pos hl]
            exact hmoved.elsewhere id i (hout hdone)
          · rw [step_transfer h hs ht, if_neg hl]
        | _ => rw [step, transfer, hs, ht]
    | _ => rw [step, transfer, hs]

lemma octets_overwrite {index : Nat} {bytes : List UInt8} {id : RegionId} {i : Nat}
    (hi : ws.find? name = some (.array id) → (ws.overwrite name index bytes).1 = .done .nothing →
      i < index ∨ index + bytes.length ≤ i) :
    ((ws.overwrite name index bytes).2.memory.content id)[i]? = (ws.memory.content id)[i]? := by
  cases ho : ws.find? name with
  | none => rw [overwrite, ho]
  | some o =>
    cases o with
    | array array =>
      cases hwrite : ws.memory.write array index bytes with
      | error f => simp only [overwrite, ho, hwrite]
      | ok after =>
        obtain ⟨hroom, hafter⟩ := Memory.write_eq_ok_iff.1 hwrite
        have hdone : ws.overwrite name index bytes =
            (.done .nothing, { ws with memory := after }) := by
          simp only [overwrite, ho, hwrite]
        rw [hdone] at hi ⊢
        rw [hafter]
        exact octets_replace hroom fun he => hi (he ▸ ho) rfl
    | _ => rw [overwrite, ho]

lemma octets_allocate (m : Memory) (region : Region) {id : RegionId} (h : id < m.regions.length) :
    (m.allocate region).2.content id = m.content id := by
  simp only [Memory.content, Memory.allocate, List.getElem?_append_left h]

/-- An operation keeps the octets outside of the range that it reports. -/
lemma octets_step (h : ws.Valid) (op : Operation) {id : RegionId}
    (hid : id < ws.memory.regions.length) {i : Nat}
    (hi : ∀ start length, ws.Reports op (ws.step op).1 id start length →
      i < start ∨ start + length ≤ i) :
    ((ws.step op).2.memory.content id)[i]? = (ws.memory.content id)[i]? := by
  have hquiet : op.isWrite = false → op.isAllocation = false →
      ((ws.step op).2.memory.content id)[i]? = (ws.memory.content id)[i]? := by
    intro hwrite hallocation
    rw [memory_step hwrite hallocation]
  cases op with
  | allocate name placement bytes =>
    exact congrArg (·[i]?) (octets_allocate ws.memory ⟨placement, bytes⟩ hid)
  | make name role placement bytes =>
    exact congrArg (·[i]?) (octets_allocate ws.memory ⟨placement, bytes⟩ hid)
  | put name s =>
    refine octets_writeTo h s.encode fun w hw hdone he => hi _ _ ?_
    have hreply : (ws.step (.put name s)).1 = .done .nothing := hdone
    rw [hreply, he]
    exact .put hw s
  | putBytes name bytes =>
    refine octets_writeTo h bytes fun w hw hdone he => hi _ _ ?_
    rw [step, hdone, he]
    exact .putBytes hw bytes
  | putText name s =>
    refine octets_writeTo h (Text.Utf8.encode s) fun w hw hdone he => hi _ _ ?_
    have hreply : (ws.step (.putText name s)).1 = .done .nothing := hdone
    rw [hreply, he]
    exact .putText hw s
  | transfer source target =>
    refine octets_transfer h fun r w hr hw hdone he => hi _ _ ?_
    rw [hdone, he]
    exact .transfer hr hw
  | overwrite name index bytes =>
    refine octets_overwrite fun ha hdone => hi _ _ ?_
    rw [step, hdone]
    exact .overwrite ha index bytes
  | _ => exact hquiet rfl rfl

/-! ### What other names stand for -/

lemma find?_create (make : Effect Object)
    (hkey : key = name → (ws.create name make).1 ≠ .done .nothing) :
    (ws.create name make).2.find? key = ws.find? key := by
  unfold create at hkey ⊢
  cases hrun : make.run ws.memory with
  | ok o m =>
    rw [hrun] at hkey
    rw [find?_bind, if_neg fun he => hkey he rfl]
    rfl
  | error f m => rfl

lemma find?_derive (make : Object → Option (Effect Object))
    (hkey : key = name → (ws.derive name source make).1 ≠ .done .nothing) :
    (ws.derive name source make).2.find? key = ws.find? key := by
  unfold derive at hkey ⊢
  cases hmake : (ws.find? source).bind make with
  | none => rfl
  | some effect =>
    rw [hmake] at hkey
    exact find?_create effect hkey

lemma find?_intoReader
    (hkey : key = name ∨ key = source → (ws.intoReader name source).1 ≠ .done .nothing) :
    (ws.intoReader name source).2.find? key = ws.find? key := by
  cases ho : ws.find? source with
  | none => rw [intoReader, ho]
  | some o =>
    cases o with
    | writer w =>
      rw [intoReader, ho] at hkey ⊢
      rw [find?_bind, if_neg fun he => hkey (.inl he) rfl, find?_forget,
        if_neg fun he => hkey (.inr he) rfl]
    | _ => rw [intoReader, ho]

lemma find?_moveView (hkey : key ≠ name) (view? : Object → Option View)
    (move : Cursor → Except Fault Cursor) :
    (ws.moveView name view? move).2.find? key = ws.find? key := by
  unfold moveView
  split
  · split
    · split
      · rw [find?_bind, if_neg hkey]
      · rfl
    · rfl
  · rfl

lemma find?_readFrom (hkey : key ≠ name)
    (read : Reader → Memory → Except Fault (Value × Reader)) :
    (ws.readFrom name read).2.find? key = ws.find? key := by
  unfold readFrom
  split
  · split
    · rw [find?_bind, if_neg hkey]
    · rfl
  · rfl

lemma find?_fillFrom (hkey : key ≠ name) (target : List UInt8)
    (read : Reader → Memory → Except Fault (List UInt8 × Reader)) :
    (ws.fillFrom name target read).2.find? key = ws.find? key := by
  unfold fillFrom
  split
  · split
    · rw [find?_bind, if_neg hkey]
    · rfl
  · rfl

lemma find?_writeTo (hkey : key ≠ name) (write : Writer → Effect Writer) :
    (ws.writeTo name write).2.find? key = ws.find? key := by
  unfold writeTo
  split
  · split
    · rw [find?_bind, if_neg hkey]
      rfl
    · rfl
  · rfl

lemma find?_transfer {target : String} (hsource : key ≠ source) (htarget : key ≠ target)
    (move : Reader → Writer → Effect (Reader × Writer)) :
    (ws.transfer source target move).2.find? key = ws.find? key := by
  unfold transfer
  split
  · split
    · rw [find?_bind, if_neg htarget, find?_bind, if_neg hsource]
      rfl
    · rfl
  · rfl

lemma find?_overwrite (ws : Workspace) (name key : String) (index : Nat) (bytes : List UInt8) :
    (ws.overwrite name index bytes).2.find? key = ws.find? key := by
  unfold overwrite
  split
  · split <;> rfl
  · rfl

/-- What stands under a name is as it was, unless an operation replaces it or moves it. -/
theorem find?_step (op : Operation)
    (hreplaced : key ∈ op.replaced → (ws.step op).1 ≠ .done .nothing) (hmoved : key ∉ op.moved) :
    (ws.step op).2.find? key = ws.find? key := by
  have hgiven (name : String) (h : op.replaced = [name]) (he : key = name) :
      (ws.step op).1 ≠ .done .nothing :=
    hreplaced (h ▸ List.mem_singleton.2 he)
  cases op with
  | allocate name placement bytes => exact find?_create _ (hgiven name rfl)
  | make name role placement bytes => exact find?_create _ (hgiven name rfl)
  | wrapArray name role source offset length => exact find?_derive _ (hgiven name rfl)
  | wrapRegion name role source => exact find?_derive _ (hgiven name rfl)
  | clone name source => exact find?_derive _ (hgiven name rfl)
  | array name source => exact find?_derive _ (hgiven name rfl)
  | duplicate name source => exact find?_derive _ (hgiven name rfl)
  | slice name source => exact find?_derive _ (hgiven name rfl)
  | toReader name source => exact find?_derive _ (hgiven name rfl)
  | intoReader name source =>
    refine find?_intoReader fun hkey => hreplaced ?_
    rcases hkey with rfl | rfl
    · exact List.mem_cons_self
    · exact List.mem_cons_of_mem _ List.mem_cons_self
  | transfer source target =>
    exact find?_transfer (List.ne_of_not_mem_cons hmoved)
      (List.ne_of_not_mem_cons (List.not_mem_of_not_mem_cons hmoved)) _
  | overwrite name index bytes => exact find?_overwrite ws name key index bytes
  | move name m => exact find?_moveView (List.ne_of_not_mem_cons hmoved) _ _
  | moveReader name m => exact find?_moveView (List.ne_of_not_mem_cons hmoved) _ _
  | take name t => exact find?_readFrom (List.ne_of_not_mem_cons hmoved) _
  | text name encoding => exact find?_readFrom (List.ne_of_not_mem_cons hmoved) _
  | drain name => exact find?_readFrom (List.ne_of_not_mem_cons hmoved) _
  | fill name target => exact find?_fillFrom (List.ne_of_not_mem_cons hmoved) _ _
  | fillRange name target offset length =>
    exact find?_fillFrom (List.ne_of_not_mem_cons hmoved) _ _
  | put name s => exact find?_writeTo (List.ne_of_not_mem_cons hmoved) _
  | putBytes name bytes => exact find?_writeTo (List.ne_of_not_mem_cons hmoved) _
  | putText name s => exact find?_writeTo (List.ne_of_not_mem_cons hmoved) _
  -- the others only look
  | _ => rfl

/-- What stands under a name is as it was after operations that neither replace it nor move it. -/
lemma find?_run {ops : List Operation}
    (hops : ∀ op ∈ ops, key ∉ op.replaced ∧ key ∉ op.moved) :
    (ws.run ops).2.find? key = ws.find? key := by
  induction ops generalizing ws with
  | nil => rfl
  | cons op rest ih =>
    obtain ⟨hreplaced, hmoved⟩ := hops op List.mem_cons_self
    have hrest : ((ws.step op).2.run rest).2.find? key = (ws.step op).2.find? key :=
      ih fun op hop => hops op (List.mem_cons_of_mem _ hop)
    rw [run_cons]
    exact hrest.trans (find?_step op (fun hmem => absurd hmem hreplaced) hmoved)

theorem framed_step (h : ws.Valid) (op : Operation) : ws.Framed op (ws.step op) :=
  ⟨fun _ hid _ hi => octets_step h op hid hi, memory_step,
    fun _ hreplaced hmoved => find?_step op hreplaced hmoved⟩

end Workspace

end AmqpClient.Buffer
