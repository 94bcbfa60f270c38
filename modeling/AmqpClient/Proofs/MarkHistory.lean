import AmqpClient.Proofs.ReadStream
import AmqpClient.Proofs.StepFrame

/-!
# Marks and their history

A reader can go back to its mark if what has been called on it since the mark was set leaves the
mark standing. This can be told from the operations and the positions alone: there was no rewind and
no clear, and no position before the mark.
-/

namespace AmqpClient.Buffer

/-- An operation that was called on a reader, and where the reader stood after it. -/
structure Moment where
  op : Operation
  position : Nat

/-- What has been called on the readers, by name, the last operation first. -/
abbrev Histories := String → List Moment

namespace Operation

def setsMark : Operation → Bool
  | moveReader _ .mark => true
  | _ => false

def dropsMark : Operation → Bool
  | moveReader _ .rewind | moveReader _ .clear => true
  | _ => false

/-- Reads that move past the octets they read. -/
def isRead : Operation → Bool
  | take .. | fill .. | fillRange .. | text .. | drain .. | transfer .. => true
  | _ => false

def isMove : Operation → Bool
  | move .. | moveReader .. => true
  | _ => false

/-- The reader that another one is made of as it stands. -/
def twin? : Operation → Option String
  | duplicate _ source | clone _ source => some source
  | _ => none

/-- Where an operation can leave the cursor of a reader that it is called on: a move does as it says
or fails, and anything else moves on over octets if it moves at all. -/
def Moves (op : Operation) (c d : Cursor) : Prop :=
  match op with
  | move _ m => d = (m.apply c).toOption.getD c
  | moveReader _ m => d = (m.apply c).toOption.getD c
  | _ => ∃ length ≤ c.remaining, d = c.skip length

/-- The mark of a reader that an operation has moved to a position. -/
def markAfter (op : Operation) (position : Nat) (mark : Option Nat) : Option Nat :=
  if op.setsMark then some position
  else if op.dropsMark then none
  else Cursor.markUpTo position mark

end Operation

/-- A mark that was set at `m` still stands: nothing after it has set another one or dropped it, and
the reader has not stood before it. -/
def Stands (m : Nat) (history : List Moment) : Prop :=
  ∃ later op earlier, history = later ++ ⟨op, m⟩ :: earlier ∧ op.setsMark = true ∧
    ∀ moment ∈ later, moment.op.setsMark = false ∧ moment.op.dropsMark = false ∧
      m ≤ moment.position

/-- The histories after an operation. A reader made as the twin of another one has its history too,
and all else that is made starts afresh. -/
def Histories.record (known : Histories) (op : Operation) (result : Reply × Workspace) :
    Histories := fun name =>
  if name ∈ op.replaced ∧ result.1 = .done .nothing then (op.twin?.map known).getD []
  else
    match result.2.find? name with
    | some (.reader r) =>
      if name ∈ op.moved then ⟨op, r.cursor.position⟩ :: known name else known name
    | _ => known name

/-- The histories after a run. -/
def InPlace.histories (ws : Workspace) (known : Histories) : List Operation → Histories
  | [] => known
  | op :: rest => histories (step ws op).2 (known.record op (step ws op)) rest

/-! ### Histories -/

variable {m : Nat} {c d : Cursor} {op : Operation}

lemma stands_cons {moment : Moment} {history : List Moment} :
    Stands m (moment :: history) ↔
      if moment.op.setsMark then moment.position = m
      else moment.op.dropsMark = false ∧ m ≤ moment.position ∧ Stands m history := by
  constructor
  · rintro ⟨later, op, earlier, heq, hop, hlater⟩
    cases later with
    | nil =>
      cases heq
      rw [if_pos hop]
    | cons first later =>
      obtain ⟨rfl, rfl⟩ := List.cons_eq_cons.1 heq
      obtain ⟨hmark, hdrop, hle⟩ := hlater moment List.mem_cons_self
      rw [hmark]
      exact ⟨hdrop, hle, later, op, earlier, rfl, hop,
        fun other hother => hlater other (List.mem_cons_of_mem _ hother)⟩
  · intro h
    cases hmark : moment.op.setsMark with
    | true =>
      rw [hmark, if_pos rfl] at h
      subst h
      exact ⟨[], moment.op, history, rfl, hmark, fun _ hmem => absurd hmem List.not_mem_nil⟩
    | false =>
      rw [hmark] at h
      obtain ⟨hdrop, hle, later, op, earlier, rfl, hop, hlater⟩ := h
      refine ⟨moment :: later, op, earlier, rfl, hop, fun other hother => ?_⟩
      rcases List.mem_cons.1 hother with rfl | hmem
      · exact ⟨hmark, hdrop, hle⟩
      · exact hlater other hmem

lemma not_stands_nil : ¬ Stands m [] := by
  rintro ⟨later, op, earlier, heq, -⟩
  cases later <;> cases heq

/-! ### How a cursor moves -/

lemma Cursor.markUpTo_of_le {position : Nat} {mark : Option Nat} (h : ∀ m ∈ mark, m ≤ position) :
    markUpTo position mark = mark := by
  cases mark with
  | none => rfl
  | some m => simp [markUpTo, h m rfl]

lemma Cursor.reset_getD (c : Cursor) :
    c.reset.toOption.getD c = { c with position := c.mark.getD c.position } := by
  obtain ⟨position, limit, capacity, mark⟩ := c
  cases mark <;> rfl

namespace Operation.Moves

lemma skip (hop : op.isMove = false) {length : Nat} (hl : length ≤ c.remaining) :
    op.Moves c (c.skip length) := by
  cases op with
  | move => cases hop
  | moveReader => cases hop
  | _ => exact ⟨length, hl, rfl⟩

/-- An operation that neither sets the mark nor drops it keeps it as long as the position does not
fall behind it. -/
lemma mark_eq (h : op.Moves c d) (hc : c.Ordered) : d.mark = op.markAfter d.position c.mark := by
  have hkept : c.mark = Cursor.markUpTo c.position c.mark :=
    (Cursor.markUpTo_of_le hc.mark_le).symm
  cases op with
  | move name move =>
    obtain rfl : d = (move.apply c).toOption.getD c := h
    cases move with
    | setPosition n =>
      by_cases hn : c.limit < n
      · rw [Move.apply, Cursor.setPosition, if_pos hn]
        exact hkept
      · rw [Move.apply, Cursor.setPosition, if_neg hn]
        rfl
    | setLimit n =>
      by_cases hn : c.capacity < n
      · rw [Move.apply, Cursor.setLimit, if_pos hn]
        exact hkept
      · rw [Move.apply, Cursor.setLimit, if_neg hn]
        rfl
  | moveReader name move =>
    obtain rfl : d = (move.apply c).toOption.getD c := h
    cases move with
    | mark => rfl
    | rewind => rfl
    | clear => rfl
    | reclaim => exact hkept
    | reset =>
      rw [ReaderMove.apply, Cursor.reset_getD]
      exact (Cursor.markUpTo_of_le fun m hm => by rw [hm]; exact Nat.le_refl m).symm
    | flip =>
      change c.mark = Cursor.markUpTo (c.mark.getD 0) c.mark
      exact (Cursor.markUpTo_of_le fun m hm => by rw [hm]; exact Nat.le_refl m).symm
  | _ =>
    obtain ⟨length, -, rfl⟩ := h
    exact (Cursor.markUpTo_of_le fun m hm =>
      Nat.le_trans (hc.mark_le m hm) (Nat.le_add_right _ _)).symm

lemma stands_iff (h : op.Moves c d) (hc : c.Ordered) {history : List Moment}
    (hmark : c.mark = some m ↔ Stands m history) :
    d.mark = some m ↔ Stands m (⟨op, d.position⟩ :: history) := by
  rw [h.mark_eq hc, stands_cons, Operation.markAfter, ← hmark]
  cases op.setsMark with
  | true => simp
  | false =>
    cases op.dropsMark with
    | true => simp
    | false => simp [Cursor.markUpTo, Option.filter_eq_some_iff, and_comm]

lemma advanced {r : Reader} (h : op.Moves r.cursor d) (hop : op.isRead = true) :
    r.Advanced { r with cursor := d } := by
  cases op with
  | take | fill | fillRange | text | drain | transfer =>
    obtain ⟨length, hl, rfl⟩ := h
    exact ⟨length, hl, rfl⟩
  | _ => cases hop

end Operation.Moves

namespace Workspace

/-- What stands under a name is a reader afterwards if it was one before, and then only its cursor
has moved. -/
structure MovesReader (ws after : Workspace) (name : String) (op : Operation) : Prop where
  moved : ∀ r, ws.find? name = some (.reader r) →
    ∃ c, after.find? name = some (.reader { r with cursor := c }) ∧ op.Moves r.cursor c
  only : (∀ r, ws.find? name ≠ some (.reader r)) → ∀ r, after.find? name ≠ some (.reader r)

variable {ws after : Workspace} {name : String}

lemma movesReader_rejected (hreader : ∀ r, ws.find? name ≠ some (.reader r)) :
    ws.MovesReader ws name op :=
  ⟨fun r hr => absurd hr (hreader r), fun _ => hreader⟩

lemma moveView_movesReader {view? : Object → Option View} {move : Cursor → Except Fault Cursor}
    (hview : ∀ r, view? (.reader r) = some r.toView)
    (hop : ∀ c : Cursor, op.Moves c ((move c).toOption.getD c)) :
    ws.MovesReader (ws.moveView name view? move).2 name op := by
  unfold moveView
  cases ho : ws.find? name with
  | none => exact movesReader_rejected fun r hr => by rw [ho] at hr; cases hr
  | some o =>
    dsimp only
    cases hv : view? o with
    | none =>
      refine movesReader_rejected fun r hr => ?_
      rw [ho] at hr
      cases hr
      rw [hview r] at hv
      cases hv
    | some v =>
      dsimp only
      constructor
      · intro r hr
        rw [ho] at hr
        cases hr
        rw [hview r] at hv
        cases hv
        refine ⟨_, ?_, hop r.cursor⟩
        cases move r.cursor with
        | ok c => rw [find?_bind, if_pos rfl]; rfl
        | error f => exact ho
      · intro hnot r
        cases move v.cursor with
        | ok c =>
          rw [find?_bind, if_pos rfl]
          cases o with
          | reader s => exact absurd ho (hnot s)
          | _ => exact fun h => by cases h
        | error f => exact hnot r

/-- A read that succeeds. -/
lemma movesReader_advanced {r s : Reader} (hr : ws.find? name = some (.reader r))
    (hs : r.Advanced s) (hop : op.isMove = false) :
    ws.MovesReader (ws.bind name (.reader s)) name op := by
  obtain ⟨length, hl, rfl⟩ := hs
  refine ⟨fun r' hr' => ?_, fun hnot => absurd hr (hnot r)⟩
  rw [hr] at hr'
  cases hr'
  exact ⟨_, by rw [find?_bind, if_pos rfl]; rfl, .skip hop hl⟩

/-- An operation that is not for readers, and a read that fails. -/
lemma movesReader_unchanged (hfind : after.find? name = ws.find? name)
    (hop : op.isMove = false) : ws.MovesReader after name op :=
  ⟨fun r hr => ⟨r.cursor, hfind.trans hr, .skip hop (Nat.zero_le _)⟩,
    fun hnot r => hfind ▸ hnot r⟩

lemma readFrom_movesReader (h : ws.Valid)
    {read : Reader → Memory → Except Fault (Value × Reader)}
    (hread : ∀ r : Reader, r.Fits ws.memory →
      SafeResult (read r ws.memory) fun p => r.Advanced p.2)
    (hop : op.isMove = false) :
    ws.MovesReader (ws.readFrom name read).2 name op := by
  unfold readFrom
  split
  · rename_i r hr
    have hsafe := hread r (h name _ hr)
    split
    · rename_i v s hs
      rw [hs] at hsafe
      exact movesReader_advanced hr hsafe hop
    · exact movesReader_unchanged rfl hop
  · exact movesReader_unchanged rfl hop

lemma fillFrom_movesReader (h : ws.Valid) (target : List UInt8)
    {read : Reader → Memory → Except Fault (List UInt8 × Reader)}
    (hread : ∀ r : Reader, r.Fits ws.memory →
      SafeResult (read r ws.memory) fun p => r.Advanced p.2)
    (hop : op.isMove = false) :
    ws.MovesReader (ws.fillFrom name target read).2 name op := by
  unfold fillFrom
  split
  · rename_i r hr
    have hsafe := hread r (h name _ hr)
    split
    · rename_i bytes s hs
      rw [hs] at hsafe
      exact movesReader_advanced hr hsafe hop
    · exact movesReader_unchanged rfl hop
  · exact movesReader_unchanged rfl hop

/-- A writer stays a writer. -/
lemma writeTo_movesReader (h : ws.Valid) (bytes : List UInt8) (hop : op.isMove = false) :
    ws.MovesReader (ws.writeTo name (·.put bytes)).2 name op := by
  by_cases hw : ∃ w, ws.find? name = some (.writer w)
  · obtain ⟨w, hw⟩ := hw
    refine ⟨fun r hr => ?_, fun _ r => ?_⟩
    · rw [hw] at hr
      cases hr
    · rw [step_writeTo h hw]
      by_cases hl : bytes.length ≤ w.cursor.remaining
      · rw [if_pos hl, find?_bind, if_pos rfl]
        exact fun hr => by cases hr
      · rw [if_neg hl, hw]
        exact fun hr => by cases hr
  · unfold writeTo
    split
    · rename_i w hfound
      exact absurd ⟨w, hfound⟩ hw
    · exact movesReader_unchanged rfl hop

lemma transfer_movesReader (h : ws.Valid) {source target : String}
    (hname : name = source ∨ name = target) :
    ws.MovesReader (ws.step (.transfer source target)).2 name (.transfer source target) := by
  by_cases hviews : ∃ r w, ws.find? source = some (.reader r) ∧ ws.find? target = some (.writer w)
  · obtain ⟨r, w, hr, hw⟩ := hviews
    by_cases hl : r.cursor.remaining ≤ w.cursor.remaining
    · have hmoved := transferred_step h hr hw hl
      rcases hname with rfl | rfl
      · refine ⟨fun s hs => ?_, fun hnot => absurd hr (hnot r)⟩
        rw [hr] at hs
        cases hs
        have hfits : r.Fits ws.memory := h name _ hr
        exact ⟨_, hmoved.source_eq, _, Nat.le_refl _, hfits.ordered.skip_remaining.symm⟩
      · refine ⟨fun s hs => ?_, fun _ s hs => ?_⟩
        · rw [hw] at hs
          cases hs
        · rw [hmoved.target_eq] at hs
          cases hs
    · rw [step_transfer h hr hw, if_neg hl]
      exact movesReader_unchanged rfl rfl
  · rw [step]
    unfold transfer
    split
    · rename_i r w hr hw
      exact absurd ⟨r, w, hr, hw⟩ hviews
    · exact movesReader_unchanged rfl rfl

/-- What an operation does to the readers that it is called on. -/
lemma step_movesReader (h : ws.Valid) {op : Operation} (hname : name ∈ op.moved) :
    ws.MovesReader (ws.step op).2 name op := by
  cases op with
  | transfer source target =>
    refine transfer_movesReader h ?_
    rcases List.mem_cons.1 hname with he | hmem
    · exact .inl he
    · exact .inr (List.mem_singleton.1 hmem)
  | move n move =>
    obtain rfl := List.mem_singleton.1 hname
    exact moveView_movesReader (fun _ => rfl) fun _ => rfl
  | moveReader n move =>
    obtain rfl := List.mem_singleton.1 hname
    exact moveView_movesReader (fun _ => rfl) fun _ => rfl
  | take n t =>
    obtain rfl := List.mem_singleton.1 hname
    exact readFrom_movesReader h (fun r hr => (Reader.takeScalar_safe hr t).map fun _ hp => hp) rfl
  | text n encoding =>
    obtain rfl := List.mem_singleton.1 hname
    exact readFrom_movesReader h (fun r hr => (Reader.text_safe hr encoding).map fun _ hp => hp) rfl
  | drain n =>
    obtain rfl := List.mem_singleton.1 hname
    exact readFrom_movesReader h (fun r hr => (Reader.drain_safe hr).map fun _ hp => hp) rfl
  | fill n target =>
    obtain rfl := List.mem_singleton.1 hname
    exact fillFrom_movesReader h target (fun r hr => Reader.take_safe hr target.length) rfl
  | fillRange n target offset length =>
    obtain rfl := List.mem_singleton.1 hname
    exact fillFrom_movesReader h target
      (fun r hr => Reader.fillRange_safe hr target offset length) rfl
  | put n s =>
    obtain rfl := List.mem_singleton.1 hname
    exact writeTo_movesReader h s.encode rfl
  | putBytes n bytes =>
    obtain rfl := List.mem_singleton.1 hname
    exact writeTo_movesReader h bytes rfl
  | putText n s =>
    obtain rfl := List.mem_singleton.1 hname
    exact writeTo_movesReader h (Text.Utf8.encode s) rfl
  -- the others are called on no cursor
  | _ => cases hname

/-! ### How a reader is made -/

variable {r : Reader}

lemma create_made {make : Effect Object} (hdone : (ws.create name make).1 = .done .nothing)
    (hr : (ws.create name make).2.find? name = some (.reader r)) :
    ∃ m, make.run ws.memory = .ok (.reader r) m := by
  unfold create at hdone hr
  cases hrun : make.run ws.memory with
  | ok made m =>
    rw [hrun] at hr
    dsimp only at hr
    rw [find?_bind, if_pos rfl] at hr
    cases hr
    exact ⟨m, rfl⟩
  | error f m =>
    rw [hrun] at hdone
    cases hdone

lemma derive_made {source : String} {make : Object → Option (Effect Object)}
    (hdone : (ws.derive name source make).1 = .done .nothing)
    (hr : (ws.derive name source make).2.find? name = some (.reader r)) :
    ∃ o effect m, ws.find? source = some o ∧ make o = some effect ∧
      effect.run ws.memory = .ok (.reader r) m := by
  unfold derive at hdone hr
  cases hmake : (ws.find? source).bind make with
  | none =>
    rw [hmake] at hdone
    cases hdone
  | some effect =>
    obtain ⟨o, ho, heffect⟩ := Option.bind_eq_some_iff.1 hmake
    rw [hmake] at hdone hr
    obtain ⟨m, hrun⟩ := create_made hdone hr
    exact ⟨o, effect, m, ho, heffect, hrun⟩

lemma intoReader_made {key source : String} (hname : name = key ∨ name = source)
    (hdone : (ws.intoReader key source).1 = .done .nothing)
    (hr : (ws.intoReader key source).2.find? name = some (.reader r)) :
    ∃ w : Writer, r = w.toReader := by
  unfold intoReader at hdone hr
  split at hr
  · rename_i w hw
    rw [find?_bind] at hr
    by_cases hkey : name = key
    · rw [if_pos hkey] at hr
      cases hr
      exact ⟨w, rfl⟩
    · rw [if_neg hkey, find?_forget, if_pos (hname.resolve_left hkey)] at hr
      cases hr
  · rename_i hwriter
    split at hdone
    · rename_i w hw
      exact absurd hw (hwriter w)
    · cases hdone

/-- A reader that an operation has made has no mark, unless it is the twin of another one. -/
lemma step_made {op : Operation} (hname : name ∈ op.replaced)
    (hdone : (ws.step op).1 = .done .nothing)
    (hr : (ws.step op).2.find? name = some (.reader r)) :
    match op.twin? with
    | some source => ws.find? source = some (.reader r)
    | none => r.cursor.mark = none := by
  cases op with
  | allocate n placement bytes =>
    obtain rfl := List.mem_singleton.1 hname
    obtain ⟨m, hrun⟩ := create_made hdone hr
    cases placement <;> cases hrun
  | make n role placement bytes =>
    obtain rfl := List.mem_singleton.1 hname
    obtain ⟨m, hrun⟩ := create_made hdone hr
    cases role <;> cases hrun
    rfl
  | wrapArray n role source offset length =>
    obtain rfl := List.mem_singleton.1 hname
    obtain ⟨o, effect, m, -, heffect, hrun⟩ := derive_made hdone hr
    cases o <;> cases heffect
    rename_i id
    change (Effect.ofExcept (View.window ws.memory id offset length) >>= fun v =>
      pure (role.object v)).run ws.memory = _ at hrun
    unfold View.window at hrun
    split at hrun
    · cases hrun
    · cases role <;> cases hrun
      rfl
  | wrapRegion n role source =>
    obtain rfl := List.mem_singleton.1 hname
    obtain ⟨o, effect, m, -, heffect, hrun⟩ := derive_made hdone hr
    cases o <;> cases heffect
    cases role <;> cases hrun
    rfl
  | clone n source =>
    obtain rfl := List.mem_singleton.1 hname
    obtain ⟨o, effect, m, ho, heffect, hrun⟩ := derive_made hdone hr
    cases heffect
    cases hrun
    exact ho
  | array n source =>
    obtain rfl := List.mem_singleton.1 hname
    obtain ⟨o, effect, m, -, heffect, hrun⟩ := derive_made hdone hr
    obtain ⟨v, -, rfl⟩ := Option.map_eq_some_iff.1 heffect
    change (Effect.ofExcept (v.array ws.memory) >>= fun id =>
      pure (Object.array id)).run ws.memory = _ at hrun
    unfold View.array at hrun
    split at hrun <;> cases hrun
  | duplicate n source =>
    obtain rfl := List.mem_singleton.1 hname
    obtain ⟨o, effect, m, ho, heffect, hrun⟩ := derive_made hdone hr
    cases o <;> cases heffect
    cases hrun
    exact ho
  | slice n source =>
    obtain rfl := List.mem_singleton.1 hname
    obtain ⟨o, effect, m, -, heffect, hrun⟩ := derive_made hdone hr
    cases o <;> cases heffect
    cases hrun
    rfl
  | toReader n source =>
    obtain rfl := List.mem_singleton.1 hname
    obtain ⟨o, effect, m, -, heffect, hrun⟩ := derive_made hdone hr
    cases o <;> cases heffect
    cases hrun
    rfl
  | intoReader n source =>
    have hnames : name = n ∨ name = source := by
      rcases List.mem_cons.1 hname with he | hmem
      · exact .inl he
      · exact .inr (List.mem_singleton.1 hmem)
    obtain ⟨w, rfl⟩ := intoReader_made hnames hdone hr
    rfl
  -- the others make nothing
  | _ => cases hname

/-! ### Runs -/

/-- The readers have a mark just if it stands in their history. -/
def Recorded (ws : Workspace) (known : Histories) : Prop :=
  ∀ name r, ws.find? name = some (.reader r) → ∀ m, r.cursor.mark = some m ↔ Stands m (known name)

variable {known : Histories}

lemma recorded_empty : Recorded {} known := by
  intro name r hr
  cases hr

lemma Recorded.step (h : ws.Recorded known) (hvalid : ws.Valid) (op : Operation) :
    (ws.step op).2.Recorded (known.record op (ws.step op)) := by
  intro name r hr m
  unfold Histories.record
  by_cases hmade : name ∈ op.replaced ∧ (ws.step op).1 = .done .nothing
  · have horigin := step_made hmade.1 hmade.2 hr
    rw [if_pos hmade]
    cases htwin : op.twin? with
    | some source =>
      rw [htwin] at horigin
      exact h source r horigin m
    | none =>
      rw [htwin] at horigin
      rw [horigin]
      exact ⟨fun hnone => (by cases hnone), fun hstands => absurd hstands not_stands_nil⟩
  · rw [if_neg hmade, hr]
    by_cases hmoved : name ∈ op.moved
    · have hstep := step_movesReader hvalid hmoved
      by_cases hreader : ∃ s, ws.find? name = some (.reader s)
      · obtain ⟨s, hs⟩ := hreader
        obtain ⟨c, hc, hmoves⟩ := hstep.moved s hs
        rw [hr] at hc
        cases hc
        have hfits : s.Fits ws.memory := hvalid name _ hs
        simp only [if_pos hmoved]
        exact hmoves.stands_iff hfits.ordered (h name s hs m)
      · exact absurd hr (hstep.only (fun s hs => hreader ⟨s, hs⟩) r)
    · have hkept := find?_step op (fun hname hdone => hmade ⟨hname, hdone⟩) hmoved
      rw [hkept] at hr
      simp only [if_neg hmoved]
      exact h name r hr m

/-- What is called on a reader only reads from it. -/
lemma step_advanced (hvalid : ws.Valid) {op : Operation} (hr : ws.find? name = some (.reader r))
    (hkept : name ∉ op.replaced) (hread : name ∈ op.moved → op.isRead = true) :
    ∃ s, (ws.step op).2.find? name = some (.reader s) ∧ r.Advanced s := by
  by_cases hmoved : name ∈ op.moved
  · obtain ⟨c, hc, hmoves⟩ := (step_movesReader hvalid hmoved).moved r hr
    exact ⟨_, hc, hmoves.advanced (hread hmoved)⟩
  · have hfind : (ws.step op).2.find? name = ws.find? name :=
      find?_step op (fun he => absurd he hkept) hmoved
    exact ⟨r, hfind.trans hr, 0, Nat.zero_le _, rfl⟩

lemma run_advanced (hvalid : ws.Valid) {ops : List Operation}
    (hr : ws.find? name = some (.reader r))
    (hops : ∀ op ∈ ops, name ∉ op.replaced ∧ (name ∈ op.moved → op.isRead = true)) :
    ∃ s, (ws.run ops).2.find? name = some (.reader s) ∧ r.Advanced s := by
  induction ops generalizing ws r with
  | nil => exact ⟨r, hr, 0, Nat.zero_le _, rfl⟩
  | cons op rest ih =>
    obtain ⟨hkept, hread⟩ := hops op List.mem_cons_self
    obtain ⟨s, hs, first, hfirst, rfl⟩ := step_advanced hvalid hr hkept hread
    obtain ⟨t, ht, second, hsecond, rfl⟩ := ih (step_sound hvalid op).valid hs
      fun other hother => hops other (List.mem_cons_of_mem _ hother)
    refine ⟨_, ht, first + second, ?_, Reader.skip_skip ..⟩
    have hrest := r.cursor.remaining_skip first
    change second ≤ (r.cursor.skip first).remaining at hsecond
    omega

lemma step_mark (hr : ws.find? name = some (.reader r)) :
    ws.step (.moveReader name .mark) =
      (.done .nothing, ws.bind name (.reader { r with cursor := r.cursor.setMark })) := by
  rw [step, moveView, hr]
  rfl

lemma step_reset (hr : ws.find? name = some (.reader r)) {m : Nat}
    (hmark : r.cursor.mark = some m) :
    ws.step (.moveReader name .reset) = (.done .nothing,
      ws.bind name (.reader { r with cursor := { r.cursor with position := m } })) := by
  have hreset : ReaderMove.reset.apply r.cursor = .ok { r.cursor with position := m } := by
    simp only [ReaderMove.apply, Cursor.reset, hmark]
  rw [step, moveView, hr]
  simp only [hreset]
  rfl

lemma step_reset_noMark (hr : ws.find? name = some (.reader r)) (hmark : r.cursor.mark = none) :
    ws.step (.moveReader name .reset) = (.failed .noMark, ws) := by
  have hreset : ReaderMove.reset.apply r.cursor = .error .noMark := by
    rw [ReaderMove.apply, Cursor.reset, hmark]
  rw [step, moveView, hr]
  simp only [hreset]

/-- A mark, reads and a reset leave a reader as it was at the mark. -/
lemma run_mark_reset (hvalid : ws.Valid) (hr : ws.find? name = some (.reader r))
    {reads : List Operation}
    (hreads : ∀ op ∈ reads, name ∉ op.replaced ∧ (name ∈ op.moved → op.isRead = true)) :
    ∃ replies after,
      ws.run (.moveReader name .mark :: (reads ++ [.moveReader name .reset])) =
        (replies ++ [.done .nothing], after) ∧
      after.find? name = some (.reader { r with cursor := r.cursor.setMark }) := by
  have hmark := step_mark hr
  have hmarked : (ws.step (.moveReader name .mark)).2.find? name =
      some (.reader { r with cursor := r.cursor.setMark }) := by
    rw [hmark, find?_bind, if_pos rfl]
  obtain ⟨s, hs, length, -, rfl⟩ :=
    run_advanced (step_sound hvalid (.moveReader name .mark)).valid hmarked hreads
  have hreset := step_reset hs (m := r.cursor.position) rfl
  rw [run_cons, run_append, run_cons, hreset]
  exact ⟨_ :: _, _, rfl, by rw [run, find?_bind, if_pos rfl]; rfl⟩

end Workspace

namespace InPlace

variable {ws : Workspace} {known : Histories}

lemma run_recorded (hvalid : ws.Valid) (h : ws.Recorded known) (ops : List Operation) :
    (run ws ops).2.Recorded (histories ws known ops) := by
  induction ops generalizing ws known with
  | nil => exact h
  | cons op rest ih =>
    have hstep := h.step hvalid op
    have hafter := (Workspace.step_sound hvalid op).valid
    rw [← step_eq hvalid] at hstep hafter
    exact ih hafter hstep

/-- After any operations whatever, a reset succeeds just if the last mark that was set on the reader
stands: no rewind and no clear has followed, and the reader has not stood before it. Then the reader
goes back to where that mark was set, and otherwise it stays as it is. So a reset after a mark and
reads takes back all that they have moved. -/
theorem reset_iff_mark_stands (setup : List Operation) (name : String) (r : Reader)
    (hr : (run {} setup).2.find? name = some (.reader r)) :
    let ws := (run {} setup).2
    let history := histories {} (fun _ => []) setup name
    ((step ws (.moveReader name .reset)).1 = .done .nothing ↔ ∃ m, Stands m history) ∧
    (∀ m, Stands m history → step ws (.moveReader name .reset) = (.done .nothing,
      ws.bind name (.reader { r with cursor := { r.cursor with position := m } }))) ∧
    ((¬ ∃ m, Stands m history) → step ws (.moveReader name .reset) = (.failed .noMark, ws)) ∧
    ∀ reads : List Operation,
      (∀ op ∈ reads, name ∉ op.replaced ∧ (name ∈ op.moved → op.isRead = true)) →
      ∃ replies after,
        run ws (.moveReader name .mark :: (reads ++ [.moveReader name .reset])) =
          (replies ++ [.done .nothing], after) ∧
        after.find? name = (step ws (.moveReader name .mark)).2.find? name := by
  intro ws history
  have hvalid : ws.Valid := by
    have hrun := Workspace.run_valid Workspace.valid_empty setup
    rwa [← run_eq Workspace.valid_empty] at hrun
  have hmark (m : Nat) : r.cursor.mark = some m ↔ Stands m history :=
    run_recorded Workspace.valid_empty Workspace.recorded_empty setup name r hr m
  have hstands (m : Nat) (h : Stands m history) :=
    Workspace.step_reset hr ((hmark m).2 h)
  have hgone (h : ¬ ∃ m, Stands m history) :
      ws.step (.moveReader name .reset) = (.failed .noMark, ws) := by
    refine Workspace.step_reset_noMark hr (Option.eq_none_iff_forall_ne_some.2 fun m hm => ?_)
    exact h ⟨m, (hmark m).1 hm⟩
  rw [step_eq hvalid, step_eq hvalid]
  refine ⟨⟨fun hdone => ?_, fun ⟨m, h⟩ => by rw [hstands m h]⟩, hstands, hgone, ?_⟩
  · by_contra h
    rw [hgone h] at hdone
    cases hdone
  · intro reads hreads
    obtain ⟨replies, after, hrun, hafter⟩ := Workspace.run_mark_reset hvalid hr hreads
    rw [run_eq hvalid, Workspace.step_mark hr, Workspace.find?_bind, if_pos rfl]
    exact ⟨replies, after, hrun, hafter⟩

/-- A mark in a buffer of four octets, which a failed read and a flip leave standing. A copy of the
reader keeps it when the reader itself is rewound. -/
def markedTwin : List Operation :=
  [.make "reader" .reader .heap [1, 2, 3, 4], .move "reader" (.setPosition 1),
    .moveReader "reader" .mark, .take "reader" .short, .take "reader" .long,
    .moveReader "reader" .flip, .duplicate "twin" "reader", .take "twin" .byte,
    .moveReader "reader" .rewind]

theorem reset_iff_mark_stands_markedTwin :
    step (run {} markedTwin).2 (.moveReader "twin" .reset) = (.done .nothing,
      (run {} markedTwin).2.bind "twin" (.reader ⟨0, 0, ⟨1, 3, 4, some 1⟩⟩)) ∧
    step (run {} markedTwin).2 (.moveReader "reader" .reset) =
      (.failed .noMark, (run {} markedTwin).2) := by
  obtain ⟨-, hstands, -, -⟩ := reset_iff_mark_stands markedTwin "twin"
    ⟨0, 0, ⟨2, 3, 4, some 1⟩⟩ rfl
  obtain ⟨-, -, hgone, -⟩ := reset_iff_mark_stands markedTwin "reader" ⟨0, 0, ⟨0, 3, 4, none⟩⟩ rfl
  have hhistory : histories {} (fun _ => []) markedTwin "twin" =
      [⟨.take "twin" .byte, 2⟩, ⟨.moveReader "reader" .flip, 1⟩, ⟨.take "reader" .long, 3⟩,
        ⟨.take "reader" .short, 3⟩, ⟨.moveReader "reader" .mark, 1⟩,
        ⟨.move "reader" (.setPosition 1), 1⟩] := rfl
  refine ⟨hstands 1 ?_, hgone ?_⟩
  · rw [hhistory]
    simp [stands_cons, Operation.setsMark, Operation.dropsMark]
  · rintro ⟨m, h⟩
    exact absurd (stands_cons.1 h).1 (by decide)

end InPlace

end AmqpClient.Buffer
