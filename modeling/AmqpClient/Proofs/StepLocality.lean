import AmqpClient.Proofs.Confinement
import AmqpClient.Proofs.ReaderEquality

/-!
# What an operation depends on

An operation that makes no object sees the objects it is called on and the octets in their windows,
or in the part of an array that it is given, and nothing else. From these follow its reply, the
octets that it writes, and where it moves the views.
-/

namespace AmqpClient.Buffer

/-- A stretch of a region that an operation uses, to write in it or only to read. -/
structure Stretch where
  region : RegionId
  start : Nat
  length : Nat
  isWritten : Bool
  deriving DecidableEq, Repr

/-- The stretch that an operation uses by an object it is called on: the window of a view, an array
that is shown, or the part of an array that is overwritten. -/
def Operation.stretch? (op : Operation) (m : Memory) : Object → Option Stretch
  | .reader r => some ⟨r.region, r.offset, r.cursor.capacity, false⟩
  | .writer w => some ⟨w.region, w.offset, w.cursor.capacity, op.isWrite⟩
  | .array id =>
    match op with
    | content _ => some ⟨id, 0, m.size id, false⟩
    | overwrite _ index bytes => some ⟨id, index, bytes.length, true⟩
    | _ => none
  | .region _ => none

/-- What an operation that makes nothing changes: octets in one place, and views. -/
structure Change where
  octets? : Option (RegionId × Nat × List UInt8) := none
  views : List (String × Object) := []

/-- Puts objects under names, one after another. -/
def bindNames (views objects : List (String × Object)) : List (String × Object) :=
  views.foldl (fun objects entry => bindName entry.1 entry.2 objects) objects

def Change.memory (c : Change) (m : Memory) : Memory :=
  match c.octets? with
  | some (id, index, bytes) => m.replace id index bytes
  | none => m

lemma View.Fits.index_add_le_window {v : View} {m : Memory} (h : v.Fits m) {length : Nat}
    (hl : length ≤ v.cursor.remaining) : v.index + length ≤ v.offset + v.cursor.capacity := by
  have hposition := h.ordered.position_le
  have hlimit := h.ordered.limit_le
  unfold Cursor.remaining at hl
  unfold View.index
  omega

namespace Workspace

def stretches (ws : Workspace) (op : Operation) : List Stretch :=
  op.subjects.filterMap fun name => (ws.find? name).bind (op.stretch? ws.memory)

def changed (ws : Workspace) (c : Change) : Workspace :=
  ⟨c.memory ws.memory, bindNames c.views ws.objects⟩

/-- An operation finds in another workspace what it finds in this one. -/
structure FindsSame (ws : Workspace) (op : Operation) (ws' : Workspace) : Prop where
  objects : ∀ name ∈ op.subjects, ws'.find? name = ws.find? name
  size_eq : ∀ id, ws'.memory.size id = ws.memory.size id
  isArray_eq : ∀ id, ws'.memory.isArray id = ws.memory.isArray id
  octets : ∀ s ∈ ws.stretches op, ∀ i < s.length,
    (ws.memory.content s.region)[s.start + i]? = (ws'.memory.content s.region)[s.start + i]?

/-- A change of views that an operation is called on, and of octets in a stretch that it writes. -/
structure Confines (ws : Workspace) (op : Operation) (c : Change) : Prop where
  views : ∀ entry ∈ c.views, entry.1 ∈ op.subjects ∧ (ws.view? entry.1).isSome = true
  octets : ∀ id index bytes, c.octets? = some (id, index, bytes) →
    index + bytes.length ≤ ws.memory.size id ∧
    ∃ s ∈ ws.stretches op, s.isWritten = true ∧ s.region = id ∧ s.start ≤ index ∧
      index + bytes.length ≤ s.start + s.length

/-- The reply to an operation and what it changes follow from what it finds. -/
def Determines (ws : Workspace) (op : Operation) : Prop :=
  ∃ reply change, ws.Confines op change ∧
    ∀ ws', ws'.Valid → ws.FindsSame op ws' → ws'.step op = (reply, ws'.changed change)

variable {ws ws' : Workspace} {op : Operation} {name : String}

/-! ### What is found -/

lemma mem_stretches {o : Object} {s : Stretch} (hname : name ∈ op.subjects)
    (ho : ws.find? name = some o) (hs : op.stretch? ws.memory o = some s) :
    s ∈ ws.stretches op := by
  refine List.mem_filterMap.2 ⟨name, hname, ?_⟩
  rw [ho, Option.bind_some, hs]

namespace FindsSame

lemma refl (ws : Workspace) (op : Operation) : ws.FindsSame op ws :=
  ⟨fun _ _ => rfl, fun _ => rfl, fun _ => rfl, fun _ _ _ _ => rfl⟩

lemma find?_eq (h : ws.FindsSame op ws') (hname : name ∈ op.subjects) {o? : Option Object}
    (ho : ws.find? name = o?) : ws'.find? name = o? :=
  (h.objects name hname).trans ho

lemma content_eq (h : ws.FindsSame op ws') {id : RegionId} {isWritten : Bool}
    (hs : ⟨id, 0, ws.memory.size id, isWritten⟩ ∈ ws.stretches op) :
    ws'.memory.content id = ws.memory.content id := by
  have hsize := h.size_eq id
  apply List.ext_getElem?
  intro i
  by_cases hi : i < ws.memory.size id
  · have hoctet := h.octets _ hs i hi
    rw [Nat.zero_add] at hoctet
    exact hoctet.symm
  · unfold Memory.size at hi hsize
    rw [List.getElem?_eq_none (by omega), List.getElem?_eq_none (by omega)]

/-- The octets in the window of a view. -/
lemma memory_alike (h : ws.FindsSame op ws') {v : View} {isWritten : Bool}
    (hs : ⟨v.region, v.offset, v.cursor.capacity, isWritten⟩ ∈ ws.stretches op) :
    ws.memory.Alike (windowOf v) ws'.memory :=
  memory_alike_windowOf fun i hi => h.octets _ hs i hi

variable {r : Reader}

lemma reader_alike (h : ws.FindsSame op ws') (hname : name ∈ op.subjects)
    (hr : ws.find? name = some (.reader r)) : ws.memory.Alike (windowOf r.toView) ws'.memory :=
  h.memory_alike (mem_stretches hname hr rfl)

lemma ahead_eq (h : ws.FindsSame op ws') (hvalid : ws.Valid) (hvalid' : ws'.Valid)
    (hname : name ∈ op.subjects) (hr : ws.find? name = some (.reader r)) :
    r.ahead ws'.memory = r.ahead ws.memory :=
  ((alike_windowOf_self r.toView).ahead_eq (h.reader_alike hname hr) (hvalid name _ hr)
    (hvalid' name _ (h.find?_eq hname hr))).symm

end FindsSame

/-! ### What follows from it, for each shape of operation -/

lemma confines_nothing (ws : Workspace) (op : Operation) : ws.Confines op {} :=
  ⟨fun _ h => absurd h List.not_mem_nil, fun _ _ _ h => by cases h⟩

lemma confines_view {o o' : Object} {v : View} (hname : name ∈ op.subjects)
    (ho : ws.find? name = some o) (hv : o.view? = some v) :
    ws.Confines op { views := [(name, o')] } := by
  refine ⟨fun entry hentry => ?_, fun _ _ _ h => by cases h⟩
  obtain rfl := List.mem_singleton.1 hentry
  refine ⟨hname, ?_⟩
  rw [view?, ho, Option.bind_some, hv, Option.isSome_some]

/-- An operation that only answers. -/
lemma determines_reply (reply : Reply)
    (hstep : ∀ ws', ws'.Valid → ws.FindsSame op ws' → ws'.step op = (reply, ws')) :
    ws.Determines op :=
  ⟨reply, {}, confines_nothing ws op, hstep⟩

lemma inspect_determines (answer : Workspace → Object → Option Reply)
    (hstep : ∀ ws : Workspace, ws.step op = ws.inspect name (answer ws))
    (hname : name ∈ op.subjects)
    (hanswer : ∀ ws' o, ws'.Valid → ws.FindsSame op ws' → ws.find? name = some o →
      answer ws' o = answer ws o) : ws.Determines op := by
  refine determines_reply (((ws.find? name).bind (answer ws)).getD .rejected)
    fun ws' hvalid' hsame => ?_
  rw [hstep, inspect]
  cases ho : ws.find? name with
  | none =>
    rw [hsame.find?_eq hname ho]
    rfl
  | some o =>
    rw [hsame.find?_eq hname ho, Option.bind_some, hanswer ws' o hvalid' hsame ho]
    rfl

lemma moveView_determines (view? : Object → Option View) (move : Cursor → Except Fault Cursor)
    (hstep : ∀ ws : Workspace, ws.step op = ws.moveView name view? move)
    (hname : name ∈ op.subjects) (hview : ∀ o v, view? o = some v → o.view? = some v) :
    ws.Determines op := by
  cases ho : ws.find? name with
  | none =>
    refine determines_reply .rejected fun ws' _ hsame => ?_
    rw [hstep, moveView, hsame.find?_eq hname ho]
  | some o =>
    cases hv : view? o with
    | none =>
      refine determines_reply .rejected fun ws' _ hsame => ?_
      rw [hstep, moveView, hsame.find?_eq hname ho]
      simp only [hv]
    | some v =>
      cases hm : move v.cursor with
      | error f =>
        refine determines_reply (.failed f) fun ws' _ hsame => ?_
        rw [hstep, moveView_eq (hsame.find?_eq hname ho) hv, hm]
      | ok c =>
        refine ⟨.done .nothing, { views := [(name, o.withCursor c)] },
          confines_view hname ho (hview o v hv), fun ws' _ hsame => ?_⟩
        rw [hstep, moveView_eq (hsame.find?_eq hname ho) hv, hm]
        rfl

/-- An operation that reads: its reply and the length that it takes follow from what is ahead. -/
lemma read_determines (reply : Reader → List UInt8 → Reply) (length : Reader → List UInt8 → Nat)
    (hvalid : ws.Valid) (hname : name ∈ op.subjects)
    (hreject : ∀ ws : Workspace, (∀ r, ws.find? name ≠ some (.reader r)) →
      ws.step op = (.rejected, ws))
    (hstep : ∀ (ws : Workspace) (r : Reader), ws.Valid → ws.find? name = some (.reader r) →
      ws.step op = (reply r (r.ahead ws.memory),
        ws.bind name (.reader (r.skip (length r (r.ahead ws.memory)))))) :
    ws.Determines op := by
  by_cases hreader : ∃ r, ws.find? name = some (.reader r)
  · obtain ⟨r, hr⟩ := hreader
    refine ⟨reply r (r.ahead ws.memory),
      { views := [(name, .reader (r.skip (length r (r.ahead ws.memory))))] },
      confines_view hname hr rfl, fun ws' hvalid' hsame => ?_⟩
    rw [hstep ws' r hvalid' (hsame.find?_eq hname hr), hsame.ahead_eq hvalid hvalid' hname hr]
    rfl
  · refine determines_reply .rejected fun ws' _ hsame => hreject ws' fun r hr => hreader ⟨r, ?_⟩
    rw [← hsame.objects name hname]
    exact hr

lemma writeTo_determines (hvalid : ws.Valid) {bytes : List UInt8}
    (hstep : ∀ ws : Workspace, ws.step op = ws.writeTo name (·.put bytes))
    (hname : name ∈ op.subjects) (hwrite : op.isWrite = true) : ws.Determines op := by
  cases ho : ws.find? name with
  | none =>
    refine determines_reply .rejected fun ws' _ hsame => ?_
    rw [hstep, writeTo, hsame.find?_eq hname ho]
  | some o =>
    cases o with
    | writer w =>
      have hfits : w.Fits ws.memory := hvalid name _ ho
      by_cases hl : bytes.length ≤ w.cursor.remaining
      · refine ⟨.done .nothing, ⟨some (w.region, w.index, bytes),
          [(name, .writer (w.skip bytes.length))]⟩, ⟨(confines_view hname ho rfl).views, ?_⟩, ?_⟩
        · rintro id index written ⟨⟩
          exact ⟨hfits.index_add_le hl, _, mem_stretches hname ho rfl, hwrite, rfl,
            Nat.le_add_right _ _, hfits.index_add_le_window hl⟩
        · intro ws' hvalid' hsame
          rw [hstep, step_writeTo hvalid' (hsame.find?_eq hname ho), if_pos hl]
          rfl
      · refine determines_reply
          (.failed (.outOfBounds w.cursor.position bytes.length w.cursor.limit))
          fun ws' hvalid' hsame => ?_
        rw [hstep, step_writeTo hvalid' (hsame.find?_eq hname ho), if_neg hl]
    | _ =>
      refine determines_reply .rejected fun ws' _ hsame => ?_
      rw [hstep, writeTo, hsame.find?_eq hname ho]

lemma transfer_determines (hvalid : ws.Valid) {source target : String} :
    ws.Determines (.transfer source target) := by
  have hsource : source ∈ (Operation.transfer source target).subjects := List.mem_cons_self
  have htarget : target ∈ (Operation.transfer source target).subjects :=
    List.mem_cons_of_mem _ List.mem_cons_self
  by_cases hviews : ∃ r w, ws.find? source = some (.reader r) ∧ ws.find? target = some (.writer w)
  · obtain ⟨r, w, hr, hw⟩ := hviews
    have hreads : r.Fits ws.memory := hvalid source _ hr
    have hwrites : w.Fits ws.memory := hvalid target _ hw
    by_cases hl : r.cursor.remaining ≤ w.cursor.remaining
    · refine ⟨.done .nothing, ⟨some (w.region, w.index, r.ahead ws.memory),
        [(source, .reader (r.skip r.cursor.remaining)),
          (target, .writer (w.skip r.cursor.remaining))]⟩, ⟨fun entry hentry => ?_, ?_⟩, ?_⟩
      · rcases List.mem_cons.1 hentry with rfl | hentry
        · exact (confines_view hsource hr rfl).views _ List.mem_cons_self
        · obtain rfl := List.mem_singleton.1 hentry
          exact (confines_view htarget hw rfl).views _ List.mem_cons_self
      · rintro id index bytes ⟨⟩
        rw [hreads.length_ahead]
        exact ⟨hwrites.index_add_le hl, _, mem_stretches htarget hw rfl, rfl, rfl,
          Nat.le_add_right _ _, hwrites.index_add_le_window hl⟩
      · intro ws' hvalid' hsame
        rw [step_transfer hvalid' (hsame.find?_eq hsource hr) (hsame.find?_eq htarget hw),
          if_pos hl, hsame.ahead_eq hvalid hvalid' hsource hr]
        rfl
    · refine determines_reply
        (.failed (.outOfBounds w.cursor.position r.cursor.remaining w.cursor.limit))
        fun ws' hvalid' hsame => ?_
      rw [step_transfer hvalid' (hsame.find?_eq hsource hr) (hsame.find?_eq htarget hw), if_neg hl]
  · refine determines_reply .rejected fun ws' _ hsame => ?_
    rw [step, transfer, hsame.objects source hsource, hsame.objects target htarget]
    split
    · rename_i r w hr hw
      exact absurd ⟨r, w, hr, hw⟩ hviews
    · rfl

lemma same_determines (hvalid : ws.Valid) {first second : String} :
    ws.Determines (.same first second) := by
  have hfirst : first ∈ (Operation.same first second).subjects := List.mem_cons_self
  have hsecond : second ∈ (Operation.same first second).subjects :=
    List.mem_cons_of_mem _ List.mem_cons_self
  refine determines_reply (ws.same first second Reader.sameRemaining) fun ws' hvalid' hsame => ?_
  by_cases hreaders : ∃ r s, ws.find? first = some (.reader r) ∧ ws.find? second = some (.reader s)
  · obtain ⟨r, s, hr, hs⟩ := hreaders
    have hbefore := congrArg Prod.fst (step_same hvalid hr hs)
    rw [step_same hvalid' (hsame.find?_eq hfirst hr) (hsame.find?_eq hsecond hs),
      hsame.ahead_eq hvalid hvalid' hfirst hr, hsame.ahead_eq hvalid hvalid' hsecond hs]
    exact congrArg (Prod.mk · ws') hbefore.symm
  · refine congrArg (Prod.mk · ws') ?_
    unfold same
    rw [hsame.objects first hfirst, hsame.objects second hsecond]
    split
    · rename_i r s hr hs
      exact absurd ⟨r, s, hr, hs⟩ hreaders
    all_goals rfl

lemma overwrite_determines {index : Nat} {bytes : List UInt8} :
    ws.Determines (.overwrite name index bytes) := by
  have hname : name ∈ (Operation.overwrite name index bytes).subjects := List.mem_cons_self
  cases ho : ws.find? name with
  | none =>
    refine determines_reply .rejected fun ws' _ hsame => ?_
    rw [step, overwrite, hsame.find?_eq hname ho]
  | some o =>
    cases o with
    | array id =>
      by_cases hroom : index + bytes.length ≤ ws.memory.size id
      · refine ⟨.done .nothing, { octets? := some (id, index, bytes) },
          ⟨fun _ h => absurd h List.not_mem_nil, ?_⟩, fun ws' _ hsame => ?_⟩
        · rintro other start written ⟨⟩
          exact ⟨hroom, _, mem_stretches hname ho rfl, rfl, rfl, Nat.le_refl _, Nat.le_refl _⟩
        · have hwrite : ws'.memory.write id index bytes =
              .ok (ws'.memory.replace id index bytes) :=
            Memory.write_eq_ok_iff.2 ⟨by rw [hsame.size_eq]; exact hroom, rfl⟩
          rw [step, overwrite, hsame.find?_eq hname ho]
          simp only [hwrite]
          rfl
      · refine determines_reply .rejected fun ws' _ hsame => ?_
        have hwrite : ws'.memory.write id index bytes = .error .outsideRegion :=
          if_neg (by rw [hsame.size_eq]; exact hroom)
        rw [step, overwrite, hsame.find?_eq hname ho]
        simp only [hwrite]
    | _ =>
      refine determines_reply .rejected fun ws' _ hsame => ?_
      rw [step, overwrite, hsame.find?_eq hname ho]

/-- A read operation does nothing with what is no reader. -/
lemma readFrom_rejected {read : Reader → Memory → Except Fault (Value × Reader)}
    (h : ∀ r, ws.find? name ≠ some (.reader r)) : ws.readFrom name read = (.rejected, ws) := by
  unfold readFrom
  split
  · rename_i r hr
    exact absurd hr (h r)
  · rfl

lemma fillFrom_rejected {target : List UInt8}
    {read : Reader → Memory → Except Fault (List UInt8 × Reader)}
    (h : ∀ r, ws.find? name ≠ some (.reader r)) :
    ws.fillFrom name target read = (.rejected, ws) := by
  unfold fillFrom
  split
  · rename_i r hr
    exact absurd hr (h r)
  · rfl

lemma piece_determines (hvalid : ws.Valid) (read : Read) :
    ws.Determines (read.operation name) := by
  have hname : name ∈ (read.operation name).subjects := by
    cases read <;> exact List.mem_cons_self
  refine read_determines (fun r unread => read.reply r.cursor.limit unread)
    (fun _ unread => read.taken unread) hvalid hname (fun ws hnot => ?_)
    fun ws r h hr => step_read_operation hr (h name _ hr) read
  cases read with
  | scalar t => rw [Read.operation, step, readFrom_rejected hnot]
  | fill target => rw [Read.operation, step, fillFrom_rejected hnot]
  | fillRange target offset length => rw [Read.operation, step, fillFrom_rejected hnot]

/-- The reply to an operation that makes no object, and what it changes, follow from the objects it
is called on and the octets in its stretches. -/
theorem step_determines (hvalid : ws.Valid) {op : Operation} (hop : op.replaced = []) :
    ws.Determines op := by
  cases op with
  | transfer source target => exact transfer_determines hvalid
  | same first second => exact same_determines hvalid
  | isEmpty name =>
    refine inspect_determines _ (fun _ => rfl) List.mem_cons_self fun ws' o _ hsame _ => ?_
    simp only [hsame.size_eq]
  | content name =>
    refine inspect_determines _ (fun _ => rfl) List.mem_cons_self fun ws' o _ hsame ho => ?_
    cases o with
    | array id =>
      have hcontent := hsame.content_eq (mem_stretches List.mem_cons_self ho rfl)
      simp only [hcontent]
    | _ => rfl
  | overwrite name index bytes => exact overwrite_determines
  | describe name =>
    refine inspect_determines _ (fun _ => rfl) List.mem_cons_self fun ws' o _ hsame _ => ?_
    cases o <;> simp only [Object.describe, describeHandle, Reader.describe, Writer.describe,
      View.describe, hsame.size_eq, hsame.isArray_eq]
  | hasArray name =>
    refine inspect_determines _ (fun _ => rfl) List.mem_cons_self fun ws' o _ hsame _ => ?_
    simp only [hsame.isArray_eq]
  | arrayOffset name =>
    refine inspect_determines _ (fun _ => rfl) List.mem_cons_self fun ws' o _ hsame _ => ?_
    simp only [View.arrayOffset, View.array, hsame.isArray_eq]
  | move name m =>
    exact moveView_determines Object.view? m.apply (fun _ => rfl) List.mem_cons_self
      fun _ _ hv => hv
  | moveReader name m =>
    exact moveView_determines InPlace.reader? m.apply (fun _ => rfl) List.mem_cons_self
      fun _ _ => InPlace.view?_of_reader?
  | take name t => exact piece_determines hvalid (.scalar t)
  | fill name target => exact piece_determines hvalid (.fill target)
  | fillRange name target offset length =>
    exact piece_determines hvalid (.fillRange target offset length)
  | byteAt name index =>
    refine inspect_determines _ (fun _ => rfl) List.mem_cons_self
      fun ws' o hvalid' hsame ho => ?_
    cases o with
    | reader r =>
      have hbyte := Reader.byteAt_alike (alike_windowOf_self r.toView)
        (hsame.reader_alike List.mem_cons_self ho) (hvalid name _ ho)
        (hvalid' name _ (hsame.find?_eq List.mem_cons_self ho)) index
      simp only [hbyte]
    | _ => rfl
  | window name =>
    refine inspect_determines _ (fun _ => rfl) List.mem_cons_self
      fun ws' o hvalid' hsame ho => ?_
    cases o with
    | reader r =>
      have hfits : r.Fits ws.memory := hvalid name _ ho
      have hfits' : r.Fits ws'.memory :=
        hvalid' name _ (hsame.find?_eq List.mem_cons_self ho)
      have hwindow := (alike_windowOf_self r.toView).windowBytes_eq
        (hsame.reader_alike List.mem_cons_self ho) hfits hfits'
      simp only [View.Fits.content_eq hfits, View.Fits.content_eq hfits', hwindow]
    | _ => rfl
  | text name encoding =>
    refine read_determines
      (fun _ unread => .ofExcept .text ((encoding.decode unread).mapError .notText))
      (fun r unread => if (encoding.decode unread).isOk then r.cursor.remaining else 0)
      hvalid List.mem_cons_self (fun ws hnot => by rw [step, readFrom_rejected hnot])
      fun ws r h hr => ?_
    rw [step_text h hr]
    cases encoding.decode (r.ahead ws.memory) with
    | ok s => rfl
    | error e => exact congrArg (Prod.mk _) (bind_self hr).symm
  | drain name =>
    exact read_determines (fun _ unread => .done (.bytes unread)) (fun r _ => r.cursor.remaining)
      hvalid List.mem_cons_self (fun ws hnot => by rw [step, readFrom_rejected hnot])
      fun ws r h hr => step_drain h hr
  | ensureRemaining name length =>
    exact inspect_determines _ (fun _ => rfl) List.mem_cons_self fun _ _ _ _ _ => rfl
  | put name s => exact writeTo_determines hvalid (fun _ => rfl) List.mem_cons_self rfl
  | putBytes name bytes => exact writeTo_determines hvalid (fun _ => rfl) List.mem_cons_self rfl
  | putText name s => exact writeTo_determines hvalid (fun _ => rfl) List.mem_cons_self rfl
  -- the others make an object
  | _ => cases hop

end Workspace

end AmqpClient.Buffer
