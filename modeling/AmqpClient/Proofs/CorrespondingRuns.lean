import AmqpClient.Proofs.Correspondence

/-!
# Runs of workspaces that correspond

A step of two workspaces that are alike gets one reply and leaves them alike: one lemma for each
shape of operation, over what the views answer. Operations that ask for the place of a view get
one reply only where the places are the same.
-/

namespace AmqpClient.Buffer

variable {places : Set Place} {family : List String}

def Object.reader? : Object → Option Reader
  | .reader r => some r
  | _ => none

def Object.writer? : Object → Option Writer
  | .writer w => some w
  | _ => none

/-! ### What alike views answer -/

/-- A read of a view, as far as it is seen: the answer, and how far the reader moves. -/
def Reader.outcome {α : Type} (r : Reader) (seen : Except Fault (α × Nat)) :
    Except Fault (α × Reader) :=
  seen.map fun (a, length) => (a, r.skip length)

/-- Readers that are alike get the same answers by a read. -/
def ReadsAlike {α : Type} (places : Set Place) (m m' : Memory)
    (read : Reader → Memory → Except Fault (α × Reader)) : Prop :=
  ∀ r r' : Reader, r.Fits m → r'.Fits m' → r.toView.Alike places r'.toView →
    ∃ seen, read r m = r.outcome seen ∧ read r' m' = r'.outcome seen

namespace ReadsAlike

variable {m m' : Memory}

lemma take (hm : m.Alike places m') (length : Nat) :
    ReadsAlike places m m' fun r m => r.take m length := by
  intro r r' hr hr' h
  refine ⟨if length ≤ r.cursor.remaining then .ok ((r.ahead m).take length, length)
    else .error (.outOfBounds r.cursor.position length r.cursor.limit),
    (Reader.take_eq hr length).trans ?_, (Reader.take_eq hr' length).trans ?_⟩
  · split <;> rfl
  · rw [← h.ahead_eq hm hr hr', h.cursor_eq]
    split <;> rfl

/-- What is made of the answer to a read depends on nothing else. -/
lemma map {α β : Type} {read : Reader → Memory → Except Fault (α × Reader)}
    (h : ReadsAlike places m m' read) (f : α → β) :
    ReadsAlike places m m' fun r m => (read r m).map fun (a, s) => (f a, s) := by
  intro r r' hr hr' halike
  obtain ⟨seen, hseen, hseen'⟩ := h r r' hr hr' halike
  refine ⟨seen.map fun (a, length) => (f a, length), ?_, ?_⟩
  · simp only [hseen]
    cases seen <;> rfl
  · simp only [hseen']
    cases seen <;> rfl

lemma takeScalar (hm : m.Alike places m') (t : ScalarType) :
    ReadsAlike places m m' fun r m => r.takeScalar m t := by
  have htake : ∀ (r : Reader) (m : Memory), r.takeScalar m t =
      (r.take m t.width).map fun p => (.decode t p.1, p.2) := by
    intro r m
    unfold Reader.takeScalar
    cases r.take m t.width <;> rfl
  simp only [htake]
  exact (take hm t.width).map (Scalar.decode t)

lemma fillRange (hm : m.Alike places m') (target : List UInt8) (offset length : Nat) :
    ReadsAlike places m m' fun r m => r.fillRange m target offset length := by
  intro r r' hr hr' h
  obtain ⟨seen, hseen, hseen'⟩ :=
    (take hm length).map (Memory.splice target offset) r r' hr hr' h
  by_cases ht : target.length < offset + length
  · refine ⟨.error (.outOfBounds offset length target.length), ?_, ?_⟩
    · simp only [Reader.fillRange, if_pos ht]
      rfl
    · simp only [Reader.fillRange, if_pos ht]
      rfl
  · refine ⟨seen, ?_, ?_⟩
    · rw [← hseen]
      simp only [Reader.fillRange, if_neg ht]
      cases r.take m length <;> rfl
    · rw [← hseen']
      simp only [Reader.fillRange, if_neg ht]
      cases r'.take m' length <;> rfl

lemma text (hm : m.Alike places m') (encoding : Text.Encoding) :
    ReadsAlike places m m' fun r m => r.text m encoding := by
  intro r r' hr hr' h
  refine ⟨((encoding.decode (r.ahead m)).mapError .notText).map fun s => (s, r.cursor.remaining),
    (Reader.text_eq hr encoding).trans ?_, (Reader.text_eq hr' encoding).trans ?_⟩
  · cases encoding.decode (r.ahead m) <;> rfl
  · rw [← h.ahead_eq hm hr hr', h.cursor_eq]
    cases encoding.decode (r.ahead m) <;> rfl

lemma drain (hm : m.Alike places m') : ReadsAlike places m m' Reader.drain := by
  intro r r' hr hr' h
  refine ⟨.ok (r.ahead m, r.cursor.remaining), Reader.drain_eq hr,
    (Reader.drain_eq hr').trans ?_⟩
  rw [← h.ahead_eq hm hr hr', h.cursor_eq]
  rfl

end ReadsAlike

lemma Reader.byteAt_alike {m m' : Memory} {r r' : Reader} (h : r.toView.Alike places r'.toView)
    (hm : m.Alike places m') (hr : r.Fits m) (hr' : r'.Fits m') (index : Nat) :
    r.byteAt m index = r'.byteAt m' index := by
  rw [byteAt_eq hr, byteAt_eq hr', h.cursor_eq]
  by_cases hi : r.cursor.position ≤ index ∧ index < r.cursor.limit
  · have hlimit := hr.ordered.limit_le
    have hoctet := h.octet_eq hm (i := index) (by omega)
    rw [if_pos hi, if_pos hi, List.getD_eq_getElem?_getD, List.getD_eq_getElem?_getD, hoctet]
  · rw [if_neg hi, if_neg hi]

namespace Workspace

variable {ws ws' : Workspace} {name source target : String}

lemma Alike.bind (h : ws.Alike places family ws') {o o' : Object} (ho : o.Alike places o') :
    (ws.bind name o).Alike places (name :: family) (ws'.bind name o') := by
  refine ⟨h.memory, fun key hkey => ?_⟩
  rw [find?_bind, find?_bind]
  by_cases hk : key = name
  · rw [if_pos hk, if_pos hk]
    exact .some ho
  · rw [if_neg hk, if_neg hk]
    exact h.objects key (List.mem_of_ne_of_mem hk hkey)

lemma Alike.subset {smaller : List String} (h : ws.Alike places family ws')
    (hs : ∀ key ∈ smaller, key ∈ family) : ws.Alike places smaller ws' :=
  ⟨h.memory, fun key hkey => h.objects key (hs key hkey)⟩

lemma Alike.bind_mem (h : ws.Alike places family ws') (name : String) {o o' : Object}
    (ho : o.Alike places o') :
    (ws.bind name o).Alike places family (ws'.bind name o') :=
  (h.bind ho).subset fun _ => List.mem_cons_of_mem name

lemma Alike.withMemory (h : ws.Alike places family ws') {m m' : Memory}
    (hm : m.Alike places m') :
    Alike places family { ws with memory := m } { ws' with memory := m' } :=
  ⟨hm, h.objects⟩

lemma Alike.bind_other (h : ws.Alike places family ws') (o o' : Object) :
    (ws.bind name o).Alike places (family.filter (· ≠ name)) (ws'.bind name o') := by
  refine ⟨h.memory, fun key hkey => ?_⟩
  have hmem := List.mem_filter.1 hkey
  have hne : key ≠ name := of_decide_eq_true hmem.2
  rw [find?_bind, find?_bind, if_neg hne, if_neg hne]
  exact h.objects key hmem.1

lemma Alike.forget (h : ws.Alike places family ws') :
    (ws.forget name).Alike places family (ws'.forget name) := by
  refine ⟨h.memory, fun key hkey => ?_⟩
  rw [find?_forget, find?_forget]
  by_cases hk : key = name
  · rw [if_pos hk, if_pos hk]
    exact .none
  · rw [if_neg hk, if_neg hk]
    exact h.objects key hkey

lemma Alike.agree (h : ws.Alike places family ws') (reply : Reply) :
    Agree places family (reply, ws) (reply, ws') :=
  ⟨rfl, h⟩

/-- What a name of the family can stand for in both workspaces. -/
lemma Alike.cases (h : ws.Alike places family ws') (hname : name ∈ family) :
    (ws.find? name = none ∧ ws'.find? name = none) ∨
    (∃ r r' : Reader, ws.find? name = some (.reader r) ∧ ws'.find? name = some (.reader r') ∧
      r.toView.Alike places r'.toView) ∨
    ∃ w w' : Writer, ws.find? name = some (.writer w) ∧ ws'.find? name = some (.writer w') ∧
      w.toView.Alike places w'.toView := by
  have hobjects := h.objects name hname
  generalize ws.find? name = o at hobjects ⊢
  generalize ws'.find? name = o' at hobjects ⊢
  cases hobjects with
  | none => exact .inl ⟨rfl, rfl⟩
  | some ho =>
    cases ho with
    | reader hr => exact .inr (.inl ⟨_, _, rfl, rfl, hr⟩)
    | writer hw => exact .inr (.inr ⟨_, _, rfl, rfl, hw⟩)

/-! ### What an operation of each shape does to workspaces that are alike -/

/-- An object that is made without touching memory. -/
lemma derive_eq_of_pure {make : Object → Option (Effect Object)} {made : Object → Option Object}
    (hmade : ∀ o, make o = (made o).map pure) : ws.derive name source make =
      match (ws.find? source).bind made with
      | some o => (.done .nothing, ws.bind name o)
      | none => (.rejected, ws) := by
  unfold derive
  cases ws.find? source with
  | none => rfl
  | some o =>
    simp only [Option.bind_some, hmade]
    cases made o <;> rfl

lemma derive_agree (h : ws.Alike places family ws') (hvalid : ws.Valid) (hs : source ∈ family)
    {make : Object → Option (Effect Object)} (made : Object → Option Object)
    (hmade : ∀ o, make o = (made o).map pure)
    (hmake : ∀ o o', o.Fits ws.memory → o.Alike places o' →
      Option.Rel (Object.Alike places) (made o) (made o')) :
    Agree places
      (if (ws.derive name source make).1 = .done .nothing then name :: family else family)
      (ws.derive name source make) (ws'.derive name source make) := by
  have hmakes : Option.Rel (Object.Alike places) ((ws.find? source).bind made)
      ((ws'.find? source).bind made) := by
    rcases h.cases hs with ⟨ho, ho'⟩ | ⟨r, r', ho, ho', hr⟩ | ⟨w, w', ho, ho', hw⟩
    · rw [ho, ho']
      exact .none
    · rw [ho, ho']
      exact hmake _ _ (hvalid source _ ho) (.reader hr)
    · rw [ho, ho']
      exact hmake _ _ (hvalid source _ ho) (.writer hw)
  rw [derive_eq_of_pure hmade, derive_eq_of_pure hmade]
  generalize (ws.find? source).bind made = x at hmakes ⊢
  generalize (ws'.find? source).bind made = x' at hmakes ⊢
  cases hmakes with
  | none => exact h.agree .rejected
  | some ho => exact ⟨rfl, h.bind ho⟩

lemma intoReader_agree (h : ws.Alike places family ws') (hs : source ∈ family) :
    Agree places
      (if (ws.intoReader name source).1 = .done .nothing then name :: family else family)
      (ws.intoReader name source) (ws'.intoReader name source) := by
  unfold intoReader
  rcases h.cases hs with ⟨ho, ho'⟩ | ⟨r, r', ho, ho', hr⟩ | ⟨w, w', ho, ho', hw⟩
  · rw [ho, ho']
    exact h.agree .rejected
  · rw [ho, ho']
    exact h.agree .rejected
  · rw [ho, ho']
    exact ⟨rfl, h.forget.bind (.reader (Writer.toReader_alike hw))⟩

lemma inspect_agree (h : ws.Alike places family ws') (hvalid : ws.Valid) (hvalid' : ws'.Valid)
    (hname : name ∈ family) {answer answer' : Object → Option Reply}
    (hanswer : ∀ o o', o.Fits ws.memory → o'.Fits ws'.memory → o.Alike places o' →
      answer o = answer' o') :
    Agree places family (ws.inspect name answer) (ws'.inspect name answer') := by
  refine ⟨?_, h⟩
  unfold inspect
  rcases h.cases hname with ⟨ho, ho'⟩ | ⟨r, r', ho, ho', hr⟩ | ⟨w, w', ho, ho', hw⟩
  · rw [ho, ho']
    rfl
  · have hsame := hanswer _ _ (hvalid name _ ho) (hvalid' name _ ho') (.reader hr)
    simp only [ho, ho', Option.bind_some, hsame]
  · have hsame := hanswer _ _ (hvalid name _ ho) (hvalid' name _ ho') (.writer hw)
    simp only [ho, ho', Option.bind_some, hsame]

lemma moveView_eq {view? : Object → Option View} {move : Cursor → Except Fault Cursor} {o : Object}
    {v : View} (ho : ws.find? name = some o) (hv : view? o = some v) :
    ws.moveView name view? move = match move v.cursor with
      | .ok c => (.done .nothing, ws.bind name (o.withCursor c))
      | .error f => (.failed f, ws) := by
  unfold moveView
  cases hm : move v.cursor <;> simp only [ho, hv, hm]

lemma moveView_agree (h : ws.Alike places family ws') (hvalid : ws.Valid) (hname : name ∈ family)
    {view? : Object → Option View} (hreader : ∀ r : Reader, view? (.reader r) = some r.toView)
    (hwriter : (∀ w : Writer, view? (.writer w) = some w.toView) ∨ ∀ w, view? (.writer w) = none)
    {move : Cursor → Except Fault Cursor}
    (hmove : ∀ c, c.Ordered → SafeResult (move c) fun d => d.Ordered ∧ d.capacity = c.capacity) :
    Agree places family (ws.moveView name view? move) (ws'.moveView name view? move) := by
  rcases h.cases hname with ⟨ho, ho'⟩ | ⟨r, r', ho, ho', hr⟩ | ⟨w, w', ho, ho', hw⟩
  · unfold moveView
    rw [ho, ho']
    exact h.agree .rejected
  · have hsafe := hmove r.cursor (View.Fits.ordered (hvalid name _ ho))
    rw [moveView_eq ho (hreader r), moveView_eq ho' (hreader r'), hr.cursor_eq]
    cases hc : move r.cursor with
    | error f => exact h.agree (.failed f)
    | ok c =>
      rw [hc] at hsafe
      exact ⟨rfl, h.bind_mem name (.reader (hr.withCursor hsafe.2))⟩
  · rcases hwriter with hwriter | hwriter
    · have hsafe := hmove w.cursor (View.Fits.ordered (hvalid name _ ho))
      rw [moveView_eq ho (hwriter w), moveView_eq ho' (hwriter w'), hw.cursor_eq]
      cases hc : move w.cursor with
      | error f => exact h.agree (.failed f)
      | ok c =>
        rw [hc] at hsafe
        exact ⟨rfl, h.bind_mem name (.writer (hw.withCursor hsafe.2))⟩
    · unfold moveView
      simp only [ho, ho', hwriter]
      exact h.agree .rejected

lemma readFrom_agree (h : ws.Alike places family ws') (hvalid : ws.Valid) (hvalid' : ws'.Valid)
    (hname : name ∈ family) {read : Reader → Memory → Except Fault (Value × Reader)}
    (hread : ReadsAlike places ws.memory ws'.memory read) :
    Agree places family (ws.readFrom name read) (ws'.readFrom name read) := by
  unfold readFrom
  rcases h.cases hname with ⟨ho, ho'⟩ | ⟨r, r', ho, ho', hr⟩ | ⟨w, w', ho, ho', hw⟩
  · rw [ho, ho']
    exact h.agree .rejected
  · obtain ⟨seen, hseen, hseen'⟩ := hread r r' (hvalid name _ ho) (hvalid' name _ ho') hr
    simp only [ho, ho', hseen, hseen']
    cases seen with
    | error f => exact h.agree (.failed f)
    | ok p => exact ⟨rfl, h.bind_mem name (.reader (Reader.skip_alike hr p.2))⟩
  · rw [ho, ho']
    exact h.agree .rejected

lemma fillFrom_agree (h : ws.Alike places family ws') (hvalid : ws.Valid) (hvalid' : ws'.Valid)
    (hname : name ∈ family) (target : List UInt8)
    {read : Reader → Memory → Except Fault (List UInt8 × Reader)}
    (hread : ReadsAlike places ws.memory ws'.memory read) :
    Agree places family (ws.fillFrom name target read) (ws'.fillFrom name target read) := by
  unfold fillFrom
  rcases h.cases hname with ⟨ho, ho'⟩ | ⟨r, r', ho, ho', hr⟩ | ⟨w, w', ho, ho', hw⟩
  · rw [ho, ho']
    exact h.agree .rejected
  · obtain ⟨seen, hseen, hseen'⟩ := hread r r' (hvalid name _ ho) (hvalid' name _ ho') hr
    simp only [ho, ho', hseen, hseen']
    cases seen with
    | error f => exact h.agree (.done (.filled (some f) target))
    | ok p => exact ⟨rfl, h.bind_mem name (.reader (Reader.skip_alike hr p.2))⟩
  · rw [ho, ho']
    exact h.agree .rejected

lemma writeTo_agree (h : ws.Alike places family ws') (hvalid : ws.Valid) (hvalid' : ws'.Valid)
    (hname : name ∈ family) (bytes : List UInt8) :
    Agree places family (ws.writeTo name (·.put bytes)) (ws'.writeTo name (·.put bytes)) := by
  unfold writeTo
  rcases h.cases hname with ⟨ho, ho'⟩ | ⟨r, r', ho, ho', hr⟩ | ⟨w, w', ho, ho', hw⟩
  · rw [ho, ho']
    exact h.agree .rejected
  · rw [ho, ho']
    exact h.agree .rejected
  · have hfits : w.Fits ws.memory := hvalid name _ ho
    have hfits' : w'.Fits ws'.memory := hvalid' name _ ho'
    simp only [ho, ho', Writer.run_put_eq hfits, Writer.run_put_eq hfits', hw.cursor_eq]
    by_cases hl : bytes.length ≤ w.cursor.remaining
    · simp only [if_pos hl]
      have hmemory := h.memory.replace hw hfits hfits' hl
      have hwriter := Object.Alike.writer (Writer.skip_alike hw bytes.length)
      exact ⟨rfl, (h.withMemory hmemory).bind_mem name hwriter⟩
    · simp only [if_neg hl]
      exact h.agree _

lemma transfer_agree (h : ws.Alike places family ws') (hvalid : ws.Valid) (hvalid' : ws'.Valid)
    (hs : source ∈ family) (ht : target ∈ family) :
    Agree places family (ws.step (.transfer source target))
      (ws'.step (.transfer source target)) := by
  rcases h.cases hs with ⟨ho, ho'⟩ | ⟨r, r', ho, ho', hr⟩ | ⟨w, w', ho, ho', hw⟩
  · rw [step, step, transfer, transfer, ho, ho']
    exact h.agree .rejected
  · rcases h.cases ht with ⟨hu, hu'⟩ | ⟨s, s', hu, hu', -⟩ | ⟨w, w', hu, hu', hw⟩
    · rw [step, step, transfer, transfer, ho, ho', hu, hu']
      exact h.agree .rejected
    · rw [step, step, transfer, transfer, ho, ho', hu, hu']
      exact h.agree .rejected
    · have hreads : r.Fits ws.memory := hvalid source _ ho
      have hreads' : r'.Fits ws'.memory := hvalid' source _ ho'
      have hahead := hr.ahead_eq h.memory hreads hreads'
      rw [step_transfer hvalid ho hu, step_transfer hvalid' ho' hu', hr.cursor_eq, hw.cursor_eq,
        ← hahead]
      by_cases hl : r.cursor.remaining ≤ w.cursor.remaining
      · rw [if_pos hl, if_pos hl]
        have hmemory := h.memory.replace hw (hvalid target _ hu) (hvalid' target _ hu')
          (Nat.le_trans (Nat.le_of_eq hreads.length_ahead) hl)
        have hreader := Object.Alike.reader (Reader.skip_alike hr r.cursor.remaining)
        have hsource := (h.withMemory hmemory).bind_mem source hreader
        exact ⟨rfl, hsource.bind_mem target (.writer (Writer.skip_alike hw r.cursor.remaining))⟩
      · rw [if_neg hl, if_neg hl]
        exact h.agree _
  · rw [step, step, transfer, transfer, ho, ho']
    exact h.agree .rejected

lemma same_agree (h : ws.Alike places family ws') (hvalid : ws.Valid) (hvalid' : ws'.Valid)
    {first second : String} (hf : first ∈ family) (hs : second ∈ family) :
    ws.same first second Reader.sameRemaining = ws'.same first second Reader.sameRemaining := by
  unfold same
  rcases h.cases hf with ⟨ho, ho'⟩ | ⟨r, r', ho, ho', hr⟩ | ⟨w, w', ho, ho', -⟩
  · rw [ho, ho']
  · rcases h.cases hs with ⟨hu, hu'⟩ | ⟨s, s', hu, hu', hs⟩ | ⟨w, w', hu, hu', -⟩
    · rw [ho, ho', hu, hu']
    · have hfirst : r.Fits ws.memory := hvalid first _ ho
      have hfirst' : r'.Fits ws'.memory := hvalid' first _ ho'
      have hsecond : s.Fits ws.memory := hvalid second _ hu
      have hsecond' : s'.Fits ws'.memory := hvalid' second _ hu'
      simp only [ho, ho', hu, hu', Reader.sameRemaining_eq hfirst hsecond,
        Reader.sameRemaining_eq hfirst' hsecond', hr.ahead_eq h.memory hfirst hfirst',
        hs.ahead_eq h.memory hsecond hsecond']
    · rw [ho, ho', hu, hu']
  · rw [ho, ho']

lemma step_array {o : Object} {v : View} (ho : ws.find? source = some o) (hv : o.view? = some v) :
    ws.step (.array name source) = match v.array ws.memory with
      | .ok id => (.done .nothing, ws.bind name (.array id))
      | .error f => (.failed f, ws) := by
  simp only [step, derive, ho, Option.bind_some, hv, Option.map_some, create, EStateM.run_bind,
    EStateM.run_get]
  cases v.array ws.memory <;> rfl

lemma array_agree (h : ws.Alike places family ws') {o o' : Object} {v v' : View}
    (ho : ws.find? source = some o) (ho' : ws'.find? source = some o') (hv : o.view? = some v)
    (hv' : o'.view? = some v') (harray : v'.array ws'.memory = v.array ws.memory) :
    Agree places ((Operation.array name source).familyAfter family
      (ws.step (.array name source)).1) (ws.step (.array name source))
      (ws'.step (.array name source)) := by
  rw [step_array ho hv, step_array ho' hv', harray]
  cases v.array ws.memory with
  | ok id => exact ⟨rfl, h.bind_other _ _⟩
  | error f => exact h.agree (.failed f)

/-- An operation that asks for the place of a view gets the same reply in workspaces that are
alike at the same places. -/
lemma step_agree_of_aligned (h : ws.Alike places family ws') (hvalid : ws.Valid)
    (hvalid' : ws'.Valid) (hplaces : ws.memory.Aligned places ws'.memory) {op : Operation}
    (hplace : op.showsPlace = true) (hsubjects : ∀ name ∈ op.subjects, name ∈ family) :
    Agree places (op.familyAfter family (ws.step op).1) (ws.step op) (ws'.step op) := by
  cases op with
  | array name source =>
    have hs := hsubjects source List.mem_cons_self
    rcases h.cases hs with ⟨ho, ho'⟩ | ⟨r, r', ho, ho', hr⟩ | ⟨w, w', ho, ho', hw⟩
    · rw [step, step, derive, derive, ho, ho']
      exact h.agree .rejected
    · exact array_agree h ho ho' rfl rfl (hr.array_eq hplaces)
    · exact array_agree h ho ho' rfl rfl (hw.array_eq hplaces)
  | describe name =>
    refine inspect_agree h hvalid hvalid' (hsubjects name List.mem_cons_self) ?_
    intro o o' _ _ halike
    cases halike with
    | reader hr => exact congrArg _ (congrArg _ (congrArg _ (hr.describe_eq hplaces _).symm))
    | writer hw => exact congrArg _ (congrArg _ (congrArg _ (hw.describe_eq hplaces _).symm))
  | hasArray name =>
    refine inspect_agree h hvalid hvalid' (hsubjects name List.mem_cons_self) ?_
    intro o o' _ _ halike
    obtain ⟨v, v', hv, hv', hview⟩ := halike.view
    rw [hv, hv', hview.eq_of_aligned hplaces]
    simp only [Option.map_some, hview.isArray_eq hplaces]
  | arrayOffset name =>
    refine inspect_agree h hvalid hvalid' (hsubjects name List.mem_cons_self) ?_
    intro o o' _ _ halike
    obtain ⟨v, v', hv, hv', hview⟩ := halike.view
    rw [hv, hv']
    simp only [Option.map_some, hview.arrayOffset_eq hplaces]
  | _ => cases hplace

/-- An operation on views gets the same reply in workspaces that are alike, and leaves them alike,
unless it asks for places and these differ. -/
theorem step_agree (h : ws.Alike places family ws') (hvalid : ws.Valid) (hvalid' : ws'.Valid)
    {op : Operation} (hviews : op.isOfViews = true)
    (hplace : op.showsPlace = false ∨ ws.memory.Aligned places ws'.memory)
    (hsubjects : ∀ name ∈ op.subjects, name ∈ family) :
    Agree places (op.familyAfter family (ws.step op).1) (ws.step op) (ws'.step op) := by
  -- only these operations need the places to be the same
  by_cases hshows : op.showsPlace = true
  · have haligned := hplace.resolve_left (by simp [hshows])
    exact step_agree_of_aligned h hvalid hvalid' haligned hshows hsubjects
  cases op with
  | allocate name placement bytes => cases hviews
  | make name role placement bytes => cases hviews
  | wrapArray name role source offset length => cases hviews
  | wrapRegion name role source => cases hviews
  | isEmpty name => cases hviews
  | content name => cases hviews
  | overwrite name index bytes => cases hviews
  | array name source => exact absurd rfl hshows
  | describe name => exact absurd rfl hshows
  | hasArray name => exact absurd rfl hshows
  | arrayOffset name => exact absurd rfl hshows
  | clone name source =>
    exact derive_agree h hvalid (hsubjects source List.mem_cons_self) some (fun _ => rfl)
      fun o o' _ ho => .some ho
  | duplicate name source =>
    refine derive_agree h hvalid (hsubjects source List.mem_cons_self)
      (fun o => o.reader?.map .reader) (fun o => by cases o <;> rfl) ?_
    intro o o' _ ho
    cases ho with
    | reader hr => exact .some (.reader hr)
    | writer hw => exact .none
  | slice name source =>
    refine derive_agree h hvalid (hsubjects source List.mem_cons_self)
      (fun o => o.reader?.map fun r => .reader r.slice)
      (fun o => by cases o <;> rfl) ?_
    intro o o' hfits ho
    cases ho with
    | reader hr => exact .some (.reader (Reader.slice_alike hr hfits))
    | writer hw => exact .none
  | toReader name source =>
    refine derive_agree h hvalid (hsubjects source List.mem_cons_self)
      (fun o => o.writer?.map fun w => .reader w.toReader)
      (fun o => by cases o <;> rfl) ?_
    intro o o' _ ho
    cases ho with
    | reader hr => exact .none
    | writer hw => exact .some (.reader (Writer.toReader_alike hw))
  | intoReader name source =>
    exact intoReader_agree h (hsubjects source List.mem_cons_self)
  | transfer source target =>
    exact transfer_agree h hvalid hvalid' (hsubjects source List.mem_cons_self)
      (hsubjects target (List.mem_cons_of_mem _ List.mem_cons_self))
  | same first second =>
    exact ⟨same_agree h hvalid hvalid' (hsubjects first List.mem_cons_self)
      (hsubjects second (List.mem_cons_of_mem _ List.mem_cons_self)), h⟩
  | move name m =>
    exact moveView_agree h hvalid (hsubjects name List.mem_cons_self) (fun _ => rfl)
      (.inl fun _ => rfl) fun c hc => m.apply_safe hc
  | moveReader name m =>
    exact moveView_agree h hvalid (hsubjects name List.mem_cons_self) (fun _ => rfl)
      (.inr fun _ => rfl) fun c hc => m.apply_safe hc
  | take name t =>
    exact readFrom_agree h hvalid hvalid' (hsubjects name List.mem_cons_self)
      ((ReadsAlike.takeScalar h.memory t).map Value.scalar)
  | text name encoding =>
    exact readFrom_agree h hvalid hvalid' (hsubjects name List.mem_cons_self)
      ((ReadsAlike.text h.memory encoding).map Value.text)
  | drain name =>
    exact readFrom_agree h hvalid hvalid' (hsubjects name List.mem_cons_self)
      ((ReadsAlike.drain h.memory).map Value.bytes)
  | fill name target =>
    exact fillFrom_agree h hvalid hvalid' (hsubjects name List.mem_cons_self) target
      (ReadsAlike.take h.memory target.length)
  | fillRange name target offset length =>
    exact fillFrom_agree h hvalid hvalid' (hsubjects name List.mem_cons_self) target
      (ReadsAlike.fillRange h.memory target offset length)
  | byteAt name index =>
    refine inspect_agree h hvalid hvalid' (hsubjects name List.mem_cons_self) ?_
    intro o o' ho ho' halike
    cases halike with
    | reader hr => simp only [Reader.byteAt_alike hr h.memory ho ho']
    | writer hw => rfl
  | window name =>
    refine inspect_agree h hvalid hvalid' (hsubjects name List.mem_cons_self) ?_
    intro o o' ho ho' halike
    cases halike with
    | reader hr =>
      simp only [View.Fits.content_eq ho, View.Fits.content_eq ho',
        hr.windowBytes_eq h.memory ho ho']
    | writer hw => rfl
  | ensureRemaining name length =>
    refine inspect_agree h hvalid hvalid' (hsubjects name List.mem_cons_self) ?_
    intro o o' ho ho' halike
    cases halike with
    | reader hr => rfl
    | writer hw => simp only [hw.cursor_eq]
  | put name s =>
    exact writeTo_agree h hvalid hvalid' (hsubjects name List.mem_cons_self) s.encode
  | putBytes name bytes =>
    exact writeTo_agree h hvalid hvalid' (hsubjects name List.mem_cons_self) bytes
  | putText name s =>
    exact writeTo_agree h hvalid hvalid' (hsubjects name List.mem_cons_self)
      (Text.Utf8.encode s)

/-- A run of operations on views gets the same replies from workspaces that are alike, and leaves
them alike, as long as nothing but the family and what is made of it is worked on. -/
theorem run_agree (h : ws.Alike places family ws') (hvalid : ws.Valid) (hvalid' : ws'.Valid)
    {ops : List Operation} (hviews : ∀ op ∈ ops, op.isOfViews = true)
    (hplace : (∀ op ∈ ops, op.showsPlace = false) ∨ ws.memory.Aligned places ws'.memory)
    (hwithin : WithinFamily family (ops.zip (ws.run ops).1)) :
    (ws.run ops).1 = (ws'.run ops).1 ∧
      (ws.run ops).2.Alike places (familyAfter family (ops.zip (ws.run ops).1))
        (ws'.run ops).2 := by
  induction ops generalizing ws ws' family with
  | nil => exact ⟨rfl, h⟩
  | cons op rest ih =>
    obtain ⟨hsubjects, hwithin⟩ := hwithin
    have hhidden : op.showsPlace = false ∨ ws.memory.Aligned places ws'.memory :=
      hplace.imp_left fun hops => hops op List.mem_cons_self
    have hstep := step_agree h hvalid hvalid' (hviews op List.mem_cons_self) hhidden hsubjects
    have hsound := step_sound hvalid op
    have hsound' := step_sound hvalid' op
    have hrest : (∀ op ∈ rest, op.showsPlace = false) ∨
        (ws.step op).2.memory.Aligned places (ws'.step op).2.memory :=
      hplace.imp (fun hops op hop => hops op (List.mem_cons_of_mem _ hop))
        fun haligned => haligned.grows hsound.grows hsound'.grows
    obtain ⟨hreplies, halike⟩ := ih hstep.2 hsound.valid hsound'.valid
      (fun op hop => hviews op (List.mem_cons_of_mem _ hop)) hrest hwithin
    rw [run_cons, run_cons]
    exact ⟨congrArg₂ List.cons hstep.1 hreplies, halike⟩

end Workspace

end AmqpClient.Buffer
