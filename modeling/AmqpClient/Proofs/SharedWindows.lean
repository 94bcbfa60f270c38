import AmqpClient.Proofs.Correspondence
import AmqpClient.Proofs.StepFrame

/-!
# Windows over shared octets

A view that is made of another one is over the same octets, not over a copy of them: whatever is
written later on, and through whichever object, both show it. For this a window keeps its place in
the region for as long as the view is there.
-/

namespace AmqpClient.Buffer

/-- The operation makes a view of an object, whose window begins so far behind the start of the
window of that object. -/
inductive Operation.Derives (name source : String) : Object → Operation → Nat → Prop
  | clone (o : Object) : Derives name source o (.clone name source) 0
  | duplicate (r : Reader) : Derives name source (.reader r) (.duplicate name source) 0
  | slice (r : Reader) : Derives name source (.reader r) (.slice name source) r.cursor.position
  | toReader (w : Writer) : Derives name source (.writer w) (.toReader name source) 0
  | intoReader (w : Writer) : Derives name source (.writer w) (.intoReader name source) 0

namespace View

/-- Views of one window, wherever their cursors stand. -/
structure SameWindow (u v : View) : Prop where
  region_eq : u.region = v.region
  offset_eq : u.offset = v.offset
  capacity_eq : u.cursor.capacity = v.cursor.capacity

/-- A view of a part of the window of another view, from so many octets behind its start. -/
structure PartOf (v c : View) (shift : Nat) : Prop where
  region_eq : v.region = c.region
  offset_eq : v.offset = c.offset + shift
  within : shift + v.cursor.capacity ≤ c.cursor.capacity

variable {u v c : View} {m : Memory}

lemma SameWindow.refl (v : View) : v.SameWindow v :=
  ⟨rfl, rfl, rfl⟩

lemma SameWindow.trans {w : View} (h : u.SameWindow v) (h' : v.SameWindow w) : u.SameWindow w :=
  ⟨h.region_eq.trans h'.region_eq, h.offset_eq.trans h'.offset_eq,
    h.capacity_eq.trans h'.capacity_eq⟩

lemma SameWindow.partOf (h : u.SameWindow v) : u.PartOf v 0 :=
  ⟨h.region_eq, h.offset_eq, by rw [Nat.zero_add, h.capacity_eq]⟩

/-- A part shows the octets of the whole, whatever they are. -/
lemma PartOf.octet_eq {shift : Nat} (h : v.PartOf c shift) (hv : v.Fits m) {i : Nat}
    (hi : i < v.cursor.capacity) :
    ∃ b, (v.windowBytes m)[i]? = some b ∧ (c.windowBytes m)[i + shift]? = some b := by
  have hin : i < (v.windowBytes m).length := by
    rw [hv.length_windowBytes]
    exact hi
  have hwithin : i + shift < c.cursor.capacity := by
    have hle := h.within
    omega
  have hplace : c.offset + (i + shift) = v.offset + i := by
    rw [h.offset_eq]
    omega
  refine ⟨(v.windowBytes m)[i], List.getElem?_eq_getElem hin, ?_⟩
  rw [c.windowBytes_getElem? m hwithin, hplace, ← h.region_eq, ← v.windowBytes_getElem? m hi,
    List.getElem?_eq_getElem hin]

end View

lemma Reader.Advanced.sameWindow {r s : Reader} (h : r.Advanced s) :
    s.toView.SameWindow r.toView := by
  obtain ⟨length, -, rfl⟩ := h
  exact ⟨rfl, rfl, rfl⟩

lemma Writer.sameWindow_skip (w : Writer) (length : Nat) :
    (w.skip length).toView.SameWindow w.toView :=
  ⟨rfl, rfl, rfl⟩

lemma Reader.partOf_slice {r : Reader} (h : r.cursor.Ordered) :
    r.slice.toView.PartOf r.toView r.cursor.position := by
  have hp := h.position_le
  have hl := h.limit_le
  refine ⟨rfl, rfl, ?_⟩
  change r.cursor.position + (r.cursor.limit - r.cursor.position) ≤ r.cursor.capacity
  omega

namespace Workspace

/-- A view that is under a name stays there, over the same window. -/
def KeepsWindow (ws after : Workspace) (name : String) : Prop :=
  ∀ v, ws.view? name = some v → ∃ v', after.view? name = some v' ∧ v'.SameWindow v

variable {ws after last : Workspace} {name source : String} {m : Memory}

lemma keepsWindow_of_find? (h : after.find? name = ws.find? name) : ws.KeepsWindow after name := by
  intro v hv
  unfold view? at hv ⊢
  rw [h]
  exact ⟨v, hv, .refl v⟩

lemma KeepsWindow.trans (h : ws.KeepsWindow after name) (h' : after.KeepsWindow last name) :
    ws.KeepsWindow last name := by
  intro v hv
  obtain ⟨u, hu, huv⟩ := h v hv
  obtain ⟨u', hu', huu⟩ := h' u hu
  exact ⟨u', hu', huu.trans huv⟩

/-- Another object under the name has to be a view of the same window. -/
lemma keepsWindow_of_views {o o' : Object} {v v' : View} (ho : ws.find? name = some o)
    (ho' : after.find? name = some o') (hv : o.view? = some v) (hv' : o'.view? = some v')
    (hsame : v'.SameWindow v) : ws.KeepsWindow after name := by
  intro u hu
  rw [view?, ho, Option.bind_some, hv] at hu
  cases hu
  exact ⟨v', by rw [view?, ho', Option.bind_some, hv'], hsame⟩

lemma keepsWindow_bind {o o' : Object} {v v' : View} (ho : ws.find? name = some o)
    (hv : o.view? = some v) (hv' : o'.view? = some v') (hsame : v'.SameWindow v) :
    ws.KeepsWindow ({ ws with memory := m }.bind name o') name :=
  keepsWindow_of_views ho (by rw [find?_bind, if_pos rfl]) hv hv' hsame

lemma moveView_keepsWindow (h : ws.Valid) {view? : Object → Option View}
    {move : Cursor → Except Fault Cursor} (hview : ∀ o v, view? o = some v → o.view? = some v)
    (hmove : ∀ c, c.Ordered → SafeResult (move c) fun d => d.Ordered ∧ d.capacity = c.capacity) :
    ws.KeepsWindow (ws.moveView name view? move).2 name := by
  unfold moveView
  cases ho : ws.find? name with
  | none => exact keepsWindow_of_find? rfl
  | some o =>
    dsimp only
    cases hv : view? o with
    | none => exact keepsWindow_of_find? rfl
    | some v =>
      have hv := hview o v hv
      have hsafe := hmove v.cursor ((h name o ho).view hv).ordered
      dsimp only
      cases hc : move v.cursor with
      | error f => exact keepsWindow_of_find? rfl
      | ok c =>
        rw [hc] at hsafe
        have hmoved : (o.withCursor c).view? = some { v with cursor := c } := by
          cases o <;> cases hv <;> rfl
        exact keepsWindow_bind ho hv hmoved ⟨rfl, rfl, hsafe.2⟩

lemma readFrom_keepsWindow (h : ws.Valid)
    {read : Reader → Memory → Except Fault (Value × Reader)}
    (hread : ∀ r : Reader, r.Fits ws.memory →
      SafeResult (read r ws.memory) fun p => r.Advanced p.2) :
    ws.KeepsWindow (ws.readFrom name read).2 name := by
  unfold readFrom
  split
  · rename_i r hr
    have hsafe := hread r (h name _ hr)
    split
    · rename_i v s hs
      rw [hs] at hsafe
      exact keepsWindow_bind hr rfl rfl hsafe.sameWindow
    · exact keepsWindow_of_find? rfl
  · exact keepsWindow_of_find? rfl

lemma fillFrom_keepsWindow (h : ws.Valid) (target : List UInt8)
    {read : Reader → Memory → Except Fault (List UInt8 × Reader)}
    (hread : ∀ r : Reader, r.Fits ws.memory →
      SafeResult (read r ws.memory) fun p => r.Advanced p.2) :
    ws.KeepsWindow (ws.fillFrom name target read).2 name := by
  unfold fillFrom
  split
  · rename_i r hr
    have hsafe := hread r (h name _ hr)
    split
    · rename_i bytes s hs
      rw [hs] at hsafe
      exact keepsWindow_bind hr rfl rfl hsafe.sameWindow
    · exact keepsWindow_of_find? rfl
  · exact keepsWindow_of_find? rfl

lemma writeTo_keepsWindow (h : ws.Valid) (bytes : List UInt8) :
    ws.KeepsWindow (ws.writeTo name (·.put bytes)).2 name := by
  cases ho : ws.find? name with
  | none => exact fun v hv => by rw [view?, ho] at hv; cases hv
  | some o =>
    cases o with
    | writer w =>
      rw [step_writeTo h ho]
      by_cases hl : bytes.length ≤ w.cursor.remaining
      · rw [if_pos hl]
        exact keepsWindow_bind ho rfl rfl (w.sameWindow_skip _)
      · rw [if_neg hl]
        exact keepsWindow_of_find? rfl
    | _ =>
      rw [writeTo, ho]
      exact keepsWindow_of_find? rfl

lemma transfer_keepsWindow (h : ws.Valid) {target key : String}
    (hkey : key = source ∨ key = target) :
    ws.KeepsWindow (ws.step (.transfer source target)).2 key := by
  cases hs : ws.find? source with
  | none => rw [step, transfer, hs]; exact keepsWindow_of_find? rfl
  | some o =>
    cases o with
    | reader r =>
      cases ht : ws.find? target with
      | none => rw [step, transfer, hs, ht]; exact keepsWindow_of_find? rfl
      | some o =>
        cases o with
        | writer w =>
          by_cases hl : r.cursor.remaining ≤ w.cursor.remaining
          · have hmoved := transferred_step h hs ht hl
            rcases hkey with rfl | rfl
            · exact keepsWindow_of_views hs hmoved.source_eq rfl rfl ⟨rfl, rfl, rfl⟩
            · exact keepsWindow_of_views ht hmoved.target_eq rfl rfl ⟨rfl, rfl, rfl⟩
          · rw [step_transfer h hs ht, if_neg hl]
            exact keepsWindow_of_find? rfl
        | _ => rw [step, transfer, hs, ht]; exact keepsWindow_of_find? rfl
    | _ => rw [step, transfer, hs]; exact keepsWindow_of_find? rfl

/-- The view under a name keeps its window, unless an operation replaces it. -/
theorem step_keepsWindow (h : ws.Valid) (op : Operation) (hname : name ∉ op.replaced) :
    ws.KeepsWindow (ws.step op).2 name := by
  by_cases hmoved : name ∈ op.moved
  · cases op with
    | transfer source target =>
      refine transfer_keepsWindow h ?_
      rcases List.mem_cons.1 hmoved with he | hmem
      · exact .inl he
      · exact .inr (List.mem_singleton.1 hmem)
    | move n move =>
      obtain rfl := List.mem_singleton.1 hmoved
      exact moveView_keepsWindow h (fun o v hv => hv) fun c hc => move.apply_safe hc
    | moveReader n move =>
      obtain rfl := List.mem_singleton.1 hmoved
      refine moveView_keepsWindow h (fun o v hv => ?_) fun c hc => move.apply_safe hc
      cases o with
      | reader r => exact hv
      | _ => cases hv
    | take n t =>
      obtain rfl := List.mem_singleton.1 hmoved
      exact readFrom_keepsWindow h fun r hr => (Reader.takeScalar_safe hr t).map fun _ hp => hp
    | text n encoding =>
      obtain rfl := List.mem_singleton.1 hmoved
      exact readFrom_keepsWindow h fun r hr => (Reader.text_safe hr encoding).map fun _ hp => hp
    | drain n =>
      obtain rfl := List.mem_singleton.1 hmoved
      exact readFrom_keepsWindow h fun r hr => (Reader.drain_safe hr).map fun _ hp => hp
    | fill n target =>
      obtain rfl := List.mem_singleton.1 hmoved
      exact fillFrom_keepsWindow h target fun r hr => Reader.take_safe hr target.length
    | fillRange n target offset length =>
      obtain rfl := List.mem_singleton.1 hmoved
      exact fillFrom_keepsWindow h target fun r hr => Reader.fillRange_safe hr target offset length
    | put n s =>
      obtain rfl := List.mem_singleton.1 hmoved
      exact writeTo_keepsWindow h s.encode
    | putBytes n bytes =>
      obtain rfl := List.mem_singleton.1 hmoved
      exact writeTo_keepsWindow h bytes
    | putText n s =>
      obtain rfl := List.mem_singleton.1 hmoved
      exact writeTo_keepsWindow h (Text.Utf8.encode s)
    -- the others move no cursor
    | _ => cases hmoved
  · exact keepsWindow_of_find? (find?_step op (fun he => absurd he hname) hmoved)

theorem run_keepsWindow (h : ws.Valid) {ops : List Operation}
    (hname : name ∉ ops.flatMap Operation.replaced) : ws.KeepsWindow (ws.run ops).2 name := by
  induction ops generalizing ws with
  | nil => exact keepsWindow_of_find? rfl
  | cons op rest ih =>
    rw [List.flatMap_cons, List.mem_append, not_or] at hname
    have hstep := step_keepsWindow h op hname.1
    have hrest := ih (step_sound h op).valid hname.2
    rw [run_cons]
    exact hstep.trans hrest

/-- A view is made of a part of the window. -/
lemma step_derives (h : ws.Valid) {o : Object} {c : View} (ho : ws.find? source = some o)
    (hc : o.view? = some c) {op : Operation} {shift : Nat} (hop : op.Derives name source o shift) :
    (ws.step op).1 = .done .nothing ∧
      ∃ v, (ws.step op).2.view? name = some v ∧ v.PartOf c shift := by
  have hfits := (h source o ho).view hc
  have hview (after : Workspace) (o' : Object) :
      (after.bind name o').view? name = o'.view? := by
    rw [view?, find?_bind, if_pos rfl, Option.bind_some]
  cases hop with
  | clone o =>
    rw [step, derive, ho]
    exact ⟨rfl, c, (hview _ o).trans hc, (View.SameWindow.refl c).partOf⟩
  | duplicate r =>
    rw [step, derive, ho]
    exact ⟨rfl, c, (hview _ (.reader r)).trans hc, (View.SameWindow.refl c).partOf⟩
  | slice r =>
    cases hc
    rw [step, derive, ho]
    exact ⟨rfl, _, hview _ (.reader r.slice), Reader.partOf_slice hfits.ordered⟩
  | toReader w =>
    cases hc
    rw [step, derive, ho]
    exact ⟨rfl, _, hview _ (.reader w.toReader), View.SameWindow.partOf ⟨rfl, rfl, rfl⟩⟩
  | intoReader w =>
    cases hc
    rw [step, intoReader, ho]
    exact ⟨rfl, _, hview _ (.reader w.toReader), View.SameWindow.partOf ⟨rfl, rfl, rfl⟩⟩

end Workspace

namespace InPlace

/-- After any operations whatever, a view that is made of another one is over a part of its window,
and octet by octet the two show the same after any further operations. Each stays over its window
for as long as nothing else gets its name. No single operation changes more than it reports. -/
theorem derived_window_shared (setup : List Operation) :
    (∀ (name source : String) (o : Object) (c : View) (op : Operation) (shift : Nat),
      (run {} setup).2.find? source = some o → o.view? = some c →
      op.Derives name source o shift →
      (step (run {} setup).2 op).1 = .done .nothing ∧
      ∃ v, (step (run {} setup).2 op).2.view? name = some v ∧ v.PartOf c shift ∧
        ∀ later : List Operation,
          let after := (run (step (run {} setup).2 op).2 later).2
          (∀ i < v.cursor.capacity, ∃ b, (v.windowBytes after.memory)[i]? = some b ∧
            (c.windowBytes after.memory)[i + shift]? = some b) ∧
          (name ∉ later.flatMap Operation.replaced →
            ∃ v', after.view? name = some v' ∧ v'.SameWindow v) ∧
          (source ∉ (op :: later).flatMap Operation.replaced →
            ∃ c', after.view? source = some c' ∧ c'.SameWindow c)) ∧
    ∀ op : Operation, (run {} setup).2.Framed op (step (run {} setup).2 op) := by
  rw [run_eq Workspace.valid_empty setup]
  have hvalid := Workspace.run_valid Workspace.valid_empty setup
  refine ⟨fun name source o c op shift ho hc hop => ?_, fun op => ?_⟩
  · obtain ⟨hdone, v, hv, hpart⟩ := Workspace.step_derives hvalid ho hc hop
    have hmade : ((Workspace.run {} setup).2.step op).2.Valid :=
      (Workspace.step_sound hvalid op).valid
    rw [step_eq hvalid]
    refine ⟨hdone, v, hv, hpart, fun later => ?_⟩
    rw [run_eq hmade]
    obtain ⟨bound, hbound⟩ := Workspace.exists_payload_bound later
    have hgrows := (Workspace.run_sound hmade later hbound).2.1
    have hfits := (hmade.view_fits hv).grows hgrows
    refine ⟨fun i => hpart.octet_eq hfits, fun hname => Workspace.run_keepsWindow hmade hname v hv,
      fun hsource => ?_⟩
    have hc' : (Workspace.run {} setup).2.view? source = some c := by
      rw [Workspace.view?, ho, Option.bind_some, hc]
    exact Workspace.run_keepsWindow hvalid hsource c hc'
  · rw [step_eq hvalid]
    exact Workspace.framed_step hvalid op

/-- A slice of three octets, one of which has been passed, of a window that leaves out the first
octet of six. -/
def nestedSlices : List Operation :=
  [.allocate "array" .heap [1, 2, 3, 4, 5, 6], .wrapArray "reader" .reader "array" 1 5,
    .move "reader" (.setPosition 2), .slice "part" "reader", .move "part" (.setPosition 1)]

/-- What is written through the array shows in the slice of a slice and in the slice itself. -/
theorem derived_window_shared_nestedSlices :
    let after := (run (step (run {} nestedSlices).2 (.slice "inner" "part")).2
      [.overwrite "array" 4 [9], .take "inner" .byte]).2
    ((⟨0, 4, .new 2⟩ : View).windowBytes after.memory)[0]? = some 9 ∧
      ((⟨0, 3, ⟨1, 3, 3, none⟩⟩ : View).windowBytes after.memory)[1]? = some 9 ∧
      ∃ v, after.view? "inner" = some v ∧ v.SameWindow ⟨0, 4, .new 2⟩ := by
  intro after
  obtain ⟨-, v, hv, -, hshared⟩ := (derived_window_shared nestedSlices).1 "inner" "part"
    (.reader ⟨0, 3, ⟨1, 3, 3, none⟩⟩) ⟨0, 3, ⟨1, 3, 3, none⟩⟩ (.slice "inner" "part") 1 rfl rfl
    (.slice _)
  cases hv
  obtain ⟨hoctets, hinner, -⟩ := hshared [.overwrite "array" 4 [9], .take "inner" .byte]
  obtain ⟨b, hb, hb'⟩ := hoctets 0 (by decide)
  obtain rfl : 9 = b := Option.some.inj hb
  exact ⟨hb, hb', hinner (by decide)⟩

end InPlace

end AmqpClient.Buffer
