import AmqpClient.Proofs.CorrespondingRuns

/-!
# Independence of the placement

Whether a region is an array or lies outside of the heap, and where a window begins in it, cannot
be told from the replies to operations on views, apart from those that ask for it.
-/

namespace AmqpClient.Buffer

variable {places : Set Place} {family : List String}

/-- Two readers or two writers that stand alike in windows of the same octets. -/
inductive Object.SeenAlike (m m' : Memory) : Object → Object → Prop where
  | reader {r r' : Reader} (hcursor : r'.cursor = r.cursor)
    (hwindow : r.windowBytes m = r'.windowBytes m') : SeenAlike m m' (.reader r) (.reader r')
  | writer {w w' : Writer} (hcursor : w'.cursor = w.cursor)
    (hwindow : w.windowBytes m = w'.windowBytes m') : SeenAlike m m' (.writer w) (.writer w')

namespace Workspace

variable {ws ws' : Workspace}

/-- The members of a family are seen alike in both workspaces, or are missing in both. -/
def SeenAlike (family : List String) (ws ws' : Workspace) : Prop :=
  ∀ name ∈ family,
    Option.Rel (Object.SeenAlike ws.memory ws'.memory) (ws.find? name) (ws'.find? name)

/-- Each view of a family has a region of its own. -/
def Apart (family : List String) (ws : Workspace) : Prop :=
  ∀ name ∈ family, ∀ other ∈ family, ∀ v u, ws.view? name = some v → ws.view? other = some u →
    v.region = u.region → name = other

/-- The views of a family are seen alike in both workspaces, and are views of places that hold the
same octets, so that what is written through one is seen through the same others. -/
structure Correspond (family : List String) (ws ws' : Workspace) : Prop where
  seenAlike : ws.SeenAlike family ws'
  exists_places : ∃ places, ws.Alike places family ws'

/-- The windows that the members of a family have in both workspaces. -/
def windows (family : List String) (ws ws' : Workspace) : Set Place :=
  {p | ∃ name ∈ family, ∃ v v', ws.view? name = some v ∧ ws'.view? name = some v' ∧
    p = ⟨v.region, v.offset, v'.region, v'.offset, v.cursor.capacity⟩}

lemma Alike.seenAlike (h : ws.Alike places family ws') (hvalid : ws.Valid)
    (hvalid' : ws'.Valid) : ws.SeenAlike family ws' := by
  intro name hname
  rcases h.cases hname with ⟨ho, ho'⟩ | ⟨r, r', ho, ho', hr⟩ | ⟨w, w', ho, ho', hw⟩
  · rw [ho, ho']
    exact .none
  · rw [ho, ho']
    exact .some (.reader hr.cursor_eq
      (hr.windowBytes_eq h.memory (hvalid name _ ho) (hvalid' name _ ho')))
  · rw [ho, ho']
    exact .some (.writer hw.cursor_eq
      (hw.windowBytes_eq h.memory (hvalid name _ ho) (hvalid' name _ ho')))

/-- A member of a family has a view in both workspaces or in none. -/
lemma SeenAlike.view (h : ws.SeenAlike family ws') {name : String} (hname : name ∈ family)
    {v v' : View} (hv : ws.view? name = some v) (hv' : ws'.view? name = some v') :
    v'.cursor = v.cursor ∧ v.windowBytes ws.memory = v'.windowBytes ws'.memory := by
  have hseen := h name hname
  unfold view? at hv hv'
  generalize ws.find? name = o at hseen hv
  generalize ws'.find? name = o' at hseen hv'
  cases hseen with
  | none => cases hv
  | some hobject =>
    cases hobject with
    | reader hcursor hwindow =>
      cases hv
      cases hv'
      exact ⟨hcursor, hwindow⟩
    | writer hcursor hwindow =>
      cases hv
      cases hv'
      exact ⟨hcursor, hwindow⟩

lemma apart_pair {first second : String} {v u : View} (hv : ws.view? first = some v)
    (hu : ws.view? second = some u) (hne : v.region ≠ u.region) : ws.Apart [first, second] := by
  intro name hname other hother x y hx hy hregion
  simp only [List.mem_cons, List.not_mem_nil, or_false] at hname hother
  rcases hname with rfl | rfl <;> rcases hother with rfl | rfl
  · rfl
  · rw [hv] at hx
    rw [hu] at hy
    cases hx
    cases hy
    exact absurd hregion hne
  · rw [hu] at hx
    rw [hv] at hy
    cases hx
    cases hy
    exact absurd hregion.symm hne
  · rfl

lemma SeenAlike.memory (h : ws.SeenAlike family ws') (hapart : ws.Apart family)
    (hapart' : ws'.Apart family) : ws.memory.Alike (windows family ws ws') ws'.memory := by
  have hunique : ∀ name v v' u u', ws.view? name = some v → ws'.view? name = some v' →
      ws.view? name = some u → ws'.view? name = some u' →
      Place.mk v.region v.offset v'.region v'.offset v.cursor.capacity =
        ⟨u.region, u.offset, u'.region, u'.offset, u.cursor.capacity⟩ := by
    intro name v v' u u' hv hv' hu hu'
    rw [hv] at hu
    rw [hv'] at hu'
    cases hu
    cases hu'
    rfl
  refine ⟨?_, ?_, ?_⟩
  · rintro p ⟨name, hname, v, v', hv, hv', rfl⟩ q ⟨other, hother, u, u', hu, hu', rfl⟩ hregion
    obtain rfl := hapart name hname other hother v u hv hu hregion
    exact hunique name v v' u u' hv hv' hu hu'
  · rintro p ⟨name, hname, v, v', hv, hv', rfl⟩ q ⟨other, hother, u, u', hu, hu', rfl⟩ hregion
    obtain rfl := hapart' name hname other hother v' u' hv' hu' hregion
    exact hunique name v v' u u' hv hv' hu hu'
  · rintro p ⟨name, hname, v, v', hv, hv', rfl⟩ i hi
    obtain ⟨hcursor, hwindow⟩ := h.view hname hv hv'
    have hi' : i < v'.cursor.capacity := by
      rw [hcursor]
      exact hi
    rw [← v.windowBytes_getElem? ws.memory hi, ← v'.windowBytes_getElem? ws'.memory hi', hwindow]

/-- Views with regions of their own are alike as soon as they are seen alike. -/
lemma SeenAlike.correspond (h : ws.SeenAlike family ws') (hapart : ws.Apart family)
    (hapart' : ws'.Apart family) : ws.Correspond family ws' := by
  refine ⟨h, windows family ws ws', h.memory hapart hapart', fun name hname => ?_⟩
  have hplace : ∀ v v', ws.view? name = some v → ws'.view? name = some v' →
      v.Alike (windows family ws ws') v' := by
    intro v v' hv hv'
    have hmem : Place.mk v.region v.offset v'.region v'.offset v.cursor.capacity ∈
        windows family ws ws' := ⟨name, hname, v, v', hv, hv', rfl⟩
    exact ⟨(h.view hname hv hv').1, _, hmem, 0, rfl, rfl, rfl, rfl,
      Nat.le_of_eq (Nat.zero_add _)⟩
  have hseen := h name hname
  unfold view? at hplace
  generalize ws.find? name = o at hseen hplace ⊢
  generalize ws'.find? name = o' at hseen hplace ⊢
  cases hseen with
  | none => exact .none
  | some hobject =>
    cases hobject with
    | reader => exact .some (.reader (hplace _ _ rfl rfl))
    | writer => exact .some (.writer (hplace _ _ rfl rfl))

/-- Workspaces that correspond give the same replies and correspond afterwards. -/
lemma Correspond.run (h : ws.Correspond family ws') (hvalid : ws.Valid) (hvalid' : ws'.Valid)
    {ops : List Operation} (hops : ∀ op ∈ ops, op.isOfViews = true ∧ op.showsPlace = false)
    (hwithin : WithinFamily family (ops.zip (ws.run ops).1)) :
    (ws.run ops).1 = (ws'.run ops).1 ∧
      (ws.run ops).2.Correspond (familyAfter family (ops.zip (ws.run ops).1))
        (ws'.run ops).2 := by
  obtain ⟨places, halike⟩ := h.exists_places
  obtain ⟨hreplies, hafter⟩ := run_agree halike hvalid hvalid' (fun op hop => (hops op hop).1)
    (.inl fun op hop => (hops op hop).2) hwithin
  exact ⟨hreplies, hafter.seenAlike (run_valid hvalid ops) (run_valid hvalid' ops), places, hafter⟩

end Workspace

namespace InPlace

/-- Take two workspaces after any operations whatever, in which the views of a family have regions
of their own, of whichever kind, and windows with the same octets, at whichever offset. Operations
on the family and on what is made of it, as long as none asks for a place, get the same replies in
both, and the workspaces correspond again. -/
theorem placement_unobservable (setup setup' : List Operation) (family : List String)
    (hseen : (run {} setup).2.SeenAlike family (run {} setup').2)
    (hapart : (run {} setup).2.Apart family) (hapart' : (run {} setup').2.Apart family)
    (ops : List Operation) (hops : ∀ op ∈ ops, op.isOfViews = true ∧ op.showsPlace = false)
    (hwithin : WithinFamily family (ops.zip (run (run {} setup).2 ops).1)) :
    (run (run {} setup).2 ops).1 = (run (run {} setup').2 ops).1 ∧
      (run (run {} setup).2 ops).2.Correspond
        (familyAfter family (ops.zip (run (run {} setup).2 ops).1))
        (run (run {} setup').2 ops).2 := by
  have hvalid := Workspace.run_valid Workspace.valid_empty setup
  have hvalid' := Workspace.run_valid Workspace.valid_empty setup'
  simp only [run_eq Workspace.valid_empty] at hseen hapart hapart' hwithin ⊢
  simp only [run_eq hvalid, run_eq hvalid'] at hwithin ⊢
  exact (hseen.correspond hapart hapart').run hvalid hvalid' hops hwithin

/-- A reader and a writer inside of arrays. -/
def insideArrays : List Operation :=
  [.allocate "octets" .heap [9, 9, 1, 2, 3, 4, 9], .wrapArray "reader" .reader "octets" 2 4,
    .allocate "room" .heap [9, 0, 0, 0, 0], .wrapArray "writer" .writer "room" 1 4]

/-- A reader and a writer of whole regions outside of the heap. -/
def outsideHeap : List Operation :=
  [.make "writer" .writer .direct [0, 0, 0, 0], .make "reader" .reader .direct [1, 2, 3, 4]]

/-- A part of what is read goes to the writer, and is seen there by a reader made of it. -/
def forwarding : List Operation :=
  [.take "reader" .byte, .slice "rest" "reader", .transfer "rest" "writer",
    .put "writer" (.short 258), .toReader "written" "writer", .text "written" .utf8,
    .same "rest" "written"]

lemma seenAlike_insideArrays :
    (run {} insideArrays).2.SeenAlike ["reader", "writer"] (run {} outsideHeap).2 := by
  intro name hname
  simp only [List.mem_cons, List.not_mem_nil, or_false] at hname
  rcases hname with rfl | rfl
  · exact .some (.reader rfl rfl)
  · exact .some (.writer rfl rfl)

theorem placement_unobservable_forwarding :
    (run (run {} outsideHeap).2 forwarding).1 = [.done (.scalar (.byte 1)), .done .nothing,
      .done .nothing, .failed (.outOfBounds 3 2 4), .done .nothing,
      .done (.text "\u0002\u0003\u0004"), .done (.flag true)] ∧
    (run (run {} insideArrays).2 forwarding).2.Correspond
      ["written", "rest", "reader", "writer"] (run (run {} outsideHeap).2 forwarding).2 := by
  have hrun := placement_unobservable insideArrays outsideHeap ["reader", "writer"]
    seenAlike_insideArrays (Workspace.apart_pair rfl rfl (by decide))
    (Workspace.apart_pair rfl rfl (by decide)) forwarding (by decide) (by decide)
  exact ⟨hrun.1.symm.trans rfl, hrun.2⟩

end InPlace

end AmqpClient.Buffer
