import AmqpClient.Proofs.CorrespondingRuns
import AmqpClient.Proofs.StepFrame

/-!
# Confinement to a window

Whoever holds a view of a window, and the views made of it, reaches nothing of the region outside
of the window: no octet there is changed, and no reply depends on one.
-/

namespace AmqpClient.Buffer

variable {places : Set Place} {family : List String}

namespace Workspace

variable {ws ws' : Workspace} {name source : String}

/-! ### What is written -/

/-- Memory after an operation: as it was, or with octets written ahead of a writer that the
operation worked on. -/
def WrittenAhead (ws : Workspace) (subjects : List String) (after : Memory) : Prop :=
  after = ws.memory ∨ ∃ name ∈ subjects, ∃ w bytes, ws.find? name = some (.writer w) ∧
    bytes.length ≤ w.cursor.remaining ∧ after = ws.memory.replace w.region w.index bytes

lemma writtenAhead_writeTo (hvalid : ws.Valid) (bytes : List UInt8) :
    ws.WrittenAhead [name] (ws.writeTo name (·.put bytes)).2.memory := by
  cases ho : ws.find? name with
  | none => rw [writeTo, ho]; exact .inl rfl
  | some o =>
    cases o with
    | writer w =>
      rw [step_writeTo hvalid ho]
      by_cases hl : bytes.length ≤ w.cursor.remaining
      · rw [if_pos hl]
        exact .inr ⟨name, List.mem_cons_self, w, bytes, ho, hl, rfl⟩
      · rw [if_neg hl]
        exact .inl rfl
    | _ => rw [writeTo, ho]; exact .inl rfl

lemma writtenAhead_transfer (hvalid : ws.Valid) (target : String) :
    ws.WrittenAhead [source, target] (ws.step (.transfer source target)).2.memory := by
  cases hs : ws.find? source with
  | none => rw [step, transfer, hs]; exact .inl rfl
  | some o =>
    cases o with
    | reader r =>
      cases ht : ws.find? target with
      | none => rw [step, transfer, hs, ht]; exact .inl rfl
      | some o =>
        cases o with
        | writer w =>
          have hfits : r.Fits ws.memory := hvalid source _ hs
          rw [step_transfer hvalid hs ht]
          by_cases hl : r.cursor.remaining ≤ w.cursor.remaining
          · rw [if_pos hl]
            have hroom : (r.ahead ws.memory).length ≤ w.cursor.remaining := by
              rw [hfits.length_ahead]
              exact hl
            exact .inr ⟨target, List.mem_cons_of_mem _ List.mem_cons_self, w, _, ht, hroom, rfl⟩
          · rw [if_neg hl]
            exact .inl rfl
        | _ => rw [step, transfer, hs, ht]; exact .inl rfl
    | _ => rw [step, transfer, hs]; exact .inl rfl

theorem step_writtenAhead (hvalid : ws.Valid) {op : Operation} (hviews : op.isOfViews = true) :
    ws.WrittenAhead op.subjects (ws.step op).2.memory := by
  cases op with
  | allocate name placement bytes => cases hviews
  | make name role placement bytes => cases hviews
  | wrapArray name role source offset length => cases hviews
  | wrapRegion name role source => cases hviews
  | isEmpty name => cases hviews
  | content name => cases hviews
  | overwrite name index bytes => cases hviews
  | put name s => exact writtenAhead_writeTo hvalid s.encode
  | putBytes name bytes => exact writtenAhead_writeTo hvalid bytes
  | putText name s => exact writtenAhead_writeTo hvalid (Text.Utf8.encode s)
  | transfer source target => exact writtenAhead_transfer hvalid target
  | _ => exact .inl (memory_step rfl rfl)

/-! ### What stays as it was -/

/-- An operation on views changes octets in their places only. -/
lemma step_elsewhere (h : ws.Alike places family ws') (hvalid : ws.Valid) {op : Operation}
    (hviews : op.isOfViews = true) (hsubjects : ∀ name ∈ op.subjects, name ∈ family)
    {id : RegionId} {i : Nat}
    (houtside : ∀ p ∈ places, id = p.first → i < p.firstOffset ∨ p.firstOffset + p.length ≤ i) :
    ((ws.step op).2.memory.content id)[i]? = (ws.memory.content id)[i]? := by
  rcases step_writtenAhead hvalid hviews with heq | ⟨name, hname, w, bytes, hw, hl, heq⟩
  · rw [heq]
  · have hfits : w.Fits ws.memory := hvalid name _ hw
    have hroom := hfits.index_add_le hl
    rw [heq, Memory.content_replace hroom]
    by_cases hid : id = w.region
    · rw [if_pos hid, hid]
      apply Memory.getElem?_splice hroom
      have halike : ∃ w', w.toView.Alike places w' := by
        rcases h.cases (hsubjects name hname) with
          ⟨ho, -⟩ | ⟨r, r', ho, -, -⟩ | ⟨u, u', ho, -, hu⟩
        · rw [hw] at ho
          cases ho
        · rw [hw] at ho
          cases ho
        · rw [hw] at ho
          cases ho
          exact ⟨u'.toView, hu⟩
      obtain ⟨w', hplace⟩ := halike
      obtain ⟨p, hp, shift, hregion, hoffset, -, -, hle⟩ := hplace.exists_place
      have hout := houtside p hp (hid.trans hregion)
      have hlimit := hfits.ordered.limit_le
      unfold Cursor.remaining at hl
      unfold View.index
      omega
    · rw [if_neg hid]

/-- A run of operations on views changes octets in their places only. -/
lemma run_elsewhere (h : ws.Alike places family ws') (hvalid : ws.Valid) (hvalid' : ws'.Valid)
    {ops : List Operation} (hviews : ∀ op ∈ ops, op.isOfViews = true)
    (hplace : ws.memory.Aligned places ws'.memory)
    (hwithin : WithinFamily family (ops.zip (ws.run ops).1)) {id : RegionId} {i : Nat}
    (houtside : ∀ p ∈ places, id = p.first → i < p.firstOffset ∨ p.firstOffset + p.length ≤ i) :
    ((ws.run ops).2.memory.content id)[i]? = (ws.memory.content id)[i]? := by
  induction ops generalizing ws ws' family with
  | nil => rfl
  | cons op rest ih =>
    obtain ⟨hsubjects, hwithin⟩ := hwithin
    have hview := hviews op List.mem_cons_self
    have hstep := step_agree h hvalid hvalid' hview (.inr hplace) hsubjects
    have hsound := step_sound hvalid op
    have hsound' := step_sound hvalid' op
    have hrest := ih hstep.2 hsound.valid hsound'.valid
      (fun op hop => hviews op (List.mem_cons_of_mem _ hop))
      (hplace.grows hsound.grows hsound'.grows) hwithin
    rw [run_cons]
    exact hrest.trans (step_elsewhere h hvalid hview hsubjects houtside)

/-! ### One window and what is made of it -/

/-- The workspace with other octets in a region. -/
def refilled (ws : Workspace) (region : RegionId) (contents : List UInt8) : Workspace :=
  { ws with memory := ws.memory.replace region 0 contents }

/-- Whatever is done with a view and with what is made of it stays in a window: no octet elsewhere
changes, and no reply depends on the octets of the region outside of the window. -/
structure ConfinedTo (ws : Workspace) (name : String) (region : RegionId) (start length : Nat) :
    Prop where
  unchanged : ∀ ops : List Operation, (∀ op ∈ ops, op.isOfViews = true) →
    WithinFamily [name] (ops.zip (InPlace.run ws ops).1) →
    ∀ id i, (id = region → i < start ∨ start + length ≤ i) →
      ((InPlace.run ws ops).2.memory.content id)[i]? = (ws.memory.content id)[i]?
  independent : ∀ first second : List UInt8, first.length = ws.memory.size region →
    second.length = ws.memory.size region →
    (∀ i < length, first[start + i]? = second[start + i]?) →
    ∀ ops : List Operation, (∀ op ∈ ops, op.isOfViews = true) →
      WithinFamily [name] (ops.zip (InPlace.run (ws.refilled region first) ops).1) →
      (InPlace.run (ws.refilled region first) ops).1 =
        (InPlace.run (ws.refilled region second) ops).1

section Window

variable {v : View} {contents : List UInt8}

lemma Valid.refilled (h : ws.Valid) {region : RegionId}
    (hlength : contents.length = ws.memory.size region) : (ws.refilled region contents).Valid :=
  h.memory (Memory.grows_replace (by omega) 0)

lemma content_refilled {region : RegionId} (hlength : contents.length = ws.memory.size region) :
    (ws.refilled region contents).memory.content region = contents := by
  unfold Workspace.refilled
  rw [Memory.content_replace (by omega), if_pos rfl]
  exact Memory.splice_whole hlength

/-- The window of a view, in the same place of both memories. -/
def windowOf (v : View) : Set Place :=
  {⟨v.region, v.offset, v.region, v.offset, v.cursor.capacity⟩}

lemma alike_windowOf_self (v : View) : v.Alike (windowOf v) v :=
  ⟨rfl, _, rfl, 0, rfl, rfl, rfl, rfl, Nat.le_of_eq (Nat.zero_add _)⟩

/-- Memories are alike at a window that shows the same octets in both. -/
lemma memory_alike_windowOf {m m' : Memory} (hoctets : ∀ i < v.cursor.capacity,
    (m.content v.region)[v.offset + i]? = (m'.content v.region)[v.offset + i]?) :
    m.Alike (windowOf v) m' := by
  refine ⟨?_, ?_, ?_⟩
  · rintro p rfl q rfl -
    rfl
  · rintro p rfl q rfl -
    rfl
  · rintro p rfl
    exact hoctets

lemma alike_window (hfind : ws'.find? name = ws.find? name) (hv : ws.view? name = some v)
    (hoctets : ∀ i < v.cursor.capacity,
      (ws.memory.content v.region)[v.offset + i]? = (ws'.memory.content v.region)[v.offset + i]?) :
    ws.Alike (windowOf v) [name] ws' := by
  refine ⟨memory_alike_windowOf hoctets, fun key hkey => ?_⟩
  obtain rfl := List.mem_singleton.1 hkey
  rw [hfind]
  unfold view? at hv
  cases ho : ws.find? key with
  | none =>
    rw [ho] at hv
    cases hv
  | some o =>
    rw [ho] at hv
    cases o with
    | array id => cases hv
    | region id => cases hv
    | reader r => cases hv; exact .some (.reader (alike_windowOf_self _))
    | writer w => cases hv; exact .some (.writer (alike_windowOf_self _))

lemma aligned_window {m m' : Memory} (harray : m'.isArray v.region = m.isArray v.region)
    (hfirst : v.region < m.regions.length) (hsecond : v.region < m'.regions.length) :
    m.Aligned (windowOf v) m' := by
  refine ⟨?_, ?_, ?_, ?_, ?_⟩
  all_goals rintro p rfl
  · rfl
  · rfl
  · exact harray
  · exact hfirst
  · exact hsecond

/-- In a valid workspace each view is confined to its window. -/
lemma Valid.confinedTo (h : ws.Valid) (hv : ws.view? name = some v) :
    ws.ConfinedTo name v.region v.offset v.cursor.capacity := by
  have hexists := (h.view_fits hv).exists_region
  refine ⟨fun ops hviews hwithin id i houtside => ?_,
    fun first second hfirst hsecond hoctets ops hviews hwithin => ?_⟩
  · rw [InPlace.run_eq h] at hwithin ⊢
    -- the workspace is alike to itself at the window, so views made of this one stay in it
    refine run_elsewhere (alike_window rfl hv fun _ _ => rfl) h h hviews
      (aligned_window rfl hexists hexists) hwithin ?_
    rintro p rfl
    exact houtside
  · -- two fillings of the region are alike at the window, where a run gets the same replies
    have hvalid := h.refilled hfirst
    have hvalid' := h.refilled hsecond
    have hwindow : (ws.refilled v.region first).Alike (windowOf v) [name]
        (ws.refilled v.region second) := by
      refine alike_window rfl hv fun i hi => ?_
      rw [content_refilled hfirst, content_refilled hsecond]
      exact hoctets i hi
    have haligned : (ws.refilled v.region first).memory.Aligned (windowOf v)
        (ws.refilled v.region second).memory := by
      refine aligned_window ?_ ?_ ?_
      · simp [Workspace.refilled]
      · simpa [Workspace.refilled] using hexists
      · simpa [Workspace.refilled] using hexists
    rw [InPlace.run_eq hvalid] at hwithin ⊢
    rw [InPlace.run_eq hvalid']
    exact (run_agree hwindow hvalid hvalid' hviews (.inr haligned) hwithin).1

end Window

end Workspace

namespace InPlace

/-- After any operations whatever, a view and all that is made of it stay in its window, and a slice
stays in what its source had ahead when the slice was made. -/
theorem window_confined (setup : List Operation) (name : String) (v : View)
    (hv : (run {} setup).2.view? name = some v) :
    (run {} setup).2.ConfinedTo name v.region v.offset v.cursor.capacity ∧
    ∀ part r, (run {} setup).2.find? name = some (.reader r) →
      (step (run {} setup).2 (.slice part name)).1 = .done .nothing ∧
      (step (run {} setup).2 (.slice part name)).2.ConfinedTo part r.region
        (r.offset + r.cursor.position) (r.cursor.limit - r.cursor.position) := by
  rw [run_eq Workspace.valid_empty setup] at hv ⊢
  have hvalid := Workspace.run_valid Workspace.valid_empty setup
  refine ⟨hvalid.confinedTo hv, fun part r hr => ?_⟩
  have hstep : (Workspace.run {} setup).2.step (.slice part name) =
      (.done .nothing, (Workspace.run {} setup).2.bind part (.reader r.slice)) := by
    rw [Workspace.step, Workspace.derive, hr]
    rfl
  have hafter := (Workspace.step_sound hvalid (.slice part name)).valid
  rw [hstep] at hafter
  rw [step_eq hvalid, hstep]
  have hpart : ((Workspace.run {} setup).2.bind part (.reader r.slice)).view? part =
      some r.slice.toView := by
    rw [Workspace.view?, Workspace.find?_bind, if_pos rfl]
    rfl
  exact ⟨rfl, hafter.confinedTo hpart⟩

/-- A reader of the first two octets in a window of four, which begins at the second one of an
array. -/
def partlyWritten : List Operation :=
  [.allocate "array" .heap [1, 2, 3, 4, 5, 6], .wrapArray "writer" .writer "array" 1 4,
    .put "writer" (.short 258), .toReader "reader" "writer"]

theorem window_confined_partlyWritten :
    (run {} partlyWritten).2.ConfinedTo "reader" 0 1 4 ∧
    (step (run {} partlyWritten).2 (.slice "part" "reader")).2.ConfinedTo "part" 0 1 2 := by
  have hconfined := window_confined partlyWritten "reader" ⟨0, 1, .upTo 2 4⟩ rfl
  exact ⟨hconfined.1, (hconfined.2 "part" ⟨0, 1, .upTo 2 4⟩ rfl).2⟩

end InPlace

end AmqpClient.Buffer
