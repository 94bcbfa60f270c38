import AmqpClient.Proofs.StepLocality
import Mathlib.Order.CompletePartialOrder
import Mathlib.Order.Interval.Set.Disjoint

/-!
# Operations that do not meet

Two operations on different views, which use no octet in common but those that both only read, can
be performed in either order: each gets the same reply, and the workspace is the same in the end.
-/

namespace AmqpClient.Buffer

/-- No octet lies in both stretches. -/
def Stretch.Apart (s t : Stretch) : Prop :=
  s.region = t.region → Disjoint (Set.Ico s.start (s.start + s.length))
    (Set.Ico t.start (t.start + t.length))

/-- Operations on different views, whose stretches are apart unless both are only read. -/
structure Workspace.Independent (ws : Workspace) (op other : Operation) : Prop where
  views : ∀ name ∈ op.subjects, name ∈ other.subjects → ws.view? name = none
  stretches : ∀ s ∈ ws.stretches op, ∀ t ∈ ws.stretches other,
    s.isWritten = true ∨ t.isWritten = true → s.Apart t

lemma Stretch.Apart.symm {s t : Stretch} (h : s.Apart t) : t.Apart s :=
  fun he => (h he.symm).symm

/-! ### Octets and names -/

namespace Memory

variable {first second : List UInt8} {i j : Nat}

lemma splice_comm {bytes : List UInt8} (hi : i + first.length ≤ bytes.length)
    (hj : j + second.length ≤ bytes.length)
    (hapart : Disjoint (Set.Ico i (i + first.length)) (Set.Ico j (j + second.length))) :
    splice (splice bytes i first) j second = splice (splice bytes j second) i first := by
  rw [Set.Ico_disjoint_Ico] at hapart
  have hi' : i + first.length ≤ (splice bytes j second).length := by
    rw [length_splice hj]
    exact hi
  have hj' : j + second.length ≤ (splice bytes i first).length := by
    rw [length_splice hi]
    exact hj
  apply List.ext_getElem?
  intro k
  by_cases hfirst : i ≤ k ∧ k < i + first.length
  · obtain ⟨l, rfl⟩ := Nat.exists_eq_add_of_le hfirst.1
    rw [getElem?_splice hj' (by omega), getElem?_splice_add hi (by omega),
      getElem?_splice_add hi' (by omega)]
  · by_cases hsecond : j ≤ k ∧ k < j + second.length
    · obtain ⟨l, rfl⟩ := Nat.exists_eq_add_of_le hsecond.1
      rw [getElem?_splice_add hj' (by omega), getElem?_splice hi' (by omega),
        getElem?_splice_add hj (by omega)]
    · rw [getElem?_splice hj' (by omega), getElem?_splice hi (by omega),
        getElem?_splice hi' (by omega), getElem?_splice hj (by omega)]

/-- Writes to places without a common octet come to the same in either order. -/
lemma replace_comm {m : Memory} {id other : RegionId} (hi : i + first.length ≤ m.size id)
    (hj : j + second.length ≤ m.size other)
    (hapart : id = other →
      Disjoint (Set.Ico i (i + first.length)) (Set.Ico j (j + second.length))) :
    (m.replace id i first).replace other j second =
      (m.replace other j second).replace id i first := by
  refine congrArg Memory.mk ?_
  by_cases he : id = other
  · subst he
    apply List.ext_getElem?
    intro k
    simp only [replace, List.getElem?_modify]
    cases hr : m.regions[k]? with
    | none => rfl
    | some r =>
      by_cases hk : id = k
      · subst hk
        have hcontent : m.content id = r.bytes := by simp [content, hr]
        rw [size, hcontent] at hi hj
        simp [splice_comm hi hj (hapart rfl)]
      · simp [hk]
  · exact List.modify_modify_ne _ _ m.regions he

end Memory

section Names

variable {name key : String} {o o' : Object} {objects : List (String × Object)}

/-- Objects can be put under two names in either order, if one of the names is there already. -/
lemma bindName_comm (hne : name ≠ key) (hkey : (objects.lookup key).isSome = true) :
    bindName key o' (bindName name o objects) = bindName name o (bindName key o' objects) := by
  induction objects with
  | nil => cases hkey
  | cons head rest ih =>
    obtain ⟨n, old⟩ := head
    rw [Text.lookup_cons_name] at hkey
    by_cases hname : n = name
    · subst hname
      simp [bindName, hne]
    · by_cases hk : n = key
      · subst hk
        simp [bindName, hname]
      · rw [if_neg (Ne.symm hk)] at hkey
        simp [bindName, hname, hk, ih hkey]

lemma isSome_lookup_bindName (hkey : (objects.lookup key).isSome = true) :
    ((bindName name o objects).lookup key).isSome = true := by
  rw [lookup_bindName]
  split
  · rfl
  · exact hkey

lemma lookup_bindNames {views : List (String × Object)} (h : ∀ entry ∈ views, entry.1 ≠ key) :
    (bindNames views objects).lookup key = objects.lookup key := by
  induction views generalizing objects with
  | nil => rfl
  | cons entry rest ih =>
    have hrest : (bindNames rest (bindName entry.1 entry.2 objects)).lookup key =
        (bindName entry.1 entry.2 objects).lookup key :=
      ih fun other hother => h other (List.mem_cons_of_mem _ hother)
    exact hrest.trans ((lookup_bindName ..).trans (if_neg (h entry List.mem_cons_self).symm))

lemma bindName_bindNames {views : List (String × Object)} (h : ∀ entry ∈ views, entry.1 ≠ key)
    (hkey : (objects.lookup key).isSome = true) :
    bindName key o (bindNames views objects) = bindNames views (bindName key o objects) := by
  induction views generalizing objects with
  | nil => rfl
  | cons entry rest ih =>
    have hrest : bindName key o (bindNames rest (bindName entry.1 entry.2 objects)) =
        bindNames rest (bindName key o (bindName entry.1 entry.2 objects)) :=
      ih (fun other hother => h other (List.mem_cons_of_mem _ hother)) (isSome_lookup_bindName hkey)
    rw [bindName_comm (h entry List.mem_cons_self) hkey] at hrest
    exact hrest

lemma bindNames_comm {views others : List (String × Object)}
    (hne : ∀ entry ∈ views, ∀ other ∈ others, entry.1 ≠ other.1)
    (hothers : ∀ other ∈ others, (objects.lookup other.1).isSome = true) :
    bindNames others (bindNames views objects) = bindNames views (bindNames others objects) := by
  induction others generalizing objects with
  | nil => rfl
  | cons other rest ih =>
    have hrest : bindNames rest (bindNames views (bindName other.1 other.2 objects)) =
        bindNames views (bindNames rest (bindName other.1 other.2 objects)) :=
      ih (fun entry hentry next hnext => hne entry hentry next (List.mem_cons_of_mem _ hnext))
        fun next hnext => isSome_lookup_bindName (hothers next (List.mem_cons_of_mem _ hnext))
    have hfirst := bindName_bindNames (o := other.2)
      (fun entry hentry => hne entry hentry other List.mem_cons_self)
      (hothers other List.mem_cons_self)
    exact (congrArg (bindNames rest) hfirst).trans hrest

end Names

namespace Workspace

variable {ws : Workspace} {op other : Operation} {c d : Change}

lemma Independent.symm (h : ws.Independent op other) : ws.Independent other op :=
  ⟨fun name hother hop => h.views name hop hother,
    fun s hs t ht hwritten => (h.stretches t ht s hs hwritten.symm).symm⟩

/-! ### What one operation leaves to the other -/

/-- Views that one operation changes are none of those that the other is called on. -/
lemma Independent.name_ne (h : ws.Independent op other) (hd : ws.Confines other d)
    {entry : String × Object} (hentry : entry ∈ d.views) {name : String}
    (hname : name ∈ op.subjects) : entry.1 ≠ name := by
  obtain ⟨hsubject, hview⟩ := hd.views entry hentry
  intro he
  rw [he, h.views name hname (he ▸ hsubject)] at hview
  cases hview

/-- An operation finds the same after another one that is independent of it. -/
lemma Independent.findsSame (h : ws.Independent op other) (hd : ws.Confines other d) :
    ws.FindsSame op (ws.changed d) := by
  have hmemory : (ws.changed d).memory = d.memory ws.memory := rfl
  refine ⟨fun name hname => lookup_bindNames fun entry hentry => h.name_ne hd hentry hname,
    fun id => ?_, fun id => ?_, fun s hs i hi => ?_⟩
  all_goals
    rw [hmemory, Change.memory]
    cases hoctets : d.octets? with
    | none => rfl
    | some written => ?_
  all_goals
    obtain ⟨region, index, bytes⟩ := written
    obtain ⟨hroom, t, ht, hwritten, hregion, hstart, hend⟩ := hd.octets region index bytes hoctets
  · exact Memory.size_replace hroom id
  · exact Memory.isArray_replace ..
  · refine (octets_replace hroom fun he => ?_).symm
    have hapart := Set.Ico_disjoint_Ico.1
      (h.stretches s hs t ht (.inr hwritten) (he.trans hregion.symm))
    omega

/-! ### The order of two changes -/

lemma Independent.memory_comm (h : ws.Independent op other) (hc : ws.Confines op c)
    (hd : ws.Confines other d) :
    d.memory (c.memory ws.memory) = c.memory (d.memory ws.memory) := by
  unfold Change.memory
  cases hfirst : c.octets? with
  | none => rfl
  | some first =>
    cases hsecond : d.octets? with
    | none => rfl
    | some second =>
      obtain ⟨id, index, bytes⟩ := first
      obtain ⟨id', index', bytes'⟩ := second
      obtain ⟨hroom, s, hs, hwritten, hregion, hstart, hend⟩ := hc.octets id index bytes hfirst
      obtain ⟨hroom', t, ht, -, hregion', hstart', hend'⟩ := hd.octets id' index' bytes' hsecond
      refine Memory.replace_comm hroom hroom' fun he => ?_
      have hapart := h.stretches s hs t ht (.inl hwritten) (by rw [hregion, hregion', he])
      exact hapart.mono (Set.Ico_subset_Ico hstart hend) (Set.Ico_subset_Ico hstart' hend')

lemma Independent.changed_comm (h : ws.Independent op other) (hc : ws.Confines op c)
    (hd : ws.Confines other d) : (ws.changed c).changed d = (ws.changed d).changed c := by
  have hne : ∀ entry ∈ c.views, ∀ next ∈ d.views, entry.1 ≠ next.1 := fun entry hentry next hnext =>
    (h.name_ne hd hnext (hc.views entry hentry).1).symm
  have hfound : ∀ next ∈ d.views, (ws.objects.lookup next.1).isSome = true := by
    intro next hnext
    obtain ⟨v, hv⟩ := Option.isSome_iff_exists.1 (hd.views next hnext).2
    obtain ⟨o, ho, -⟩ := Option.bind_eq_some_iff.1 hv
    exact Option.isSome_of_eq_some ho
  have hobjects := bindNames_comm hne hfound
  unfold changed
  rw [h.memory_comm hc hd, hobjects]

/-- Independent operations get the replies that each gets alone, and change the workspace to the
same in either order. -/
theorem Independent.step_comm (h : ws.Independent op other) (hvalid : ws.Valid)
    (hop : op.replaced = []) (hother : other.replaced = []) :
    ((ws.step op).2.step other).1 = (ws.step other).1 ∧
      ((ws.step other).2.step op).1 = (ws.step op).1 ∧
      ((ws.step op).2.step other).2 = ((ws.step other).2.step op).2 := by
  obtain ⟨reply, c, hc, hfirst⟩ := step_determines hvalid hop
  obtain ⟨reply', d, hd, hsecond⟩ := step_determines hvalid hother
  have hstep := hfirst ws hvalid (.refl ws op)
  have hstep' := hsecond ws hvalid (.refl ws other)
  have hafter : (ws.changed c).Valid := by
    have hsound := (step_sound hvalid op).valid
    rwa [hstep] at hsound
  have hafter' : (ws.changed d).Valid := by
    have hsound := (step_sound hvalid other).valid
    rwa [hstep'] at hsound
  rw [hstep, hstep', hsecond _ hafter (h.symm.findsSame hc), hfirst _ hafter' (h.findsSame hd)]
  exact ⟨rfl, rfl, h.changed_comm hc hd⟩

end Workspace

namespace InPlace

/-- After any operations whatever, two operations that make no object, are called on different
views and use no octet in common but those that both only read can change places: each replies as
it does alone, a failure included, and in the end there are the same objects over the same
octets. -/
theorem independent_operations_commute (setup : List Operation) (op other : Operation)
    (hop : op.replaced = []) (hother : other.replaced = [])
    (hindependent : (run {} setup).2.Independent op other) :
    ∃ after,
      run (run {} setup).2 [op, other] =
        ([(step (run {} setup).2 op).1, (step (run {} setup).2 other).1], after) ∧
      run (run {} setup).2 [other, op] =
        ([(step (run {} setup).2 other).1, (step (run {} setup).2 op).1], after) := by
  have hvalid := Workspace.run_valid Workspace.valid_empty setup
  rw [run_eq Workspace.valid_empty setup] at hindependent ⊢
  obtain ⟨hreply, hreply', hafter⟩ := hindependent.step_comm hvalid hop hother
  refine ⟨(((Workspace.run {} setup).2.step op).2.step other).2, ?_, ?_⟩
  · rw [run_eq hvalid, step_eq hvalid, step_eq hvalid, Workspace.run_cons, Workspace.run_cons,
      hreply]
    rfl
  · rw [run_eq hvalid, step_eq hvalid, step_eq hvalid, Workspace.run_cons, Workspace.run_cons,
      hreply', hafter]
    rfl

/-- Windows one behind the other in an array, of which one is read through two readers. -/
def neighbours : List Operation :=
  [.allocate "array" .heap [1, 2, 0, 0, 0, 0], .wrapArray "source" .reader "array" 0 2,
    .duplicate "copy" "source", .wrapArray "left" .writer "array" 2 2,
    .wrapArray "right" .writer "array" 4 2]

/-- Transfers out of one window into two that touch each other. -/
theorem independent_operations_commute_neighbours :
    ∃ after, run (run {} neighbours).2 [.transfer "source" "left", .transfer "copy" "right"] =
        ([.done .nothing, .done .nothing], after) ∧
      run (run {} neighbours).2 [.transfer "copy" "right", .transfer "source" "left"] =
        ([.done .nothing, .done .nothing], after) := by
  refine independent_operations_commute neighbours (.transfer "source" "left")
    (.transfer "copy" "right") rfl rfl ⟨by decide, ?_⟩
  have hleft : (run {} neighbours).2.stretches (.transfer "source" "left") =
      [⟨0, 0, 2, false⟩, ⟨0, 2, 2, true⟩] := by decide
  have hright : (run {} neighbours).2.stretches (.transfer "copy" "right") =
      [⟨0, 0, 2, false⟩, ⟨0, 4, 2, true⟩] := by decide
  rw [hleft, hright]
  simp [Stretch.Apart]

end InPlace

end AmqpClient.Buffer
