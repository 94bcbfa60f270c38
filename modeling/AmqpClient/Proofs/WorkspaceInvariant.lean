import AmqpClient.Buffer.Execution
import AmqpClient.Proofs.ViewAccess

/-!
# The invariant of workspaces

Every view of a workspace fits the memory, and every handle is of a region that exists. Each
operation keeps this, leaves the length of every region alone, and never reaches outside of a
region; if it fails, it changes nothing at all.
-/

namespace AmqpClient.Buffer

/-- A computation that fails in no other way than by refusing. -/
def SafeResult {α : Type} (x : Except Fault α) (P : α → Prop) : Prop :=
  match x with
  | .ok a => P a
  | .error f => f ≠ .outsideRegion

/-- Regions are only added, none of them longer than `bound`, and those there keep their length
and their kind. -/
structure Memory.Grows (m after : Memory) (bound : Nat) : Prop where
  count_le : m.regions.length ≤ after.regions.length
  size_eq : ∀ id < m.regions.length, after.size id = m.size id
  isArray_eq : ∀ id < m.regions.length, after.isArray id = m.isArray id
  size_le : ∀ id, m.regions.length ≤ id → after.size id ≤ bound

/-- A computation that lets the memory grow, or refuses and leaves it as it was. -/
def Effect.Sound {α : Type} (x : Effect α) (m : Memory) (bound : Nat) (P : α → Memory → Prop) :
    Prop :=
  match x.run m with
  | .ok a after => m.Grows after bound ∧ P a after
  | .error f after => f ≠ .outsideRegion ∧ after = m

/-- What an object stands for exists, and a view fits. -/
def Object.Fits (m : Memory) : Object → Prop
  | .array id => id < m.regions.length
  | .region id => id < m.regions.length
  | .reader r => r.toView.Fits m
  | .writer w => w.toView.Fits m

def Workspace.Valid (ws : Workspace) : Prop :=
  ∀ name o, ws.find? name = some o → o.Fits ws.memory

def Reply.fault? : Reply → Option Fault
  | .failed f => some f
  | .done (.filled fault? _) => fault?
  | _ => none

/-- What can be said of a step, whichever it is. -/
structure Workspace.Sound (ws : Workspace) (bound : Nat) (result : Reply × Workspace) : Prop where
  valid : result.2.Valid
  grows : ws.memory.Grows result.2.memory bound
  refused : ∀ f, result.1.fault? = some f → f ≠ .outsideRegion ∧ result.2 = ws

/-- The longest array that an operation brings along. -/
def Operation.payload : Operation → List UInt8
  | .allocate _ _ bytes => bytes
  | .make _ _ _ bytes => bytes
  | .overwrite _ _ bytes => bytes
  | .fill _ target => target
  | .fillRange _ target _ _ => target
  | .putBytes _ bytes => bytes
  | _ => []

/-- A result that depends on a check, and refuses if the check fails. -/
lemma SafeResult.ite {α : Type} {c : Prop} [Decidable c] {a : α} {f : Fault} {P : α → Prop}
    (ha : c → P a) (hf : f ≠ .outsideRegion) : SafeResult (if c then .ok a else .error f) P := by
  by_cases hc : c
  · rw [if_pos hc]
    exact ha hc
  · rw [if_neg hc]
    exact hf

lemma SafeResult.imp {α : Type} {x : Except Fault α} {P Q : α → Prop} (h : SafeResult x P)
    (hq : ∀ a, P a → Q a) : SafeResult x Q := by
  cases x with
  | ok a => exact hq a h
  | error e => exact h

lemma SafeResult.map {α β : Type} {x : Except Fault α} {P : α → Prop} {Q : β → Prop}
    (h : SafeResult x P) {f : α → β} (hf : ∀ a, P a → Q (f a)) : SafeResult (x.map f) Q := by
  cases x with
  | ok a => exact hf a h
  | error e => exact h

/-- A reply that is made of a computation reports its fault at most. -/
lemma SafeResult.fault_ofExcept {α : Type} {x : Except Fault α} {P : α → Prop}
    (h : SafeResult x P) {value : α → Value} (hvalue : ∀ a, (Reply.done (value a)).fault? = none)
    (f : Fault) (hf : (Reply.ofExcept value x).fault? = some f) : f ≠ .outsideRegion := by
  cases x with
  | ok a => exact absurd (hf.symm.trans (hvalue a)) (by simp)
  | error e => cases hf; exact h

namespace Memory

lemma size_of_length_le {m : Memory} {id : RegionId} (h : m.regions.length ≤ id) :
    m.size id = 0 := by
  simp [size, content, List.getElem?_eq_none h]

namespace Grows

variable {m after last : Memory} {bound : Nat}

lemma refl (m : Memory) (bound : Nat) : m.Grows m bound :=
  ⟨Nat.le_refl _, fun _ _ => rfl, fun _ _ => rfl,
    fun _ h => by rw [size_of_length_le h]; exact Nat.zero_le _⟩

lemma mono {larger : Nat} (h : m.Grows after bound) (hb : bound ≤ larger) :
    m.Grows after larger :=
  ⟨h.count_le, h.size_eq, h.isArray_eq, fun id hid => Nat.le_trans (h.size_le id hid) hb⟩

lemma trans (h : m.Grows after bound) (h' : after.Grows last bound) : m.Grows last bound := by
  refine ⟨Nat.le_trans h.count_le h'.count_le, fun id hid => ?_, fun id hid => ?_,
    fun id hid => ?_⟩
  · rw [h'.size_eq id (Nat.lt_of_lt_of_le hid h.count_le), h.size_eq id hid]
  · rw [h'.isArray_eq id (Nat.lt_of_lt_of_le hid h.count_le), h.isArray_eq id hid]
  · by_cases hlt : id < after.regions.length
    · rw [h'.size_eq id hlt]
      exact h.size_le id hid
    · exact h'.size_le id (Nat.le_of_not_lt hlt)

end Grows

lemma grows_replace {m : Memory} {id : RegionId} {index : Nat} {new : List UInt8}
    (h : index + new.length ≤ m.size id) (bound : Nat) :
    m.Grows (m.replace id index new) bound := by
  refine ⟨by simp, fun other _ => size_replace h other, fun other _ => by simp,
    fun other hother => ?_⟩
  rw [size_replace h, size_of_length_le hother]
  exact Nat.zero_le _

lemma grows_allocate (m : Memory) (region : Region) :
    m.Grows (m.allocate region).2 region.bytes.length := by
  refine ⟨by simp [allocate], fun id hid => ?_, fun id hid => ?_, fun id hid => ?_⟩
  · simp only [size, content, allocate, List.getElem?_append_left hid]
  · simp only [isArray, allocate, List.getElem?_append_left hid]
  · rcases Nat.eq_or_lt_of_le hid with rfl | hlt
    · simp [size, content, allocate]
    · have hlast : (m.allocate region).2.regions.length ≤ id := by
        simp only [allocate, List.length_append, List.length_singleton]
        omega
      rw [size_of_length_le hlast]
      exact Nat.zero_le _

end Memory

variable {m after : Memory} {bound : Nat}

lemma View.Fits.grows {v : View} (h : v.Fits m) (hm : m.Grows after bound) : v.Fits after := by
  refine ⟨h.ordered, Nat.lt_of_lt_of_le h.exists_region hm.count_le, ?_⟩
  rw [hm.size_eq _ h.exists_region]
  exact h.within

lemma Object.Fits.grows {o : Object} (h : o.Fits m) (hm : m.Grows after bound) : o.Fits after := by
  cases o with
  | array id => exact Nat.lt_of_lt_of_le h hm.count_le
  | region id => exact Nat.lt_of_lt_of_le h hm.count_le
  | reader r => exact View.Fits.grows h hm
  | writer w => exact View.Fits.grows h hm

lemma Object.Fits.view {o : Object} {v : View} (h : o.Fits m) (hv : o.view? = some v) :
    v.Fits m := by
  cases o with
  | array id => cases hv
  | region id => cases hv
  | reader r => cases hv; exact h
  | writer w => cases hv; exact h

lemma Object.Fits.withCursor {o : Object} {v : View} {c : Cursor} (h : o.Fits m)
    (hv : o.view? = some v) (hc : c.Ordered) (hcap : c.capacity = v.cursor.capacity) :
    (o.withCursor c).Fits m := by
  cases o with
  | array id => cases hv
  | region id => cases hv
  | reader r => cases hv; exact ⟨hc, h.exists_region, hcap ▸ h.within⟩
  | writer w => cases hv; exact ⟨hc, h.exists_region, hcap ▸ h.within⟩

lemma Role.fits_object {v : View} (role : Role) (h : v.Fits m) : (role.object v).Fits m := by
  cases role <;> exact h

lemma bindName_self {name : String} {o : Object} {objects : List (String × Object)}
    (h : objects.lookup name = some o) : bindName name o objects = objects := by
  induction objects with
  | nil => cases h
  | cons first rest ih =>
    obtain ⟨n, old⟩ := first
    rw [Text.lookup_cons_name] at h
    unfold bindName
    by_cases hn : name = n
    · subst hn
      rw [if_pos rfl] at h ⊢
      cases h
      rfl
    · rw [if_neg hn] at h
      rw [if_neg (Ne.symm hn), ih h]

namespace Workspace

variable {ws : Workspace}

/-- Nothing changes if an object is put back as it was. -/
lemma bind_self {name : String} {o : Object} (h : ws.find? name = some o) :
    ws.bind name o = ws :=
  congrArg (Workspace.mk ws.memory) (bindName_self h)

lemma valid_empty : Valid {} := by
  intro name o h
  cases h

lemma Valid.bind (h : ws.Valid) (hm : ws.memory.Grows after bound) {o : Object}
    (ho : o.Fits after) (name : String) : ({ ws with memory := after }.bind name o).Valid := by
  intro key found hfound
  rw [find?_bind] at hfound
  split at hfound
  · cases hfound
    exact ho
  · exact Object.Fits.grows (h key found hfound) hm

lemma Valid.bind_same (h : ws.Valid) {o : Object} (ho : o.Fits ws.memory) (name : String) :
    (ws.bind name o).Valid :=
  h.bind (Memory.Grows.refl ws.memory 0) ho name

lemma Valid.memory (h : ws.Valid) (hm : ws.memory.Grows after bound) :
    Valid { ws with memory := after } :=
  fun name o ho => Object.Fits.grows (h name o ho) hm

lemma Valid.forget (h : ws.Valid) (name : String) : (ws.forget name).Valid := by
  intro key o ho
  rw [find?_forget] at ho
  split at ho
  · cases ho
  · exact h key o ho

lemma Sound.unchanged (h : ws.Valid) {reply : Reply}
    (hreply : ∀ f, reply.fault? = some f → f ≠ .outsideRegion) : ws.Sound bound (reply, ws) :=
  ⟨h, Memory.Grows.refl _ _, fun f hf => ⟨hreply f hf, rfl⟩⟩

lemma Sound.rejected (h : ws.Valid) : ws.Sound bound (.rejected, ws) :=
  .unchanged h fun _ hf => by cases hf

lemma Sound.failed (h : ws.Valid) {f : Fault} (hf : f ≠ .outsideRegion) :
    ws.Sound bound (.failed f, ws) :=
  .unchanged h fun g hg => by cases hg; exact hf

lemma create_sound (h : ws.Valid) (name : String) {make : Effect Object}
    (hmake : make.Sound ws.memory bound fun o m => o.Fits m) :
    ws.Sound bound (ws.create name make) := by
  unfold create
  unfold Effect.Sound at hmake
  split
  · rename_i o after hrun
    rw [hrun] at hmake
    exact ⟨h.bind hmake.1 hmake.2 name, hmake.1, fun f hf => by cases hf⟩
  · rename_i f after hrun
    rw [hrun] at hmake
    obtain ⟨hf, rfl⟩ := hmake
    exact .failed h hf

lemma derive_sound (h : ws.Valid) (name source : String) {make : Object → Option (Effect Object)}
    (hmake : ∀ o effect, o.Fits ws.memory → make o = some effect →
      effect.Sound ws.memory bound fun o m => o.Fits m) :
    ws.Sound bound (ws.derive name source make) := by
  unfold derive
  split
  · rename_i effect heffect
    obtain ⟨o, ho, hmk⟩ := Option.bind_eq_some_iff.1 heffect
    exact create_sound h name (hmake o effect (h source o ho) hmk)
  · exact .rejected h

lemma inspect_sound (h : ws.Valid) (name : String) {answer : Object → Option Reply}
    (hanswer : ∀ o reply, o.Fits ws.memory → answer o = some reply →
      ∀ f, reply.fault? = some f → f ≠ .outsideRegion) :
    ws.Sound bound (ws.inspect name answer) := by
  unfold inspect
  cases hr : (ws.find? name).bind answer with
  | none => exact .rejected h
  | some reply =>
    obtain ⟨o, ho, ha⟩ := Option.bind_eq_some_iff.1 hr
    exact .unchanged h (hanswer o reply (h name o ho) ha)

lemma moveView_sound (h : ws.Valid) (name : String) {view? : Object → Option View}
    {move : Cursor → Except Fault Cursor} (hview : ∀ o v, view? o = some v → o.view? = some v)
    (hmove : ∀ c, c.Ordered → SafeResult (move c) fun d => d.Ordered ∧ d.capacity = c.capacity) :
    ws.Sound bound (ws.moveView name view? move) := by
  unfold moveView
  cases ho : ws.find? name with
  | none => exact .rejected h
  | some o =>
    cases hv : view? o with
    | none =>
      simp only [hv]
      exact .rejected h
    | some v =>
      have hfits := h name o ho
      have hsafe := hmove v.cursor (hfits.view (hview o v hv)).ordered
      simp only [hv]
      cases hc : move v.cursor with
      | error f =>
        rw [hc] at hsafe
        exact .failed h hsafe
      | ok c =>
        rw [hc] at hsafe
        exact ⟨h.bind_same (hfits.withCursor (hview o v hv) hsafe.1 hsafe.2) name,
          Memory.Grows.refl _ _, fun f hf => by cases hf⟩

lemma readFrom_sound (h : ws.Valid) (name : String)
    {read : Reader → Memory → Except Fault (Value × Reader)}
    (hread : ∀ r : Reader, r.Fits ws.memory → SafeResult (read r ws.memory) fun p =>
      p.2.Fits ws.memory ∧ (Reply.done p.1).fault? = none) :
    ws.Sound bound (ws.readFrom name read) := by
  unfold readFrom
  split
  · rename_i r hr
    have hsafe := hread r (h name (.reader r) hr)
    split
    · rename_i v s hv
      rw [hv] at hsafe
      exact ⟨h.bind_same (o := .reader s) hsafe.1 name, Memory.Grows.refl _ _,
        fun f hf => by rw [hsafe.2] at hf; cases hf⟩
    · rename_i f hf
      rw [hf] at hsafe
      exact .failed h hsafe
  · exact .rejected h

lemma fillFrom_sound (h : ws.Valid) (name : String) (target : List UInt8)
    {read : Reader → Memory → Except Fault (List UInt8 × Reader)}
    (hread : ∀ r : Reader, r.Fits ws.memory → SafeResult (read r ws.memory) fun p =>
      p.2.Fits ws.memory) :
    ws.Sound bound (ws.fillFrom name target read) := by
  unfold fillFrom
  split
  · rename_i r hr
    have hsafe := hread r (h name (.reader r) hr)
    split
    · rename_i bytes s hs
      rw [hs] at hsafe
      exact ⟨h.bind_same (o := .reader s) hsafe name, Memory.Grows.refl _ _,
        fun f hf => by cases hf⟩
    · rename_i f hf
      rw [hf] at hsafe
      exact .unchanged h fun g hg => by cases hg; exact hsafe
  · exact .rejected h

lemma writeTo_sound (h : ws.Valid) (name : String) {write : Writer → Effect Writer}
    (hwrite : ∀ w : Writer, w.Fits ws.memory →
      (write w).Sound ws.memory bound fun w m => w.Fits m) :
    ws.Sound bound (ws.writeTo name write) := by
  unfold writeTo
  split
  · rename_i w hw
    have hsound := hwrite w (h name (.writer w) hw)
    unfold Effect.Sound at hsound
    split
    · rename_i v after hrun
      rw [hrun] at hsound
      exact ⟨h.bind (o := .writer v) hsound.1 hsound.2 name, hsound.1, fun f hf => by cases hf⟩
    · rename_i f after hrun
      rw [hrun] at hsound
      obtain ⟨hf, rfl⟩ := hsound
      exact .failed h hf
  · exact .rejected h

lemma transfer_sound (h : ws.Valid) (source target : String)
    {move : Reader → Writer → Effect (Reader × Writer)}
    (hmove : ∀ (r : Reader) (w : Writer), r.Fits ws.memory → w.Fits ws.memory →
      (move r w).Sound ws.memory bound fun p m => p.1.Fits m ∧ p.2.Fits m) :
    ws.Sound bound (ws.transfer source target move) := by
  unfold transfer
  split
  · rename_i r w hr hw
    have hsound := hmove r w (h source (.reader r) hr) (h target (.writer w) hw)
    unfold Effect.Sound at hsound
    split
    · rename_i s v after hrun
      rw [hrun] at hsound
      obtain ⟨hgrows, hs, hv⟩ := hsound
      have hsource := h.bind hgrows (o := .reader s) hs source
      exact ⟨hsource.bind_same (o := .writer v) hv target, hgrows, fun f hf => by cases hf⟩
    · rename_i f after hrun
      rw [hrun] at hsound
      obtain ⟨hf, rfl⟩ := hsound
      exact .failed h hf
  · exact .rejected h

lemma same_sound (h : ws.Valid) (first second : String)
    {compare : Reader → Reader → Memory → Except Fault Bool}
    (hcompare : ∀ r s : Reader, r.Fits ws.memory → s.Fits ws.memory →
      SafeResult (compare r s ws.memory) fun _ => True) :
    ws.Sound bound (ws.same first second compare, ws) := by
  unfold same
  split
  · rename_i r s hr hs
    have hsafe := hcompare r s (h first (.reader r) hr) (h second (.reader s) hs)
    exact .unchanged h (hsafe.fault_ofExcept fun _ => rfl)
  · exact .unchanged h fun f hf => by cases hf
  · exact .unchanged h fun f hf => by cases hf
  · exact .rejected h

lemma intoReader_sound (h : ws.Valid) (name source : String) :
    ws.Sound bound (ws.intoReader name source) := by
  unfold intoReader
  split
  · rename_i w hw
    have hfits : (Object.reader w.toReader).Fits ws.memory :=
      Writer.fits_toReader (h source (.writer w) hw)
    exact ⟨(h.forget source).bind_same hfits name, Memory.Grows.refl _ _, fun f hf => by cases hf⟩
  · exact .rejected h

lemma overwrite_sound (h : ws.Valid) (name : String) (index : Nat) (bytes : List UInt8) :
    ws.Sound bound (ws.overwrite name index bytes) := by
  unfold overwrite
  split
  · split
    · rename_i after hwrite
      obtain ⟨hle, rfl⟩ := Memory.write_eq_ok_iff.1 hwrite
      have hgrows := Memory.grows_replace hle bound
      exact ⟨h.memory hgrows, hgrows, fun f hf => by cases hf⟩
    · exact .rejected h
  · exact .rejected h

end Workspace

end AmqpClient.Buffer
