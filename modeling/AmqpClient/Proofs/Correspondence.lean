import AmqpClient.Proofs.BulkTransfer
import Mathlib.Data.Set.Basic

/-!
# Workspaces that correspond

Two workspaces may hold their views in different places: in other regions, at other offsets, in an
array or outside of the heap. As long as the octets of corresponding windows are the same, an
operation on views gets the same reply in both, unless it asks for the place, and afterwards the
workspaces correspond again.
-/

namespace AmqpClient.Buffer

/-! ### Families of views -/

namespace Operation

/-- The names of the objects that an operation works on. -/
def subjects : Operation → List String
  | allocate .. | make .. => []
  | wrapArray _ _ source _ _ | wrapRegion _ _ source | clone _ source | array _ source
  | duplicate _ source | slice _ source | toReader _ source | intoReader _ source => [source]
  | transfer first second | same first second => [first, second]
  | isEmpty name | content name | overwrite name _ _ | describe name | hasArray name
  | arrayOffset name | move name _ | moveReader name _ | take name _ | byteAt name _ | fill name _
  | fillRange name _ _ _ | window name | text name _ | drain name | ensureRemaining name _
  | put name _ | putBytes name _ | putText name _ => [name]

/-- Operations of readers and writers, and not of arrays and regions themselves. -/
def isOfViews : Operation → Bool
  | allocate .. | make .. | wrapArray .. | wrapRegion .. | isEmpty _ | content _
  | overwrite .. => false
  | _ => true

/-- Operations that show where a view is placed. -/
def showsPlace : Operation → Bool
  | array .. | describe _ | hasArray _ | arrayOffset _ => true
  | _ => false

/-- The views that are made of a family of views, and the family itself. A handle does not belong
to it. -/
def familyAfter (family : List String) (reply : Reply) : Operation → List String
  | clone name _ | duplicate name _ | slice name _ | toReader name _ | intoReader name _ =>
    if reply = .done .nothing then name :: family else family
  | array name _ => if reply = .done .nothing then family.filter (· ≠ name) else family
  | _ => family

end Operation

/-- Each operation works on members of a family of views only, which grows by what is made of
them. -/
def WithinFamily (family : List String) : List (Operation × Reply) → Prop
  | [] => True
  | (op, reply) :: rest =>
    (∀ name ∈ op.subjects, name ∈ family) ∧ WithinFamily (op.familyAfter family reply) rest

instance WithinFamily.decide (family : List String) :
    (transcript : List (Operation × Reply)) → Decidable (WithinFamily family transcript)
  | [] => .isTrue trivial
  | (op, reply) :: rest =>
    have := WithinFamily.decide (op.familyAfter family reply) rest
    inferInstanceAs (Decidable (_ ∧ _))

/-- A family of views after operations on it. -/
def familyAfter (family : List String) (transcript : List (Operation × Reply)) : List String :=
  transcript.foldl (fun family (op, reply) => op.familyAfter family reply) family

/-! ### Places -/

/-- A window of a region in one memory, and one of the same length in another memory. -/
structure Place where
  first : RegionId
  firstOffset : Nat
  second : RegionId
  secondOffset : Nat
  length : Nat

/-- The windows of each place hold the same octets, and no two places share a region. -/
structure Memory.Alike (places : Set Place) (m m' : Memory) : Prop where
  eq_of_first : ∀ p ∈ places, ∀ q ∈ places, p.first = q.first → p = q
  eq_of_second : ∀ p ∈ places, ∀ q ∈ places, p.second = q.second → p = q
  octet_eq : ∀ p ∈ places, ∀ i < p.length,
    (m.content p.first)[p.firstOffset + i]? = (m'.content p.second)[p.secondOffset + i]?

/-- The places are the same in both memories, and of the same kind. -/
structure Memory.Aligned (places : Set Place) (m m' : Memory) : Prop where
  second_eq : ∀ p ∈ places, p.second = p.first
  secondOffset_eq : ∀ p ∈ places, p.secondOffset = p.firstOffset
  isArray_eq : ∀ p ∈ places, m'.isArray p.first = m.isArray p.first
  exists_first : ∀ p ∈ places, p.first < m.regions.length
  exists_second : ∀ p ∈ places, p.first < m'.regions.length

/-- Views that stand alike, and whose windows begin equally far behind the start of a place. -/
structure View.Alike (places : Set Place) (v v' : View) : Prop where
  cursor_eq : v'.cursor = v.cursor
  exists_place : ∃ p ∈ places, ∃ shift, v.region = p.first ∧ v.offset = p.firstOffset + shift ∧
    v'.region = p.second ∧ v'.offset = p.secondOffset + shift ∧
    shift + v.cursor.capacity ≤ p.length

inductive Object.Alike (places : Set Place) : Object → Object → Prop where
  | reader {r r' : Reader} (h : r.toView.Alike places r'.toView) :
    Alike places (.reader r) (.reader r')
  | writer {w w' : Writer} (h : w.toView.Alike places w'.toView) :
    Alike places (.writer w) (.writer w')

def Workspace.view? (ws : Workspace) (name : String) : Option View :=
  (ws.find? name).bind Object.view?

lemma Workspace.Valid.view_fits {ws : Workspace} {name : String} {v : View} (h : ws.Valid)
    (hv : ws.view? name = some v) : v.Fits ws.memory := by
  obtain ⟨o, ho, hview⟩ := Option.bind_eq_some_iff.1 hv
  exact (h name o ho).view hview

/-- The views of a family are alike in two workspaces, and so are the memories. -/
structure Workspace.Alike (places : Set Place) (family : List String) (ws ws' : Workspace) :
    Prop where
  memory : ws.memory.Alike places ws'.memory
  objects : ∀ name ∈ family,
    Option.Rel (Object.Alike places) (ws.find? name) (ws'.find? name)

/-- Results with the same reply and with workspaces that are alike. -/
def Workspace.Agree (places : Set Place) (family : List String)
    (result result' : Reply × Workspace) : Prop :=
  result.1 = result'.1 ∧ result.2.Alike places family result'.2

variable {places : Set Place} {m m' : Memory}

namespace View

variable {v v' : View}

lemma windowBytes_getElem? (v : View) (m : Memory) {i : Nat} (hi : i < v.cursor.capacity) :
    (v.windowBytes m)[i]? = (m.content v.region)[v.offset + i]? := by
  rw [windowBytes, List.getElem?_take_of_lt hi, List.getElem?_drop]

lemma Fits.length_windowBytes (h : v.Fits m) : (v.windowBytes m).length = v.cursor.capacity := by
  have hw := h.within
  unfold Memory.size at hw
  rw [windowBytes, List.length_take, List.length_drop]
  omega

/-- What is ahead is the part of the window from the position to the limit. -/
lemma Fits.ahead_eq (h : v.Fits m) : v.ahead m =
    ((v.windowBytes m).drop v.cursor.position).take v.cursor.remaining := by
  have hlimit := h.ordered.limit_le
  rw [ahead, windowBytes, index, List.drop_take, List.drop_drop, List.take_take]
  congr 1
  unfold Cursor.remaining
  omega

namespace Alike

/-- Alike views see the same octet at each index of their windows. -/
lemma octet_eq (h : v.Alike places v') (hm : m.Alike places m') {i : Nat}
    (hi : i < v.cursor.capacity) :
    (m.content v.region)[v.offset + i]? = (m'.content v'.region)[v'.offset + i]? := by
  obtain ⟨p, hp, shift, hregion, hoffset, hregion', hoffset', hle⟩ := h.exists_place
  have hoctet := hm.octet_eq p hp (shift + i) (by omega)
  rw [hregion, hoffset, hregion', hoffset', Nat.add_assoc, Nat.add_assoc]
  exact hoctet

lemma windowBytes_eq (h : v.Alike places v') (hm : m.Alike places m') (hv : v.Fits m)
    (hv' : v'.Fits m') : v.windowBytes m = v'.windowBytes m' := by
  have hlength := hv.length_windowBytes
  have hlength' := hv'.length_windowBytes
  rw [h.cursor_eq] at hlength'
  apply List.ext_getElem?
  intro i
  by_cases hi : i < v.cursor.capacity
  · have hi' : i < v'.cursor.capacity := by
      rw [h.cursor_eq]
      exact hi
    rw [v.windowBytes_getElem? m hi, v'.windowBytes_getElem? m' hi', h.octet_eq hm hi]
  · rw [List.getElem?_eq_none (by omega), List.getElem?_eq_none (by omega)]

lemma ahead_eq (h : v.Alike places v') (hm : m.Alike places m') (hv : v.Fits m)
    (hv' : v'.Fits m') : v.ahead m = v'.ahead m' := by
  rw [hv.ahead_eq, hv'.ahead_eq, h.windowBytes_eq hm hv hv', h.cursor_eq]

/-- Views stay alike where their cursors change alike. -/
lemma withCursor (h : v.Alike places v') {c : Cursor} (hc : c.capacity = v.cursor.capacity) :
    View.Alike places { v with cursor := c } { v' with cursor := c } := by
  obtain ⟨p, hp, shift, hregion, hoffset, hregion', hoffset', hle⟩ := h.exists_place
  refine ⟨rfl, p, hp, shift, hregion, hoffset, hregion', hoffset', ?_⟩
  change shift + c.capacity ≤ p.length
  omega

/-- A part of the window at the same index is alike. -/
lemma part (h : v.Alike places v') {index : Nat} {c : Cursor}
    (hc : index + c.capacity ≤ v.cursor.capacity) :
    View.Alike places ⟨v.region, v.offset + index, c⟩ ⟨v'.region, v'.offset + index, c⟩ := by
  obtain ⟨p, hp, shift, hregion, hoffset, hregion', hoffset', hle⟩ := h.exists_place
  refine ⟨rfl, p, hp, shift + index, hregion, ?_, hregion', ?_, ?_⟩
  · change v.offset + index = p.firstOffset + (shift + index)
    omega
  · change v'.offset + index = p.secondOffset + (shift + index)
    omega
  · change shift + index + c.capacity ≤ p.length
    omega

lemma eq_of_aligned (h : v.Alike places v') (hm : m.Aligned places m') : v' = v := by
  obtain ⟨p, hp, shift, hregion, hoffset, hregion', hoffset', -⟩ := h.exists_place
  rw [hm.second_eq p hp, ← hregion] at hregion'
  rw [hm.secondOffset_eq p hp, ← hoffset] at hoffset'
  have hcursor := h.cursor_eq
  cases v
  cases v'
  subst hregion' hoffset' hcursor
  rfl

lemma isArray_eq (h : v.Alike places v') (hm : m.Aligned places m') :
    m'.isArray v.region = m.isArray v.region := by
  obtain ⟨p, hp, -, hregion, -⟩ := h.exists_place
  rw [hregion]
  exact hm.isArray_eq p hp

lemma array_eq (h : v.Alike places v') (hm : m.Aligned places m') : v'.array m' = v.array m := by
  rw [h.eq_of_aligned hm, array, array, h.isArray_eq hm]

lemma arrayOffset_eq (h : v.Alike places v') (hm : m.Aligned places m') :
    v'.arrayOffset m' = v.arrayOffset m := by
  rw [arrayOffset, arrayOffset, h.array_eq hm, h.eq_of_aligned hm]

lemma describe_eq (h : v.Alike places v') (hm : m.Aligned places m') (label : String) :
    v'.describe label m' = v.describe label m := by
  rw [h.eq_of_aligned hm, describe, describe, h.isArray_eq hm]

end Alike

end View

namespace Reader

variable {r r' : Reader}

lemma skip_alike (h : r.toView.Alike places r'.toView) (length : Nat) :
    (r.skip length).toView.Alike places (r'.skip length).toView := by
  have hcursor := h.cursor_eq
  have hskip := h.withCursor (c := r.cursor.skip length) rfl
  unfold skip
  rw [hcursor]
  exact hskip

lemma slice_alike (h : r.toView.Alike places r'.toView) (hr : r.Fits m) :
    r.slice.toView.Alike places r'.slice.toView := by
  have hp := hr.ordered.position_le
  have hl := hr.ordered.limit_le
  have hwithin : r.cursor.position + r.cursor.remaining ≤ r.cursor.capacity := by
    unfold Cursor.remaining
    omega
  have hpart := h.part (c := .new r.cursor.remaining) hwithin
  unfold slice View.index
  rw [h.cursor_eq]
  exact hpart

end Reader

namespace Writer

variable {w w' : Writer}

lemma skip_alike (h : w.toView.Alike places w'.toView) (length : Nat) :
    (w.skip length).toView.Alike places (w'.skip length).toView := by
  have hskip := h.withCursor (c := w.cursor.skip length) rfl
  unfold skip
  rw [h.cursor_eq]
  exact hskip

lemma toReader_alike (h : w.toView.Alike places w'.toView) :
    w.toReader.toView.Alike places w'.toReader.toView := by
  have hreader := h.withCursor (c := .upTo w.cursor.position w.cursor.capacity) rfl
  unfold toReader
  rw [h.cursor_eq]
  exact hreader

end Writer

namespace Memory.Alike

/-- Memories stay alike where the same octets are written through alike views. -/
lemma replace {v v' : View} (hm : m.Alike places m') (h : v.Alike places v') (hv : v.Fits m)
    (hv' : v'.Fits m') {bytes : List UInt8} (hl : bytes.length ≤ v.cursor.remaining) :
    (m.replace v.region v.index bytes).Alike places (m'.replace v'.region v'.index bytes) := by
  refine ⟨hm.eq_of_first, hm.eq_of_second, fun q hq i hi => ?_⟩
  obtain ⟨p, hp, shift, hregion, hoffset, hregion', hoffset', hle⟩ := h.exists_place
  have hroom := hv.index_add_le hl
  have hroom' : v'.index + bytes.length ≤ m'.size v'.region := by
    refine hv'.index_add_le ?_
    rw [h.cursor_eq]
    exact hl
  have hindex : v.index = p.firstOffset + (shift + v.cursor.position) := by
    rw [View.index, hoffset, Nat.add_assoc]
  have hindex' : v'.index = p.secondOffset + (shift + v.cursor.position) := by
    rw [View.index, hoffset', h.cursor_eq, Nat.add_assoc]
  have hold := hm.octet_eq q hq i hi
  rw [content_replace hroom, content_replace hroom']
  by_cases hqp : q = p
  · subst hqp
    rw [if_pos hregion.symm, if_pos hregion'.symm, hregion, hregion']
    rw [hregion] at hroom
    rw [hregion'] at hroom'
    by_cases hin : shift + v.cursor.position ≤ i ∧ i < shift + v.cursor.position + bytes.length
    · -- an octet that has been written, at the same index of what was written
      obtain ⟨k, rfl⟩ := Nat.exists_eq_add_of_le hin.1
      have hk : k < bytes.length := by omega
      have hat : q.firstOffset + (shift + v.cursor.position + k) = v.index + k := by omega
      have hat' : q.secondOffset + (shift + v.cursor.position + k) = v'.index + k := by omega
      rw [hat, hat', getElem?_splice_add hroom hk, getElem?_splice_add hroom' hk]
    · rw [getElem?_splice hroom (by omega), getElem?_splice hroom' (by omega), hold]
  · have hne : q.first ≠ v.region := fun he =>
      hqp (hm.eq_of_first q hq p hp (he.trans hregion))
    have hne' : q.second ≠ v'.region := fun he =>
      hqp (hm.eq_of_second q hq p hp (he.trans hregion'))
    rw [if_neg hne, if_neg hne', hold]

end Memory.Alike

lemma Object.Alike.view {o o' : Object} (h : o.Alike places o') :
    ∃ v v', o.view? = some v ∧ o'.view? = some v' ∧ v.Alike places v' := by
  cases h with
  | reader hr => exact ⟨_, _, rfl, rfl, hr⟩
  | writer hw => exact ⟨_, _, rfl, rfl, hw⟩

/-- Places stay what they are where memories grow. -/
lemma Memory.Aligned.grows {after after' : Memory} {bound : Nat} (h : m.Aligned places m')
    (hgrows : m.Grows after bound) (hgrows' : m'.Grows after' bound) :
    after.Aligned places after' := by
  refine ⟨h.second_eq, h.secondOffset_eq, fun p hp => ?_, fun p hp => ?_, fun p hp => ?_⟩
  · rw [hgrows.isArray_eq _ (h.exists_first p hp), hgrows'.isArray_eq _ (h.exists_second p hp)]
    exact h.isArray_eq p hp
  · exact Nat.lt_of_lt_of_le (h.exists_first p hp) hgrows.count_le
  · exact Nat.lt_of_lt_of_le (h.exists_second p hp) hgrows'.count_le

end AmqpClient.Buffer
