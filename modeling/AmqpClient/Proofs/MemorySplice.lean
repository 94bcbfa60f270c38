import AmqpClient.Buffer.Memory
import Mathlib.Tactic.Lemma

/-!
# Octets in the place of others

What is written at an index of a region is found there, and all else is as it was. Writes that lie
side by side are one write, in whichever order they come.
-/

namespace AmqpClient.Buffer

namespace Memory

lemma splice_nil (bytes : List UInt8) (index : Nat) : splice bytes index [] = bytes := by
  simp [splice]

lemma splice_whole {bytes new : List UInt8} (h : new.length = bytes.length) :
    splice bytes 0 new = new := by
  simp [splice, h]

lemma splice_append {bytes first : List UInt8} {index : Nat}
    (h : index + first.length ≤ bytes.length) (second : List UInt8) :
    splice (splice bytes index first) (index + first.length) second =
      splice bytes index (first ++ second) := by
  have htake : (bytes.take index).length = index := by
    rw [List.length_take]
    omega
  unfold splice
  rw [List.take_append_of_le_length (by simp [htake]), List.take_of_length_le (by simp [htake]),
    List.drop_append, List.drop_of_length_le (by simp [htake]), List.drop_drop]
  simp only [List.nil_append, List.append_assoc, List.length_append, htake]
  congr 4
  omega

lemma take_drop_splice {bytes : List UInt8} {index : Nat} (h : index ≤ bytes.length)
    (new : List UInt8) : ((splice bytes index new).drop index).take new.length = new := by
  have htake : (bytes.take index).length = index := List.length_take_of_le h
  unfold splice
  rw [List.append_assoc, List.drop_append_of_le_length (Nat.le_of_eq htake.symm),
    List.drop_of_length_le (Nat.le_of_eq htake), List.nil_append, List.take_left]

lemma getElem?_splice {bytes new : List UInt8} {index : Nat}
    (h : index + new.length ≤ bytes.length) {i : Nat} (hi : i < index ∨ index + new.length ≤ i) :
    (splice bytes index new)[i]? = bytes[i]? := by
  have htake : (bytes.take index).length = index := List.length_take_of_le (by omega)
  unfold splice
  rcases hi with hi | hi
  · rw [List.append_assoc, List.getElem?_append_left (by omega), List.getElem?_take_of_lt hi]
  · rw [List.getElem?_append_right (by simp [htake]; omega), List.getElem?_drop]
    congr 1
    simp only [List.length_append, htake]
    omega

lemma getElem?_splice_add {bytes new : List UInt8} {index : Nat}
    (h : index + new.length ≤ bytes.length) {i : Nat} (hi : i < new.length) :
    (splice bytes index new)[index + i]? = new[i]? := by
  have htake : (bytes.take index).length = index := List.length_take_of_le (by omega)
  unfold splice
  rw [List.append_assoc, List.getElem?_append_right (by omega), htake, Nat.add_sub_cancel_left,
    List.getElem?_append_left hi]

/-- What lies apart from a write is as it was. -/
lemma take_drop_splice_of_apart {bytes new : List UInt8} {index : Nat}
    (h : index + new.length ≤ bytes.length) {start length : Nat}
    (hapart : start + length ≤ index ∨ index + new.length ≤ start) :
    ((splice bytes index new).drop start).take length = (bytes.drop start).take length := by
  apply List.ext_getElem?
  intro i
  by_cases hi : i < length
  · rw [List.getElem?_take_of_lt hi, List.getElem?_take_of_lt hi, List.getElem?_drop,
      List.getElem?_drop]
    exact getElem?_splice h (by omega)
  · rw [List.getElem?_eq_none (by rw [List.length_take]; omega),
      List.getElem?_eq_none (by rw [List.length_take]; omega)]

lemma splice_append_before {bytes first : List UInt8} {index : Nat}
    (h : index + first.length ≤ bytes.length) (second : List UInt8) :
    splice (splice bytes (index + first.length) second) index first =
      splice bytes index (first ++ second) := by
  have htake : (bytes.take (index + first.length)).length = index + first.length :=
    List.length_take_of_le h
  unfold splice
  rw [List.append_assoc (bytes.take _), List.take_append_of_le_length (by omega), List.take_take,
    Nat.min_eq_left (Nat.le_add_right _ _), List.drop_append_of_le_length (by omega),
    List.drop_of_length_le (Nat.le_of_eq htake)]
  simp only [List.nil_append, List.append_assoc, List.length_append, Nat.add_assoc]

lemma replace_nil (m : Memory) (id : RegionId) (index : Nat) : m.replace id index [] = m := by
  unfold replace
  simp only [splice_nil]
  exact congrArg Memory.mk (List.modify_id ..)

lemma replace_eq_of_splice {m : Memory} {id : RegionId} {i j k : Nat}
    {first second both : List UInt8}
    (h : splice (splice (m.content id) i first) j second = splice (m.content id) k both) :
    (m.replace id i first).replace id j second = m.replace id k both := by
  unfold replace
  refine congrArg Memory.mk (List.ext_getElem? fun other => ?_)
  rw [List.getElem?_modify, List.getElem?_modify, List.getElem?_modify]
  cases hr : m.regions[other]? with
  | none => rfl
  | some r =>
    by_cases ho : id = other
    · subst ho
      have hcontent : m.content id = r.bytes := by simp [content, hr]
      rw [hcontent] at h
      simp [h]
    · simp [ho]

/-- Two writes in a row are one write. -/
lemma replace_replace {m : Memory} {id : RegionId} {index : Nat} {first : List UInt8}
    (h : index + first.length ≤ m.size id) (second : List UInt8) :
    (m.replace id index first).replace id (index + first.length) second =
      m.replace id index (first ++ second) :=
  replace_eq_of_splice (splice_append h second)

/-- A write right before another one is one write with it. -/
lemma replace_replace_before {m : Memory} {id : RegionId} {index : Nat} {first : List UInt8}
    (h : index + first.length ≤ m.size id) (second : List UInt8) :
    (m.replace id (index + first.length) second).replace id index first =
      m.replace id index (first ++ second) :=
  replace_eq_of_splice (splice_append_before h second)

end Memory

end AmqpClient.Buffer
