import AmqpClient.Proofs.Utf8Decoding
import AmqpClient.Text.Encoding
import Mathlib.Order.Bounds.Basic

/-!
# What is said of octets that are not UTF-8

Such octets are a text, and behind it the beginning of a character that breaks off or goes wrong.
Where they break off more octets can make a text of them, and where they go wrong nothing can.
-/

namespace AmqpClient.Text.Utf8

/-- Octets that begin a character and do not end it, and what is known after them. -/
inductive Begins : List UInt8 → Pending → Prop
  | first {b : UInt8} {p : Pending} (h : lead b = .part p) : Begins [b] p
  | next {front : List UInt8} {p : Pending} {b : UInt8} (h : Begins front p)
    (hb : p.admits b = true) (hmore : (p.add b).missing ≠ 0) : Begins (front ++ [b]) (p.add b)

/-- Octets at `start` whose first character breaks off or goes wrong, and what is said of them. -/
inductive Breaks (start : Nat) : List UInt8 → Malformed → Prop
  | off {front : List UInt8} {p : Pending} (h : Begins front p) :
    Breaks start front (.incomplete start)
  | refused {front : List UInt8} {p : Pending} {b : UInt8} (h : Begins front p)
    (hb : ¬p.admits b = true) (rest : List UInt8) :
    Breaks start (front ++ b :: rest) (.invalid front.length start)
  | notBegun {b : UInt8} (h : lead b = .invalid) (rest : List UInt8) :
    Breaks start (b :: rest) (.invalid 1 start)

/-- Where the decoder can be after octets from `start` on: between two characters, or inside of the
one that they begin. -/
inductive Inside (start : Nat) : Option (Nat × Pending) → List UInt8 → Prop
  | between : Inside start none []
  | begun {front : List UInt8} {p : Pending} (h : Begins front p) :
    Inside start (some (start, p)) front

/-- Octets at `start` that are a text, and behind it what breaks off or goes wrong. -/
def Fails (start : Nat) (bytes : List UInt8) (e : Malformed) : Prop :=
  ∃ (chars : List Char) (tail : List UInt8), bytes = chars.flatMap encodeChar ++ tail ∧
    Breaks (start + (chars.flatMap encodeChar).length) tail e

/-- What is said of the same octets behind others. -/
def Malformed.after (length : Nat) : Malformed → Malformed
  | .invalid n index => .invalid n (length + index)
  | .incomplete index => .incomplete (length + index)

def Malformed.index : Malformed → Nat
  | .invalid _ index => index
  | .incomplete index => index

variable {front tail bytes : List UInt8} {p : Pending} {b : UInt8} {c : Char} {e : Malformed}
  {start : Nat}

/-! ### The beginning of a character -/

/-- The decoder is inside of the character then. -/
lemma Begins.scan (h : Begins front p) (index : Nat) (rest : List UInt8) :
    scan none index (front ++ rest) = scan (some (index, p)) (index + front.length) rest := by
  induction h generalizing rest with
  | first h => exact scan_part h index rest
  | @next front p b _ hb hmore ih =>
    have hin := admits_iff.1 hb
    rw [List.append_assoc, ih, List.length_append]
    exact scan_more hin.1 hin.2 (Nat.lt_of_sub_ne_zero hmore) ..

lemma Begins.length_pos (h : Begins front p) : 0 < front.length := by
  cases h with
  | first h => exact Nat.one_pos
  | next h hb hmore =>
    rw [List.length_append]
    exact Nat.add_pos_right _ Nat.one_pos

/-- Octets that complete what has begun are the rest of the character. -/
lemma Begins.encodeChar_eq (h : Begins front p) {rest : List UInt8} (hrest : Completes p rest c) :
    encodeChar c = front ++ rest := by
  induction h generalizing rest with
  | first h => exact hrest.encodeChar_eq h
  | next _ hb hmore ih =>
    rw [List.append_assoc]
    exact ih (.more hb hmore hrest)

lemma Completes.ne_nil {rest : List UInt8} (h : Completes p rest c) : rest ≠ [] := by
  cases h <;> exact List.cons_ne_nil _ _

lemma admits_low (hle : p.low ≤ p.high) (hhigh : p.high ≤ 0xbf) :
    p.admits (.ofNat p.low) = true := by
  have hlow := toNat_octet (n := p.low) (by omega)
  exact admits_iff.2 (by omega)

/-- A character that has begun can be completed, with the least octet that may follow each time. -/
lemma exists_completes {count : Nat} (hmissing : p.missing = count + 1) (hle : p.low ≤ p.high)
    (hhigh : p.high ≤ 0xbf) : ∃ rest c, Completes p rest c := by
  induction count generalizing p with
  | zero => exact ⟨_, _, .last (admits_low hle hhigh) (show p.missing - 1 = 0 by omega)⟩
  | succ count ih =>
    obtain ⟨rest, c, hrest⟩ := ih (p := p.add (.ofNat p.low))
      (show p.missing - 1 = count + 1 by omega) (show 0x80 ≤ 0xbf by omega) (Nat.le_refl _)
    exact ⟨_, c, .more (admits_low hle hhigh) (show p.missing - 1 ≠ 0 by omega) hrest⟩

/-- Whatever begins a character is the beginning of some character. -/
lemma Begins.exists_encodeChar (h : Begins front p) :
    ∃ c rest, rest ≠ [] ∧ encodeChar c = front ++ rest := by
  have hrange : p.missing ≠ 0 ∧ p.low ≤ p.high ∧ p.high ≤ 0xbf := by
    cases h with
    | first h =>
      obtain ⟨hmissing, -, hrange⟩ := range_of_lead h
      exact ⟨hmissing, hrange⟩
    | next _ _ hmore => exact ⟨hmore, show 0x80 ≤ 0xbf by omega, Nat.le_refl _⟩
  obtain ⟨count, hcount⟩ := Nat.exists_eq_succ_of_ne_zero hrange.1
  obtain ⟨rest, c, hrest⟩ := exists_completes hcount hrange.2.1 hrange.2.2
  exact ⟨c, rest, hrest.ne_nil, h.encodeChar_eq hrest⟩

lemma Begins.take (h : Begins front p) {k : Nat} (hk : 0 < k) :
    ∃ q, Begins (front.take k) q := by
  induction h with
  | @first b p h =>
    rw [List.take_of_length_le (show [b].length ≤ k from hk)]
    exact ⟨p, .first h⟩
  | @next front p b h hb hmore ih =>
    by_cases hle : k ≤ front.length
    · rw [List.take_append_of_le_length hle]
      exact ih
    · rw [List.take_of_length_le (by rw [List.length_append, List.length_singleton]; omega)]
      exact ⟨_, .next h hb hmore⟩

/-! ### What breaks off or goes wrong -/

lemma Breaks.scan (h : Breaks start tail e) : scan none start tail = .error e := by
  cases h with
  | off h =>
    have hscan := h.scan start []
    rw [List.append_nil] at hscan
    exact hscan
  | @refused front p b h hb rest =>
    rw [h.scan, Utf8.scan]
    simp only [if_neg hb]
    rw [Nat.add_sub_cancel_left]
  | notBegun h rest => simp only [Utf8.scan, h]

/-- What is cut off of it makes no text of it. -/
lemma Breaks.take (h : Breaks start tail e) {k : Nat} (hk : 0 < k) :
    ∃ e', Breaks start (tail.take k) e' := by
  cases h with
  | off h =>
    obtain ⟨q, hq⟩ := h.take hk
    exact ⟨_, .off hq⟩
  | @refused front p b h hb rest =>
    by_cases hle : k ≤ front.length
    · obtain ⟨q, hq⟩ := h.take hk
      rw [List.take_append_of_le_length hle]
      exact ⟨_, .off hq⟩
    · obtain ⟨j, rfl⟩ := Nat.exists_eq_add_of_lt (Nat.lt_of_not_le hle)
      rw [Nat.add_assoc, List.take_length_add_append, List.take_succ_cons]
      exact ⟨_, .refused h hb _⟩
  | notBegun h rest =>
    obtain ⟨j, rfl⟩ := Nat.exists_eq_add_of_le' hk
    rw [List.take_succ_cons]
    exact ⟨_, .notBegun h _⟩

/-- What goes wrong goes wrong whatever follows. -/
lemma Breaks.append {length index : Nat} (h : Breaks start tail (.invalid length index))
    (more : List UInt8) : Breaks start (tail ++ more) (.invalid length index) := by
  cases h with
  | refused h hb rest =>
    rw [List.append_assoc]
    exact .refused h hb _
  | notBegun h rest => exact .notBegun h _

lemma Breaks.after (h : Breaks start tail e) (length : Nat) :
    Breaks (length + start) tail (e.after length) := by
  cases h with
  | off h => exact .off h
  | refused h hb rest => exact .refused h hb rest
  | notBegun h rest => exact .notBegun h rest

lemma Breaks.index_eq (h : Breaks start tail e) : e.index = start := by
  cases h <;> rfl

/-! ### What the decoder refuses -/

lemma of_map_cons_eq_error {x : Except Malformed (List Char)}
    (h : (c :: ·) <$> x = .error e) : x = .error e := by
  cases x with
  | ok rest => cases h
  | error e' => cases h; rfl

lemma Breaks.fails (h : Breaks start tail e) : Fails start tail e :=
  ⟨[], tail, rfl, h⟩

lemma Fails.cons (h : Fails (start + (encodeChar c).length) bytes e) :
    Fails start (encodeChar c ++ bytes) e := by
  obtain ⟨chars, tail, rfl, hbreaks⟩ := h
  refine ⟨c :: chars, tail, ?_, ?_⟩
  · rw [List.flatMap_cons, List.append_assoc]
  · rwa [List.flatMap_cons, List.length_append, ← Nat.add_assoc]

/-- The decoder stops at what breaks off or goes wrong, and has read a text before it. The induction
is on the octets that are left, inside of a character and between two. -/
lemma fails_of_scan {within : Option (Nat × Pending)} (hin : Inside start within front)
    (h : scan within (start + front.length) bytes = .error e) : Fails start (front ++ bytes) e := by
  induction bytes generalizing within start front with
  | nil =>
    cases hin with
    | between => cases h
    | begun hfront =>
      cases h
      rw [List.append_nil]
      exact (Breaks.off hfront).fails
  | cons b bytes ih =>
    cases hin with
    | between =>
      cases hlead : lead b with
      | whole c =>
        rw [scan_whole hlead] at h
        have hc := encodeChar_whole hlead
        have hrest : Fails (start + (encodeChar c).length) bytes e := by
          rw [hc]
          exact ih .between (of_map_cons_eq_error h)
        rw [List.nil_append, ← List.singleton_append, ← hc]
        exact hrest.cons
      | part p =>
        rw [scan_part hlead] at h
        exact ih (.begun (.first hlead)) h
      | invalid =>
        simp only [scan, hlead] at h
        cases h
        exact (Breaks.notBegun hlead bytes).fails
    | @begun _ p hfront =>
      rw [scan] at h
      by_cases hb : p.admits b = true
      · simp only [if_pos hb] at h
        rw [List.append_cons]
        by_cases hlast : (p.add b).missing = 0
        · rw [if_pos hlast] at h
          have hc := hfront.encodeChar_eq (.last hb hlast)
          have hrest : Fails (start + (front ++ [b]).length) bytes e :=
            ih .between (by rw [List.length_append]; exact of_map_cons_eq_error h)
          rw [← hc] at hrest ⊢
          exact hrest.cons
        · rw [if_neg hlast] at h
          exact ih (.begun (.next hfront hb hlast)) (by rw [List.length_append]; exact h)
      · simp only [if_neg hb] at h
        cases h
        rw [Nat.add_sub_cancel_left]
        exact (Breaks.refused hfront hb bytes).fails

/-- Octets that are refused are a text, and behind it what breaks off or goes wrong. -/
theorem decode_eq_error_iff : decode bytes = .error e ↔ ∃ (front : String) (tail : List UInt8),
    bytes = encode front ++ tail ∧ Breaks (encode front).length tail e := by
  constructor
  · intro h
    unfold decode at h
    cases hscan : scan none 0 bytes with
    | ok chars =>
      rw [hscan] at h
      cases h
    | error e' =>
      rw [hscan] at h
      cases h
      obtain ⟨chars, tail, hbytes, hbreaks⟩ := fails_of_scan .between hscan
      rw [Nat.zero_add, ← encode_ofList] at hbreaks
      rw [← encode_ofList] at hbytes
      exact ⟨_, tail, hbytes, hbreaks⟩
  · rintro ⟨front, tail, rfl, hbreaks⟩
    unfold decode
    rw [encode, scan_flatMap_append, Nat.zero_add, ← encode, hbreaks.scan]
    rfl

/-- Before the place that is named stands the longest text there is. -/
theorem isGreatest_index (h : decode bytes = .error e) :
    IsGreatest {i | i ≤ bytes.length ∧ ∃ s, decode (bytes.take i) = .ok s} e.index := by
  obtain ⟨front, tail, rfl, hbreaks⟩ := decode_eq_error_iff.1 h
  rw [hbreaks.index_eq]
  constructor
  · refine ⟨by rw [List.length_append]; omega, front, ?_⟩
    rw [List.take_left]
    exact decode_encode front
  · rintro i ⟨-, s, hs⟩
    by_contra hlt
    obtain ⟨k, rfl⟩ := Nat.exists_eq_add_of_lt (Nat.lt_of_not_le hlt)
    rw [Nat.add_assoc, List.take_length_add_append] at hs
    obtain ⟨e', hcut⟩ := hbreaks.take (Nat.succ_pos k)
    rw [decode_eq_error_iff.2 ⟨front, _, rfl, hcut⟩] at hs
    cases hs

/-- Behind a text the same is said of the same octets. -/
theorem decode_append_eq_error (front : String) (h : decode bytes = .error e) :
    decode (encode front ++ bytes) = .error (e.after (encode front).length) := by
  obtain ⟨text, tail, rfl, hbreaks⟩ := decode_eq_error_iff.1 h
  refine decode_eq_error_iff.2 ⟨front ++ text, tail, ?_, ?_⟩
  · rw [encode_append, List.append_assoc]
  · rw [encode_append, List.length_append]
    exact hbreaks.after _

/-- What breaks off is the beginning of a character, which more octets complete. -/
lemma exists_more (h : decode bytes = .error (.incomplete start)) :
    ∃ more s, decode (bytes ++ more) = .ok s := by
  obtain ⟨front, tail, rfl, hbreaks⟩ := decode_eq_error_iff.1 h
  cases hbreaks with
  | off hbegins =>
    obtain ⟨c, rest, -, hc⟩ := hbegins.exists_encodeChar
    refine ⟨rest, front ++ .ofList [c], decode_eq_ok_iff.2 ?_⟩
    rw [encode_append, encode_ofList, List.flatMap_singleton, hc, List.append_assoc]

/-- Nothing makes a text of what goes wrong. -/
lemma append_ne_ok {length : Nat} (h : decode bytes = .error (.invalid length start))
    (more : List UInt8) (s : String) : decode (bytes ++ more) ≠ .ok s := by
  obtain ⟨front, tail, rfl, hbreaks⟩ := decode_eq_error_iff.1 h
  have hmore := decode_eq_error_iff.2
    ⟨front, tail ++ more, List.append_assoc .., hbreaks.append more⟩
  rw [hmore]
  exact fun h => by cases h

end AmqpClient.Text.Utf8

namespace AmqpClient.Text

open Utf8

/-- Octets that are read as some text. -/
def IsUtf8 (bytes : List UInt8) : Prop :=
  ∃ s, Encoding.utf8.decode bytes = .ok s

/-- Octets with which the encoding of some character begins, and does not end. -/
def BeginsCharacter (front : List UInt8) : Prop :=
  ∃ (c : Char) (rest : List UInt8), rest ≠ [] ∧ String.utf8EncodeChar c = front ++ rest

variable {bytes tail front : List UInt8} {p : Pending} {cause : Malformed} {start length : Nat}

lemma decode_utf8_of_ok {s : String} (h : decode bytes = .ok s) :
    Encoding.utf8.decode bytes = .ok s := by
  rw [Encoding.decode, h]
  rfl

lemma decode_utf8_of_error (h : decode bytes = .error cause) :
    Encoding.utf8.decode bytes = .error (.utf8 cause) := by
  rw [Encoding.decode, h]
  rfl

lemma isUtf8_iff : IsUtf8 bytes ↔ ∃ s, decode bytes = .ok s := by
  constructor
  · rintro ⟨s, hs⟩
    cases h : decode bytes with
    | ok t => exact ⟨t, rfl⟩
    | error e =>
      rw [decode_utf8_of_error h] at hs
      cases hs
  · rintro ⟨s, hs⟩
    exact ⟨s, decode_utf8_of_ok hs⟩

/-! ### The longest beginning of a character -/

lemma beginsCharacter_of_begins (h : Begins front p) : BeginsCharacter front := by
  obtain ⟨c, rest, hrest, hc⟩ := h.exists_encodeChar
  exact ⟨c, rest, hrest, (encodeChar_eq_utf8EncodeChar c).symm.trans hc⟩

lemma beginsCharacter_nil : BeginsCharacter [] :=
  ⟨'a', [0x61], List.cons_ne_nil _ _, rfl⟩

lemma BeginsCharacter.length_le (h : BeginsCharacter front) : front.length ≤ 3 := by
  obtain ⟨c, rest, hrest, hc⟩ := h
  have hlength := congrArg List.length hc
  rw [String.length_utf8EncodeChar, List.length_append] at hlength
  have hfour := c.utf8Size_le_four
  have hpos := List.length_pos_iff.2 hrest
  omega

/-- No character begins with what goes wrong. -/
lemma not_beginsCharacter (h : Breaks start tail (.invalid length start)) :
    ¬BeginsCharacter tail := by
  rintro ⟨c, rest, -, hc⟩
  have hscan := (h.append rest).scan
  rw [← hc, ← encodeChar_eq_utf8EncodeChar, ← List.flatMap_singleton encodeChar,
    scan_flatMap_encodeChar] at hscan
  cases hscan

lemma isGreatest_of_breaks (h : Breaks start tail (.invalid length start)) :
    ∃ longest, length = max 1 longest ∧
      IsGreatest {n | n ≤ tail.length ∧ BeginsCharacter (tail.take n)} longest := by
  cases h with
  | @refused front p b h hb rest =>
    have hbegins := beginsCharacter_of_begins h
    have hpos := h.length_pos
    refine ⟨front.length, (Nat.max_eq_right hpos).symm, ⟨?_, ?_⟩, ?_⟩
    · rw [List.length_append]
      omega
    · rwa [List.take_left]
    · rintro n ⟨-, hn⟩
      by_contra hlt
      obtain ⟨k, rfl⟩ := Nat.exists_eq_add_of_lt (Nat.lt_of_not_le hlt)
      rw [Nat.add_assoc, List.take_length_add_append, List.take_succ_cons] at hn
      have hwrong : Breaks start (front ++ b :: rest.take k) (.invalid front.length start) :=
        .refused h hb _
      exact not_beginsCharacter hwrong hn
  | @notBegun b h rest =>
    refine ⟨0, rfl, ⟨Nat.zero_le _, beginsCharacter_nil⟩, ?_⟩
    rintro n ⟨-, hn⟩
    by_contra hlt
    obtain ⟨k, rfl⟩ := Nat.exists_eq_add_of_le' (Nat.lt_of_not_le hlt)
    rw [List.take_succ_cons] at hn
    have hwrong : Breaks start (b :: rest.take k) (.invalid 1 start) := .notBegun h _
    exact not_beginsCharacter hwrong hn

/-! ### What a failure reads -/

/-- The two kinds of failure read differently from the third letter on. -/
lemma invalid_append_ne (s t : String) :
    "invalid utf-8 sequence of " ++ s ≠ "incomplete utf-8 byte sequence from index " ++ t := by
  intro h
  have hstart := congrArg (fun text => text.toList.take 3) h
  have hinvalid : "invalid utf-8 sequence of ".toList.take 3 = ['i', 'n', 'v'] := by decide
  have hincomplete : "incomplete utf-8 byte sequence from index ".toList.take 3 =
      ['i', 'n', 'c'] := by decide
  rw [String.toList_append, String.toList_append, List.take_append_of_le_length (by decide),
    List.take_append_of_le_length (by decide), hinvalid, hincomplete] at hstart
  cases hstart

lemma message_invalid_ne (length index i : Nat) :
    (DecodeError.utf8 (.invalid length index)).message ≠
      s!"incomplete utf-8 byte sequence from index {i}" := by
  change "invalid utf-8 sequence of " ++ toString length ++ " bytes from index " ++
    toString index ≠ "incomplete utf-8 byte sequence from index " ++ toString i
  rw [String.append_assoc, String.append_assoc]
  exact invalid_append_ne _ _

/-- What a failure names is the end of the longest text that the octets begin with. It reads
"incomplete" just if more octets can make a text of them, and else "invalid", with the length of the
longest beginning of a character that stands there, or with one. Behind a text only the index is
another. -/
theorem utf8_failure_classified (h : ¬IsUtf8 bytes) :
    ∃ cause, Encoding.utf8.decode bytes = .error (.utf8 cause) ∧
      IsGreatest {i | i ≤ bytes.length ∧ IsUtf8 (bytes.take i)} cause.index ∧
      ((DecodeError.utf8 cause).message =
          s!"incomplete utf-8 byte sequence from index {cause.index}" ↔
        ∃ more, IsUtf8 (bytes ++ more)) ∧
      ((∀ more, ¬IsUtf8 (bytes ++ more)) → ∃ length longest,
        cause = .invalid length cause.index ∧
        (DecodeError.utf8 cause).message =
          s!"invalid utf-8 sequence of {length} bytes from index {cause.index}" ∧
        1 ≤ length ∧ length ≤ 3 ∧ length = max 1 longest ∧
        IsGreatest {n | n ≤ (bytes.drop cause.index).length ∧
          BeginsCharacter ((bytes.drop cause.index).take n)} longest) ∧
      ∀ front : String, Encoding.utf8.decode (front.toUTF8.data.toList ++ bytes) =
        .error (.utf8 (cause.after front.utf8ByteSize)) := by
  simp only [isUtf8_iff] at h ⊢
  cases hdecode : decode bytes with
  | ok s => exact absurd ⟨s, hdecode⟩ h
  | error cause =>
    refine ⟨cause, decode_utf8_of_error hdecode, isGreatest_index hdecode, ?_, fun hno => ?_,
      fun front => ?_⟩
    · cases cause with
      | incomplete index => exact ⟨fun _ => exists_more hdecode, fun _ => rfl⟩
      | invalid length index =>
        refine ⟨fun hmessage => absurd hmessage (message_invalid_ne length index index), ?_⟩
        rintro ⟨more, s, hs⟩
        exact absurd hs (append_ne_ok hdecode more s)
    · cases cause with
      | incomplete index =>
        obtain ⟨more, hmore⟩ := exists_more hdecode
        exact absurd hmore (hno more)
      | invalid length index =>
        obtain ⟨front, tail, rfl, hbreaks⟩ := decode_eq_error_iff.1 hdecode
        obtain rfl := hbreaks.index_eq
        obtain ⟨longest, rfl, hgreatest⟩ := isGreatest_of_breaks hbreaks
        have hthree := hgreatest.1.2.length_le
        rw [List.length_take_of_le hgreatest.1.1] at hthree
        refine ⟨_, longest, rfl, rfl, Nat.le_max_left .., Nat.max_le.2 ⟨by omega, hthree⟩, rfl, ?_⟩
        rw [Malformed.index, List.drop_left]
        exact hgreatest
    · have hbehind := decode_append_eq_error front hdecode
      rw [encode_eq_toUTF8] at hbehind
      exact decode_utf8_of_error hbehind

/-- The letter "a" and three of the four octets of a character. -/
def cutCharacter : List UInt8 :=
  [0x61, 0xf0, 0x90, 0x80]

/-- The three octets can be completed at the end, and are three wrong octets before a letter. -/
theorem utf8_failure_classified_cutCharacter :
    (¬IsUtf8 cutCharacter ∧ (∃ more, IsUtf8 (cutCharacter ++ more)) ∧
      IsGreatest {i | i ≤ 4 ∧ IsUtf8 (cutCharacter.take i)} 1) ∧
    (¬IsUtf8 (cutCharacter ++ [0x61]) ∧ (∀ more, ¬IsUtf8 (cutCharacter ++ [0x61] ++ more)) ∧
      IsGreatest {n | n ≤ 4 ∧ BeginsCharacter ([0xf0, 0x90, 0x80, 0x61].take n)} 3) ∧
    Encoding.utf8.decode ("é".toUTF8.data.toList ++ (cutCharacter ++ [0x61])) =
      .error (.utf8 (.invalid 3 3)) := by
  have hcut : Encoding.utf8.decode cutCharacter = .error (.utf8 (.incomplete 1)) := by decide
  have hwrong : Encoding.utf8.decode (cutCharacter ++ [0x61]) = .error (.utf8 (.invalid 3 1)) := by
    decide
  have hcutRefused : ¬IsUtf8 cutCharacter := by
    rintro ⟨s, hs⟩
    cases hcut.symm.trans hs
  have hwrongRefused : ¬IsUtf8 (cutCharacter ++ [0x61]) := by
    rintro ⟨s, hs⟩
    cases hwrong.symm.trans hs
  refine ⟨⟨hcutRefused, ?_⟩, ⟨hwrongRefused, ?_⟩, ?_⟩
  · obtain ⟨cause, hcause, hgreatest, hmore, -⟩ := utf8_failure_classified hcutRefused
    cases hcut.symm.trans hcause
    exact ⟨hmore.1 rfl, hgreatest⟩
  · obtain ⟨cause, hcause, -, hmore, hinvalid, -⟩ := utf8_failure_classified hwrongRefused
    cases hwrong.symm.trans hcause
    have hno := mt hmore.2 (message_invalid_ne 3 1 1)
    obtain ⟨length, longest, hlength, -, -, -, hmax, hgreatest⟩ := hinvalid (not_exists.1 hno)
    cases hlength
    have hthree : longest = 3 := by omega
    rw [hthree] at hgreatest
    exact ⟨not_exists.1 hno, hgreatest⟩
  · obtain ⟨cause, hcause, -, -, -, hbehind⟩ := utf8_failure_classified hwrongRefused
    cases hwrong.symm.trans hcause
    exact hbehind "é"

end AmqpClient.Text
