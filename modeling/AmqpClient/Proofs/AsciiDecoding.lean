import AmqpClient.Proofs.ReaderEquality
import AmqpClient.Proofs.Utf8Failures

/-!
# ASCII is read as UTF-8 is

What is read as ASCII is read as the same text in UTF-8. Where octets are not ASCII the first octet
that is none is named, with its place among those that were to be read.
-/

namespace AmqpClient.Text

/-- Whether octets are all below 0x80. -/
def IsAscii (bytes : List UInt8) : Prop :=
  ∀ b ∈ bytes, b.toNat < 0x80

/-- Octets as characters, one each. -/
def letters (bytes : List UInt8) : List Char :=
  bytes.map fun b => .ofNat b.toNat

/-- What is reported is the first octet that is not ASCII. -/
structure FirstForeign (bytes : List UInt8) (foreign : Ascii.Foreign) : Prop where
  found : bytes[foreign.index]? = some foreign.byte
  notAscii : 0x80 ≤ foreign.byte.toNat
  /-- What stands before it is read as one text in both encodings. -/
  before : ∃ s, Encoding.ascii.decode (bytes.take foreign.index) = .ok s ∧
    Encoding.utf8.decode (bytes.take foreign.index) = .ok s
  /-- The octet is shown by its two hexadecimal digits, and its place in decimal. -/
  message : (DecodeError.ascii foreign).message = "non-ASCII byte 0x" ++
    String.ofList [Nat.digitChar (foreign.byte.toNat / 16),
      Nat.digitChar (foreign.byte.toNat % 16)] ++ " at offset " ++ Nat.repr foreign.index

variable {bytes front rest : List UInt8} {b : UInt8}

/-- The decoder reads ASCII octets and goes on behind them. -/
lemma scan_ascii (h : IsAscii front) (index : Nat) (rest : List UInt8) :
    Ascii.scan index (front ++ rest) =
      (letters front ++ ·) <$> Ascii.scan (index + front.length) rest := by
  induction front generalizing index with
  | nil =>
    change Ascii.scan index rest = _ <$> Ascii.scan index rest
    cases Ascii.scan index rest <;> rfl
  | cons b front ih =>
    obtain ⟨hb, hfront⟩ := List.forall_mem_cons.1 h
    rw [List.cons_append, Ascii.scan, if_pos hb, ih hfront, List.length_cons, Nat.add_right_comm,
      Nat.add_assoc index]
    cases Ascii.scan (index + (front.length + 1)) rest <;> rfl

lemma flatMap_encodeChar_letters (h : IsAscii bytes) :
    (letters bytes).flatMap Utf8.encodeChar = bytes := by
  induction bytes with
  | nil => rfl
  | cons b bytes ih =>
    obtain ⟨hb, hbytes⟩ := List.forall_mem_cons.1 h
    change Utf8.encodeChar (.ofNat b.toNat) ++ (letters bytes).flatMap Utf8.encodeChar = _
    rw [Utf8.encodeChar_whole (Utf8.lead_of_lt hb), ih hbytes]
    rfl

/-- Octets are ASCII, or there is a first one among them that is none. -/
lemma isAscii_or_exists (bytes : List UInt8) : IsAscii bytes ∨
    ∃ front b rest, bytes = front ++ b :: rest ∧ IsAscii front ∧ 0x80 ≤ b.toNat := by
  cases h : bytes.find? (0x80 ≤ ·.toNat) with
  | none =>
    refine .inl fun b hb => Nat.lt_of_not_le fun hle => ?_
    exact List.find?_eq_none.1 h b hb (decide_eq_true hle)
  | some b =>
    obtain ⟨hb, front, rest, rfl, hfront⟩ := List.find?_eq_some_iff_append.1 h
    refine .inr ⟨front, b, rest, rfl, fun x hx => Nat.lt_of_not_le fun hle => ?_,
      of_decide_eq_true hb⟩
    have hno := hfront x hx
    rw [decide_eq_true hle] at hno
    cases hno

/-! ### The two decoders -/

lemma decode_ascii (h : IsAscii bytes) :
    Encoding.ascii.decode bytes = .ok (.ofList (letters bytes)) := by
  have hscan := scan_ascii h 0 []
  rw [List.append_nil] at hscan
  rw [Encoding.decode, Ascii.decode, hscan]
  change Except.ok (String.ofList (letters bytes ++ [])) = _
  rw [List.append_nil]

lemma decode_utf8_of_isAscii (h : IsAscii bytes) :
    Encoding.utf8.decode bytes = .ok (.ofList (letters bytes)) := by
  refine decode_utf8_of_ok (Utf8.decode_eq_ok_iff.2 ?_)
  rw [Utf8.encode_ofList, flatMap_encodeChar_letters h]

/-- The decoder stops at the first octet that is not ASCII. -/
lemma decode_foreign (h : IsAscii front) (hb : 0x80 ≤ b.toNat) :
    Encoding.ascii.decode (front ++ b :: rest) = .error (.ascii ⟨b, front.length⟩) := by
  rw [Encoding.decode, Ascii.decode, scan_ascii h, Ascii.scan, if_neg (Nat.not_lt.2 hb),
    Nat.zero_add]
  rfl

lemma firstForeign (h : IsAscii front) (hb : 0x80 ≤ b.toNat) :
    FirstForeign (front ++ b :: rest) ⟨b, front.length⟩ where
  found := by
    dsimp only
    rw [List.getElem?_append_right (Nat.le_refl _), Nat.sub_self]
    rfl
  notAscii := hb
  before := by
    dsimp only
    rw [List.take_left]
    exact ⟨_, decode_ascii h, decode_utf8_of_isAscii h⟩
  message := rfl

lemma decode_ascii_eq_ok_iff {s : String} : Encoding.ascii.decode bytes = .ok s ↔
    IsAscii bytes ∧ s = .ofList (letters bytes) := by
  constructor
  · intro hs
    rcases isAscii_or_exists bytes with h | ⟨front, b, rest, rfl, h, hb⟩
    · rw [decode_ascii h] at hs
      cases hs
      exact ⟨h, rfl⟩
    · rw [decode_foreign h hb] at hs
      cases hs
  · rintro ⟨h, rfl⟩
    exact decode_ascii h

lemma exists_firstForeign (hno : ¬IsAscii bytes) :
    ∃ foreign, Encoding.ascii.decode bytes = .error (.ascii foreign) ∧
      FirstForeign bytes foreign := by
  rcases isAscii_or_exists bytes with h | ⟨front, b, rest, rfl, h, hb⟩
  · exact absurd h hno
  · exact ⟨_, decode_foreign h hb, firstForeign h hb⟩

/-- What is read as ASCII is read as the same text in UTF-8. -/
lemma decode_utf8_of_ascii {s : String} (hs : Encoding.ascii.decode bytes = .ok s) :
    Encoding.utf8.decode bytes = .ok s := by
  obtain ⟨h, rfl⟩ := decode_ascii_eq_ok_iff.1 hs
  exact decode_utf8_of_isAscii h

end AmqpClient.Text

namespace AmqpClient.Buffer

open Text

namespace Workspace

variable {ws : Workspace} {name twin : String} {r : Reader} {s : String}

/-- A duplicate that is read as UTF-8 ends where its source does that is read as ASCII. -/
lemma run_duplicate_text (h : ws.Valid) (hr : ws.find? name = some (.reader r))
    (hs : Encoding.ascii.decode (r.ahead ws.memory) = .ok s) (htwin : twin ≠ name) :
    ∃ last after, ws.run [.duplicate twin name, .text name .ascii, .text twin .utf8] =
        ([.done .nothing, .done (.text s), .done (.text s)], after) ∧
      after.find? name = some (.reader last) ∧ after.find? twin = some (.reader last) := by
  have hutf8 := decode_utf8_of_ascii hs
  have hduplicate := step_duplicate hr twin
  have hmade := (step_sound h (.duplicate twin name)).valid
  rw [hduplicate] at hmade
  have hname : (ws.bind twin (.reader r)).find? name = some (.reader r) := by
    rw [find?_bind, if_neg htwin.symm, hr]
  have hfirst := step_text hmade hname .ascii
  have hread := (step_sound hmade (.text name .ascii)).valid
  rw [memory_bind, hs] at hfirst
  rw [hfirst] at hread
  have hfound : ((ws.bind twin (.reader r)).bind name
      (.reader (r.skip r.cursor.remaining))).find? twin = some (.reader r) := by
    rw [find?_bind, if_neg htwin, find?_bind, if_pos rfl]
  have hsecond := step_text hread hfound .utf8
  rw [memory_bind, memory_bind, hutf8] at hsecond
  rw [run_cons, hduplicate, run_cons, hfirst, run_cons, hsecond]
  refine ⟨r.skip r.cursor.remaining, _, rfl, ?_, ?_⟩
  · rw [run, find?_bind, if_neg htwin.symm, find?_bind, if_pos rfl]
  · rw [run, find?_bind, if_pos rfl]

end Workspace

namespace InPlace

/-- Octets are read as ASCII just if they are all below 0x80, and then they are the same text in
UTF-8. Else the first octet that is not ASCII is reported. So what any reader there is reads as
ASCII its duplicate reads as UTF-8, and both end at the same place; where the reader fails it stays
as it is, and the place that is reported is one among the octets ahead of it. -/
theorem ascii_read_as_utf8 (setup : List Operation) :
    (∀ bytes : List UInt8,
      ((∃ s, Encoding.ascii.decode bytes = .ok s) ↔ ∀ b ∈ bytes, b.toNat < 0x80) ∧
      (∀ s, Encoding.ascii.decode bytes = .ok s → Encoding.utf8.decode bytes = .ok s) ∧
      ((¬∀ b ∈ bytes, b.toNat < 0x80) → ∃ foreign,
        Encoding.ascii.decode bytes = .error (.ascii foreign) ∧ FirstForeign bytes foreign)) ∧
    ∀ (name : String) (r : Reader), (run {} setup).2.find? name = some (.reader r) →
      let ws := (run {} setup).2
      (∀ (s twin : String), (step ws (.text name .ascii)).1 = .done (.text s) → twin ≠ name →
        ∃ last after, run ws [.duplicate twin name, .text name .ascii, .text twin .utf8] =
            ([.done .nothing, .done (.text s), .done (.text s)], after) ∧
          after.find? name = some (.reader last) ∧ after.find? twin = some (.reader last)) ∧
      ((∀ s, (step ws (.text name .ascii)).1 ≠ .done (.text s)) → ∃ foreign,
        step ws (.text name .ascii) = (.failed (.notText (.ascii foreign)), ws) ∧
        FirstForeign (r.ahead ws.memory) foreign) := by
  rw [run_eq Workspace.valid_empty setup]
  have hvalid := Workspace.run_valid Workspace.valid_empty setup
  refine ⟨fun bytes => ⟨⟨?_, fun h => ⟨_, decode_ascii h⟩⟩, fun s => decode_utf8_of_ascii,
    exists_firstForeign⟩, fun name r hr => ?_⟩
  · rintro ⟨s, hs⟩
    exact (decode_ascii_eq_ok_iff.1 hs).1
  · intro ws
    rw [step_eq hvalid, Workspace.step_text hvalid hr]
    cases hdecode : Encoding.ascii.decode (r.ahead ws.memory) with
    | ok t =>
      refine ⟨fun s twin hs htwin => ?_, fun hno => absurd rfl (hno t)⟩
      cases hs
      rw [run_eq hvalid]
      exact Workspace.run_duplicate_text hvalid hr hdecode htwin
    | error e =>
      refine ⟨fun s twin hs => absurd hs (by simp), fun _ => ?_⟩
      have hno : ¬IsAscii (r.ahead ws.memory) := fun h => by
        rw [decode_ascii h] at hdecode
        cases hdecode
      obtain ⟨foreign, hforeign, hfirst⟩ := exists_firstForeign hno
      rw [hdecode] at hforeign
      cases hforeign
      exact ⟨foreign, rfl, hfirst⟩

/-- Readers inside of an array with octets that are not ASCII at either end: one leaves them out,
and one has the last of them. -/
def amongForeign : List Operation :=
  [.allocate "array" .heap [0xc3, 0x61, 0x62, 0xa9], .wrapArray "inside" .reader "array" 1 2,
    .wrapArray "across" .reader "array" 1 3, .move "across" (.setPosition 1)]

/-- What stands outside of a window is no matter, and the octet that is reported stands behind the
one that is read. -/
theorem ascii_read_as_utf8_amongForeign :
    (∃ last after, run (run {} amongForeign).2
        [.duplicate "twin" "inside", .text "inside" .ascii, .text "twin" .utf8] =
          ([.done .nothing, .done (.text "ab"), .done (.text "ab")], after) ∧
      after.find? "inside" = some (.reader last) ∧ after.find? "twin" = some (.reader last)) ∧
    (step (run {} amongForeign).2 (.text "across" .ascii)).1 =
      .failed (.notText (.ascii ⟨0xa9, 1⟩)) ∧ FirstForeign [0x62, 0xa9] ⟨0xa9, 1⟩ ∧
    (DecodeError.ascii ⟨0xa9, 1⟩).message = "non-ASCII byte 0xa9 at offset 1" := by
  obtain ⟨-, hreaders⟩ := ascii_read_as_utf8 amongForeign
  have hfails : (step (run {} amongForeign).2 (.text "across" .ascii)).1 =
      .failed (.notText (.ascii ⟨0xa9, 1⟩)) := by decide
  refine ⟨(hreaders "inside" ⟨0, 1, .new 2⟩ rfl).1 "ab" "twin" (by decide) (by decide), hfails, ?_⟩
  obtain ⟨foreign, hstep, hfirst⟩ := (hreaders "across" ⟨0, 1, ⟨1, 3, 3, none⟩⟩ rfl).2
    fun s hs => by cases hfails.symm.trans hs
  rw [hstep] at hfails
  cases hfails
  exact ⟨hfirst, hfirst.message⟩

end InPlace

end AmqpClient.Buffer
