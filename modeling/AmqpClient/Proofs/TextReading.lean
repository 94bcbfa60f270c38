import AmqpClient.Proofs.ReaderEquality
import AmqpClient.Proofs.RoundTrip
import AmqpClient.Proofs.Utf8Decoding

/-!
# Reading text

What remains in a reader is read as text just if it is the encoding of that text, and texts that
were written one after another are read back as one.
-/

namespace AmqpClient.Buffer

open Text

/-- The texts whose writes succeeded. -/
def acceptedTexts (texts : List String) (replies : List Reply) : List String :=
  ((texts.zip replies).filter (·.2 = .done .nothing)).map (·.1)

/-- A text as the octets that are written of it. -/
def textBlock (s : String) : Datum :=
  .block (Utf8.encode s)

lemma decode_utf8_eq_ok_iff {bytes : List UInt8} {s : String} :
    Encoding.utf8.decode bytes = .ok s ↔ bytes = s.toUTF8.data.toList := by
  rw [← Utf8.encode_eq_toUTF8, ← Utf8.decode_eq_ok_iff, Encoding.decode]
  cases Utf8.decode bytes <;> simp [Except.mapError]

lemma accepted_textBlock (texts : List String) (replies : List Reply) :
    Datum.accepted (texts.map textBlock) replies = (acceptedTexts texts replies).map textBlock := by
  unfold Datum.accepted acceptedTexts
  rw [List.zip_map_left, List.filter_map, List.map_map, List.map_map]
  rfl

lemma acceptedTexts_cons_done (s : String) (texts : List String) (replies : List Reply) :
    acceptedTexts (s :: texts) (.done .nothing :: replies) = s :: acceptedTexts texts replies := by
  simp [acceptedTexts]

lemma flatMap_octets_textBlock (texts : List String) :
    (texts.map textBlock).flatMap Datum.octets = Utf8.encode (String.join texts) := by
  rw [List.flatMap_map, Utf8.encode_join]
  rfl

namespace Workspace

variable {ws : Workspace} {name : String} {r : Reader} {w : Writer}

/-- Texts are written as blocks of octets are. -/
lemma run_putText (ws : Workspace) (name : String) (texts : List String) :
    ws.run (texts.map (.putText name)) = ws.run ((texts.map textBlock).map (Datum.write name)) := by
  induction texts generalizing ws with
  | nil => rfl
  | cons s rest ih =>
    have hstep : ws.step (.putText name s) = ws.step ((textBlock s).write name) := rfl
    rw [List.map_cons, List.map_cons, List.map_cons, run_cons, run_cons, hstep, ih]

lemma written_texts (h : ws.Valid) (hw : ws.find? name = some (.writer w)) (texts : List String) :
    let written := ws.run (texts.map (.putText name))
    ws.Written name w (Utf8.encode (String.join (acceptedTexts texts written.1))) written.2 := by
  have hwritten := run_write h hw (texts.map textBlock)
  rw [accepted_textBlock, flatMap_octets_textBlock] at hwritten
  rw [run_putText]
  exact hwritten

lemma step_putText (h : ws.Valid) (hw : ws.find? name = some (.writer w)) (s : String) :
    ws.step (.putText name s) = if (Utf8.encode s).length ≤ w.cursor.remaining then
      (.done .nothing, { ws with memory := ws.memory.replace w.region w.index (Utf8.encode s) }.bind
        name (.writer (w.skip (Utf8.encode s).length)))
      else (.failed (.outOfBounds w.cursor.position (Utf8.encode s).length w.cursor.limit), ws) :=
  step_write h hw (textBlock s)

/-- If there is room for all texts then all are written. -/
lemma acceptedTexts_eq (h : ws.Valid) (hw : ws.find? name = some (.writer w))
    {texts : List String} (hroom : (Utf8.encode (String.join texts)).length ≤ w.cursor.remaining) :
    acceptedTexts texts (ws.run (texts.map (.putText name))).1 = texts := by
  induction texts generalizing ws w with
  | nil => rfl
  | cons s rest ih =>
    rw [Utf8.encode_join, List.flatMap_cons, ← Utf8.encode_join, List.length_append] at hroom
    have hstep := step_putText h hw s
    rw [if_pos (Nat.le_of_add_right_le hroom)] at hstep
    have hvalid := (step_sound h (.putText name s)).valid
    have hskip := w.cursor.remaining_skip (Utf8.encode s).length
    rw [List.map_cons, run_cons]
    rw [hstep] at hvalid ⊢
    have hleft : (Utf8.encode (String.join rest)).length ≤
        (w.skip (Utf8.encode s).length).cursor.remaining := by
      change _ ≤ (w.cursor.skip (Utf8.encode s).length).remaining
      omega
    have hrest := ih hvalid (by simp) hleft
    rw [acceptedTexts_cons_done, hrest]

/-- What remains is read as text if it is the encoding of one, and then nothing remains. -/
lemma step_text_done (h : ws.Valid) (hr : ws.find? name = some (.reader r)) {s : String}
    (hahead : r.ahead ws.memory = s.toUTF8.data.toList) :
    ws.step (.text name .utf8) = (.done (.text s), ws.bind name
      (.reader { r with cursor := { r.cursor with position := r.cursor.limit } })) := by
  have hfits : r.Fits ws.memory := h name _ hr
  have hend : r.skip r.cursor.remaining =
      { r with cursor := { r.cursor with position := r.cursor.limit } } :=
    congrArg (fun cursor => (⟨⟨r.region, r.offset, cursor⟩⟩ : Reader)) hfits.ordered.skip_remaining
  rw [step_text h hr, decode_utf8_eq_ok_iff.2 hahead, ← hend]

/-- What remains is left alone if it is the encoding of no text. -/
lemma step_text_failed (h : ws.Valid) (hr : ws.find? name = some (.reader r))
    (hahead : ∀ s : String, r.ahead ws.memory ≠ s.toUTF8.data.toList) :
    ∃ e, ws.step (.text name .utf8) = (.failed (.notText e), ws) := by
  rw [step_text h hr]
  cases hdecode : Encoding.utf8.decode (r.ahead ws.memory) with
  | ok s => exact absurd (decode_utf8_eq_ok_iff.1 hdecode) (hahead s)
  | error e => exact ⟨e, rfl⟩

/-- Texts that have been written are read back as one. -/
lemma run_read_texts (h : ws.Valid) (hw : ws.find? name = some (.writer w)) (texts : List String)
    (reader : String) {make : String → String → Operation}
    (hmake : make = .toReader ∨ make = .intoReader) :
    let written := ws.run (texts.map (.putText name))
    ∃ after last,
      written.2.run [make reader name, .move reader (.setPosition w.cursor.position),
        .text reader .utf8] =
          ([.done .nothing, .done .nothing,
            .done (.text (String.join (acceptedTexts texts written.1)))], after) ∧
      after.find? reader = some (.reader last) ∧ last.cursor.position = last.cursor.limit := by
  intro written
  have hfits : w.Fits ws.memory := h name (.writer w) hw
  have hwritten := written_texts h hw texts
  have hp : w.cursor.position ≤
      (w.skip (Utf8.encode (String.join (acceptedTexts texts written.1))).length).cursor.position :=
    Nat.le_add_right _ _
  obtain ⟨moved, hrun, hmemory, hfind⟩ := run_readerFrom reader hwritten.found hmake hp
  have hvalid : moved.Valid := by
    have hmoved := run_valid (run_valid h (texts.map (.putText name)))
      [make reader name, .move reader (.setPosition w.cursor.position)]
    rwa [hrun] at hmoved
  have hahead := hwritten.ahead_readerFrom hfits
  rw [← hmemory] at hahead
  have htext := step_text_done hvalid hfind (hahead.trans (Utf8.encode_eq_toUTF8 _))
  have hread : written.2.run ([make reader name, .move reader (.setPosition w.cursor.position)] ++
      [.text reader .utf8]) = _ := run_append ..
  rw [hrun, run_cons, htext] at hread
  exact ⟨_, _, hread, by rw [run, find?_bind, if_pos rfl], rfl⟩

end Workspace

namespace InPlace

/-- Octets are read as a text just if they are its encoding, so no overlong form, no surrogate, no
value above U+10FFFF, no octet out of place and no part of a character is. This is how any reader
there is reads all that remains, and where it fails it stays as it is. Texts written one after
another by any writer are read back as one, whatever they are each. -/
theorem text_reads_utf8 (setup : List Operation) :
    (∀ (bytes : List UInt8) (s : String),
      Encoding.utf8.decode bytes = .ok s ↔ bytes = s.toUTF8.data.toList) ∧
    (∀ (front : String) (bytes : List UInt8), Utf8.IllFormed bytes →
      ∀ s, Encoding.utf8.decode (front.toUTF8.data.toList ++ bytes) ≠ .ok s) ∧
    (∀ (name : String) (r : Reader), (run {} setup).2.find? name = some (.reader r) →
      let ws := (run {} setup).2
      (∀ s : String, (step ws (.text name .utf8)).1 = .done (.text s) ↔
        r.ahead ws.memory = s.toUTF8.data.toList) ∧
      (∀ s : String, r.ahead ws.memory = s.toUTF8.data.toList →
        step ws (.text name .utf8) = (.done (.text s), ws.bind name
          (.reader { r with cursor := { r.cursor with position := r.cursor.limit } }))) ∧
      ((∀ s : String, r.ahead ws.memory ≠ s.toUTF8.data.toList) →
        ∃ e, step ws (.text name .utf8) = (.failed (.notText e), ws))) ∧
    ∀ (writer : String) (w : Writer) (texts : List String),
      (run {} setup).2.find? writer = some (.writer w) →
      let ws := (run {} setup).2
      let written := run ws (texts.map (.putText writer))
      let kept := acceptedTexts texts written.1
      ((String.join texts).toUTF8.size ≤ w.cursor.remaining → kept = texts) ∧
      ∀ (reader : String) (make : String → String → Operation),
        make = .toReader ∨ make = .intoReader →
        ∃ after last,
          run written.2 [make reader writer, .move reader (.setPosition w.cursor.position),
            .text reader .utf8] =
              ([.done .nothing, .done .nothing, .done (.text (String.join kept))], after) ∧
          after.find? reader = some (.reader last) ∧
          last.cursor.position = last.cursor.limit := by
  rw [run_eq Workspace.valid_empty setup]
  have hvalid := Workspace.run_valid Workspace.valid_empty setup
  refine ⟨fun bytes s => decode_utf8_eq_ok_iff, fun front bytes hbytes s => ?_,
    fun name r hr => ?_, fun writer w texts hw => ?_⟩
  · have hrefused := Utf8.decode_illFormed front hbytes s
    rw [Utf8.encode_eq_toUTF8] at hrefused
    exact fun h => hrefused (Utf8.decode_eq_ok_iff.2
      ((decode_utf8_eq_ok_iff.1 h).trans (Utf8.encode_eq_toUTF8 s).symm))
  · intro ws
    rw [step_eq hvalid]
    refine ⟨fun s => ⟨fun hdone => ?_, fun hahead => ?_⟩,
      fun s => Workspace.step_text_done hvalid hr, Workspace.step_text_failed hvalid hr⟩
    · rw [Workspace.step_text hvalid hr] at hdone
      cases hdecode : Encoding.utf8.decode (r.ahead (Workspace.run {} setup).2.memory) with
      | ok t =>
        rw [hdecode] at hdone
        cases hdone
        exact decode_utf8_eq_ok_iff.1 hdecode
      | error e =>
        rw [hdecode] at hdone
        cases hdone
    · rw [Workspace.step_text_done hvalid hr hahead]
  · intro ws
    rw [run_eq hvalid (texts.map (.putText writer))]
    intro written kept
    have hafter : written.2.Valid := Workspace.run_valid hvalid _
    refine ⟨fun hroom => ?_, fun reader make hmake => ?_⟩
    · refine Workspace.acceptedTexts_eq hvalid hw ?_
      rw [Utf8.encode_eq_toUTF8]
      exact hroom
    · rw [run_eq hafter]
      exact Workspace.run_read_texts hvalid hw texts reader hmake

/-- A writer with room for four octets from the second of six on. -/
def textRoom : List Operation :=
  [.allocate "array" .heap [0, 0, 0, 0, 0, 0], .wrapArray "writer" .writer "array" 1 5,
    .move "writer" (.setPosition 1), .make "cut" .reader .direct [0xe2, 0x82]]

/-- A text of one octet and one of three are read back as one, and the first two of those three
octets are not read as text. -/
theorem text_reads_utf8_textRoom :
    (∀ s, (step (run {} textRoom).2 (.text "cut" .utf8)).1 ≠ .done (.text s)) ∧
    ∃ after last,
      run (run (run {} textRoom).2 [.putText "writer" "a", .putText "writer" "€"]).2
        [.intoReader "reader" "writer", .move "reader" (.setPosition 1), .text "reader" .utf8] =
          ([.done .nothing, .done .nothing, .done (.text "a€")], after) ∧
      after.find? "reader" = some (.reader last) ∧
      last.cursor.position = last.cursor.limit := by
  obtain ⟨haccepts, hrefuses, hread, hwrite⟩ := text_reads_utf8 textRoom
  constructor
  · intro s hdone
    have hcut : Utf8.IllFormed ((Utf8.encodeChar '€').take 2 ++ []) :=
      .truncated '€' (by decide) fun b hb => by cases hb
    have hahead := ((hread "cut" ⟨1, 0, .new 2⟩ rfl).1 s).1 hdone
    exact hrefuses "" _ hcut s ((haccepts _ s).2 hahead)
  · obtain ⟨hroom, hback⟩ := hwrite "writer" ⟨0, 1, ⟨1, 5, 5, none⟩⟩ ["a", "€"] rfl
    have hkept := hroom (by decide)
    have hjoined := hback "reader" .intoReader (.inr rfl)
    rw [hkept] at hjoined
    exact hjoined

end InPlace

end AmqpClient.Buffer
