import AmqpClient.Proofs.ReadStream
import AmqpClient.Proofs.RoundTrip

/-!
# Forwarding octets as scalars

Octets that are read as scalars of any types, and written again as the same scalars, arrive as they
were: no bit pattern is lost on the way, be it a negative number, a zero with a sign or one of the
many that are no number. So the scalars that are read determine the octets.
-/

namespace AmqpClient

/-- How many octets scalars of these types take. -/
def ScalarType.totalWidth : List ScalarType → Nat
  | [] => 0
  | t :: types => t.width + totalWidth types

namespace Scalar

/-- The scalars of these types that octets stand for, one after another. -/
def decodeAll : List ScalarType → List UInt8 → List Scalar
  | [], _ => []
  | t :: types, bytes => decode t (bytes.take t.width) :: decodeAll types (bytes.drop t.width)

lemma map_type_decodeAll (types : List ScalarType) (bytes : List UInt8) :
    (decodeAll types bytes).map type = types := by
  induction types generalizing bytes with
  | nil => rfl
  | cons t types ih => rw [decodeAll, List.map_cons, type_decode, ih]

/-- Encoding gives back the octets that were decoded. -/
theorem flatMap_encode_decodeAll {types : List ScalarType} {bytes : List UInt8}
    (h : ScalarType.totalWidth types ≤ bytes.length) :
    (decodeAll types bytes).flatMap encode = bytes.take (ScalarType.totalWidth types) := by
  induction types generalizing bytes with
  | nil => rfl
  | cons t types ih =>
    rw [ScalarType.totalWidth] at h ⊢
    have hfirst : (bytes.take t.width).length = t.width := by
      rw [List.length_take]
      omega
    have hrest : ScalarType.totalWidth types ≤ (bytes.drop t.width).length := by
      rw [List.length_drop]
      omega
    rw [decodeAll, List.flatMap_cons, encode_decode hfirst, ih hrest, List.take_add]

end Scalar

namespace Buffer

lemma Read.total_map_scalar (types : List ScalarType) :
    total (types.map scalar) = ScalarType.totalWidth types := by
  induction types with
  | nil => rfl
  | cons t types ih =>
    rw [List.map_cons, total, ih]
    rfl

/-- Scalars are read in order from one view, and scalars are written in order to another one. Reads
and writes may alternate in any way, and all of them succeed. -/
inductive Forwarding (source target : String) :
    List Scalar → List Scalar → List (Operation × Reply) → Prop
  | nil : Forwarding source target [] [] []
  | read {reads writes : List Scalar} {rest : List (Operation × Reply)} (s : Scalar)
    (h : Forwarding source target reads writes rest) :
    Forwarding source target (s :: reads) writes
      ((.take source s.type, .done (.scalar s)) :: rest)
  | write {reads writes : List Scalar} {rest : List (Operation × Reply)} (s : Scalar)
    (h : Forwarding source target reads writes rest) :
    Forwarding source target reads (s :: writes) ((.put target s, .done .nothing) :: rest)

lemma View.ahead_replace_of_ne {v : View} {m : Memory} {id : RegionId} {index : Nat}
    {bytes : List UInt8} (hroom : index + bytes.length ≤ m.size id) (h : v.region ≠ id) :
    v.ahead (m.replace id index bytes) = v.ahead m := by
  apply ahead_congr
  rw [Memory.content_replace hroom, if_neg h]

namespace Workspace

variable {ws : Workspace} {source target : String} {r : Reader} {w : Writer}

/-- Reads and writes over two regions do not disturb each other: the reads answer what is ahead, and
the writes leave their octets one after another. -/
lemma run_forwarding (h : ws.Valid) (hr : ws.find? source = some (.reader r))
    (hw : ws.find? target = some (.writer w)) (hregion : r.region ≠ w.region)
    {reads writes : List Scalar} {transcript : List (Operation × Reply)}
    (ht : Forwarding source target reads writes transcript) {rest : List UInt8}
    (hahead : r.ahead ws.memory = reads.flatMap Scalar.encode ++ rest)
    (hroom : (writes.flatMap Scalar.encode).length ≤ w.cursor.remaining) :
    (ws.run (transcript.map Prod.fst)).1 = transcript.map Prod.snd ∧
      (ws.run (transcript.map Prod.fst)).2.find? source =
        some (.reader (r.skip (reads.flatMap Scalar.encode).length)) ∧
      ws.Written target w (writes.flatMap Scalar.encode) (ws.run (transcript.map Prod.fst)).2 := by
  have hne : source ≠ target := by
    intro he
    rw [he, hw] at hr
    cases hr
  induction ht generalizing ws r w with
  | nil => exact ⟨rfl, hr, written_nil hw⟩
  | @read reads writes transcript s _ ih =>
    have hfits : r.Fits ws.memory := h source _ hr
    rw [List.flatMap_cons, List.append_assoc] at hahead
    have hstep := step_read hr hfits (.scalar s) hahead
    change ws.step (.take source s.type) =
      (.done (.scalar s), ws.bind source (.reader (r.skip s.encode.length))) at hstep
    have hvalid := (step_sound h (.take source s.type)).valid
    rw [hstep] at hvalid
    have hrest : (r.skip s.encode.length).ahead ws.memory =
        reads.flatMap Scalar.encode ++ rest := by
      rw [Reader.ahead_skip, hahead, List.drop_left]
    have hr' : (ws.bind source (.reader (r.skip s.encode.length))).find? source =
        some (.reader (r.skip s.encode.length)) := by
      rw [find?_bind, if_pos rfl]
    have hw' : (ws.bind source (.reader (r.skip s.encode.length))).find? target =
        some (.writer w) := by
      rw [find?_bind, if_neg hne.symm, hw]
    obtain ⟨hreplies, hsource, hwritten⟩ := ih hvalid hr' hw' hregion hrest hroom
    rw [List.map_cons, List.map_cons, List.flatMap_cons, run_cons, hstep]
    refine ⟨by rw [hreplies], ?_, hwritten.fits, hwritten.found, hwritten.memory_eq⟩
    rw [hsource, Reader.skip_skip, List.length_append]
  | @write reads writes transcript s _ ih =>
    have hfits : w.Fits ws.memory := h target _ hw
    rw [List.flatMap_cons, List.length_append] at hroom
    have hl : s.encode.length ≤ w.cursor.remaining := by omega
    have hstep := step_write h hw (.scalar s)
    change ws.step (.put target s) = if s.encode.length ≤ w.cursor.remaining then
      (_, { ws with memory := ws.memory.replace w.region w.index s.encode }.bind target
        (.writer (w.skip s.encode.length))) else _ at hstep
    rw [if_pos hl] at hstep
    have hvalid := (step_sound h (.put target s)).valid
    rw [hstep] at hvalid
    have hsame := View.ahead_replace_of_ne (hfits.index_add_le hl) hregion
    have hleft : (writes.flatMap Scalar.encode).length ≤
        (w.skip s.encode.length).cursor.remaining := by
      have hskip := w.cursor.remaining_skip s.encode.length
      change _ ≤ (w.cursor.skip s.encode.length).remaining
      omega
    generalize hnext : { ws with memory := ws.memory.replace w.region w.index s.encode }.bind target
      (.writer (w.skip s.encode.length)) = next at *
    have hr' : next.find? source = some (.reader r) := by
      rw [← hnext, find?_bind, if_neg hne]
      exact hr
    have hw' : next.find? target = some (.writer (w.skip s.encode.length)) := by
      rw [← hnext, find?_bind, if_pos rfl]
    have hmemory : next.memory = ws.memory.replace w.region w.index s.encode := by
      rw [← hnext, memory_bind]
    rw [← hmemory] at hsame
    obtain ⟨hreplies, hsource, hwritten⟩ :=
      ih hvalid hr' hw' hregion (hsame.trans hahead) hleft
    rw [List.map_cons, List.map_cons, List.flatMap_cons, run_cons, hstep]
    exact ⟨by rw [hreplies], hsource, .cons hfits hl hmemory hwritten⟩

/-- What scalars of these types have been read shows the octets. -/
lemma gotAll_run_take (h : ws.Valid) (hr : ws.find? source = some (.reader r))
    {types : List ScalarType} (hread : ScalarType.totalWidth types ≤ r.cursor.remaining) :
    Read.gotAll (types.map .scalar) (ws.run (types.map (.take source))).1 =
      (r.ahead ws.memory).take (ScalarType.totalWidth types) := by
  have hfits : r.Fits ws.memory := h source _ hr
  have hops : (types.map Read.scalar).map (·.operation source) = types.map (.take source) := by
    rw [List.map_map]
    rfl
  have hplace : ∀ read ∈ types.map Read.scalar, read.hasPlace := by
    intro read hmem
    obtain ⟨t, -, rfl⟩ := List.mem_map.1 hmem
    rfl
  have hsum : Read.total (types.map Read.scalar) ≤ (r.ahead ws.memory).length := by
    rw [Read.total_map_scalar, hfits.length_ahead]
    exact hread
  obtain ⟨hreplies, -, hahead⟩ := run_read_operations h hr (types.map Read.scalar)
  have hlength := Read.length_gotAll_replies r.cursor.limit hplace hsum
  rw [← hreplies, hops, Read.total_map_scalar] at hlength
  rw [hops] at hahead
  rw [hahead, ← hlength, List.take_left]

end Workspace

namespace InPlace

/-- After any operations whatever, let scalars of any types be read where enough is ahead, and be
written over another region where there is enough room. The octets written are those read, in
whichever way the reads and the writes alternate, and nothing else is written. Wherever reads of
these types get the same replies, the octets are the same. -/
theorem forwarded_octets (setup : List Operation) (source target : String) (r : Reader) (w : Writer)
    (types : List ScalarType) (hr : (run {} setup).2.find? source = some (.reader r))
    (hw : (run {} setup).2.find? target = some (.writer w)) (hregion : r.region ≠ w.region)
    (hread : ScalarType.totalWidth types ≤ r.cursor.remaining)
    (hroom : ScalarType.totalWidth types ≤ w.cursor.remaining) :
    let before := (run {} setup).2
    let length := ScalarType.totalWidth types
    let values := Scalar.decodeAll types (r.ahead before.memory)
    values.map Scalar.type = types ∧
    (∀ transcript, Forwarding source target values values transcript →
      let result := run before (transcript.map Prod.fst)
      result.1 = transcript.map Prod.snd ∧
      ((result.2.memory.content w.region).drop w.index).take length =
        (r.ahead before.memory).take length ∧
      (∀ id i, id ≠ w.region ∨ i < w.index ∨ w.index + length ≤ i →
        (result.2.memory.content id)[i]? = (before.memory.content id)[i]?) ∧
      result.2.find? source = some (.reader (r.skip length)) ∧
      result.2.find? target = some (.writer (w.skip length))) ∧
    ∀ (other : List Operation) (name : String) (s : Reader),
      (run {} other).2.find? name = some (.reader s) → length ≤ s.cursor.remaining →
      (run (run {} other).2 (types.map (.take name))).1 =
        (run before (types.map (.take source))).1 →
      (s.ahead (run {} other).2.memory).take length = (r.ahead before.memory).take length := by
  simp only [run_eq Workspace.valid_empty] at hr hw ⊢
  have hvalid := Workspace.run_valid Workspace.valid_empty setup
  generalize (Workspace.run {} setup).2 = before at *
  have hreads : r.Fits before.memory := hvalid source _ hr
  have hwrites : w.Fits before.memory := hvalid target _ hw
  have hlength : ScalarType.totalWidth types ≤ (r.ahead before.memory).length := by
    rw [hreads.length_ahead]
    exact hread
  have hencode := Scalar.flatMap_encode_decodeAll hlength
  have htake : ((r.ahead before.memory).take (ScalarType.totalWidth types)).length =
      ScalarType.totalWidth types := List.length_take_of_le hlength
  refine ⟨Scalar.map_type_decodeAll _ _, fun transcript ht => ?_,
    fun other name s hs hsread he => ?_⟩
  · have hahead : r.ahead before.memory =
        (Scalar.decodeAll types (r.ahead before.memory)).flatMap Scalar.encode ++
          (r.ahead before.memory).drop (ScalarType.totalWidth types) := by
      rw [hencode, List.take_append_drop]
    have hfit : ((Scalar.decodeAll types (r.ahead before.memory)).flatMap Scalar.encode).length ≤
        w.cursor.remaining := by
      rw [hencode, htake]
      exact hroom
    obtain ⟨hreplies, hsource, hwritten⟩ :=
      Workspace.run_forwarding hvalid hr hw hregion ht hahead hfit
    rw [hencode] at hsource hwritten
    have hslice := hwritten.content_slice hwrites
    have htarget := hwritten.found
    rw [htake] at hsource hslice htarget
    rw [run_eq hvalid]
    refine ⟨hreplies, hslice, fun id i hi => hwritten.getElem?_content hwrites ?_, hsource, htarget⟩
    rw [htake]
    exact hi
  · have hother := Workspace.run_valid Workspace.valid_empty other
    rw [run_eq hvalid, run_eq hother] at he
    rw [← Workspace.gotAll_run_take hother hs hsread, he, Workspace.gotAll_run_take hvalid hr hread]

/-- A reader of seven octets and a writer with room for seven. -/
def betweenRegions : List Operation :=
  [.make "source" .reader .direct [255, 254, 127, 192, 0, 1, 9],
    .make "target" .writer .heap [0, 0, 0, 0, 0, 0, 0, 0], .move "target" (.setPosition 1)]

/-- A negative number and bits that are no number, each written as soon as it is read. -/
theorem forwarded_octets_betweenRegions :
    let result := run (run {} betweenRegions).2
      [.take "source" .short, .put "target" (.short (-2)), .take "source" .float,
        .put "target" (.float 0x7FC00001)]
    result.1 = [.done (.scalar (.short (-2))), .done .nothing,
      .done (.scalar (.float 0x7FC00001)), .done .nothing] ∧
    ((result.2.memory.content 1).drop 1).take 6 = [255, 254, 127, 192, 0, 1] := by
  obtain ⟨-, hforward, -⟩ := forwarded_octets betweenRegions "source" "target" ⟨0, 0, .new 7⟩
    ⟨1, 0, ⟨1, 8, 8, none⟩⟩ [.short, .float] rfl rfl (by decide) (by decide) (by decide)
  have hvalues : Scalar.decodeAll [.short, .float]
      (View.ahead ⟨0, 0, .new 7⟩ (run {} betweenRegions).2.memory) =
        [.short (-2), .float 0x7FC00001] := by decide
  rw [hvalues] at hforward
  obtain ⟨hreplies, hoctets, -⟩ := hforward _ (.read _ (.write _ (.read _ (.write _ .nil))))
  exact ⟨hreplies, hoctets⟩

end InPlace

end Buffer

end AmqpClient
