import AmqpClient.Proofs.ReadStream
import AmqpClient.Proofs.StepFrame

/-!
# Equality of readers

Readers are equal if the same octets remain in them, wherever these lie. Nothing that consumes
octets can tell equal readers apart: it succeeds or fails alike, gives the same values, and leaves
equal readers behind.
-/

namespace AmqpClient.Buffer

/-- The kind of a fault, without the place where an access crosses a bound. -/
def Fault.plain : Fault → Fault
  | .outOfBounds _ _ _ => .outOfBounds 0 0 0
  | f => f

/-- A reply with no more of a fault than its kind. -/
def Reply.plain : Reply → Reply
  | .failed f => .failed f.plain
  | .done (.filled (some f) target) => .done (.filled (some f.plain) target)
  | reply => reply

lemma Read.plain_reply (read : Read) (limit : Nat) (unread : List UInt8) :
    (read.reply limit unread).plain = (read.reply 0 unread).plain := by
  unfold reply
  by_cases h : read.hasPlace ∧ read.width ≤ unread.length
  · rw [if_pos h, if_pos h]
  · rw [if_neg h, if_neg h]
    cases read with
    | scalar t => rfl
    | fill target => rfl
    | fillRange target offset length =>
      rw [fault, fault]
      by_cases hplace : offset + length ≤ target.length
      · rw [if_pos hplace, if_pos hplace]
        rfl
      · rw [if_neg hplace, if_neg hplace]

/-- Ways to consume what is ahead of a reader. -/
inductive Consumption where
  | piece (read : Read)
  | text (encoding : Text.Encoding)
  | drain
  /-- Moves all of it to a writer of a region of its own, which has these octets before. -/
  | transfer (placement : Placement) (room : List UInt8)
  deriving DecidableEq, Repr

namespace Consumption

/-- What is done to consume octets from a reader. A transfer ends with a look at what has become of
the region of its own. -/
def operations (fresh name : String) : Consumption → List Operation
  | piece read => [read.operation name]
  | text encoding => [.text name encoding]
  | drain => [.drain name]
  | transfer placement room =>
    [.make fresh .writer placement room, .transfer name fresh, .toReader fresh fresh,
      .window fresh]

/-- The replies when these octets are unread, up to the places that a fault names. -/
def replies (unread : List UInt8) : Consumption → List Reply
  | piece read => [(read.reply 0 unread).plain]
  | text encoding =>
    match encoding.decode unread with
    | .ok s => [.done (.text s)]
    | .error e => [.failed (.notText e)]
  | drain => [.done (.bytes unread)]
  | transfer _ room =>
    if unread.length ≤ room.length then
      [.done .nothing, .done .nothing, .done .nothing,
        .done (.bytes (Memory.splice room 0 unread))]
    else [.done .nothing, .failed (.outOfBounds 0 0 0), .done .nothing, .done (.bytes room)]

/-- How many of the unread octets are taken. -/
def taken (unread : List UInt8) : Consumption → Nat
  | piece read => read.taken unread
  | text encoding =>
    match encoding.decode unread with
    | .ok _ => unread.length
    | .error _ => 0
  | drain => unread.length
  | transfer _ room => if unread.length ≤ room.length then unread.length else 0

def allReplies : List UInt8 → List Consumption → List (List Reply)
  | _, [] => []
  | unread, c :: rest => c.replies unread :: allReplies (unread.drop (c.taken unread)) rest

/-- What is left of the unread octets. -/
def left : List UInt8 → List Consumption → List UInt8
  | unread, [] => unread
  | unread, c :: rest => left (unread.drop (c.taken unread)) rest

end Consumption

/-- Somebody consumes octets from a reader, or an operation of another kind is performed. -/
inductive Turn where
  | consume (name : String) (c : Consumption)
  | other (op : Operation)

namespace Turn

def operations (fresh : String) : Turn → List Operation
  | consume name c => c.operations fresh name
  | other op => [op]

/-- What is consumed from one reader in turns. -/
def consumptions (name : String) : List Turn → List Consumption
  | [] => []
  | consume n c :: rest =>
    if n = name then c :: consumptions name rest else consumptions name rest
  | other _ :: rest => consumptions name rest

/-- The replies to what is consumed from one reader. -/
def answers (name : String) : List Turn → List (List Reply) → List (List Reply)
  | consume n _ :: rest, replies :: others =>
    if n = name then replies :: answers name rest others else answers name rest others
  | other _ :: rest, _ :: others => answers name rest others
  | _, _ => []

end Turn

/-- A view of a whole region shows the region, wherever it stands. -/
lemma View.windowBytes_whole {v : View} {m : Memory} (hoffset : v.offset = 0)
    (hlength : (m.content v.region).length = v.cursor.capacity) :
    v.windowBytes m = m.content v.region := by
  rw [windowBytes, hoffset, List.drop_zero, ← hlength, List.take_length]

/-- What has been written at the start of a whole region shows in it. -/
lemma Writer.windowBytes_front {m : Memory} {id : RegionId} {room bytes : List UInt8}
    (hroom : m.content id = room) (h : bytes.length ≤ room.length) (length : Nat) :
    (skip ⟨⟨id, 0, .new room.length⟩⟩ length).windowBytes (m.replace id 0 bytes) =
      Memory.splice room 0 bytes := by
  have hsize : 0 + bytes.length ≤ m.size id := by
    rw [Memory.size, hroom, Nat.zero_add]
    exact h
  have hspliced : (m.replace id 0 bytes).content id = Memory.splice room 0 bytes := by
    rw [Memory.content_replace hsize, if_pos rfl, hroom]
  refine (View.windowBytes_whole rfl ?_).trans hspliced
  exact (congrArg List.length hspliced).trans (Memory.length_splice (by omega))

lemma Memory.content_allocate (m : Memory) (region : Region) :
    (m.allocate region).2.content m.regions.length = region.bytes := by
  simp [content, allocate]

namespace Workspace

variable {ws : Workspace} {name fresh key : String} {r : Reader} {w : Writer}

lemma step_same (h : ws.Valid) {other : String} {s : Reader}
    (hr : ws.find? name = some (.reader r)) (hs : ws.find? other = some (.reader s)) :
    ws.step (.same name other) =
      (.done (.flag (r.ahead ws.memory == s.ahead ws.memory)), ws) := by
  have hfits : r.Fits ws.memory := h name _ hr
  have hfits' : s.Fits ws.memory := h other _ hs
  rw [step, same, hr, hs]
  simp only [Reader.sameRemaining_eq hfits hfits']
  rfl

lemma step_duplicate (hr : ws.find? name = some (.reader r)) (copy : String) :
    ws.step (.duplicate copy name) = (.done .nothing, ws.bind copy (.reader r)) := by
  rw [step, derive, hr]
  rfl

lemma step_text (h : ws.Valid) (hr : ws.find? name = some (.reader r))
    (encoding : Text.Encoding) :
    ws.step (.text name encoding) = match encoding.decode (r.ahead ws.memory) with
      | .ok s => (.done (.text s), ws.bind name (.reader (r.skip r.cursor.remaining)))
      | .error e => (.failed (.notText e), ws) := by
  have hfits : r.Fits ws.memory := h name _ hr
  rw [step, readFrom, hr]
  simp only [Reader.text_eq hfits]
  cases encoding.decode (r.ahead ws.memory) <;> rfl

lemma step_drain (h : ws.Valid) (hr : ws.find? name = some (.reader r)) :
    ws.step (.drain name) = (.done (.bytes (r.ahead ws.memory)),
      ws.bind name (.reader (r.skip r.cursor.remaining))) := by
  have hfits : r.Fits ws.memory := h name _ hr
  rw [step, readFrom, hr]
  simp only [Reader.drain_eq hfits]
  rfl

/-- A writer of a whole region of its own. -/
lemma step_make (ws : Workspace) (fresh : String) (placement : Placement) (room : List UInt8) :
    ws.step (.make fresh .writer placement room) = (.done .nothing,
      { ws with memory := (ws.memory.allocate ⟨placement, room⟩).2 }.bind fresh
        (.writer ⟨⟨ws.memory.regions.length, 0, .new room.length⟩⟩)) := by
  have hsize : (ws.memory.allocate ⟨placement, room⟩).2.size ws.memory.regions.length =
      room.length := by
    rw [Memory.size, Memory.content_allocate]
  rw [← hsize]
  rfl

/-- A look at the window of a writer. -/
lemma run_show (h : ws.Valid) (hw : ws.find? fresh = some (.writer w)) :
    ws.run [.toReader fresh fresh, .window fresh] =
      ([.done .nothing, .done (.bytes (w.windowBytes ws.memory))],
        ws.bind fresh (.reader w.toReader)) := by
  have hfits : w.toReader.Fits ws.memory := Writer.fits_toReader (h fresh _ hw)
  have hfirst : ws.step (.toReader fresh fresh) =
      (.done .nothing, ws.bind fresh (.reader w.toReader)) := by
    rw [step, derive, hw]
    rfl
  have hsecond : (ws.bind fresh (.reader w.toReader)).step (.window fresh) =
      (.done (.bytes (w.windowBytes ws.memory)), ws.bind fresh (.reader w.toReader)) := by
    rw [step, inspect, find?_bind, if_pos rfl]
    simp only [Option.bind_some, memory_bind, View.Fits.content_eq hfits]
    rfl
  rw [run_cons, hfirst, run_cons, hsecond]
  rfl

/-- A transfer, and then a look at what has become of the window that it went to. -/
lemma run_transfer_show (h : ws.Valid) (hr : ws.find? name = some (.reader r))
    (hw : ws.find? fresh = some (.writer w)) :
    let result := ws.run [.transfer name fresh, .toReader fresh fresh, .window fresh]
    if r.cursor.remaining ≤ w.cursor.remaining then
      result.1 = [.done .nothing, .done .nothing,
        .done (.bytes ((w.skip r.cursor.remaining).windowBytes
          (ws.memory.replace w.region w.index (r.ahead ws.memory))))] ∧
      result.2.find? name = some (.reader (r.skip r.cursor.remaining))
    else
      result.1 = [.failed (.outOfBounds w.cursor.position r.cursor.remaining w.cursor.limit),
        .done .nothing, .done (.bytes (w.windowBytes ws.memory))] ∧
      result.2.find? name = some (.reader r) := by
  have hname : name ≠ fresh := by
    intro he
    rw [he, hw] at hr
    cases hr
  have htransfer := step_transfer h hr hw
  have hafter := (step_sound h (.transfer name fresh)).valid
  rw [run_cons]
  by_cases hl : r.cursor.remaining ≤ w.cursor.remaining
  · rw [if_pos hl] at htransfer ⊢
    rw [htransfer] at hafter ⊢
    rw [run_show hafter (by rw [find?_bind, if_pos rfl])]
    refine ⟨rfl, ?_⟩
    rw [find?_bind, if_neg hname, find?_bind, if_neg hname, find?_bind, if_pos rfl]
  · rw [if_neg hl] at htransfer ⊢
    rw [htransfer] at hafter ⊢
    rw [run_show hafter hw]
    refine ⟨rfl, ?_⟩
    rw [find?_bind, if_neg hname]
    exact hr

/-! ### What a consumption does -/

lemma run_freshTransfer (h : ws.Valid) (hr : ws.find? name = some (.reader r))
    (hname : name ≠ fresh) (placement : Placement) (room : List UInt8) :
    let c := Consumption.transfer placement room
    (ws.run (c.operations fresh name)).1.map Reply.plain = c.replies (r.ahead ws.memory) ∧
      (ws.run (c.operations fresh name)).2.find? name =
        some (.reader (r.skip (c.taken (r.ahead ws.memory)))) := by
  have hfits : r.Fits ws.memory := h name _ hr
  have hlength := hfits.length_ahead
  have hmake := step_make ws fresh placement room
  have hvalid := (step_sound h (.make fresh .writer placement room)).valid
  rw [hmake] at hvalid
  have hahead : r.ahead (ws.memory.allocate ⟨placement, room⟩).2 = r.ahead ws.memory :=
    View.ahead_congr (octets_allocate ws.memory ⟨placement, room⟩ hfits.exists_region)
  have hcontent : (ws.memory.allocate ⟨placement, room⟩).2.content ws.memory.regions.length =
      room := Memory.content_allocate ..
  generalize ws.memory.regions.length = id at *
  generalize (ws.memory.allocate ⟨placement, room⟩).2 = made at *
  have hr' : ({ ws with memory := made }.bind fresh (.writer ⟨⟨id, 0, .new room.length⟩⟩)).find?
      name = some (.reader r) := by
    rw [find?_bind, if_neg hname]
    exact hr
  have hw' : ({ ws with memory := made }.bind fresh (.writer ⟨⟨id, 0, .new room.length⟩⟩)).find?
      fresh = some (.writer ⟨⟨id, 0, .new room.length⟩⟩) := by
    rw [find?_bind, if_pos rfl]
  have hresult := run_transfer_show hvalid hr' hw'
  simp only [memory_bind, hahead] at hresult
  intro c
  rw [Consumption.operations, run_cons, hmake, Consumption.replies, Consumption.taken, hlength]
  by_cases hl : r.cursor.remaining ≤ room.length
  · have hroom : r.cursor.remaining ≤ (Cursor.new room.length).remaining := hl
    have hindex : View.index ⟨id, 0, .new room.length⟩ = 0 := rfl
    have hfit : (r.ahead ws.memory).length ≤ room.length := Nat.le_trans (Nat.le_of_eq hlength) hl
    have hshown := Writer.windowBytes_front hcontent hfit r.cursor.remaining
    rw [if_pos hroom, hindex, hshown] at hresult
    rw [if_pos hl, if_pos hl, hresult.1]
    exact ⟨rfl, hresult.2⟩
  · have hroom : ¬r.cursor.remaining ≤ (Cursor.new room.length).remaining := hl
    have hshown : View.windowBytes ⟨id, 0, .new room.length⟩ made = room :=
      (View.windowBytes_whole rfl (congrArg List.length hcontent)).trans hcontent
    rw [if_neg hroom, hshown] at hresult
    rw [if_neg hl, if_neg hl, hresult.1]
    exact ⟨rfl, hresult.2⟩

/-- The replies and what is left depend on nothing but the unread octets. -/
lemma run_consumption (h : ws.Valid) (hr : ws.find? name = some (.reader r))
    (hname : name ≠ fresh) (c : Consumption) :
    (ws.run (c.operations fresh name)).1.map Reply.plain = c.replies (r.ahead ws.memory) ∧
      (ws.run (c.operations fresh name)).2.find? name =
        some (.reader (r.skip (c.taken (r.ahead ws.memory)))) := by
  have hfits : r.Fits ws.memory := h name _ hr
  have hlength := hfits.length_ahead
  cases c with
  | piece read =>
    rw [Consumption.operations, run_cons, step_read_operation hr hfits read]
    refine ⟨congrArg (fun reply => [reply]) (read.plain_reply _ _), ?_⟩
    exact (find?_bind ..).trans (if_pos rfl)
  | text encoding =>
    have hstep := step_text h hr encoding
    rw [Consumption.operations, run_cons, Consumption.replies, Consumption.taken, hlength]
    cases he : encoding.decode (r.ahead ws.memory) with
    | ok s =>
      rw [he] at hstep
      rw [hstep]
      exact ⟨rfl, (find?_bind ..).trans (if_pos rfl)⟩
    | error e =>
      rw [he] at hstep
      rw [hstep]
      exact ⟨rfl, hr⟩
  | drain =>
    rw [Consumption.operations, run_cons, step_drain h hr]
    refine ⟨rfl, ?_⟩
    rw [Consumption.taken, hlength]
    exact (find?_bind ..).trans (if_pos rfl)
  | transfer placement room => exact run_freshTransfer h hr hname placement room

/-- Consuming writes to no region that is there. -/
lemma content_consumption (h : ws.Valid) (c : Consumption) {id : RegionId}
    (hid : id < ws.memory.regions.length) :
    (ws.run (c.operations fresh name)).2.memory.content id = ws.memory.content id := by
  cases c with
  | piece read =>
    have hquiet : (ws.step (read.operation name)).2.memory = ws.memory := by
      cases read <;> exact memory_step rfl rfl
    exact congrArg (·.content id) hquiet
  | text encoding =>
    have hquiet : (ws.step (.text name encoding)).2.memory = ws.memory := memory_step rfl rfl
    exact congrArg (·.content id) hquiet
  | drain =>
    have hquiet : (ws.step (.drain name)).2.memory = ws.memory := memory_step rfl rfl
    exact congrArg (·.content id) hquiet
  | transfer placement room =>
    have hmake := step_make ws fresh placement room
    have hsound := step_sound h (.make fresh .writer placement room)
    have hfirst := octets_allocate ws.memory ⟨placement, room⟩ hid
    rw [Consumption.operations, run_cons, run_cons, run_cons, run_cons]
    simp only [run]
    rw [memory_step rfl rfl, memory_step rfl rfl, ← hfirst]
    have hmemory : (ws.step (.make fresh .writer placement room)).2.memory =
        (ws.memory.allocate ⟨placement, room⟩).2 := by
      rw [hmake, memory_bind]
    rw [← hmemory]
    refine List.ext_getElem? fun i => ?_
    refine octets_step hsound.valid _ (Nat.lt_of_lt_of_le hid hsound.grows.count_le) ?_
    -- the transfer reports a range of the last region, which has just been added
    intro start length hreports
    generalize (step _ _).1 = reply at hreports
    cases hreports with
    | transfer hr hw =>
      rw [hmake, find?_bind, if_pos rfl] at hw
      cases hw
      exact absurd hid (Nat.lt_irrefl _)

lemma find?_consumption (c : Consumption) (hname : key ≠ name) (hfresh : key ≠ fresh) :
    (ws.run (c.operations fresh name)).2.find? key = ws.find? key := by
  refine find?_run fun op hop => ?_
  cases c with
  | piece read =>
    obtain rfl := List.mem_singleton.1 hop
    cases read <;> simp [Read.operation, Operation.replaced, Operation.moved, hname]
  | text encoding =>
    obtain rfl := List.mem_singleton.1 hop
    simp [Operation.replaced, Operation.moved, hname]
  | drain =>
    obtain rfl := List.mem_singleton.1 hop
    simp [Operation.replaced, Operation.moved, hname]
  | transfer placement room =>
    simp only [Consumption.operations, List.mem_cons, List.not_mem_nil, or_false] at hop
    rcases hop with rfl | rfl | rfl | rfl <;>
      simp [Operation.replaced, Operation.moved, hname, hfresh]

end Workspace

namespace InPlace

/-- Takes turns, and gives the replies in each of them. -/
def play (fresh : String) (ws : Workspace) : List Turn → List (List Reply) × Workspace
  | [] => ([], ws)
  | turn :: rest =>
    let (replies, ws) := run ws (turn.operations fresh)
    let (others, ws) := play fresh ws rest
    (replies :: others, ws)

/-- An operation neither moves nor replaces a reader, and the octets of its region are as they were
afterwards. -/
structure LeavesAlone (ws : Workspace) (op : Operation) (name : String) : Prop where
  not_replaced : name ∉ op.replaced
  not_moved : name ∉ op.moved
  content_eq : ∀ r, ws.find? name = some (.reader r) →
    (step ws op).2.memory.content r.region = ws.memory.content r.region

/-- Whatever is done in turns besides consuming octets leaves a reader alone. -/
def Undisturbed (fresh name : String) (ws : Workspace) : List Turn → Prop
  | [] => True
  | .consume n c :: rest => Undisturbed fresh name (run ws (c.operations fresh n)).2 rest
  | .other op :: rest => LeavesAlone ws op name ∧ Undisturbed fresh name (step ws op).2 rest

/-- Two readers that are found to be equal. -/
structure EqualReaders (ws : Workspace) (name other : String) : Prop where
  first : ∃ r, ws.find? name = some (.reader r)
  second : ∃ s, ws.find? other = some (.reader s)
  found_equal : (step ws (.same name other)).1 = .done (.flag true)

variable {ws : Workspace} {name other fresh : String} {r s : Reader}

lemma equalReaders_iff (h : ws.Valid) (hr : ws.find? name = some (.reader r))
    (hs : ws.find? other = some (.reader s)) :
    EqualReaders ws name other ↔ r.ahead ws.memory = s.ahead ws.memory := by
  have hstep := Workspace.step_same h hr hs
  rw [← step_eq h] at hstep
  constructor
  · intro he
    have hflag := he.found_equal
    rw [hstep] at hflag
    injection hflag with hflag
    injection hflag with hflag
    exact eq_of_beq hflag
  · intro he
    refine ⟨⟨r, hr⟩, ⟨s, hs⟩, ?_⟩
    rw [hstep, he, beq_self_eq_true]

/-- What a reader answers in turns is a matter of its unread octets and of what is consumed. -/
lemma play_consumptions (h : ws.Valid) (hr : ws.find? name = some (.reader r))
    (hname : name ≠ fresh) {turns : List Turn} (hu : Undisturbed fresh name ws turns) :
    let result := play fresh ws turns
    let consumed := Turn.consumptions name turns
    (Turn.answers name turns result.1).map (·.map Reply.plain) =
        Consumption.allReplies (r.ahead ws.memory) consumed ∧
      result.2.Valid ∧ ∃ s, result.2.find? name = some (.reader s) ∧
        s.ahead result.2.memory = Consumption.left (r.ahead ws.memory) consumed := by
  induction turns generalizing ws r with
  | nil => exact ⟨rfl, h, r, hr, rfl⟩
  | cons turn rest ih =>
    have hexists := (h name _ hr : r.Fits ws.memory).exists_region
    cases turn with
    | consume n c =>
      have hvalid := Workspace.run_valid h (c.operations fresh n)
      have hcontent : (ws.run (c.operations fresh n)).2.memory.content r.region =
          ws.memory.content r.region := Workspace.content_consumption h c hexists
      rw [Undisturbed, run_eq h] at hu
      simp only [play, Turn.operations, Turn.consumptions, Turn.answers, run_eq h]
      by_cases hn : n = name
      · subst hn
        obtain ⟨hreplies, hafter⟩ := Workspace.run_consumption h hr hname c
        have hahead : (r.skip (c.taken (r.ahead ws.memory))).ahead
            (ws.run (c.operations fresh n)).2.memory =
              (r.ahead ws.memory).drop (c.taken (r.ahead ws.memory)) := by
          rw [← Reader.ahead_skip]
          exact View.ahead_congr hcontent
        obtain ⟨hothers, hrest⟩ := ih hvalid hafter hu
        rw [hahead] at hothers hrest
        rw [if_pos rfl, if_pos rfl, List.map_cons, hreplies, hothers]
        exact ⟨rfl, hrest⟩
      · have hafter : (ws.run (c.operations fresh n)).2.find? name = some (.reader r) :=
          (Workspace.find?_consumption c (Ne.symm hn) hname).trans hr
        have hsame : r.ahead _ = r.ahead ws.memory := View.ahead_congr hcontent
        have hrest := ih hvalid hafter hu
        rw [hsame] at hrest
        rw [if_neg hn, if_neg hn]
        exact hrest
    | other op =>
      have hvalid := (Workspace.step_sound h op).valid
      obtain ⟨halone, hu⟩ := hu
      have hcontent := halone.content_eq r hr
      rw [step_eq h] at hu hcontent
      have hafter := (Workspace.find?_step op (fun hmem => absurd hmem halone.not_replaced)
        halone.not_moved).trans hr
      have hrest := ih hvalid hafter hu
      have hsame : r.ahead (ws.step op).2.memory = r.ahead ws.memory := View.ahead_congr hcontent
      rw [hsame] at hrest
      have hrun : run ws [op] = ([(ws.step op).1], (ws.step op).2) := by
        rw [run_eq h]
        rfl
      simp only [play, Turn.operations, Turn.consumptions, Turn.answers, hrun]
      exact hrest

/-- A reader, its duplicate and its slice. -/
lemma ahead_duplicate_slice (h : ws.Valid) (hr : ws.find? name = some (.reader r))
    (copy part : String) {key : String} (hkey : key = name ∨ key = copy ∨ key = part) :
    ∃ s, (run ws [.duplicate copy name, .slice part name]).2.find? key = some (.reader s) ∧
      s.ahead (run ws [.duplicate copy name, .slice part name]).2.memory = r.ahead ws.memory := by
  have hcopy := Workspace.step_duplicate hr copy
  have hsource : (ws.bind copy (.reader r)).find? name = some (.reader r) := by
    rw [Workspace.find?_bind, hr]
    split <;> rfl
  have hpart : (ws.bind copy (.reader r)).step (.slice part name) =
      (.done .nothing, (ws.bind copy (.reader r)).bind part (.reader r.slice)) := by
    rw [Workspace.step, Workspace.derive, hsource]
    rfl
  have hrun : (run ws [.duplicate copy name, .slice part name]).2 =
      (ws.bind copy (.reader r)).bind part (.reader r.slice) := by
    rw [run_eq h, Workspace.run_cons, hcopy, Workspace.run_cons, hpart]
    rfl
  rw [hrun, Workspace.find?_bind]
  by_cases hlast : key = part
  · rw [if_pos hlast]
    exact ⟨r.slice, rfl, rfl⟩
  · rw [if_neg hlast]
    refine ⟨r, ?_, rfl⟩
    rcases hkey with rfl | rfl | hpart
    · exact hsource
    · rw [Workspace.find?_bind, if_pos rfl]
    · exact absurd hpart hlast

namespace EqualReaders

lemma symm (h : ws.Valid) (he : EqualReaders ws name other) : EqualReaders ws other name := by
  obtain ⟨r, hr⟩ := he.first
  obtain ⟨s, hs⟩ := he.second
  exact (equalReaders_iff h hs hr).2 ((equalReaders_iff h hr hs).1 he).symm

lemma trans (h : ws.Valid) {third : String} (he : EqualReaders ws name other)
    (he' : EqualReaders ws other third) : EqualReaders ws name third := by
  obtain ⟨r, hr⟩ := he.first
  obtain ⟨s, hs⟩ := he.second
  obtain ⟨t, ht⟩ := he'.second
  have hfirst := (equalReaders_iff h hr hs).1 he
  have hsecond := (equalReaders_iff h hs ht).1 he'
  exact (equalReaders_iff h hr ht).2 (hfirst.trans hsecond)

lemma duplicate_slice (h : ws.Valid) (hr : ws.find? name = some (.reader r))
    (copy part : String) :
    let made := (run ws [.duplicate copy name, .slice part name]).2
    EqualReaders made name copy ∧ EqualReaders made copy part := by
  have hmade := Workspace.run_valid h [.duplicate copy name, .slice part name]
  rw [← run_eq h] at hmade
  obtain ⟨s, hs, hahead⟩ := ahead_duplicate_slice h hr copy part (.inl rfl)
  obtain ⟨t, ht, hahead'⟩ := ahead_duplicate_slice h hr copy part (.inr (.inl rfl))
  obtain ⟨u, hu, hahead''⟩ := ahead_duplicate_slice h hr copy part (.inr (.inr rfl))
  exact ⟨(equalReaders_iff hmade hs ht).2 (hahead.trans hahead'.symm),
    (equalReaders_iff hmade ht hu).2 (hahead'.trans hahead''.symm)⟩

/-- Equal readers from which the same is consumed answer alike and stay equal. -/
lemma play (h : ws.Valid) (he : EqualReaders ws name other) (hname : name ≠ fresh)
    (hother : other ≠ fresh) {turns : List Turn} (hu : Undisturbed fresh name ws turns)
    (hu' : Undisturbed fresh other ws turns)
    (hsame : Turn.consumptions name turns = Turn.consumptions other turns) :
    let result := InPlace.play fresh ws turns
    (Turn.answers name turns result.1).map (·.map Reply.plain) =
        (Turn.answers other turns result.1).map (·.map Reply.plain) ∧
      EqualReaders result.2 name other := by
  obtain ⟨r, hr⟩ := he.first
  obtain ⟨s, hs⟩ := he.second
  have hahead := (equalReaders_iff h hr hs).1 he
  obtain ⟨hanswers, hafter, r', hr', hleft⟩ := play_consumptions h hr hname hu
  obtain ⟨hanswers', -, s', hs', hleft'⟩ := play_consumptions h hs hother hu'
  rw [hsame, hahead] at hanswers hleft
  exact ⟨hanswers.trans hanswers'.symm,
    (equalReaders_iff hafter hr' hs').2 (hleft.trans hleft'.symm)⟩

end EqualReaders

/-- After any operations whatever, readers are found equal if and only if the same octets remain in
them, which is an equivalence, in which a reader is equal to its duplicates and slices. Equal
readers answer alike, up to the places that faults name, to whatever consumes octets, and are equal
readers again then, in whichever turns this is done and whatever else is done that leaves them
alone. -/
theorem equal_readers_congruence (setup : List Operation) :
    let ws := (run {} setup).2
    (∀ first second r s, ws.find? first = some (.reader r) → ws.find? second = some (.reader s) →
      step ws (.same first second) =
        (.done (.flag (r.ahead ws.memory == s.ahead ws.memory)), ws)) ∧
    (∀ name r, ws.find? name = some (.reader r) → EqualReaders ws name name ∧
      ∀ copy part, let made := (run ws [.duplicate copy name, .slice part name]).2
        EqualReaders made name copy ∧ EqualReaders made copy part) ∧
    (∀ first second, EqualReaders ws first second → EqualReaders ws second first) ∧
    (∀ first second third, EqualReaders ws first second → EqualReaders ws second third →
      EqualReaders ws first third) ∧
    ∀ first second fresh turns, EqualReaders ws first second → first ≠ fresh → second ≠ fresh →
      Undisturbed fresh first ws turns → Undisturbed fresh second ws turns →
      Turn.consumptions first turns = Turn.consumptions second turns →
      let result := play fresh ws turns
      (Turn.answers first turns result.1).map (·.map Reply.plain) =
          (Turn.answers second turns result.1).map (·.map Reply.plain) ∧
        EqualReaders result.2 first second := by
  rw [run_eq Workspace.valid_empty]
  have hvalid := Workspace.run_valid Workspace.valid_empty setup
  intro ws
  exact ⟨fun first second r s hr hs =>
      (step_eq hvalid _).trans (Workspace.step_same hvalid hr hs),
    fun name r hr => ⟨(equalReaders_iff hvalid hr hr).2 rfl,
      fun copy part => EqualReaders.duplicate_slice hvalid hr copy part⟩,
    fun _ _ => EqualReaders.symm hvalid, fun _ _ _ => EqualReaders.trans hvalid,
    fun _ _ _ _ he hfirst hsecond => EqualReaders.play hvalid he hfirst hsecond⟩

/-- Readers of the same three octets, one in the middle of an array and one at the end of a region
outside of the heap. -/
def twoPlaces : List Operation :=
  [.allocate "array" .heap [9, 1, 2, 3, 9], .wrapArray "inner" .reader "array" 1 3,
    .make "outer" .reader .direct [7, 7, 1, 2, 3], .move "outer" (.setPosition 2),
    .make "writer" .writer .heap [0, 0]]

/-- A read that succeeds, a read that fails, and a transfer, from both readers in turns. -/
def takingTurns : List Turn :=
  [.other (.put "writer" (.byte 5)), .consume "inner" (.piece (.scalar .byte)),
    .consume "inner" (.piece (.scalar .int)), .consume "outer" (.piece (.scalar .byte)),
    .consume "inner" (.transfer .direct [0, 0, 0]), .consume "outer" (.piece (.scalar .int)),
    .consume "outer" (.transfer .direct [0, 0, 0])]

theorem equal_readers_congruence_twoPlaces :
    let result := play "room" (run {} twoPlaces).2 takingTurns
    Turn.answers "inner" takingTurns result.1 = [[.done (.scalar (.byte 1))],
      [.failed (.outOfBounds 1 4 3)],
      [.done .nothing, .done .nothing, .done .nothing, .done (.bytes [2, 3, 0])]] ∧
    (Turn.answers "inner" takingTurns result.1).map (·.map Reply.plain) =
      (Turn.answers "outer" takingTurns result.1).map (·.map Reply.plain) ∧
    EqualReaders result.2 "inner" "outer" := by
  obtain ⟨-, -, -, -, hcongruence⟩ := equal_readers_congruence twoPlaces
  exact ⟨rfl, hcongruence "inner" "outer" "room" takingTurns ⟨⟨_, rfl⟩, ⟨_, rfl⟩, rfl⟩ (by decide)
    (by decide) ⟨⟨by decide, by decide, fun r hr => by cases hr; rfl⟩, trivial⟩
    ⟨⟨by decide, by decide, fun r hr => by cases hr; rfl⟩, trivial⟩ rfl⟩

end InPlace

end AmqpClient.Buffer
