import AmqpClient.Proofs.Correspondence
import AmqpClient.Proofs.MachineExecution

/-!
# One stream of octets

What lies ahead of a reader is one list of octets, in whichever way it is read: in numbers, into
targets, by index, as a whole, by another reader, or by a writer.
-/

namespace AmqpClient.Buffer

/-- A read that moves past what it reads. -/
inductive Read where
  | scalar (t : ScalarType)
  | fill (target : List UInt8)
  | fillRange (target : List UInt8) (offset length : Nat)
  deriving DecidableEq, Repr

namespace Read

def width : Read → Nat
  | scalar t => t.width
  | fill target => target.length
  | fillRange _ _ length => length

/-- How many octets reads ask for in all. -/
def total : List Read → Nat
  | [] => 0
  | read :: rest => read.width + total rest

def operation (name : String) : Read → Operation
  | scalar t => .take name t
  | fill target => .fill name target
  | fillRange target offset length => .fillRange name target offset length

/-- There is a place in the target for all that is asked for. -/
def hasPlace : Read → Bool
  | fillRange target offset length => offset + length ≤ target.length
  | _ => true

/-- How many octets a read takes: all that it asks for or none. -/
def taken (read : Read) (unread : List UInt8) : Nat :=
  if read.hasPlace ∧ read.width ≤ unread.length then read.width else 0

/-- What octets are read as: a number from the most significant octet on, or a target that they have
been copied into. -/
def value (bytes : List UInt8) : Read → Value
  | scalar t => .scalar (.decode t bytes)
  | fill _ => .filled none bytes
  | fillRange target offset _ => .filled none (Memory.splice target offset bytes)

/-- Why a read takes nothing. -/
def fault (limit : Nat) (unread : List UInt8) : Read → Fault
  | scalar t => .outOfBounds (limit - unread.length) t.width limit
  | fill target => .outOfBounds (limit - unread.length) target.length limit
  | fillRange target offset length =>
    if offset + length ≤ target.length then .outOfBounds (limit - unread.length) length limit
    else .outOfBounds offset length target.length

/-- The reply of a read that takes nothing: a target is as it was. -/
def refusal (f : Fault) : Read → Reply
  | scalar _ => .failed f
  | fill target | fillRange target _ _ => .done (.filled (some f) target)

/-- The reply of a read when so many octets are unread before a limit. -/
def reply (limit : Nat) (unread : List UInt8) (read : Read) : Reply :=
  if read.hasPlace ∧ read.width ≤ unread.length then .done (read.value (unread.take read.width))
  else read.refusal (read.fault limit unread)

def replies (limit : Nat) : List UInt8 → List Read → List Reply
  | _, [] => []
  | unread, read :: rest =>
    read.reply limit unread :: replies limit (unread.drop (read.taken unread)) rest

/-- The octets that a reply shows to have been read. -/
def got : Read → Reply → List UInt8
  | scalar _, .done (.scalar s) => s.encode
  | fill _, .done (.filled none bytes) => bytes
  | fillRange _ offset length, .done (.filled none bytes) => (bytes.drop offset).take length
  | _, _ => []

/-- The octets that replies show to have been read, one after another. -/
def gotAll (reads : List Read) (replies : List Reply) : List UInt8 :=
  (List.zipWith got reads replies).flatten

lemma gotAll_cons (read : Read) (reads : List Read) (reply : Reply) (replies : List Reply) :
    gotAll (read :: reads) (reply :: replies) = read.got reply ++ gotAll reads replies := rfl

lemma taken_le (read : Read) (unread : List UInt8) : read.taken unread ≤ unread.length := by
  unfold taken
  by_cases h : read.hasPlace ∧ read.width ≤ unread.length
  · rw [if_pos h]
    exact h.2
  · rw [if_neg h]
    exact Nat.zero_le _

lemma got_reply (limit : Nat) (unread : List UInt8) (read : Read) :
    read.got (read.reply limit unread) = unread.take (read.taken unread) := by
  unfold reply taken
  by_cases h : read.hasPlace ∧ read.width ≤ unread.length
  · have hlength : (unread.take read.width).length = read.width := List.length_take_of_le h.2
    rw [if_pos h, if_pos h]
    cases read with
    | scalar t => exact Scalar.encode_decode hlength
    | fill target => rfl
    | fillRange target offset length =>
      have hplace : offset + length ≤ target.length := of_decide_eq_true h.1
      change (unread.take length).length = length at hlength
      have hsplice := Memory.take_drop_splice (by omega : offset ≤ target.length)
        (unread.take length)
      rw [hlength] at hsplice
      exact hsplice
  · rw [if_neg h, if_neg h, List.take_zero]
    cases read <;> rfl

/-- Reads that ask for no more than there is in all get all that they ask for. -/
lemma length_gotAll_replies (limit : Nat) {unread : List UInt8} {reads : List Read}
    (hplace : ∀ read ∈ reads, read.hasPlace) (hsum : total reads ≤ unread.length) :
    (gotAll reads (replies limit unread reads)).length = total reads := by
  induction reads generalizing unread with
  | nil => rfl
  | cons read reads ih =>
    rw [total] at hsum ⊢
    have hwidth : read.width ≤ unread.length := by omega
    have htaken : read.taken unread = read.width := if_pos ⟨hplace read List.mem_cons_self, hwidth⟩
    have hleft : total reads ≤ (unread.drop read.width).length := by
      rw [List.length_drop]
      omega
    have hrest := ih (fun other hother => hplace other (List.mem_cons_of_mem _ hother)) hleft
    rw [replies, gotAll_cons, got_reply, htaken, List.length_append,
      List.length_take_of_le hwidth, hrest]

end Read

namespace Reader

variable {r : Reader} {m : Memory}

lemma skip_skip (r : Reader) (first second : Nat) :
    (r.skip first).skip second = r.skip (first + second) := by
  simp only [skip, Cursor.skip, Nat.add_assoc]

/-- The position, by what is ahead. -/
lemma limit_sub_length_ahead (h : r.Fits m) :
    r.cursor.limit - (r.ahead m).length = r.cursor.position := by
  have hp := h.ordered.position_le
  have hlength := h.length_ahead
  unfold Cursor.remaining at hlength
  omega

lemma ahead_slice (r : Reader) (m : Memory) : r.slice.ahead m = r.ahead m := rfl

lemma byteAt_position_add (h : r.Fits m) {i : Nat} (hi : i < (r.ahead m).length) :
    r.byteAt m (r.cursor.position + i) = .ok (r.ahead m)[i] := by
  have hlength := h.length_ahead
  have hremaining : i < r.cursor.remaining := by omega
  have hin : r.cursor.position ≤ r.cursor.position + i ∧
      r.cursor.position + i < r.cursor.limit := by
    unfold Cursor.remaining at hremaining
    omega
  have hindex : r.offset + (r.cursor.position + i) = r.index + i := (Nat.add_assoc _ _ _).symm
  have hoctet := r.ahead_getElem? m hremaining
  rw [byteAt_eq h, if_pos hin, List.getD_eq_getElem?_getD, hindex, ← hoctet,
    List.getElem?_eq_getElem hi, Option.getD_some]

lemma remaining_lt_of_take {first : List UInt8} {next : Reader}
    (h : r.take m 1 = .ok (first, next)) : next.cursor.remaining < r.cursor.remaining := by
  unfold take at h
  rw [Cursor.advance_eq] at h
  by_cases hl : 1 ≤ r.cursor.remaining
  · rw [if_pos hl] at h
    have hskip := r.cursor.remaining_skip 1
    cases hread : m.read r.region r.index 1 with
    | error f =>
      simp only [bind, Except.bind, hread] at h
      cases h
    | ok bytes =>
      simp only [bind, Except.bind, hread] at h
      cases h
      change (r.cursor.skip 1).remaining < _
      omega
  · rw [if_neg hl] at h
    cases h

/-- Takes one octet after the other for as long as something remains, and then makes sure that there
is none. -/
def drainWhile (m : Memory) (r : Reader) : Option (List UInt8 × Reader) :=
  if 0 < r.cursor.remaining then
    match h : r.take m 1 with
    | .ok (first, next) =>
      have := remaining_lt_of_take h
      (drainWhile m next).map fun (rest, last) => (first ++ rest, last)
    | .error _ => none
  else
    match r.take m 1 with
    | .ok _ => none
    | .error _ => some ([], r)
termination_by r.cursor.remaining

lemma drainWhile_eq (h : r.Fits m) :
    drainWhile m r = some (r.ahead m, r.skip r.cursor.remaining) := by
  generalize hn : r.cursor.remaining = n
  induction n generalizing r with
  | zero =>
    have hahead : r.ahead m = [] := List.eq_nil_of_length_eq_zero (h.length_ahead.trans hn)
    have htake := take_eq h 1
    rw [if_neg (by omega)] at htake
    rw [drainWhile, if_neg (by omega), htake, hahead]
    rfl
  | succ n ih =>
    have hl : 1 ≤ r.cursor.remaining := by omega
    have hskip := r.cursor.remaining_skip 1
    have hrest := ih (fits_skip h hl) (by
      change (r.cursor.skip 1).remaining = n
      omega)
    have htake := take_eq h 1
    rw [if_pos hl] at htake
    rw [drainWhile, if_pos (by omega)]
    split
    · rename_i first next heq
      rw [htake] at heq
      cases heq
      rw [hrest, Option.map_some, ahead_skip]
      simp only [List.take_append_drop, skip_skip, Nat.add_comm 1]
    · rename_i f heq
      rw [htake] at heq
      cases heq

end Reader

namespace Workspace

variable {ws : Workspace} {name : String} {r : Reader}

lemma bindName_bindName (name : String) (o o' : Object) (objects : List (String × Object)) :
    bindName name o' (bindName name o objects) = bindName name o' objects := by
  induction objects with
  | nil => simp [bindName]
  | cons first rest ih =>
    obtain ⟨n, old⟩ := first
    by_cases hn : n = name
    · simp [bindName, hn]
    · simp [bindName, hn, ih]

lemma bind_bind (ws : Workspace) (name : String) (o o' : Object) :
    (ws.bind name o).bind name o' = ws.bind name o' :=
  congrArg (Workspace.mk ws.memory) (bindName_bindName name o o' ws.objects)

lemma step_read_operation (hr : ws.find? name = some (.reader r)) (hfits : r.Fits ws.memory)
    (read : Read) : ws.step (read.operation name) =
      (read.reply r.cursor.limit (r.ahead ws.memory),
        ws.bind name (.reader (r.skip (read.taken (r.ahead ws.memory))))) := by
  have hposition := Reader.limit_sub_length_ahead hfits
  have hback : ws.bind name (.reader (r.skip 0)) = ws := bind_self hr
  unfold Read.reply Read.taken
  rw [hfits.length_ahead] at hposition ⊢
  cases read with
  | scalar t =>
    rw [Read.operation, step, readFrom, hr]
    simp only [Reader.takeScalar_eq hfits, Read.hasPlace, true_and, Read.width]
    by_cases hl : t.width ≤ r.cursor.remaining
    · simp only [if_pos hl]
      rfl
    · simp only [if_neg hl, hback]
      rw [Read.fault, hfits.length_ahead, hposition]
      rfl
  | fill target =>
    rw [Read.operation, step, fillFrom, hr]
    simp only [Reader.fill, Reader.take_eq hfits, Read.hasPlace, true_and, Read.width]
    by_cases hl : target.length ≤ r.cursor.remaining
    · simp only [if_pos hl]
      rfl
    · simp only [if_neg hl, hback]
      rw [Read.fault, hfits.length_ahead, hposition]
      rfl
  | fillRange target offset length =>
    rw [Read.operation, step, fillFrom, hr]
    simp only [Reader.fillRange_eq hfits, Read.hasPlace, decide_eq_true_eq, Read.width]
    by_cases hplace : offset + length ≤ target.length
    · have hnot : ¬target.length < offset + length := Nat.not_lt.2 hplace
      by_cases hl : length ≤ r.cursor.remaining
      · simp only [if_neg hnot, if_pos hl, if_pos (And.intro hplace hl)]
        rfl
      · simp only [if_neg hnot, if_neg hl, if_neg (fun h : _ ∧ _ => hl h.2), hback]
        rw [Read.fault, if_pos hplace, hfits.length_ahead, hposition]
        rfl
    · simp only [if_pos (Nat.lt_of_not_le hplace), if_neg (fun h : _ ∧ _ => hplace h.1), hback]
      rw [Read.fault, if_neg hplace]
      rfl

/-- However octets are read in pieces, they come in order and each of them once, and nothing else
changes. -/
lemma run_read_operations (h : ws.Valid) (hr : ws.find? name = some (.reader r))
    (reads : List Read) :
    let result := ws.run (reads.map (·.operation name))
    let got := Read.gotAll reads result.1
    result.1 = Read.replies r.cursor.limit (r.ahead ws.memory) reads ∧
      result.2 = ws.bind name (.reader (r.skip got.length)) ∧
      r.ahead ws.memory = got ++ (r.skip got.length).ahead ws.memory := by
  induction reads generalizing ws r with
  | nil => exact ⟨rfl, (bind_self hr).symm, rfl⟩
  | cons read reads ih =>
    have hfits : r.Fits ws.memory := h name _ hr
    have hstep := step_read_operation hr hfits read
    have hvalid := (step_sound h (read.operation name)).valid
    have hle := read.taken_le (r.ahead ws.memory)
    have hgot := read.got_reply r.cursor.limit (r.ahead ws.memory)
    rw [hstep] at hvalid
    -- the others read what the first leaves, by the reader that it has moved
    generalize hcount : read.taken (r.ahead ws.memory) = count at *
    have hfind : (ws.bind name (.reader (r.skip count))).find? name =
        some (.reader (r.skip count)) := by simp
    obtain ⟨hreplies, hafter, hahead⟩ := ih hvalid hfind
    simp only [memory_bind, Reader.ahead_skip r] at hreplies hahead
    rw [List.map_cons, run_cons, hstep]
    simp only [Read.gotAll_cons, hgot, List.length_append, List.length_take_of_le hle]
    refine ⟨?_, ?_, ?_⟩
    · rw [hreplies, Read.replies, hcount]
      rfl
    · rw [hafter, bind_bind, Reader.skip_skip]
    · rw [List.append_assoc, ← Reader.skip_skip, ← hahead, List.take_append_drop]

end Workspace

namespace InPlace

/-- Every way to read what is ahead of a reader comes to the same octets. -/
structure Stream (ws : Workspace) (name : String) (r : Reader) (unread : List UInt8) : Prop where
  /-- Reads in any order take their octets from the front, or none. -/
  reads : ∀ reads : List Read,
    let result := run ws (reads.map (·.operation name))
    let got := Read.gotAll reads result.1
    result.1 = Read.replies r.cursor.limit unread reads ∧
      result.2 = ws.bind name (.reader (r.skip got.length)) ∧
      unread = got ++ (r.skip got.length).ahead ws.memory
  /-- However the octets are cut into reads, the pieces are the whole. -/
  pieces : ∀ reads : List Read, (∀ read ∈ reads, read.hasPlace) →
    Read.total reads = unread.length →
    Read.gotAll reads (run ws (reads.map (·.operation name))).1 = unread
  byteAt : ∀ i (hi : i < unread.length),
    step ws (.byteAt name (r.cursor.position + i)) = (.done (.scalar (.byte unread[i])), ws)
  window : ∃ bytes, step ws (.window name) = (.done (.bytes bytes), ws) ∧
    bytes.length = r.cursor.capacity ∧
    (bytes.drop r.cursor.position).take (r.cursor.limit - r.cursor.position) = unread
  /-- A writer with room for all of it gets all of it, and nothing but it. -/
  transfer : ∀ target w, ws.find? target = some (.writer w) →
    step ws (.transfer name target) = if unread.length ≤ w.cursor.remaining then
      (.done .nothing, ({ ws with memory := ws.memory.replace w.region w.index unread }.bind name
        (.reader (r.skip unread.length))).bind target (.writer (w.skip unread.length)))
      else (.failed (.outOfBounds w.cursor.position unread.length w.cursor.limit), ws)
  duplicate : ∀ made, ∃ s, step ws (.duplicate made name) =
    (.done .nothing, ws.bind made (.reader s)) ∧ s.ahead ws.memory = unread
  slice : ∀ made, ∃ s, step ws (.slice made name) =
    (.done .nothing, ws.bind made (.reader s)) ∧ s.ahead ws.memory = unread
  drain : step ws (.drain name) = (.done (.bytes unread), ws.bind name
    (.reader { r with cursor := { r.cursor with position := r.cursor.limit } }))
  drainWhile : Reader.drainWhile ws.memory r =
    some (unread, { r with cursor := { r.cursor with position := r.cursor.limit } })

variable {ws : Workspace} {name : String} {r : Reader}

lemma stream_ahead (h : ws.Valid) (hr : ws.find? name = some (.reader r)) :
    Stream ws name r (r.ahead ws.memory) := by
  have hfits : r.Fits ws.memory := h name _ hr
  have hlength := hfits.length_ahead
  have hend : r.skip r.cursor.remaining =
      { r with cursor := { r.cursor with position := r.cursor.limit } } := by
    rw [Reader.skip, hfits.ordered.skip_remaining]
  refine ⟨fun reads => ?_, fun reads hplace hsum => ?_, fun i hi => ?_, ?_, fun target w hw => ?_,
    fun made => ?_, fun made => ?_, ?_, ?_⟩
  · rw [run_eq h]
    exact Workspace.run_read_operations h hr reads
  · obtain ⟨hreplies, -, hahead⟩ := Workspace.run_read_operations h hr reads
    have hall := Read.length_gotAll_replies r.cursor.limit hplace (Nat.le_of_eq hsum)
    rw [run_eq h]
    rw [← hreplies, hsum] at hall
    exact List.append_inj_left (hahead.symm.trans (List.append_nil _).symm) hall
  · rw [step_eq h, Workspace.step, Workspace.inspect, hr]
    simp only [Option.bind_some, Reader.byteAt_position_add hfits hi]
    rfl
  · refine ⟨r.windowBytes ws.memory, ?_, hfits.length_windowBytes, hfits.ahead_eq.symm⟩
    rw [step_eq h, Workspace.step, Workspace.inspect, hr]
    simp only [Option.bind_some, View.Fits.content_eq hfits]
    rfl
  · rw [step_eq h, Workspace.step_transfer h hr hw, hlength]
  · refine ⟨r, ?_, rfl⟩
    rw [step_eq h, Workspace.step, Workspace.derive, hr]
    rfl
  · refine ⟨r.slice, ?_, r.ahead_slice ws.memory⟩
    rw [step_eq h, Workspace.step, Workspace.derive, hr]
    rfl
  · rw [step_eq h, Workspace.step, Workspace.readFrom, hr, ← hend]
    simp only [Reader.drain_eq hfits]
    rfl
  · rw [Reader.drainWhile_eq hfits, hend]

/-- After any operations whatever, all ways to read what is ahead of a reader come to the same
octets, performed in place or, if no array is too long to be allocated, in words. -/
theorem read_paths_agree (setup : List Operation) (name : String) (r : Reader)
    (hr : (run {} setup).2.find? name = some (.reader r)) :
    Stream (run {} setup).2 name r (r.ahead (run {} setup).2.memory) ∧
    ∀ more, (∀ op ∈ setup ++ more, op.payload.length ≤ Machine.maxLength) →
      Machine.run (Machine.run {} setup).2 more = run (run {} setup).2 more := by
  have hvalid := Workspace.run_valid Workspace.valid_empty setup
  rw [run_eq Workspace.valid_empty] at hr ⊢
  refine ⟨stream_ahead hvalid hr, fun more hops => ?_⟩
  have hsetup : ∀ op ∈ setup, op.payload.length ≤ Machine.maxLength :=
    fun op hop => hops op (List.mem_append_left _ hop)
  have hgrows := (Workspace.run_sound Workspace.valid_empty setup hsetup).2.1
  have hallocatable := Machine.allocatable_grows Machine.allocatable_empty hgrows
  rw [Machine.run_eq Workspace.valid_empty Machine.allocatable_empty setup hsetup,
    Machine.run_eq hvalid hallocatable more fun op hop => hops op (List.mem_append_right _ hop),
    run_eq hvalid]

/-- A reader of the second to the fifth octet of a window inside of an array. -/
def insideWindow : List Operation :=
  [.allocate "array" .heap [9, 9, 1, 2, 3, 4, 5, 9], .wrapArray "reader" .reader "array" 1 6,
    .move "reader" (.setLimit 5), .move "reader" (.setPosition 1)]

/-- Three reads, of which the second asks for too much. -/
theorem read_paths_agree_insideWindow :
    (run (run {} insideWindow).2 [.take "reader" .byte, .take "reader" .int,
      .fillRange "reader" [7, 7, 7, 7, 7] 1 3]).1 =
      [.done (.scalar (.byte 1)), .failed (.outOfBounds 2 4 5),
        .done (.filled none [7, 2, 3, 4, 7])] ∧
    (step (run {} insideWindow).2 (.drain "reader")).1 = .done (.bytes [1, 2, 3, 4]) := by
  have hstream := (read_paths_agree insideWindow "reader" ⟨0, 1, ⟨1, 5, 6, none⟩⟩ rfl).1
  have hreads := (hstream.reads [.scalar .byte, .scalar .int,
    .fillRange [7, 7, 7, 7, 7] 1 3]).1
  exact ⟨hreads.trans rfl, congrArg Prod.fst hstream.drain⟩

/-- That enough octets are unread is not all that a read asks for: a range outside of the target
fails, even a range of no octets. -/
theorem read_outside_of_target :
    ¬∀ (setup : List Operation) (name : String) (r : Reader) (read : Read),
      (run {} setup).2.find? name = some (.reader r) →
      ((step (run {} setup).2 (read.operation name)).1.fault? = none ↔
        read.width ≤ (r.ahead (run {} setup).2.memory).length) := by
  intro h
  have hread := h [.make "reader" .reader .heap [1, 2, 3, 4]] "reader" ⟨0, 0, .new 4⟩
    (.fillRange [0] 2 0) rfl
  have hfault := hread.2 (Nat.zero_le _)
  cases hfault

end InPlace

end AmqpClient.Buffer
