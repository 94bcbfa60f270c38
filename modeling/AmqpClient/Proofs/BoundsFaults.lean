import AmqpClient.Proofs.InPlaceExecution
import AmqpClient.Proofs.MachineExecution

/-!
# What bounds faults say

A bounds fault names an access and a bound. Whichever operation answers with one, the access does
cross the bound, with a single exception: if an octet before the position of a reader is asked for,
the fault names the limit, which is not crossed there.
-/

namespace AmqpClient.Buffer

/-- The access that a bounds fault names crosses the bound that it names. -/
def Fault.Truthful : Fault → Prop
  | .outOfBounds index length bound => bound < index + length
  | _ => True

def Reply.Truthful (reply : Reply) : Prop :=
  ∀ f, reply.fault? = some f → f.Truthful

/-- The operation asks for an octet before the position of a reader. -/
def Operation.AsksBefore (ws : Workspace) : Operation → Prop
  | .byteAt name index => ∃ r, ws.find? name = some (.reader r) ∧ index < r.cursor.position
  | _ => False

/-- A computation whose faults are truthful. -/
def FailsTruthfully {α : Type} (x : Except Fault α) : Prop :=
  ∀ f, x = .error f → f.Truthful

def Effect.FailsTruthfully {α : Type} (x : Effect α) : Prop :=
  ∀ m f after, x.run m = .error f after → f.Truthful

variable {α β : Type}

namespace FailsTruthfully

lemma ok (a : α) : FailsTruthfully (.ok a) := by
  intro f hf
  cases hf

lemma error {f : Fault} (h : f.Truthful) : FailsTruthfully (.error f : Except Fault α) := by
  intro g hg
  cases hg
  exact h

lemma bind {x : Except Fault α} {g : α → Except Fault β} (hx : FailsTruthfully x)
    (hg : ∀ a, FailsTruthfully (g a)) : FailsTruthfully (x >>= g) := by
  cases x with
  | ok a => exact hg a
  | error e => exact error (hx e rfl)

lemma ite {c : Prop} [Decidable c] {f : Fault} {x : Except Fault α} (hf : c → f.Truthful)
    (hx : FailsTruthfully x) : FailsTruthfully (if c then .error f else x) := by
  by_cases hc : c
  · rw [if_pos hc]
    exact error (hf hc)
  · rw [if_neg hc]
    exact hx

end FailsTruthfully

namespace Effect.FailsTruthfully

lemma pure (a : α) : Effect.FailsTruthfully (Pure.pure a : Effect α) := by
  intro m f after h
  cases h

lemma get : Effect.FailsTruthfully (MonadState.get : Effect Memory) := by
  intro m f after h
  cases h

lemma allocate (placement : Placement) (bytes : List UInt8) :
    (Effect.allocate placement bytes).FailsTruthfully := by
  intro m f after h
  cases h

lemma ofExcept {x : Except Fault α} (hx : Buffer.FailsTruthfully x) :
    (Effect.ofExcept x).FailsTruthfully := by
  intro m f after h
  cases x with
  | ok a => cases h
  | error e =>
    cases h
    exact hx f rfl

lemma bind {x : Effect α} {g : α → Effect β} (hx : x.FailsTruthfully)
    (hg : ∀ a, (g a).FailsTruthfully) : (x >>= g).FailsTruthfully := by
  intro m f after h
  rw [EStateM.run_bind] at h
  cases hrun : x.run m with
  | ok a next =>
    rw [hrun] at h
    exact hg a next f after h
  | error e next =>
    rw [hrun] at h
    cases h
    exact hx m f after hrun

end Effect.FailsTruthfully

/-! ### Cursors and views -/

namespace Cursor

variable (c : Cursor)

lemma setPosition_truthful (n : Nat) : FailsTruthfully (c.setPosition n) :=
  .ite (fun h => h) (.ok _)

lemma setLimit_truthful (n : Nat) : FailsTruthfully (c.setLimit n) :=
  .ite (fun h => h) (.ok _)

lemma reset_truthful : FailsTruthfully c.reset := by
  unfold reset
  cases c.mark with
  | some m => exact .ok _
  | none => exact .error trivial

lemma checkRemaining_truthful (length : Nat) : FailsTruthfully (c.checkRemaining length) := by
  refine .ite (fun h => ?_) (.ok _)
  -- less remains than is asked for, so the access ends behind the limit
  change c.limit < c.position + length
  unfold remaining at h
  omega

lemma advance_truthful (length : Nat) : FailsTruthfully (c.advance length) :=
  .bind (c.checkRemaining_truthful length) fun _ => .ok _

lemma checkIndex_truthful {index : Nat} (h : c.position ≤ index) :
    FailsTruthfully (c.checkIndex index) := by
  refine .ite (fun hout => ?_) (.ok _)
  change c.limit < index + 1
  omega

end Cursor

lemma Move.apply_truthful (move : Move) (c : Cursor) : FailsTruthfully (move.apply c) := by
  cases move with
  | setPosition n => exact c.setPosition_truthful n
  | setLimit n => exact c.setLimit_truthful n

lemma ReaderMove.apply_truthful (move : ReaderMove) (c : Cursor) :
    FailsTruthfully (move.apply c) := by
  cases move with
  | reset => exact c.reset_truthful
  | _ => exact .ok _

namespace Memory

variable (m : Memory) (id : RegionId)

lemma read_truthful (index length : Nat) : FailsTruthfully (m.read id index length) := by
  unfold read
  split
  · exact .ok _
  · exact .error trivial

lemma byte_truthful (index : Nat) : FailsTruthfully (m.byte id index) := by
  unfold byte
  split
  · exact .ok _
  · exact .error trivial

lemma write_truthful (index : Nat) (new : List UInt8) :
    FailsTruthfully (m.write id index new) := by
  unfold write
  split
  · exact .ok _
  · exact .error trivial

end Memory

namespace View

lemma window_truthful (m : Memory) (region : RegionId) (offset length : Nat) :
    FailsTruthfully (window m region offset length) :=
  .ite (fun h => h) (.ok _)

lemma array_truthful (v : View) (m : Memory) : FailsTruthfully (v.array m) := by
  unfold array
  split
  · exact .ok _
  · exact .error trivial

lemma arrayOffset_truthful (v : View) (m : Memory) : FailsTruthfully (v.arrayOffset m) :=
  .bind (.bind (v.array_truthful m) fun _ => .ok _) fun _ => .ok _

end View

namespace Reader

variable (r : Reader) (m : Memory)

lemma take_truthful (length : Nat) : FailsTruthfully (r.take m length) :=
  .bind (r.cursor.advance_truthful length) fun _ =>
    .bind (m.read_truthful r.region r.index length) fun _ => .ok _

lemma takeScalar_truthful (t : ScalarType) : FailsTruthfully (r.takeScalar m t) :=
  .bind (r.take_truthful m t.width) fun _ => .ok _

lemma byteAt_truthful {index : Nat} (h : r.cursor.position ≤ index) :
    FailsTruthfully (r.byteAt m index) :=
  .bind (r.cursor.checkIndex_truthful h) fun _ => m.byte_truthful r.region _

lemma fillRange_truthful (target : List UInt8) (offset length : Nat) :
    FailsTruthfully (r.fillRange m target offset length) := by
  unfold fillRange
  by_cases h : target.length < offset + length
  · rw [if_pos h]
    exact .error h
  · rw [if_neg h]
    exact .bind (r.take_truthful m length) fun _ => .ok _

lemma text_truthful (encoding : Text.Encoding) : FailsTruthfully (r.text m encoding) := by
  refine .bind (m.read_truthful r.region r.index _) fun bytes => .bind ?_ fun _ =>
    .bind (r.cursor.advance_truthful _) fun _ => .ok _
  cases encoding.decode bytes with
  | ok s => exact .ok s
  | error e => exact .error trivial

lemma takeEach_truthful (count : Nat) : FailsTruthfully (takeEach m count r) := by
  induction count generalizing r with
  | zero => exact .ok _
  | succ count ih => exact .bind (r.take_truthful m 1) fun p => .bind (ih p.2) fun _ => .ok _

lemma drain_truthful : FailsTruthfully (r.drain m) :=
  r.takeEach_truthful m r.cursor.remaining

lemma sameRemaining_truthful (s : Reader) : FailsTruthfully (r.sameRemaining s m) := by
  unfold sameRemaining
  split
  · exact .bind (m.read_truthful r.region r.index _) fun _ =>
      .bind (m.read_truthful s.region s.index _) fun _ => .ok _
  · exact .ok _

end Reader

namespace Effect

lemma read_truthful (id : RegionId) (index length : Nat) :
    (Effect.read id index length).FailsTruthfully :=
  .bind .get fun m => .ofExcept (m.read_truthful id index length)

lemma write_truthful (id : RegionId) (index : Nat) (new : List UInt8) :
    (Effect.write id index new).FailsTruthfully := by
  refine .bind .get fun m => .bind (.ofExcept (m.write_truthful id index new)) fun after => ?_
  intro m f last h
  cases h

end Effect

lemma Writer.put_truthful (w : Writer) (bytes : List UInt8) : (w.put bytes).FailsTruthfully :=
  .bind (.ofExcept (w.cursor.advance_truthful _)) fun _ =>
    .bind (Effect.write_truthful w.region w.index bytes) fun _ => .pure _

lemma transfer_truthful (r : Reader) (w : Writer) : (transfer r w).FailsTruthfully :=
  .bind (.ofExcept (w.cursor.checkRemaining_truthful _)) fun _ =>
    .bind (Effect.read_truthful r.region r.index _) fun bytes =>
      .bind (Effect.write_truthful w.region w.index bytes) fun _ =>
        .bind (.ofExcept (r.cursor.advance_truthful _)) fun _ =>
          .bind (.ofExcept (w.cursor.advance_truthful _)) fun _ => .pure _

/-! ### Operations -/

namespace Reply

lemma truthful_of_fault?_eq_none {reply : Reply} (h : reply.fault? = none) : reply.Truthful := by
  intro f hf
  rw [h] at hf
  cases hf

lemma truthful_failed {f : Fault} (h : f.Truthful) : (failed f).Truthful := by
  intro g hg
  cases hg
  exact h

lemma truthful_ofExcept {value : α → Value} (hvalue : ∀ a, (done (value a)).fault? = none)
    {x : Except Fault α} (h : FailsTruthfully x) : (ofExcept value x).Truthful := by
  cases x with
  | ok a => exact truthful_of_fault?_eq_none (hvalue a)
  | error f => exact truthful_failed (h f rfl)

end Reply

namespace Workspace

variable (ws : Workspace) (name source : String)

lemma create_truthful {make : Effect Object} (h : make.FailsTruthfully) :
    (ws.create name make).1.Truthful := by
  unfold create
  cases hrun : make.run ws.memory with
  | ok o m => exact Reply.truthful_of_fault?_eq_none rfl
  | error f m => exact Reply.truthful_failed (h _ _ _ hrun)

lemma derive_truthful {make : Object → Option (Effect Object)}
    (h : ∀ o effect, make o = some effect → effect.FailsTruthfully) :
    (ws.derive name source make).1.Truthful := by
  unfold derive
  cases he : (ws.find? source).bind make with
  | none => exact Reply.truthful_of_fault?_eq_none rfl
  | some effect =>
    obtain ⟨o, -, ho⟩ := Option.bind_eq_some_iff.1 he
    exact create_truthful ws name (h o effect ho)

lemma inspect_truthful {answer : Object → Option Reply}
    (h : ∀ o reply, ws.find? name = some o → answer o = some reply → reply.Truthful) :
    (ws.inspect name answer).1.Truthful := by
  unfold inspect
  cases hr : (ws.find? name).bind answer with
  | none => exact Reply.truthful_of_fault?_eq_none rfl
  | some reply =>
    obtain ⟨o, ho, ha⟩ := Option.bind_eq_some_iff.1 hr
    exact h o reply ho ha

lemma moveView_truthful (view? : Object → Option View) {move : Cursor → Except Fault Cursor}
    (h : ∀ c, FailsTruthfully (move c)) : (ws.moveView name view? move).1.Truthful := by
  unfold moveView
  split
  · split
    · rename_i v _
      cases hm : move v.cursor with
      | ok c => exact Reply.truthful_of_fault?_eq_none rfl
      | error f => exact Reply.truthful_failed (h _ f hm)
    · exact Reply.truthful_of_fault?_eq_none rfl
  · exact Reply.truthful_of_fault?_eq_none rfl

lemma readFrom_truthful {value : α → Value} (hvalue : ∀ a, (Reply.done (value a)).fault? = none)
    {read : Reader → Memory → Except Fault (α × Reader)}
    (h : ∀ r, FailsTruthfully (read r ws.memory)) :
    (ws.readFrom name fun r m => (read r m).map fun (a, r) => (value a, r)).1.Truthful := by
  unfold readFrom
  split
  · rename_i r _
    cases hread : read r ws.memory with
    | ok p =>
      simp only [hread]
      exact Reply.truthful_of_fault?_eq_none (hvalue p.1)
    | error f =>
      simp only [hread]
      exact Reply.truthful_failed (h r f hread)
  · exact Reply.truthful_of_fault?_eq_none rfl

lemma fillFrom_truthful (target : List UInt8)
    {read : Reader → Memory → Except Fault (List UInt8 × Reader)}
    (h : ∀ r, FailsTruthfully (read r ws.memory)) :
    (ws.fillFrom name target read).1.Truthful := by
  unfold fillFrom
  split
  · rename_i r _
    cases hread : read r ws.memory with
    | ok p => exact Reply.truthful_of_fault?_eq_none rfl
    | error f =>
      intro g hg
      cases hg
      exact h r f hread
  · exact Reply.truthful_of_fault?_eq_none rfl

lemma writeTo_truthful (bytes : List UInt8) :
    (ws.writeTo name (·.put bytes)).1.Truthful := by
  unfold writeTo
  split
  · rename_i w _
    cases hrun : (w.put bytes).run ws.memory with
    | ok v m => exact Reply.truthful_of_fault?_eq_none rfl
    | error f m => exact Reply.truthful_failed (w.put_truthful bytes _ _ _ hrun)
  · exact Reply.truthful_of_fault?_eq_none rfl

lemma step_transfer_truthful (target : String) :
    (ws.step (.transfer source target)).1.Truthful := by
  rw [step, transfer]
  split
  · rename_i r w _ _
    cases hrun : (Buffer.transfer r w).run ws.memory with
    | ok p m => exact Reply.truthful_of_fault?_eq_none rfl
    | error f m => exact Reply.truthful_failed (transfer_truthful r w _ _ _ hrun)
  · exact Reply.truthful_of_fault?_eq_none rfl

/-- A fault of any operation is truthful, unless an octet before the position is asked for. -/
theorem step_truthful {op : Operation} (h : ¬op.AsksBefore ws) : (ws.step op).1.Truthful := by
  cases op with
  | allocate name placement bytes =>
    exact create_truthful ws name (.bind (.allocate placement bytes) fun _ => .pure _)
  | make name role placement bytes =>
    exact create_truthful ws name (.bind (.allocate placement bytes) fun _ =>
      .bind .get fun _ => .pure _)
  | wrapArray name role source offset length =>
    refine derive_truthful ws name source fun o effect he => ?_
    cases o with
    | array id =>
      cases he
      exact .bind .get fun m => .bind (.ofExcept (View.window_truthful m id offset length))
        fun _ => .pure _
    | _ => cases he
  | wrapRegion name role source =>
    refine derive_truthful ws name source fun o effect he => ?_
    cases o with
    | region id =>
      cases he
      exact .bind .get fun _ => .pure _
    | _ => cases he
  | clone name source =>
    refine derive_truthful ws name source fun o effect he => ?_
    cases he
    exact .pure _
  | array name source =>
    refine derive_truthful ws name source fun o effect he => ?_
    obtain ⟨v, -, rfl⟩ := Option.map_eq_some_iff.1 he
    exact .bind .get fun m => .bind (.ofExcept (v.array_truthful m)) fun _ => .pure _
  | duplicate name source =>
    refine derive_truthful ws name source fun o effect he => ?_
    cases o <;> cases he
    exact .pure _
  | slice name source =>
    refine derive_truthful ws name source fun o effect he => ?_
    cases o <;> cases he
    exact .pure _
  | toReader name source =>
    refine derive_truthful ws name source fun o effect he => ?_
    cases o <;> cases he
    exact .pure _
  | intoReader name source =>
    rw [step, intoReader]
    split <;> exact Reply.truthful_of_fault?_eq_none rfl
  | transfer source target => exact step_transfer_truthful ws source target
  | same first second =>
    rw [step, same]
    split
    · rename_i r s _ _
      exact Reply.truthful_ofExcept (fun _ => rfl) (r.sameRemaining_truthful ws.memory s)
    all_goals exact Reply.truthful_of_fault?_eq_none rfl
  | isEmpty name =>
    refine inspect_truthful ws name fun o reply _ hr => ?_
    obtain ⟨id, -, rfl⟩ := Option.map_eq_some_iff.1 hr
    exact Reply.truthful_of_fault?_eq_none rfl
  | content name =>
    refine inspect_truthful ws name fun o reply _ hr => ?_
    cases o <;> cases hr
    exact Reply.truthful_of_fault?_eq_none rfl
  | overwrite name index bytes =>
    rw [step, overwrite]
    split
    · split <;> exact Reply.truthful_of_fault?_eq_none rfl
    · exact Reply.truthful_of_fault?_eq_none rfl
  | describe name =>
    refine inspect_truthful ws name fun o reply _ hr => ?_
    cases hr
    exact Reply.truthful_of_fault?_eq_none rfl
  | hasArray name =>
    refine inspect_truthful ws name fun o reply _ hr => ?_
    obtain ⟨v, -, rfl⟩ := Option.map_eq_some_iff.1 hr
    exact Reply.truthful_of_fault?_eq_none rfl
  | arrayOffset name =>
    refine inspect_truthful ws name fun o reply _ hr => ?_
    obtain ⟨v, -, rfl⟩ := Option.map_eq_some_iff.1 hr
    exact Reply.truthful_ofExcept (fun _ => rfl) (v.arrayOffset_truthful ws.memory)
  | move name m => exact moveView_truthful ws name _ m.apply_truthful
  | moveReader name m => exact moveView_truthful ws name _ m.apply_truthful
  | take name t =>
    exact readFrom_truthful ws name (fun _ => rfl) fun r => r.takeScalar_truthful ws.memory t
  | byteAt name index =>
    refine inspect_truthful ws name fun o reply ho hr => ?_
    cases o with
    | reader r =>
      cases hr
      have hle : r.cursor.position ≤ index := Nat.le_of_not_lt fun hlt => h ⟨r, ho, hlt⟩
      exact Reply.truthful_ofExcept (fun _ => rfl) (r.byteAt_truthful ws.memory hle)
    | _ => cases hr
  | fill name target =>
    exact fillFrom_truthful ws name target fun r => r.take_truthful ws.memory target.length
  | fillRange name target offset length =>
    exact fillFrom_truthful ws name target fun r =>
      r.fillRange_truthful ws.memory target offset length
  | window name =>
    refine inspect_truthful ws name fun o reply _ hr => ?_
    cases o with
    | reader r =>
      cases hr
      exact Reply.truthful_ofExcept (fun _ => rfl) (ws.memory.read_truthful r.region _ _)
    | _ => cases hr
  | text name encoding =>
    exact readFrom_truthful ws name (fun _ => rfl) fun r => r.text_truthful ws.memory encoding
  | drain name =>
    exact readFrom_truthful ws name (fun _ => rfl) fun r => r.drain_truthful ws.memory
  | ensureRemaining name length =>
    refine inspect_truthful ws name fun o reply _ hr => ?_
    cases o with
    | writer w =>
      cases hr
      exact Reply.truthful_ofExcept (fun _ => rfl) (w.cursor.checkRemaining_truthful length)
    | _ => cases hr
  | put name s => exact writeTo_truthful ws name s.encode
  | putBytes name bytes => exact writeTo_truthful ws name bytes
  | putText name s => exact writeTo_truthful ws name (Text.Utf8.encode s)

/-- An octet before the position is refused as if it lay beyond the limit. -/
lemma step_byteAt_before {r : Reader} {index : Nat} (hr : ws.find? name = some (.reader r))
    (h : index < r.cursor.position) :
    ws.step (.byteAt name index) = (.failed (.outOfBounds index 1 r.cursor.limit), ws) := by
  have hcheck : r.cursor.checkIndex index = .error (.outOfBounds index 1 r.cursor.limit) :=
    if_pos (.inl h)
  rw [step, inspect, hr]
  simp only [Option.bind_some, Reader.byteAt, hcheck]
  rfl

end Workspace

namespace InPlace

/-- After any operations whatever, a fault that an operation answers with is truthful if and only if
the operation does not ask for an octet before the position of a reader, which is always refused.
The answers are the same in machine words, if no array is too long to be allocated. -/
theorem fault_truthful_iff (setup : List Operation) (op : Operation) :
    (∀ f, (step (run {} setup).2 op).1.fault? = some f →
      (f.Truthful ↔ ¬op.AsksBefore (run {} setup).2)) ∧
    (op.AsksBefore (run {} setup).2 → ∃ index bound, index < bound ∧
      step (run {} setup).2 op = (.failed (.outOfBounds index 1 bound), (run {} setup).2)) ∧
    ((∀ other ∈ setup ++ [op], other.payload.length ≤ Machine.maxLength) →
      Machine.step (Machine.run {} setup).2 op = step (run {} setup).2 op) := by
  rw [run_eq Workspace.valid_empty]
  have hvalid := Workspace.run_valid Workspace.valid_empty setup
  rw [step_eq hvalid]
  have hbefore : op.AsksBefore (Workspace.run {} setup).2 → ∃ index bound, index < bound ∧
      (Workspace.run {} setup).2.step op =
        (.failed (.outOfBounds index 1 bound), (Workspace.run {} setup).2) := by
    intro h
    cases op with
    | byteAt name index =>
      obtain ⟨r, hr, hlt⟩ := h
      have hfits : r.Fits (Workspace.run {} setup).2.memory := hvalid name _ hr
      exact ⟨index, r.cursor.limit, Nat.lt_of_lt_of_le hlt hfits.ordered.position_le,
        Workspace.step_byteAt_before _ name hr hlt⟩
    | _ => exact h.elim
  refine ⟨fun f hf => ⟨fun htrue h => ?_, fun h => Workspace.step_truthful _ h f hf⟩, hbefore,
    fun hops => ?_⟩
  · obtain ⟨index, bound, hlt, hstep⟩ := hbefore h
    rw [hstep] at hf
    cases hf
    change bound < index + 1 at htrue
    omega
  · have hsetup : ∀ other ∈ setup, other.payload.length ≤ Machine.maxLength :=
      fun other hother => hops other (List.mem_append_left _ hother)
    have hgrows := (Workspace.run_sound Workspace.valid_empty setup hsetup).2.1
    have hallocatable := Machine.allocatable_grows Machine.allocatable_empty hgrows
    rw [Machine.run_eq Workspace.valid_empty Machine.allocatable_empty setup hsetup,
      Machine.step_eq hvalid hallocatable op (hops op (by simp))]

/-- A reader of five octets, two of which it has passed. -/
def pastTwo : List Operation :=
  [.make "reader" .reader .heap [1, 2, 3, 4, 5], .move "reader" (.setPosition 2)]

/-- Three octets are left of four that are asked for, and four octets from the last one on do not
lie within a target of four. -/
theorem fault_truthful_iff_pastTwo :
    (Fault.outOfBounds 2 4 5).Truthful ∧ (Fault.outOfBounds 3 4 4).Truthful :=
  ⟨((fault_truthful_iff pastTwo (.take "reader" .int)).1 _ rfl).2 id,
    ((fault_truthful_iff pastTwo (.fillRange "reader" [0, 0, 0, 0] 3 4)).1 _ rfl).2 id⟩

/-- The first octet of five is said to exceed the bound of five. -/
theorem byteAt_before_position_untruthful :
    ¬∀ (setup : List Operation) (op : Operation) (f : Fault),
      (step (run {} setup).2 op).1.fault? = some f → f.Truthful := by
  intro h
  have htrue : 5 < 0 + 1 := h pastTwo (.byteAt "reader" 0) (.outOfBounds 0 1 5) rfl
  exact absurd htrue (by decide)

end InPlace

end AmqpClient.Buffer
