import AmqpClient.Proofs.InPlaceExecution

/-!
# Failures leave no trace

An operation that answers with a fault has changed nothing, whichever operation it is and whatever
came before it: no view, no octet of a region, no name, and no octet of the array that was to be
filled.
-/

namespace AmqpClient.Buffer

/-- The reply to an operation that is refused. A target that was to be filled is shown as it was
given. -/
def Operation.refusal (op : Operation) (f : Fault) : Reply :=
  match op with
  | .fill _ target => .done (.filled (some f) target)
  | .fillRange _ target _ _ => .done (.filled (some f) target)
  | _ => .failed f

/-- A reply with a fault is the refusal for that fault. -/
def Reply.FaultsAs (reply : Reply) (refusal : Fault → Reply) : Prop :=
  ∀ f, reply.fault? = some f → reply = refusal f

namespace Reply

lemma faultsAs_of_fault?_eq_none {reply : Reply} (h : reply.fault? = none)
    (refusal : Fault → Reply) : reply.FaultsAs refusal := by
  intro f hf
  rw [h] at hf
  cases hf

lemma faultsAs_failed (f : Fault) : (failed f).FaultsAs .failed := by
  intro g hg
  cases hg
  rfl

lemma faultsAs_ofExcept {α : Type} {value : α → Value}
    (hvalue : ∀ a, (done (value a)).fault? = none) (x : Except Fault α) :
    (ofExcept value x).FaultsAs .failed := by
  cases x with
  | ok a => exact faultsAs_of_fault?_eq_none (hvalue a) _
  | error f => exact faultsAs_failed f

end Reply

namespace Workspace

variable (ws : Workspace) (name source : String)

lemma create_faultsAs (make : Effect Object) : (ws.create name make).1.FaultsAs .failed := by
  unfold create
  cases make.run ws.memory with
  | ok o m => exact Reply.faultsAs_of_fault?_eq_none rfl _
  | error f m => exact Reply.faultsAs_failed f

lemma derive_faultsAs (make : Object → Option (Effect Object)) :
    (ws.derive name source make).1.FaultsAs .failed := by
  unfold derive
  cases (ws.find? source).bind make with
  | none => exact Reply.faultsAs_of_fault?_eq_none rfl _
  | some effect => exact create_faultsAs ws name effect

lemma inspect_faultsAs {answer : Object → Option Reply}
    (hanswer : ∀ o reply, answer o = some reply → reply.FaultsAs .failed) :
    (ws.inspect name answer).1.FaultsAs .failed := by
  unfold inspect
  cases hr : (ws.find? name).bind answer with
  | none => exact Reply.faultsAs_of_fault?_eq_none rfl _
  | some reply =>
    obtain ⟨o, -, ho⟩ := Option.bind_eq_some_iff.1 hr
    exact hanswer o reply ho

lemma moveView_faultsAs (view? : Object → Option View) (move : Cursor → Except Fault Cursor) :
    (ws.moveView name view? move).1.FaultsAs .failed := by
  unfold moveView
  split
  · split
    · split
      · exact Reply.faultsAs_of_fault?_eq_none rfl _
      · exact Reply.faultsAs_failed _
    · exact Reply.faultsAs_of_fault?_eq_none rfl _
  · exact Reply.faultsAs_of_fault?_eq_none rfl _

lemma readFrom_faultsAs {α : Type} {value : α → Value}
    (hvalue : ∀ a, (Reply.done (value a)).fault? = none)
    (read : Reader → Memory → Except Fault (α × Reader)) :
    (ws.readFrom name fun r m => (read r m).map fun (a, r) => (value a, r)).1.FaultsAs .failed := by
  unfold readFrom
  split
  · rename_i r _
    dsimp only
    cases read r ws.memory with
    | ok p => exact Reply.faultsAs_of_fault?_eq_none (hvalue p.1) _
    | error f => exact Reply.faultsAs_failed f
  · exact Reply.faultsAs_of_fault?_eq_none rfl _

lemma fillFrom_faultsAs (target : List UInt8)
    (read : Reader → Memory → Except Fault (List UInt8 × Reader)) :
    (ws.fillFrom name target read).1.FaultsAs fun f => .done (.filled (some f) target) := by
  unfold fillFrom
  split
  · rename_i r _
    cases read r ws.memory with
    | ok p => exact Reply.faultsAs_of_fault?_eq_none rfl _
    | error f =>
      intro g hg
      cases hg
      rfl
  · exact Reply.faultsAs_of_fault?_eq_none rfl _

lemma writeTo_faultsAs (write : Writer → Effect Writer) :
    (ws.writeTo name write).1.FaultsAs .failed := by
  unfold writeTo
  split
  · split
    · exact Reply.faultsAs_of_fault?_eq_none rfl _
    · exact Reply.faultsAs_failed _
  · exact Reply.faultsAs_of_fault?_eq_none rfl _

lemma transfer_faultsAs (target : String) (move : Reader → Writer → Effect (Reader × Writer)) :
    (ws.transfer source target move).1.FaultsAs .failed := by
  unfold transfer
  split
  · split
    · exact Reply.faultsAs_of_fault?_eq_none rfl _
    · exact Reply.faultsAs_failed _
  · exact Reply.faultsAs_of_fault?_eq_none rfl _

theorem step_faultsAs (op : Operation) : (ws.step op).1.FaultsAs op.refusal := by
  cases op with
  | allocate name placement bytes => exact create_faultsAs ws name _
  | make name role placement bytes => exact create_faultsAs ws name _
  | wrapArray name role source offset length => exact derive_faultsAs ws name source _
  | wrapRegion name role source => exact derive_faultsAs ws name source _
  | clone name source => exact derive_faultsAs ws name source _
  | array name source => exact derive_faultsAs ws name source _
  | duplicate name source => exact derive_faultsAs ws name source _
  | slice name source => exact derive_faultsAs ws name source _
  | toReader name source => exact derive_faultsAs ws name source _
  | intoReader name source =>
    refine Reply.faultsAs_of_fault?_eq_none ?_ _
    rw [step, intoReader]
    split <;> rfl
  | transfer source target => exact transfer_faultsAs ws source target _
  | same first second =>
    rw [step, same]
    split
    · exact Reply.faultsAs_ofExcept (fun _ => rfl) _
    all_goals exact Reply.faultsAs_of_fault?_eq_none rfl _
  | isEmpty name =>
    refine inspect_faultsAs ws name fun o reply ho => ?_
    obtain ⟨id, -, rfl⟩ := Option.map_eq_some_iff.1 ho
    exact Reply.faultsAs_of_fault?_eq_none rfl _
  | content name =>
    refine inspect_faultsAs ws name fun o reply ho => ?_
    cases o with
    | array id => cases ho; exact Reply.faultsAs_of_fault?_eq_none rfl _
    | _ => cases ho
  | overwrite name index bytes =>
    refine Reply.faultsAs_of_fault?_eq_none ?_ _
    rw [step, overwrite]
    split
    · split <;> rfl
    · rfl
  | describe name =>
    refine inspect_faultsAs ws name fun o reply ho => ?_
    cases ho
    exact Reply.faultsAs_of_fault?_eq_none rfl _
  | hasArray name =>
    refine inspect_faultsAs ws name fun o reply ho => ?_
    obtain ⟨v, -, rfl⟩ := Option.map_eq_some_iff.1 ho
    exact Reply.faultsAs_of_fault?_eq_none rfl _
  | arrayOffset name =>
    refine inspect_faultsAs ws name fun o reply ho => ?_
    obtain ⟨v, -, rfl⟩ := Option.map_eq_some_iff.1 ho
    exact Reply.faultsAs_ofExcept (fun _ => rfl) _
  | move name m => exact moveView_faultsAs ws name _ _
  | moveReader name m => exact moveView_faultsAs ws name _ _
  | take name t => exact readFrom_faultsAs ws name (fun _ => rfl) fun r m => r.takeScalar m t
  | byteAt name index =>
    refine inspect_faultsAs ws name fun o reply ho => ?_
    cases o with
    | reader r => cases ho; exact Reply.faultsAs_ofExcept (fun _ => rfl) _
    | _ => cases ho
  | fill name target => exact fillFrom_faultsAs ws name target _
  | fillRange name target offset length => exact fillFrom_faultsAs ws name target _
  | window name =>
    refine inspect_faultsAs ws name fun o reply ho => ?_
    cases o with
    | reader r => cases ho; exact Reply.faultsAs_ofExcept (fun _ => rfl) _
    | _ => cases ho
  | text name encoding =>
    exact readFrom_faultsAs ws name (fun _ => rfl) fun r m => r.text m encoding
  | drain name => exact readFrom_faultsAs ws name (fun _ => rfl) fun r m => r.drain m
  | ensureRemaining name length =>
    refine inspect_faultsAs ws name fun o reply ho => ?_
    cases o with
    | writer w => cases ho; exact Reply.faultsAs_ofExcept (fun _ => rfl) _
    | _ => cases ho
  | put name s => exact writeTo_faultsAs ws name _
  | putBytes name bytes => exact writeTo_faultsAs ws name _
  | putText name s => exact writeTo_faultsAs ws name _

end Workspace

namespace InPlace

/-- After any operations whatever, an operation that answers with a fault leaves everything as it
was, and its answer is the refusal with the target as it was given. -/
theorem failed_step_unchanged (setup : List Operation) (op : Operation) :
    run {} setup = Workspace.run {} setup ∧
    step (run {} setup).2 op = (run {} setup).2.step op ∧
    ∀ f, (step (run {} setup).2 op).1.fault? = some f →
      step (run {} setup).2 op = (op.refusal f, (run {} setup).2) ∧ f ≠ .outsideRegion := by
  have hrun := run_eq Workspace.valid_empty setup
  rw [hrun]
  have hvalid := Workspace.run_valid Workspace.valid_empty setup
  have hstep := step_eq hvalid op
  refine ⟨rfl, hstep, fun f hf => ?_⟩
  rw [hstep] at hf ⊢
  obtain ⟨hinside, hsame⟩ := (Workspace.step_sound hvalid op).refused f hf
  have hreply := Workspace.step_faultsAs (Workspace.run {} setup).2 op f hf
  exact ⟨Prod.ext hreply hsame, hinside⟩

/-- A reader with three octets left and a writer with room for two, over one array. -/
def sharedArray : List Operation :=
  [.allocate "array" .heap [1, 2, 3, 4, 5], .wrapArray "reader" .reader "array" 1 3,
    .wrapArray "narrow" .writer "array" 2 2]

/-- Neither a transfer into too little room nor a read of too many octets leaves a trace. -/
theorem failed_step_unchanged_sharedArray :
    step (run {} sharedArray).2 (.transfer "reader" "narrow") =
      (.failed (.outOfBounds 0 3 2), (run {} sharedArray).2) ∧
    step (run {} sharedArray).2 (.fillRange "reader" [9, 9, 9, 9] 0 4) =
      (.done (.filled (some (.outOfBounds 0 4 3)) [9, 9, 9, 9]), (run {} sharedArray).2) :=
  ⟨((failed_step_unchanged sharedArray (.transfer "reader" "narrow")).2.2 _ rfl).1,
    ((failed_step_unchanged sharedArray (.fillRange "reader" [9, 9, 9, 9] 0 4)).2.2 _ rfl).1⟩

end InPlace

end AmqpClient.Buffer
