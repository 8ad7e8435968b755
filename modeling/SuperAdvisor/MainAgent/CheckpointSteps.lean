import SuperAdvisor.MainAgent.Session

/-!
# What a call does to the stored checkpoint

Every operation of a call is seen through the checkpoint its file holds.  A
dispatch happens only for a task that the stored checkpoint does not know, with
its dependencies completed there or dispatched before the call; a save only
adds records, and it records the key of every task settled in the call.
`Allowed` says so for one operation, and every effect of the manager has a rule
for it.
-/

namespace SuperAdvisor.MainAgent

open Python
open Program (Upholds upholds_bind upholds_ofExcept upholds_bind_ofExcept)

variable {Time : Type}

/-- Two checkpoints that record the same tasks. -/
structure SameRecords (left right : RuntimeCheckpoint) : Prop where
  completed : ∀ taskId, taskId ∈ left.completed.keys ↔ taskId ∈ right.completed.keys
  failed : ∀ taskId, taskId ∈ left.failed.keys ↔ taskId ∈ right.failed.keys
  dispatched : ∀ key, key ∈ left.dispatchedIdempotencyKeys.items ↔
    key ∈ right.dispatchedIdempotencyKeys.items

theorem SameRecords.of_eq
    {left right : RuntimeCheckpoint} (completed : left.completed = right.completed)
    (failed : left.failed = right.failed)
    (dispatched : left.dispatchedIdempotencyKeys = right.dispatchedIdempotencyKeys) :
    SameRecords left right := by
  constructor <;> simp [completed, failed, dispatched]

theorem SameRecords.symm
    {left right : RuntimeCheckpoint} (same : SameRecords left right) :
    SameRecords right left :=
  ⟨fun taskId => (same.completed taskId).symm, fun taskId => (same.failed taskId).symm,
    fun key => (same.dispatched key).symm⟩

theorem SameRecords.trans
    {first second third : RuntimeCheckpoint} (left : SameRecords first second)
    (right : SameRecords second third) : SameRecords first third :=
  ⟨fun taskId => (left.completed taskId).trans (right.completed taskId),
    fun taskId => (left.failed taskId).trans (right.failed taskId),
    fun key => (left.dispatched key).trans (right.dispatched key)⟩

/-- Saving and loading keeps the records. -/
theorem RuntimeCheckpoint.reloaded_same (checkpoint : RuntimeCheckpoint) :
    SameRecords checkpoint.reloaded checkpoint :=
  ⟨fun _ => by simp [reloaded], fun _ => by simp [reloaded], fun _ => by simp [reloaded]⟩

theorem dispatchKey_injective
    (request : RuntimeRequest Time) {left right : String}
    (same : dispatchKey request left = dispatchKey request right) : left = right := by
  simpa [dispatchKey, String.append_right_inj] using same

section Predicates

variable (sha256Hex : List Char → String) (request : RuntimeRequest Time)

/-- What `_load_checkpoint` gives in a directory. -/
def storedCheckpoint (files : Files) : Except RuntimeProblem RuntimeCheckpoint :=
  readCheckpoint request (files.checkpoints (checkpointPath sha256Hex request))

/-- A save only adds records.  It completes only tasks that were not dispatched
before, and it adds the key of a task only together with the completion of the
task or with a failure. -/
structure Grows (before after : RuntimeCheckpoint) : Prop where
  completed : ∀ taskId ∈ before.completed.keys, taskId ∈ after.completed.keys
  failed : ∀ taskId ∈ before.failed.keys, taskId ∈ after.failed.keys
  dispatched : ∀ key ∈ before.dispatchedIdempotencyKeys.items,
    key ∈ after.dispatchedIdempotencyKeys.items
  fresh : ∀ taskId ∈ after.completed.keys, taskId ∈ before.completed.keys ∨
    dispatchKey request taskId ∉ before.dispatchedIdempotencyKeys.items
  explained : ∀ key ∈ after.dispatchedIdempotencyKeys.items,
    key ∈ before.dispatchedIdempotencyKeys.items ∨
      ∃ task ∈ request.plan.tasks, key = dispatchKey request task.taskId ∧
        (task.taskId ∈ after.completed.keys ∨ after.failed.keys ≠ [])

/-- What a call may do that started from `start`. -/
def Allowed (start : RuntimeCheckpoint) (past : List (RuntimeAct Time))
    (act : RuntimeAct Time) : Prop :=
  match act.op with
  | .dispatch task =>
      task ∈ request.plan.tasks ∧
        ∃ stored, storedCheckpoint sha256Hex request act.before = .ok stored ∧
          task.taskId ∉ stored.completed.keys ∧
          dispatchKey request task.taskId ∉ stored.dispatchedIdempotencyKeys.items ∧
          ∀ dependency ∈ task.dependsOn, dependency ∈ stored.completed.keys ∨
            dispatchKey request dependency ∈ start.dispatchedIdempotencyKeys.items
  | .replaceCheckpoint path text =>
      path = checkpointPath sha256Hex request ∧
        ∃ stored checkpoint, storedCheckpoint sha256Hex request act.before = .ok stored ∧
          canonicalJson checkpoint.toDict = .ok text ∧ Grows request stored checkpoint ∧
          ∀ earlier ∈ past, ∀ task, settledTask earlier = some task →
            dispatchKey request task.taskId ∈ checkpoint.dispatchedIdempotencyKeys.items
  | _ => True

/-- What a report of completion says about the call that started from `start`. -/
def ReportSound (start : RuntimeCheckpoint) (report : RuntimeReport) : Prop :=
  report.status = "COMPLETED" →
    (∀ task ∈ request.plan.tasks, task.taskId ∈ report.completedTaskIds ∨
      dispatchKey request task.taskId ∈ start.dispatchedIdempotencyKeys.items) ∧
    (∀ taskId, taskId ∈ report.failedTaskIds ↔ taskId ∈ start.failed.keys) ∧
    ∀ taskId ∈ start.completed.keys, taskId ∈ report.completedTaskIds

end Predicates

/-- The later history settles no more tasks than the earlier one. -/
def Unsettling (past after : List (RuntimeAct Time)) : Prop :=
  ∀ act ∈ after, act ∈ past ∨ settledTask act = none

theorem Unsettling.refl (past : List (RuntimeAct Time)) : Unsettling past past :=
  fun _ member => .inl member

theorem Unsettling.snoc
    {past after : List (RuntimeAct Time)} (quiet : Unsettling past after)
    {act : RuntimeAct Time} (unsettled : settledTask act = none) :
    Unsettling past (after ++ [act]) := by
  intro other member
  rcases List.mem_append.mp member with early | last
  · exact quiet other early
  · obtain rfl : other = act := by simpa using last
    exact .inr unsettled

theorem Unsettling.trans
    {past middle after : List (RuntimeAct Time)} (first : Unsettling past middle)
    (second : Unsettling middle after) : Unsettling past after := by
  intro act member
  rcases second act member with early | unsettled
  · exact first act early
  · exact .inr unsettled

/-- What holds of the tasks settled earlier holds of those settled later. -/
theorem Unsettling.settled
    {past after : List (RuntimeAct Time)} (quiet : Unsettling past after)
    {holds : AgentTask → Prop}
    (earlier : ∀ act ∈ past, ∀ task, settledTask act = some task → holds task) :
    ∀ act ∈ after, ∀ task, settledTask act = some task → holds task := by
  intro act member task settled
  rcases quiet act member with early | unsettled
  · exact earlier act early task settled
  · simp [unsettled] at settled

theorem settledTask_of_not_dispatch
    {act : RuntimeAct Time} (other : ∀ task, act.op ≠ .dispatch task) :
    settledTask act = none := by
  cases settled : settledTask act with
  | none => rfl
  | some task => exact absurd (op_of_settledTask settled) (other task)

section Rules

variable {sha256Hex : List Char → String} {request : RuntimeRequest Time}
  {start : RuntimeCheckpoint} {past : List (RuntimeAct Time)} {files : Files}

/-- Operations that neither dispatch nor touch the checkpoint file. -/
def RuntimeOp.IsQuiet : RuntimeOp → Prop
  | .dispatch _ => False
  | .replaceCheckpoint _ _ => False
  | _ => True

theorem allowed_quiet
    (past : List (RuntimeAct Time)) (act : RuntimeAct Time) (quiet : act.op.IsQuiet) :
    Allowed sha256Hex request start past act := by
  unfold Allowed
  cases same : act.op <;> rw [same] at quiet <;> first | exact trivial | exact quiet.elim

section Files

variable {good : List (RuntimeAct Time) → RuntimeAct Time → Prop}

theorem upholds_quiet
    (allows : ∀ past act, act.op.IsQuiet → good past act)
    {α : Type} {post : α → List (RuntimeAct Time) → Files → Prop} (op : RuntimeOp)
    (quiet : op.IsQuiet) {next : op.Reply Time → RuntimeProgram Time α}
    (later : ∀ choice after after', after = (perform files choice op).2 →
      after.checkpoints = files.checkpoints → Unsettling past after' →
        Upholds answer good post (next (perform files choice op).1) after' after) :
    Upholds answer good post
      ((Program.perform op .done : RuntimeProgram Time (op.Reply Time)) >>= next)
      past files := by
  refine .perform (fun _ => allows _ _ quiet) ?_
  intro choice reply answered
  obtain ⟨rfl, after⟩ := actOf_ok answered
  refine later choice _ _ after ?_ ((Unsettling.refl past).snoc ?_)
  · rw [show (Program.actOf answer files choice op).after = _ from after]
    cases op <;> first | rfl | exact quiet.elim
  · refine settledTask_of_not_dispatch ?_
    cases op <;> first | exact quiet.elim | (intro task same; cases same)

theorem upholds_loadCheckpoint
    (allows : ∀ past act, act.op.IsQuiet → good past act)
    {post : RuntimeCheckpoint → List (RuntimeAct Time) → Files → Prop}
    (returns : ∀ stored after, storedCheckpoint sha256Hex request files = .ok stored →
      Unsettling past after → post stored after files) :
    Upholds answer good post (loadCheckpoint sha256Hex request) past files := by
  refine upholds_quiet allows (.readCheckpoint (checkpointPath sha256Hex request)) trivial ?_
  rintro choice _ history rfl - quiet
  exact upholds_ofExcept (fun stored found => returns stored history found quiet)

/-- A stored checkpoint is read back reloaded. -/
theorem storedCheckpoint_saved
    {checkpoint : RuntimeCheckpoint} {text : List Char}
    (printed : canonicalJson checkpoint.toDict = .ok text) :
    storedCheckpoint sha256Hex request
        { files with
          checkpoints := Function.update files.checkpoints
            (checkpointPath sha256Hex request) (some text) } =
      .ok checkpoint.reloaded := by
  obtain ⟨value, parsed, read⟩ := RuntimeCheckpoint.load_save printed
  simp [storedCheckpoint, readCheckpoint, parsed, read, Except.mapError]

theorem upholds_replaceCheckpoint
    {checkpoint : RuntimeCheckpoint} {post : Unit → List (RuntimeAct Time) → Files → Prop}
    (allowed : ∀ choice text, canonicalJson checkpoint.toDict = .ok text →
      good past (actOf files choice
        (.replaceCheckpoint (checkpointPath sha256Hex request) text)))
    (returns : ∀ after files',
      storedCheckpoint sha256Hex request files' = .ok checkpoint.reloaded →
        Unsettling past after → post () after files') :
    Upholds answer good post (saveCheckpoint sha256Hex request checkpoint) past files := by
  unfold saveCheckpoint
  refine upholds_bind_ofExcept ?_
  intro text dumped
  have printed := except_mapError_eq_ok.mp dumped
  refine .perform (fun choice => allowed choice text printed) ?_
  intro choice reply answered
  obtain ⟨-, replaced⟩ := actOf_ok answered
  refine .done (returns _ _ ?_ ((Unsettling.refl _).snoc ?_))
  · rw [show (Program.actOf answer files choice _).after = _ from replaced]
    exact storedCheckpoint_saved printed
  · exact settledTask_of_not_dispatch (by intro task same; cases same)

end Files

/-- Saving a checkpoint that keeps the records and knows what was settled. -/
theorem upholds_saveCheckpoint
    {stored checkpoint : RuntimeCheckpoint}
    {post : Unit → List (RuntimeAct Time) → Files → Prop}
    (found : storedCheckpoint sha256Hex request files = .ok stored)
    (grows : Grows request stored checkpoint)
    (recorded : ∀ earlier ∈ past, ∀ task, settledTask earlier = some task →
      dispatchKey request task.taskId ∈ checkpoint.dispatchedIdempotencyKeys.items)
    (returns : ∀ after files',
      storedCheckpoint sha256Hex request files' = .ok checkpoint.reloaded →
        Unsettling past after → post () after files') :
    Upholds answer (Allowed sha256Hex request start) post
      (saveCheckpoint sha256Hex request checkpoint) past files :=
  upholds_replaceCheckpoint
    (fun _ _ printed => ⟨rfl, stored, checkpoint, found, printed, grows, recorded⟩) returns

/-- The audit log is no concern of the checkpoint. -/
theorem upholds_appendAuditEvent
    {eventType taskId detail : String}
    {post : Unit → List (RuntimeAct Time) → Files → Prop}
    (returns : ∀ after files', files'.checkpoints = files.checkpoints →
      Unsettling past after → post () after files') :
    Upholds answer (Allowed sha256Hex request start) post
      (appendAuditEvent sha256Hex eventType taskId detail) past files := by
  unfold appendAuditEvent
  refine upholds_quiet allowed_quiet .readAuditLog trivial ?_
  intro _ afterRead readHistory _ readSame readQuiet
  refine upholds_bind_ofExcept ?_
  intro previous _
  refine upholds_quiet allowed_quiet .utcNow trivial ?_
  intro _ afterClock clockHistory _ clockSame clockQuiet
  refine upholds_bind_ofExcept ?_
  intro unhashed _
  refine upholds_bind_ofExcept ?_
  intro line _
  refine upholds_quiet allowed_quiet (.appendAuditLog _) trivial ?_
  intro _ afterAppend appendHistory _ appendSame appendQuiet
  exact .done (returns _ _ (appendSame.trans (clockSame.trans readSame))
    ((readQuiet.trans clockQuiet).trans appendQuiet))

/-- The attempts of one task dispatch that task only. -/
theorem upholds_dispatchAttempts
    {task : AgentTask} {post : TaskResult → List (RuntimeAct Time) → Files → Prop}
    (allowed : ∀ (past : List (RuntimeAct Time)) (act : RuntimeAct Time),
      act.before = files → act.op = .dispatch task →
        Allowed sha256Hex request start past act)
    (returns : ∀ result after,
      (∀ act ∈ after, act ∈ past ∨ act.op = .dispatch task) → post result after files)
    (remaining : Nat) (lastError : String) :
    Upholds answer (Allowed sha256Hex request start) post
      (dispatchAttempts task remaining lastError) past files := by
  induction remaining generalizing past lastError with
  | zero => exact .done (returns _ _ (fun act member => .inl member))
  | succ remaining induction =>
      refine .perform (fun _ => allowed _ _ rfl rfl) ?_
      intro choice reply answered
      obtain ⟨-, same⟩ := actOf_ok answered
      have later : ∀ act ∈ past ++ [Program.actOf answer files choice (.dispatch task)],
          act ∈ past ∨ act.op = .dispatch task := by
        intro act member
        rcases List.mem_append.mp member with early | last
        · exact .inl early
        · obtain rfl : act = Program.actOf answer files choice (.dispatch task) := by
            simpa using last
          exact .inr rfl
      have again : ∀ error, Upholds answer (Allowed sha256Hex request start) post
          (dispatchAttempts task remaining error)
          (past ++ [Program.actOf answer files choice (.dispatch task)]) files := by
        intro error
        refine induction ?_ error
        intro result after dispatched
        refine returns result after ?_
        intro act member
        rcases dispatched act member with early | here
        · exact later act early
        · exact .inr here
      rw [show (Program.actOf answer files choice (.dispatch task)).after = files from same]
      show Upholds _ _ _ (afterAttempt task (dispatchAttempts task remaining) reply) _ _
      unfold afterAttempt
      split
      · split
        · split
          · exact again _
          · exact .done (returns _ _ later)
        · exact .done (returns _ _ later)
      · exact .done (returns _ _ later)
      · exact again _

theorem Grows.of_same
    {stored after : RuntimeCheckpoint} (same : SameRecords stored after) :
    Grows request stored after :=
  ⟨fun taskId member => (same.completed taskId).mp member,
    fun taskId member => (same.failed taskId).mp member,
    fun key member => (same.dispatched key).mp member,
    fun taskId member => .inl ((same.completed taskId).mpr member),
    fun key member => .inl ((same.dispatched key).mpr member)⟩

theorem Grows.trans
    {first second third : RuntimeCheckpoint} (left : Grows request first second)
    (right : Grows request second third) : Grows request first third := by
  refine ⟨fun taskId member => right.completed taskId (left.completed taskId member),
    fun taskId member => right.failed taskId (left.failed taskId member),
    fun key member => right.dispatched key (left.dispatched key member), ?_, ?_⟩
  · intro taskId member
    rcases right.fresh taskId member with known | fresh
    · exact left.fresh taskId known
    · exact .inr (fun old => fresh (left.dispatched _ old))
  · intro key member
    rcases right.explained key member with known | new
    · rcases left.explained key known with old | ⟨task, planned, rfl, completed | failed⟩
      · exact .inl old
      · exact .inr ⟨task, planned, rfl, .inl (right.completed _ completed)⟩
      · obtain ⟨taskId, inside⟩ := List.exists_mem_of_ne_nil _ failed
        exact .inr ⟨task, planned, rfl,
          .inr (List.ne_nil_of_mem (right.failed taskId inside))⟩
    · exact .inr new

theorem upholds_saveAndReport
    {stored checkpoint : RuntimeCheckpoint} {status : String}
    (found : storedCheckpoint sha256Hex request files = .ok stored)
    (grows : Grows request stored checkpoint)
    (recorded : ∀ earlier ∈ past, ∀ task, settledTask earlier = some task →
      dispatchKey request task.taskId ∈ checkpoint.dispatchedIdempotencyKeys.items)
    (sound : ReportSound request start (report sha256Hex request checkpoint status)) :
    Upholds answer (Allowed sha256Hex request start)
      (fun report _ _ => ReportSound request start report)
      (saveAndReport sha256Hex request checkpoint status) past files := by
  unfold saveAndReport
  refine upholds_bind (fun _ _ _ => True) ?_ (fun _ _ _ _ => .done sound)
  exact upholds_saveCheckpoint found grows recorded (fun _ _ _ _ => trivial)

theorem reportSound_of_status
    {checkpoint : RuntimeCheckpoint} {status : String} (other : status ≠ "COMPLETED") :
    ReportSound request start (report sha256Hex request checkpoint status) :=
  fun completed => absurd (show status = "COMPLETED" from completed) other

end Rules

end SuperAdvisor.MainAgent
