import SuperAdvisor.MainAgent.ExecuteLoop

/-!
# The stored checkpoint through a session

Before every operation of every call the directory holds a readable checkpoint,
and it has grown from the one the call started from.  A task whose result was
known before a save has its key in every later checkpoint.
-/

namespace SuperAdvisor.MainAgent

open Program (Upholds run_upholds run_invariant)

variable {Time : Type}

def RuntimeOp.replaces : RuntimeOp → Bool
  | .replaceCheckpoint _ _ => true
  | _ => false

/-- The operation stored a checkpoint. -/
def IsSave (act : RuntimeAct Time) : Prop :=
  act.op.replaces = true ∧ act.reply.isOk = true

instance (act : RuntimeAct Time) : Decidable (IsSave act) :=
  inferInstanceAs (Decidable (_ ∧ _))

/-- A save follows the operation that settled the task. -/
def SavedAfter (acts : List (RuntimeAct Time)) (taskId : String) : Prop :=
  ∃ early act late, acts = early ++ act :: late ∧
    (∃ task, settledTask act = some task ∧ task.taskId = taskId) ∧ ∃ save ∈ late, IsSave save

theorem savedAfter_snoc
    {acts : List (RuntimeAct Time)} {last : RuntimeAct Time} {taskId : String}
    (saved : SavedAfter (acts ++ [last]) taskId) :
    SavedAfter acts taskId ∨ IsSave last ∧
      ∃ act ∈ acts, ∃ task, settledTask act = some task ∧ task.taskId = taskId := by
  obtain ⟨early, act, late, shape, settled, save, member, isSave⟩ := saved
  obtain ⟨later, rfl⟩ : ∃ later, late = later ++ [last] := by
    rcases List.eq_nil_or_concat late with rfl | ⟨later, other, rfl⟩
    · simp at member
    · refine ⟨later, ?_⟩
      have ends := congrArg List.getLast? shape
      simp only [List.concat_eq_append, ← List.cons_append, ← List.append_assoc,
        List.getLast?_concat, Option.some.injEq] at ends
      rw [ends, List.concat_eq_append]
  have front : acts = early ++ act :: later := by
    simpa only [← List.cons_append, ← List.append_assoc, List.append_cancel_right_eq]
      using shape
  rcases List.mem_append.mp member with inside | atEnd
  · exact .inl ⟨early, act, later, front, settled, save, inside, isSave⟩
  · obtain rfl : save = last := by simpa using atEnd
    exact .inr ⟨isSave, act, by simp [front], settled⟩

/-- An operation replaces a checkpoint file or leaves the files alone. -/
theorem actOf_after
    (files : Files) (choice : Choice Time) (op : RuntimeOp) :
    (¬IsSave (actOf files choice op) ∧
        (actOf files choice op).after.checkpoints = files.checkpoints) ∨
      ∃ path text, op = .replaceCheckpoint path text ∧ IsSave (actOf files choice op) ∧
        (actOf files choice op).after =
          { files with checkpoints := Function.update files.checkpoints path (some text) } := by
  cases fault : choice.fault with
  | some written =>
      refine .inl ⟨?_, ?_⟩
      · simp [IsSave, actOf, Program.actOf, answer, fault, Except.isOk, Except.toBool]
      · cases op <;> simp [actOf, Program.actOf, answer, fault, Files.afterFault]
  | none =>
      have performed : (actOf files choice op).after = (perform files choice op).2 := by
        simp [actOf, Program.actOf, answer, fault]
      cases op with
      | replaceCheckpoint path text =>
          refine .inr ⟨path, text, rfl, ?_, performed⟩
          simp [IsSave, RuntimeOp.replaces, actOf, Program.actOf, answer, fault, Except.isOk,
            Except.toBool]
      | readCheckpoint | monotonic | dispatch | readAuditLog | utcNow | appendAuditLog =>
          refine .inl ⟨?_, ?_⟩
          · simp [IsSave, RuntimeOp.replaces, actOf, Program.actOf]
          · rw [performed]
            rfl

section Steps

variable {sha256Hex : List Char → String} {request : RuntimeRequest Time}
  {start stored : RuntimeCheckpoint} {past : List (RuntimeAct Time)} {files : Files}

theorem storedCheckpoint_congr
    {other : Files} (same : other.checkpoints = files.checkpoints) :
    storedCheckpoint sha256Hex request other = storedCheckpoint sha256Hex request files := by
  simp only [storedCheckpoint, same]

/-- An allowed operation either stores a grown checkpoint or leaves it alone. -/
theorem storedCheckpoint_after
    (found : storedCheckpoint sha256Hex request files = .ok stored)
    (choice : Choice Time) (op : RuntimeOp)
    (allowed : Allowed sha256Hex request start past (actOf files choice op)) :
    (¬ IsSave (actOf files choice op) ∧
        storedCheckpoint sha256Hex request (actOf files choice op).after = .ok stored) ∨
      ∃ saved, IsSave (actOf files choice op) ∧
        storedCheckpoint sha256Hex request (actOf files choice op).after = .ok saved ∧
        Grows request stored saved ∧
        ∀ earlier ∈ past, ∀ task, settledTask earlier = some task →
          dispatchKey request task.taskId ∈ saved.dispatchedIdempotencyKeys.items := by
  rcases actOf_after files choice op with ⟨unsaved, same⟩ | ⟨path, text, rfl, save, after⟩
  · exact .inl ⟨unsaved, by rw [storedCheckpoint_congr same, found]⟩
  · obtain ⟨rfl, before, checkpoint, known, printed, grows, recorded⟩ := allowed
    obtain rfl : stored = before := by simpa [found] using known
    refine .inr ⟨checkpoint.reloaded, save, ?_, ?_, ?_⟩
    · rw [after]
      exact storedCheckpoint_saved printed
    · exact grows.trans (Grows.of_same checkpoint.reloaded_same.symm)
    · intro earlier member task settled
      exact (checkpoint.reloaded_same.dispatched _).mpr
        (recorded earlier member task settled)

variable (sha256Hex request start) in
/-- What holds before every operation of a call that started from `start`. -/
def Tracked (past : List (RuntimeAct Time)) (files : Files) : Prop :=
  ∃ stored, storedCheckpoint sha256Hex request files = .ok stored ∧
    Grows request start stored ∧
    ∀ taskId, SavedAfter past taskId →
      dispatchKey request taskId ∈ stored.dispatchedIdempotencyKeys.items

theorem tracked_step
    (tracked : Tracked sha256Hex request start past files)
    (choice : Choice Time) (op : RuntimeOp)
    (allowed : Allowed sha256Hex request start past (actOf files choice op)) :
    Tracked sha256Hex request start (past ++ [actOf files choice op])
      (actOf files choice op).after := by
  obtain ⟨stored, found, grows, recorded⟩ := tracked
  rcases storedCheckpoint_after found choice op allowed with
    ⟨unsaved, same⟩ | ⟨saved, -, same, more, settled⟩
  · refine ⟨stored, same, grows, ?_⟩
    intro taskId later
    rcases savedAfter_snoc later with early | ⟨save, -⟩
    · exact recorded taskId early
    · exact absurd save unsaved
  · refine ⟨saved, same, grows.trans more, ?_⟩
    intro taskId later
    rcases savedAfter_snoc later with early | ⟨-, act, member, task, known, rfl⟩
    · exact more.dispatched _ (recorded taskId early)
    · exact settled act member task known

/-- A checkpoint whose dispatch keys are explained by a completion or a failure. -/
def Accounted (request : RuntimeRequest Time) (checkpoint : RuntimeCheckpoint) : Prop :=
  ∀ task ∈ request.plan.tasks,
    dispatchKey request task.taskId ∈ checkpoint.dispatchedIdempotencyKeys.items →
      task.taskId ∈ checkpoint.completed.keys ∨ checkpoint.failed.keys ≠ []

theorem Accounted.grows
    {before after : RuntimeCheckpoint} (accounted : Accounted request before)
    (grows : Grows request before after) : Accounted request after := by
  intro task planned recorded
  rcases grows.explained _ recorded with old | ⟨other, -, same, reason⟩
  · rcases accounted task planned old with completed | failed
    · exact .inl (grows.completed _ completed)
    · obtain ⟨taskId, inside⟩ := List.exists_mem_of_ne_nil _ failed
      exact .inr (List.ne_nil_of_mem (grows.failed taskId inside))
  · rw [dispatchKey_injective request same]
    exact reason

end Steps

section Sessions

variable {sha256Hex : List Char → String} {request : RuntimeRequest Time}
  [LinearOrder Time] [Add Time] {start : RuntimeCheckpoint}
  {event : SessionEvent Time}

/-- What one call does to the stored checkpoint, and what it reports. -/
structure CallFacts (sha256Hex : List Char → String) (request : RuntimeRequest Time)
    (start : RuntimeCheckpoint) (event : SessionEvent Time) : Prop where
  after : Tracked sha256Hex request start event.reply.acts event.after
  during : ∀ early act late, event.reply.acts = early ++ act :: late →
    Tracked sha256Hex request start early act.before ∧
      Allowed sha256Hex request start early act
  reported : ∀ report, event.reply.outcome = .returned (some report) →
    ReportSound request start report

theorem callFacts
    {files : Files} (started : storedCheckpoint sha256Hex request files = .ok start)
    (invocation : OperatorInvocation Time) :
    CallFacts sha256Hex request start
      (Machine.eventOf (sessionStep sha256Hex request) files invocation) := by
  have upholds := upholds_call invocation.manager invocation.call started
  obtain ⟨good, returned⟩ := run_upholds upholds invocation.script
  have initial : Tracked sha256Hex request start [] files := by
    refine ⟨start, started, Grows.of_same (SameRecords.of_eq rfl rfl rfl), ?_⟩
    rintro taskId ⟨early, act, late, shape, -⟩
    simp at shape
  obtain ⟨final, before⟩ := run_invariant (Tracked sha256Hex request start)
    (fun past state choice op tracked allowed => tracked_step tracked choice op allowed)
    upholds initial invocation.script
  refine ⟨final, ?_, ?_⟩
  · exact fun early act late shape =>
      ⟨before early act late shape, good early act late shape⟩
  · exact fun report same => returned _ same report rfl

/-- Over any calls the stored checkpoint only grows. -/
theorem final_grows
    {files : Files} (started : storedCheckpoint sha256Hex request files = .ok start)
    (calls : List (OperatorInvocation Time)) :
    ∃ stored, storedCheckpoint sha256Hex request
        (Machine.final (sessionStep sha256Hex request) files calls) = .ok stored ∧
      Grows request start stored := by
  induction calls generalizing files start with
  | nil => exact ⟨start, started, Grows.of_same (SameRecords.of_eq rfl rfl rfl)⟩
  | cons invocation calls induction =>
      obtain ⟨next, found, grows, -⟩ := (callFacts started invocation).after
      obtain ⟨last, final, more⟩ := induction found
      exact ⟨last, final, grows.trans more⟩

/-- Every call of a session starts with a readable checkpoint whose keys are
accounted for. -/
theorem session_facts
    {calls : List (OperatorInvocation Time)} (member : event ∈ session sha256Hex request calls) :
    ∃ start, storedCheckpoint sha256Hex request event.before = .ok start ∧
      Accounted request start ∧ CallFacts sha256Hex request start event := by
  obtain ⟨early, invocation, late, -, rfl⟩ := (Machine.mem_trace_iff _).mp member
  obtain ⟨stored, found, grows⟩ := final_grows
    (show storedCheckpoint sha256Hex request Files.empty = .ok _ from rfl) early
  refine ⟨stored, found, ?_, callFacts found invocation⟩
  exact Accounted.grows (fun task planned recorded => by simp [KeySet.empty] at recorded) grows

end Sessions

end SuperAdvisor.MainAgent
