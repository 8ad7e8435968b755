import Mathlib.Logic.Function.Basic
import SuperAdvisor.Foundation.Machine
import SuperAdvisor.MainAgent.Runtime

/-!
# Operator sessions

The environment of the manager is the checkpoint directory and, for every
operation, a choice: what the clocks show, what the dispatcher does, and
whether the operation raises.  A session is a list of operator calls on one
request, each with its choices; a call that runs out of choices has died.
-/

namespace SuperAdvisor.MainAgent

open Python

/-- The checkpoint directory. -/
structure Files where
  checkpoints : String → Option (List Char)
  auditLog : Option (List Char)

def Files.empty : Files :=
  { checkpoints := fun _ => none
    auditLog := none }

/-- What the environment does at one operation.  With a fault the operation
raises; an append may then have written the beginning of its line. -/
structure Choice (Time : Type) where
  clock : Time
  utcNow : String := ""
  outcome : DispatchOutcome := .refused ""
  fault : Option Nat := none

variable {Time : Type}

/-- The directory after an operation that raised. -/
def Files.afterFault (files : Files) (written : Nat) : RuntimeOp → Files
  | .appendAuditLog line =>
      { files with auditLog := some (files.auditLog.getD [] ++ line.take written) }
  | _ => files

/-- The reply to an operation that does not raise. -/
def perform (files : Files) (choice : Choice Time) :
    (op : RuntimeOp) → op.Reply Time × Files
  | .readCheckpoint path => (files.checkpoints path, files)
  | .replaceCheckpoint path text =>
      ((), { files with
        checkpoints := Function.update files.checkpoints path (some text) })
  | .monotonic => (choice.clock, files)
  | .dispatch _ => (choice.outcome, files)
  | .readAuditLog => (files.auditLog, files)
  | .utcNow => (choice.utcNow, files)
  | .appendAuditLog line =>
      ((), { files with auditLog := some (files.auditLog.getD [] ++ line) })

def answer (files : Files) (choice : Choice Time) (op : RuntimeOp) :
    Except RuntimeProblem (op.Reply Time) × Files :=
  match choice.fault with
  | some written => (.error .environment, files.afterFault written op)
  | none => (.ok (perform files choice op).1, (perform files choice op).2)

abbrev RuntimeAct (Time : Type) :=
  Program.Act Files RuntimeOp (RuntimeOp.Reply Time) RuntimeProblem

abbrev actOf (files : Files) (choice : Choice Time) (op : RuntimeOp) : RuntimeAct Time :=
  Program.actOf answer files choice op

/-- An operation that does not raise is performed. -/
theorem actOf_ok
    {files : Files} {choice : Choice Time} {op : RuntimeOp} {reply : op.Reply Time}
    (answered : (actOf files choice op).reply = .ok reply) :
    reply = (perform files choice op).1 ∧
      (actOf files choice op).after = (perform files choice op).2 := by
  cases fault : choice.fault with
  | some written => simp [actOf, Program.actOf, answer, fault] at answered
  | none =>
      simp only [actOf, Program.actOf, answer, fault, Except.ok.injEq] at answered ⊢
      exact ⟨answered.symm, trivial⟩

/-- The task an operation dispatches. -/
def RuntimeOp.dispatched : RuntimeOp → Option AgentTask
  | .dispatch task => some task
  | _ => none

/-- The task whose dispatch ended with a result that is not retried. -/
def settledTask : RuntimeAct Time → Option AgentTask
  | ⟨_, .dispatch task, .ok outcome, _⟩ =>
      match (outcome : DispatchOutcome) with
      | .returned payload =>
          match resultOfPayload payload with
          | .ok result => if result.isRetryable then none else some task
          | .error _ => some task
      | _ => none
  | _ => none

theorem op_of_settledTask
    {act : RuntimeAct Time} {task : AgentTask} (settled : settledTask act = some task) :
    act.op = .dispatch task := by
  obtain ⟨before, op, reply, after⟩ := act
  unfold settledTask at settled
  split at settled
  next shape =>
    cases shape
    split at settled
    · split at settled
      · split at settled
        · cases settled
        · rw [Option.some.inj settled]
      · rw [Option.some.inj settled]
    · cases settled
  next => cases settled

inductive OperatorCall where
  | execute
  | pause
  | resume
  | stop
  | recover
  deriving DecidableEq

structure OperatorInvocation (Time : Type) where
  manager : MainRuntimeManager
  call : OperatorCall
  script : List (Choice Time)

/-- How a call ended and what it did. -/
structure CallResult (Time : Type) where
  outcome : Program.Outcome RuntimeProblem (Option RuntimeReport)
  acts : List (RuntimeAct Time)

variable (sha256Hex : List Char → String) (request : RuntimeRequest Time)
  [LinearOrder Time] [Add Time]

def OperatorCall.program (manager : MainRuntimeManager) :
    OperatorCall → RuntimeProgram Time (Option RuntimeReport)
  | .execute => do
      let report ← SuperAdvisor.MainAgent.execute sha256Hex manager request
      .done (some report)
  | .pause => do
      SuperAdvisor.MainAgent.pause sha256Hex request
      .done none
  | .resume => do
      let report ← SuperAdvisor.MainAgent.resume sha256Hex manager request
      .done (some report)
  | .stop => do
      SuperAdvisor.MainAgent.stop sha256Hex request
      .done none
  | .recover => do
      let report ← SuperAdvisor.MainAgent.recover sha256Hex manager request
      .done (some report)

/-- One operator call of a session. -/
def sessionStep (files : Files) (invocation : OperatorInvocation Time) :
    CallResult Time × Files :=
  let run := Program.run answer
    (invocation.call.program sha256Hex request invocation.manager) invocation.script files
  ({ outcome := run.outcome, acts := run.acts }, run.state)

abbrev SessionEvent (Time : Type) :=
  Machine.Event Files (OperatorInvocation Time) (CallResult Time)

/-- The calls on one request, from an empty directory. -/
def session (calls : List (OperatorInvocation Time)) : List (SessionEvent Time) :=
  Machine.trace (sessionStep sha256Hex request) Files.empty calls

end SuperAdvisor.MainAgent
