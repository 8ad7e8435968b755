import Mathlib.Order.Defs.LinearOrder
import SuperAdvisor.Foundation.Program
import SuperAdvisor.Foundation.PythonText
import SuperAdvisor.MainAgent.Checkpoint
import SuperAdvisor.MainAgent.Plan

/-!
# The main runtime manager

The operations of `MainRuntimeManager` as effect programs.  The operations they
perform are the reads and atomic replacements of the checkpoint file, the reads
and appends of the audit log, the two clocks and the dispatcher.  The digest is
a parameter.
-/

namespace SuperAdvisor.MainAgent

open Python
open Program (ofExcept)

structure RuntimeRequest (Time : Type) where
  requestId : String
  plan : DependencyPlan
  idempotencyKey : String
  action : String := "analyze"
  timeoutSeconds : Time
  maxHops : Int := 50
  humanReleaseGateOpen : Bool := false

structure RuntimeReport where
  requestId : String
  status : String
  completedTaskIds : List String
  failedTaskIds : List String
  conflictTaskIds : List String
  dispatchCount : Nat
  checkpointPath : String
  auditLogPath : String
  deriving DecidableEq

/-- What the manager was constructed with; the state is missing when there is
no registry snapshot. -/
structure MainRuntimeManager where
  capabilities : List (String × AgentCapability)
  snapshotState : Option String
  maxRetries : Int := 2

/-- What a call of the dispatcher does, unless its exception escapes:
`refused` is a `KeyError`, `TypeError` or `ValueError`. -/
inductive DispatchOutcome where
  | returned (payload : List (Key × Value))
  | refused (message : String)
  | runtimeError (message : String)

inductive RuntimeOp where
  | readCheckpoint (path : String)
  | replaceCheckpoint (path : String) (text : List Char)
  | monotonic
  | dispatch (task : AgentTask)
  | readAuditLog
  | utcNow
  | appendAuditLog (line : List Char)

/-- The reply to an operation; a file that does not exist has no text. -/
def RuntimeOp.Reply (Time : Type) : RuntimeOp → Type
  | .readCheckpoint _ => Option (List Char)
  | .replaceCheckpoint _ _ => Unit
  | .monotonic => Time
  | .dispatch _ => DispatchOutcome
  | .readAuditLog => Option (List Char)
  | .utcNow => String
  | .appendAuditLog _ => Unit

abbrev RuntimeProgram (Time α : Type) :=
  Program RuntimeOp (RuntimeOp.Reply Time) RuntimeProblem α

variable {Time : Type}

/-! The operations as programs. -/

def readFile (path : String) : RuntimeProgram Time (Option (List Char)) :=
  .perform (.readCheckpoint path) .done

def replaceFile (path : String) (text : List Char) : RuntimeProgram Time Unit :=
  .perform (.replaceCheckpoint path text) .done

def monotonic : RuntimeProgram Time Time :=
  .perform .monotonic .done

def dispatcher (task : AgentTask) : RuntimeProgram Time DispatchOutcome :=
  .perform (.dispatch task) .done

def readLog : RuntimeProgram Time (Option (List Char)) :=
  .perform .readAuditLog .done

def utcNow : RuntimeProgram Time String :=
  .perform .utcNow .done

def appendLog (line : List Char) : RuntimeProgram Time Unit :=
  .perform (.appendAuditLog line) .done

def raisesPython {α : Type} (result : Except Failure α) : RuntimeProgram Time α :=
  ofExcept (result.mapError .python)

def MainRuntimeManager.registryState (manager : MainRuntimeManager) : String :=
  manager.snapshotState.getD "AGENT_REGISTRY_INVALID"

/-- The result a dispatcher's mapping describes. -/
def resultOfPayload (payload : List (Key × Value)) : Except Failure TaskResult := do
  let taskId ← getItem (.dict payload) "task_id"
  let agentId ← getItem (.dict payload) "agent_id"
  let status ← getItem (.dict payload) "status"
  let evidenceReference ← getItem (.dict payload) "evidence_reference"
  let data ← dictOf (getOr payload "payload" (.dict []))
  let provenance ← dictOf (getOr payload "provenance" (.dict []))
  .ok
    { taskId := taskId.text
      agentId := agentId.text
      status := status.text
      evidenceReference := evidenceReference.text
      payload := data
      provenance := provenance
      retryable := (getOr payload "retryable" (.bool false)).truthy }

def TaskResult.isRetryable (result : TaskResult) : Bool :=
  decide (result.status = "RETRYABLE_FAILURE") && result.retryable

/-- The result of a task whose dispatch did not succeed. -/
def failedDispatch (task : AgentTask) (lastError : String) : TaskResult :=
  { taskId := task.taskId
    agentId := task.agentId
    status := "FAILED"
    evidenceReference := ""
    payload := [(.str "error", .str lastError)]
    provenance := [] }

/-- One attempt of `_dispatch_with_retry`, with the rest of the loop. -/
def afterAttempt (task : AgentTask) (retry : String → RuntimeProgram Time TaskResult) :
    DispatchOutcome → RuntimeProgram Time TaskResult
  | .returned payload =>
      match resultOfPayload payload with
      | .ok result =>
          if result.isRetryable then retry "retryable failure result" else .done result
      | .error failure => .done (failedDispatch task failure.text)
  | .refused message => .done (failedDispatch task message)
  | .runtimeError message => retry message

/-- The loop of `_dispatch_with_retry` with the attempts that are left. -/
def dispatchAttempts (task : AgentTask) :
    Nat → String → RuntimeProgram Time TaskResult
  | 0, lastError => .done (failedDispatch task lastError)
  | remaining + 1, _ => do
      let outcome ← dispatcher task
      afterAttempt task (dispatchAttempts task remaining) outcome

def dispatchWithRetry (manager : MainRuntimeManager) (task : AgentTask) :
    RuntimeProgram Time TaskResult :=
  dispatchAttempts task (manager.maxRetries + 1).toNat "unknown dispatch failure"

def acceptedStatuses : List String :=
  ["COMPLETED", "WATCH", "LOW_SCORE", "NOT_READY", "CONFLICT"]

/-- The empty text is no error. -/
def validateResult (task : AgentTask) (result : TaskResult) : String :=
  if result.taskId ≠ task.taskId then "result task_id mismatch"
  else if result.agentId ≠ task.agentId then "result agent_id mismatch"
  else if result.status ∉ acceptedStatuses then "unsupported result status"
  else if result.evidenceReference = "" then "missing evidence_reference"
  else if result.provenance.isEmpty then "missing provenance"
  else
    match lookupEntry result.payload (.str "fabricated_numeric_evidence") with
    | some (.bool true) => "fabricated numeric evidence rejected"
    | _ => ""

structure ConflictScan where
  values : List (Key × Value)
  conflicts : List String

/-- One payload entry in the scan for conflicts. -/
def scanEntry (taskId : String) (scan : ConflictScan) (entry : Key × Value) :
    Except Failure ConflictScan :=
  match entry.1 with
  | .str name =>
      let differs :=
        match lookupEntry scan.values entry.1 with
        | some known => !known.equals entry.2
        | none => false
      .ok
        { values := setEntry scan.values entry.1 entry.2
          conflicts :=
            if "evidence.".toList.isPrefixOf name.toList && differs then
              scan.conflicts ++ [taskId]
            else scan.conflicts }
  | key => .error (noAttribute key.asValue "startswith")

def detectConflicts (completed : Dict String TaskResult) :
    Except Failure (List String) := do
  let scan ← completed.entries.foldlM
    (fun scan entry => entry.2.payload.foldlM (scanEntry entry.1) scan)
    { values := [], conflicts := [] }
  .ok scan.conflicts

def auditLogPath : String := "main-runtime-audit.ndjson"

section Digest

variable (sha256Hex : List Char → String)

def checkpointPath (request : RuntimeRequest Time) : String :=
  request.requestId ++ "-" ++
    String.ofList ((sha256Hex request.idempotencyKey.toList).toList.take 24) ++ ".json"

def dispatchKey (request : RuntimeRequest Time) (taskId : String) : String :=
  request.idempotencyKey ++ ":" ++ taskId

/-- The checkpoint a request starts with, or the one its file holds. -/
def readCheckpoint (request : RuntimeRequest Time) (text : Option (List Char)) :
    Except RuntimeProblem RuntimeCheckpoint :=
  match text with
  | none =>
      .ok
        { requestId := request.requestId
          idempotencyKey := request.idempotencyKey
          status := "RUNNING" }
  | some text =>
      match loads text with
      | none => .error .decodeError
      | some value => (RuntimeCheckpoint.fromDict value).mapError .python

def loadCheckpoint (request : RuntimeRequest Time) :
    RuntimeProgram Time RuntimeCheckpoint := do
  let text ← readFile (checkpointPath sha256Hex request)
  ofExcept (readCheckpoint request text)

def saveCheckpoint (request : RuntimeRequest Time) (checkpoint : RuntimeCheckpoint) :
    RuntimeProgram Time Unit := do
  let text ← ofExcept ((canonicalJson checkpoint.toDict).mapError .json)
  replaceFile (checkpointPath sha256Hex request) text

/-- The hash of the last record of the audit log. -/
def previousHash (log : Option (List Char)) : Except RuntimeProblem String :=
  match log with
  | none => .ok ""
  | some text =>
      match ((splitLines text).filter (fun line => !isBlankLine line)).getLast? with
      | none => .ok ""
      | some line =>
          match loads line with
          | none => .error .decodeError
          | some record => ((getItem record "record_hash").mapError .python).map Value.text

structure AuditEvent where
  createdAtUtc : String
  eventType : String
  taskId : String
  detail : String
  previousHash : String
  recordHash : String

def AuditEvent.toValue (event : AuditEvent) : Value :=
  .dict (named
    [("created_at_utc", .str event.createdAtUtc),
      ("event_type", .str event.eventType),
      ("task_id", .str event.taskId),
      ("detail", .str event.detail),
      ("previous_hash", .str event.previousHash),
      ("record_hash", .str event.recordHash)])

def appendAuditEvent (eventType taskId detail : String) :
    RuntimeProgram Time Unit := do
  let log ← readLog
  let previous ← ofExcept (previousHash log)
  let now ← utcNow
  let event : AuditEvent :=
    { createdAtUtc := now
      eventType := eventType
      taskId := taskId
      detail := detail
      previousHash := previous
      recordHash := "" }
  let unhashed ← ofExcept ((canonicalJson event.toValue).mapError .json)
  let hashed := { event with recordHash := sha256Hex unhashed }
  let line ← ofExcept ((canonicalJson hashed.toValue).mapError .json)
  appendLog (line ++ ['\n'])

def report (request : RuntimeRequest Time) (checkpoint : RuntimeCheckpoint)
    (status : String) : RuntimeReport :=
  let failed := sortedDict checkpoint.failed
  { requestId := request.requestId
    status := status
    completedTaskIds := (sortedDict checkpoint.completed).keys
    failedTaskIds := failed.keys
    conflictTaskIds :=
      (failed.entries.filter (fun entry => entry.2 = "conflict_detected")).map Prod.fst
    dispatchCount := checkpoint.dispatchedIdempotencyKeys.items.length
    checkpointPath := checkpointPath sha256Hex request
    auditLogPath := auditLogPath }

/-- Save the checkpoint and report a status. -/
def saveAndReport (request : RuntimeRequest Time) (checkpoint : RuntimeCheckpoint)
    (status : String) : RuntimeProgram Time RuntimeReport := do
  saveCheckpoint sha256Hex request checkpoint
  .done (report sha256Hex request checkpoint status)

/-- The key of a task is recorded before its result is looked at. -/
def RuntimeCheckpoint.recordDispatch (checkpoint : RuntimeCheckpoint) (key : String) :
    RuntimeCheckpoint :=
  { checkpoint with
    dispatchedIdempotencyKeys := checkpoint.dispatchedIdempotencyKeys.insert key }

def RuntimeCheckpoint.failTask (checkpoint : RuntimeCheckpoint)
    (taskId validationError : String) : RuntimeCheckpoint :=
  { checkpoint with
    failed := checkpoint.failed.set taskId validationError
    status := "FAILED" }

def RuntimeCheckpoint.completeTask (checkpoint : RuntimeCheckpoint)
    (taskId : String) (result : TaskResult) : RuntimeCheckpoint :=
  { checkpoint with completed := checkpoint.completed.set taskId result }

def RuntimeCheckpoint.conflict (checkpoint : RuntimeCheckpoint)
    (conflicts : List String) : RuntimeCheckpoint :=
  { checkpoint with
    failed := conflicts.foldl
      (fun failed taskId => failed.set taskId "conflict_detected") checkpoint.failed
    status := "CONFLICT" }

variable [LinearOrder Time]

/-- The loop of `execute`. -/
def executeTasks (manager : MainRuntimeManager) (request : RuntimeRequest Time)
    (deadline : Time) :
    List AgentTask → RuntimeCheckpoint → RuntimeProgram Time RuntimeReport
  | [], checkpoint =>
      saveAndReport sha256Hex request { checkpoint with status := "COMPLETED" } "COMPLETED"
  | task :: tasks, checkpoint =>
      if checkpoint.completed.contains task.taskId then
        executeTasks manager request deadline tasks checkpoint
      else do
        let now ← monotonic
        if deadline < now then
          saveAndReport sha256Hex request { checkpoint with status := "TIMEOUT" } "TIMEOUT"
        else if dispatchKey request task.taskId ∈
            checkpoint.dispatchedIdempotencyKeys.items then
          executeTasks manager request deadline tasks checkpoint
        else do
          let result ← dispatchWithRetry manager task
          let dispatched := checkpoint.recordDispatch (dispatchKey request task.taskId)
          let validationError := validateResult task result
          if validationError ≠ "" then do
            appendAuditEvent sha256Hex "task_failed" task.taskId validationError
            saveAndReport sha256Hex request
              (dispatched.failTask task.taskId validationError) "FAILED"
          else do
            let completed := dispatched.completeTask task.taskId result
            appendAuditEvent sha256Hex "task_completed" task.taskId
              result.evidenceReference
            let conflicts ← raisesPython (detectConflicts completed.completed)
            if conflicts ≠ [] then
              saveAndReport sha256Hex request (completed.conflict conflicts) "CONFLICT"
            else do
              saveCheckpoint sha256Hex request completed
              executeTasks manager request deadline tasks completed

variable [Add Time]

def execute (manager : MainRuntimeManager) (request : RuntimeRequest Time) :
    RuntimeProgram Time RuntimeReport :=
  if manager.registryState ≠ "AGENT_REGISTRY_READY" then
    .raised (.validationError "MAIN runtime registry is not ready")
  else if request.action ∈ ["release", "deploy"] ∧
      request.humanReleaseGateOpen = false then
    .raised (.humanReleaseGateClosed "HUMAN_RELEASE_GATE is CLOSED")
  else do
    let ordered ← ofExcept
      (validateAndOrderPlan manager.capabilities request.plan request.maxHops)
    let checkpoint ← loadCheckpoint sha256Hex request
    if checkpoint.paused then .done (report sha256Hex request checkpoint "PAUSED")
    else if checkpoint.stopped then .done (report sha256Hex request checkpoint "STOPPED")
    else do
      let now ← monotonic
      executeTasks sha256Hex manager request (now + request.timeoutSeconds) ordered
        checkpoint

omit [LinearOrder Time] [Add Time] in
def pause (request : RuntimeRequest Time) : RuntimeProgram Time Unit := do
  let checkpoint ← loadCheckpoint sha256Hex request
  saveCheckpoint sha256Hex request { checkpoint with paused := true, status := "PAUSED" }

def resume (manager : MainRuntimeManager) (request : RuntimeRequest Time) :
    RuntimeProgram Time RuntimeReport := do
  let checkpoint ← loadCheckpoint sha256Hex request
  saveCheckpoint sha256Hex request { checkpoint with paused := false, status := "RUNNING" }
  execute sha256Hex manager request

omit [LinearOrder Time] [Add Time] in
def stop (request : RuntimeRequest Time) : RuntimeProgram Time Unit := do
  let checkpoint ← loadCheckpoint sha256Hex request
  saveCheckpoint sha256Hex request { checkpoint with stopped := true, status := "STOPPED" }

def recover (manager : MainRuntimeManager) (request : RuntimeRequest Time) :
    RuntimeProgram Time RuntimeReport :=
  execute sha256Hex manager request

end Digest

end SuperAdvisor.MainAgent
