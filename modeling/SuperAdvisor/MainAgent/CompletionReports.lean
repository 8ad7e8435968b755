import SuperAdvisor.Foundation.Sha256
import SuperAdvisor.MainAgent.SessionHistory

/-!
# Reports of completion

The loop of `execute` passes over a task whose dispatch key is recorded, also
when the task failed, so a call can report completion over an earlier failure.
A report of completion is true exactly when the call began with no failure on
record.
-/

namespace SuperAdvisor.MainAgent

open Python

section Reports

variable {Time : Type}

/-- The report names every task of the plan as completed and none as failed. -/
structure FinishedReport (request : RuntimeRequest Time) (report : RuntimeReport) :
    Prop where
  completed : ∀ task ∈ request.plan.tasks, task.taskId ∈ report.completedTaskIds
  failed : report.failedTaskIds = []

/-- The checkpoint in the directory has no failed tasks. -/
def NoFailureStored (sha256Hex : List Char → String) (request : RuntimeRequest Time)
    (files : Files) : Prop :=
  ∀ stored, storedCheckpoint sha256Hex request files = .ok stored → stored.failed.keys = []

variable [LinearOrder Time] [Add Time]

theorem completedReport_finished_iff
    (sha256Hex : List Char → String) (request : RuntimeRequest Time)
    (calls : List (OperatorInvocation Time)) {event : SessionEvent Time}
    (member : event ∈ session sha256Hex request calls) {report : RuntimeReport}
    (returned : event.reply.outcome = .returned (some report))
    (completed : report.status = "COMPLETED") :
    FinishedReport request report ↔ NoFailureStored sha256Hex request event.before := by
  obtain ⟨start, started, accounted, facts⟩ := session_facts member
  obtain ⟨reached, failed, kept⟩ := facts.reported report returned completed
  constructor
  · intro finished stored found
    obtain rfl : start = stored := by simpa [started] using found
    refine List.eq_nil_iff_forall_not_mem.mpr ?_
    intro taskId inside
    have listed := (failed taskId).mpr inside
    rw [finished.failed] at listed
    exact List.not_mem_nil listed
  · intro clean
    have none : start.failed.keys = [] := clean start started
    refine ⟨?_, ?_⟩
    · intro task planned
      rcases reached task planned with inside | recorded
      · exact inside
      · rcases accounted task planned recorded with old | failure
        · exact kept _ old
        · exact absurd none failure
    · refine List.eq_nil_iff_forall_not_mem.mpr ?_
      intro taskId listed
      have inside := (failed taskId).mp listed
      rw [none] at inside
      exact List.not_mem_nil inside

end Reports

def auditTask (taskId : String) (dependsOn : List String) : AgentTask :=
  { taskId := taskId
    agentId := "worker"
    skill := "audit"
    dependsOn := dependsOn
    inputSchema := [] }

def auditRequest (tasks : List AgentTask) : RuntimeRequest Int :=
  { requestId := "r"
    plan :=
      { planId := "p"
        requestType := "audit"
        tasks := tasks
        requiresHumanGate := false }
    idempotencyKey := "k"
    timeoutSeconds := 60 }

def auditManager : MainRuntimeManager :=
  { capabilities := [("worker", { agentId := "worker", skills := ["audit"] })]
    snapshotState := some "AGENT_REGISTRY_READY" }

/-- The payload of a dispatcher that completes the task. -/
def completedPayload (taskId : String) : List (Key × Value) :=
  [(.str "task_id", .str taskId),
    (.str "agent_id", .str "worker"),
    (.str "status", .str "COMPLETED"),
    (.str "evidence_reference", .str "e"),
    (.str "provenance", .dict [(.str "source", .str "s")])]

/-- An execute whose dispatcher always behaves the same. -/
def executeWith (outcome : DispatchOutcome) : OperatorInvocation Int :=
  { manager := auditManager
    call := .execute
    script := List.replicate 12 { clock := 0, outcome := outcome } }

def auditReport (status : String) (completed failed : List String)
    (dispatchCount : Nat) : RuntimeReport :=
  { requestId := "r"
    status := status
    completedTaskIds := completed
    failedTaskIds := failed
    conflictTaskIds := []
    dispatchCount := dispatchCount
    checkpointPath := "r-8254c329a92850f6d539dd37.json"
    auditLogPath := auditLogPath }

theorem completedTask_reported_completed :
    FinishedReport (auditRequest [auditTask "a" []])
        (auditReport "COMPLETED" ["a"] [] 1) ↔
      NoFailureStored sha256Hex (auditRequest [auditTask "a" []]) Files.empty :=
  completedReport_finished_iff sha256Hex (auditRequest [auditTask "a" []])
    [executeWith (.returned (completedPayload "a"))] (List.mem_singleton.mpr rfl)
    (by decide +kernel) rfl

/-- The dispatcher refuses the only task; the second call passes over it. -/
theorem failedTask_reported_completed :
    (session sha256Hex (auditRequest [auditTask "a" []])
        [executeWith (.refused "boom"), executeWith (.refused "boom")]).map
        (fun event => event.reply.outcome) =
      [.returned (some (auditReport "FAILED" [] ["a"] 1)),
        .returned (some (auditReport "COMPLETED" [] ["a"] 1))] ∧
      ¬FinishedReport (auditRequest [auditTask "a" []])
        (auditReport "COMPLETED" [] ["a"] 1) := by
  constructor
  · decide +kernel
  · intro finished
    cases finished.failed

end SuperAdvisor.MainAgent
