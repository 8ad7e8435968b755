import SuperAdvisor.MainAgent.Plan
import SuperAdvisor.Registry.Snapshot

/-!
# The planner

`validateAgent` checks one task against the registry and records the decision;
`buildPlan` does so for every task and keeps the tasks in the given order.
-/

namespace SuperAdvisor.MainAgent

open Python Registry

structure MainPlanner where
  registrySnapshot : RegistrySnapshot
  sourceAgent : String := "super-advisor"

/-- A task without a type of its own has the type of the request. -/
def AgentTask.typeOr (task : AgentTask) (requestType : String) : String :=
  if task.taskType = "" then requestType else task.taskType

/-- Why the other available agents were not selected. -/
def rejectedCandidates (planner : MainPlanner) (task : AgentTask)
    (selectedTaskType : String) : List (List (String × String)) :=
  planner.registrySnapshot.listAvailableAgents.filterMap (fun candidate =>
    let rejection := fun reason =>
      some [("agent_id", candidate.agentId), ("reason", reason)]
    if candidate.agentId = planner.sourceAgent then rejection "orchestrator_only"
    else if selectedTaskType ∉ candidate.acceptedTaskTypes then
      rejection "task_type_not_accepted"
    else if candidate.agentId ≠ task.agentId then rejection "not_selected_for_task"
    else none)

section Checks

variable (lower : String → String)

def AgentTask.action (task : AgentTask) : String :=
  lower (strip task.requestedAction)

/-- The requested action occurs in a forbidden one. -/
def forbidsAction (agent : AgentCapabilityRecord) (task : AgentTask) : Bool :=
  task.action lower ≠ "" && agent.forbiddenActions.any (fun forbidden =>
    isSubstring (task.action lower) (lower forbidden))

/-- The requested action occurs in no allowed one. -/
def disallowsAction (agent : AgentCapabilityRecord) (task : AgentTask) : Bool :=
  task.action lower ≠ "" && !agent.allowedActions.any (fun allowed =>
    isSubstring (task.action lower) (lower allowed))

def refuse {α : Type} (message : String) : Except SnapshotProblem α :=
  .error (.python (.valueError message))

/-- A check that raises a `ValueError` when it fails. -/
def refuseIf (fails : Bool) (message : String) : Except SnapshotProblem Unit :=
  if fails then refuse message else .ok ()

def validateAgent (planner : MainPlanner) (task : AgentTask) (requestType : String)
    (availableInputs : Option (List (Key × Value))) :
    Except SnapshotProblem PlanningDecision := do
  let snapshot := planner.registrySnapshot
  snapshot.requireReady
  let agentName := "agent " ++ quotedText task.agentId
  let selectedTaskType := task.typeOr requestType
  let agent ← snapshot.getAgent task.agentId
  refuseIf (agent.agentId = planner.sourceAgent) "MAIN cannot self-delegate"
  refuseIf (agent.currentAvailability ≠ "AVAILABLE") (agentName ++ " is not available")
  refuseIf (selectedTaskType ∉ agent.acceptedTaskTypes)
    (agentName ++ " does not accept task_type " ++ quotedText selectedTaskType)
  let requiredInputs := requiredFieldsFromSchema agent.requiredInputSchema
  let missing := requiredInputs.filter (fun field =>
    !hasField (availableInputs.getD []) field)
  refuseIf (!missing.isEmpty)
    (agentName ++ " missing required inputs: " ++ ", ".intercalate missing)
  refuseIf (forbidsAction lower agent task)
    (agentName ++ " forbidden action requested: " ++ quotedText task.requestedAction)
  refuseIf (disallowsAction lower agent task)
    (agentName ++ " does not allow action " ++ quotedText task.requestedAction)
  let source ← snapshot.getAgent planner.sourceAgent
  refuseIf (task.agentId ∉ source.downstreamRoutes)
    ("route from " ++ quotedText planner.sourceAgent ++ " to " ++
      quotedText task.agentId ++ " is not allowed")
  refuseIf (task.agentId ∈ agent.requiredReviewers || agent.selfApprovalAllowed)
    (agentName ++ " cannot self-approve")
  .ok
    { taskId := task.taskId
      requestType := requestType
      selectedAgent := task.agentId
      registryDefinitionHash := snapshot.definitionHash
      selectionReason := task.agentId ++ " accepts task_type " ++
        quotedText selectedTaskType ++ ", received all required inputs, and is reachable from "
        ++ quotedText planner.sourceAgent
      matchedAcceptedTaskType := selectedTaskType
      rejectedCandidateAgents := rejectedCandidates planner task selectedTaskType
      requiredInputs := requiredInputs
      outputContract := agent.outputContract
      requiredReviewers := agent.requiredReviewers
      downstreamRoute := agent.downstreamRoutes
      forbiddenActions := agent.forbiddenActions
      humanReleaseGateRequired := agent.humanReleaseGateRequired }

def buildPlan (planner : MainPlanner) (planId requestType : String)
    (tasks : List AgentTask) (availableInputs : List (String × List (Key × Value))) :
    Except SnapshotProblem DependencyPlan := do
  let decisions ← tasks.mapM (fun task =>
    validateAgent lower planner task requestType
      (OrderedDict.get? availableInputs task.taskId))
  .ok
    { planId := planId
      requestType := requestType
      tasks := tasks
      requiresHumanGate := decisions.any PlanningDecision.humanReleaseGateRequired
      registrySchemaVersion := planner.registrySnapshot.schemaVersion
      registryDefinitionHash := planner.registrySnapshot.definitionHash
      planningDecisions := decisions }

/-- What the registry asks of a task, a source and an agent; the planner and
the router both check it. -/
structure ContractAllows (snapshot : RegistrySnapshot) (sourceAgent requestType : String)
    (task : AgentTask) (agent : AgentCapabilityRecord) : Prop where
  accepted : task.typeOr requestType ∈ agent.acceptedTaskTypes
  reachable : ∃ source, snapshot.getAgent sourceAgent = .ok source ∧
    task.agentId ∈ source.downstreamRoutes
  permitted : forbidsAction lower agent task = false
  allowed : disallowsAction lower agent task = false
  reviewed : task.agentId ∉ agent.requiredReviewers

/-- What the planner checks besides. -/
structure PlannerAllows (planner : MainPlanner) (task : AgentTask) (requestType : String)
    (agent : AgentCapabilityRecord) : Prop where
  ready : planner.registrySnapshot.state = agentRegistryReady
  known : planner.registrySnapshot.getAgent task.agentId = .ok agent
  delegated : task.agentId ≠ planner.sourceAgent
  available : agent.currentAvailability = "AVAILABLE"
  contract : ContractAllows lower planner.registrySnapshot planner.sourceAgent requestType
    task agent

end Checks

@[simp] theorem refuseIf_eq_ok {fails : Bool} {message : String} {done : Unit} :
    refuseIf fails message = .ok done ↔ fails = false := by
  cases fails <;> simp [refuseIf, refuse]

@[simp] theorem requireReady_eq_ok {snapshot : RegistrySnapshot} {done : Unit} :
    snapshot.requireReady = .ok done ↔ snapshot.state = agentRegistryReady := by
  unfold RegistrySnapshot.requireReady
  split <;> simp_all

variable {lower : String → String} {planner : MainPlanner} {requestType : String}

/-- An accepted task is one the contract allows, and the decision copies what
its agent requires. -/
theorem validateAgent_ok
    {task : AgentTask} {availableInputs : Option (List (Key × Value))}
    {decision : PlanningDecision}
    (accepted : validateAgent lower planner task requestType availableInputs =
      .ok decision) :
    ∃ agent, PlannerAllows lower planner task requestType agent ∧
      decision.taskId = task.taskId ∧
      decision.requiredReviewers = agent.requiredReviewers ∧
      decision.forbiddenActions = agent.forbiddenActions ∧
      decision.humanReleaseGateRequired = agent.humanReleaseGateRequired := by
  simp only [validateAgent, except_bind_eq_ok] at accepted
  obtain ⟨_, ready, agent, known, _, delegated, _, available, _, acceptedType, _, -, _,
    permitted, _, allowed, source, sourceKnown, _, reachable, _, reviewed, built⟩ := accepted
  cases built
  have sameId := (mem_of_getAgent known).2
  rw [requireReady_eq_ok] at ready
  simp only [refuseIf_eq_ok, decide_eq_false_iff_not, not_not] at delegated available
  simp only [refuseIf_eq_ok, decide_eq_false_iff_not, not_not] at acceptedType reachable
  simp only [refuseIf_eq_ok, Bool.or_eq_false_iff] at permitted allowed reviewed
  refine ⟨agent, ⟨ready, known, sameId ▸ delegated, available, ?_⟩,
    rfl, rfl, rfl, rfl⟩
  exact ⟨acceptedType, ⟨source, sourceKnown, reachable⟩, permitted, allowed,
    by simpa using reviewed.1⟩

/-- The plan holds the given tasks, with an accepting decision for each. -/
theorem buildPlan_ok
    {planId : String} {tasks : List AgentTask}
    {availableInputs : List (String × List (Key × Value))} {plan : DependencyPlan}
    (built : buildPlan lower planner planId requestType tasks availableInputs = .ok plan) :
    plan.tasks = tasks ∧ plan.requestType = requestType ∧
      plan.registryDefinitionHash = planner.registrySnapshot.definitionHash ∧
      (∀ decision ∈ plan.planningDecisions, decision.humanReleaseGateRequired = true →
        plan.requiresHumanGate = true) ∧
      List.Forall₂ (fun task decision =>
        validateAgent lower planner task requestType
          (OrderedDict.get? availableInputs task.taskId) = .ok decision)
        plan.tasks plan.planningDecisions := by
  obtain ⟨decisions, mapped, same⟩ := except_bind_eq_ok.mp built
  cases same
  refine ⟨rfl, rfl, rfl, ?_, mapM_eq_ok_iff.mp mapped⟩
  intro decision member gated
  exact List.any_eq_true.mpr ⟨decision, member, gated⟩

end SuperAdvisor.MainAgent
