import SuperAdvisor.MainAgent.Planner

/-!
# The router

`route` checks a task of a plan against the registry once more before it is
handed to its agent.  It succeeds exactly when the plan is one of this
registry, the contract allows the task, the agent has reviewers, and the plan
kept the human release gate.
-/

namespace SuperAdvisor.MainAgent

open Python Registry

deriving instance DecidableEq for AgentTask

/-- `left == right`; schemas are compared without their order. -/
def AgentTask.equals (left right : AgentTask) : Bool :=
  decide (left.taskId = right.taskId) && decide (left.agentId = right.agentId) &&
    decide (left.skill = right.skill) && decide (left.dependsOn = right.dependsOn) &&
    (Value.dict left.inputSchema).equals (.dict right.inputSchema) &&
    decide (left.taskType = right.taskType) &&
    decide (left.requestedAction = right.requestedAction)

/-- `task in tasks`: the very task, or one equal to it. -/
def listsTask (tasks : List AgentTask) (task : AgentTask) : Bool :=
  tasks.any (fun other => decide (other = task) || other.equals task)

structure RoutedTask where
  taskId : String
  agentId : String
  skill : String
  routeType : String
  payload : List (Key × Value)
  registrySchemaVersion : String
  registryDefinitionHash : String
  selectedAgentDefinitionVersion : String
  routeValidationResult : String
  requiredReviewers : List String
  forbiddenActions : List String
  humanReleaseGateRequired : Bool

structure AgentRouter where
  registrySnapshot : RegistrySnapshot
  sourceAgent : String := "super-advisor"

def classifyRoute (taskType : String) : String :=
  if ["market", "data", "intermarket", "microstructure"].any
      (fun token => isSubstring token taskType) then "REALTIME"
  else if ["code", "security", "review"].any (fun token => isSubstring token taskType) then
    "CODE_AUDIT"
  else "GENERAL"

/-- The routed form of a task for an agent. -/
def routedTask (snapshot : RegistrySnapshot) (agent : AgentCapabilityRecord)
    (task : AgentTask) (requestType : String) (payload : List (Key × Value)) : RoutedTask :=
  { taskId := task.taskId
    agentId := task.agentId
    skill := task.skill
    routeType := classifyRoute (task.typeOr requestType)
    payload := payload
    registrySchemaVersion := snapshot.schemaVersion
    registryDefinitionHash := snapshot.definitionHash
    selectedAgentDefinitionVersion := agent.definitionVersion
    routeValidationResult := "route_allowed"
    requiredReviewers := agent.requiredReviewers
    forbiddenActions := agent.forbiddenActions
    humanReleaseGateRequired := agent.humanReleaseGateRequired }

section Routing

variable (lower : String → String)

def route (router : AgentRouter) (plan : DependencyPlan) (task : AgentTask)
    (payload : List (Key × Value)) : Except SnapshotProblem RoutedTask := do
  let snapshot := router.registrySnapshot
  snapshot.requireReady
  refuseIf (!listsTask plan.tasks task)
    ("task " ++ quotedText task.taskId ++ " is not in plan " ++ quotedText plan.planId)
  refuseIf (plan.registryDefinitionHash ≠ snapshot.definitionHash)
    "stale registry plan cannot be routed under a different registry hash"
  let agentName := "agent " ++ quotedText task.agentId
  let agent ← snapshot.getAgent task.agentId
  let taskType := task.typeOr plan.requestType
  refuseIf (taskType ∉ agent.acceptedTaskTypes)
    (agentName ++ " does not accept task_type " ++ quotedText taskType)
  let source ← snapshot.getAgent router.sourceAgent
  refuseIf (task.agentId ∉ source.downstreamRoutes)
    ("route from " ++ quotedText router.sourceAgent ++ " to " ++
      quotedText task.agentId ++ " is not allowed")
  refuseIf (forbidsAction lower agent task)
    ("forbidden action requested for " ++ quotedText task.agentId)
  refuseIf (disallowsAction lower agent task)
    ("requested action " ++ quotedText task.requestedAction ++ " is not allowed")
  refuseIf agent.requiredReviewers.isEmpty (agentName ++ " is missing required reviewers")
  refuseIf (task.agentId ∈ agent.requiredReviewers) (agentName ++ " cannot self-approve")
  refuseIf (agent.humanReleaseGateRequired && !plan.requiresHumanGate)
    "human release gate requirement cannot be bypassed"
  .ok (routedTask snapshot agent task plan.requestType payload)

def routeAll (router : AgentRouter) (plan : DependencyPlan)
    (payloads : List (String × List (Key × Value))) :
    Except SnapshotProblem (List RoutedTask) :=
  plan.tasks.mapM (fun task =>
    route lower router plan task ((OrderedDict.get? payloads task.taskId).getD []))

/-- What the router asks of a plan, a task of it and the agent of the task. -/
structure RouterAllows (snapshot : RegistrySnapshot) (sourceAgent : String)
    (plan : DependencyPlan) (task : AgentTask) (agent : AgentCapabilityRecord) : Prop where
  current : plan.registryDefinitionHash = snapshot.definitionHash
  contract : ContractAllows lower snapshot sourceAgent plan.requestType task agent
  supervised : agent.requiredReviewers ≠ []
  gated : agent.humanReleaseGateRequired = true → plan.requiresHumanGate = true

end Routing

variable {lower : String → String} {router : AgentRouter} {plan : DependencyPlan}
  {task : AgentTask} {payload : List (Key × Value)}

theorem listsTask_of_mem {tasks : List AgentTask} (member : task ∈ tasks) :
    listsTask tasks task = true :=
  List.any_eq_true.mpr ⟨task, member, by simp⟩

theorem route_eq_ok_iff {routed : RoutedTask} :
    route lower router plan task payload = .ok routed ↔
      router.registrySnapshot.state = agentRegistryReady ∧
        listsTask plan.tasks task = true ∧
        ∃ agent, router.registrySnapshot.getAgent task.agentId = .ok agent ∧
          RouterAllows lower router.registrySnapshot router.sourceAgent plan task agent ∧
          routed = routedTask router.registrySnapshot agent task plan.requestType payload := by
  constructor
  · intro accepted
    simp only [route, except_bind_eq_ok] at accepted
    obtain ⟨_, ready, _, listed, _, current, agent, known, _, acceptedType, source,
      sourceKnown, _, reachable, _, permitted, _, allowed, _, supervised, _, reviewed, _,
      gated, built⟩ := accepted
    rw [requireReady_eq_ok] at ready
    simp only [refuseIf_eq_ok, decide_eq_false_iff_not, not_not, Bool.not_eq_false'] at current listed
    simp only [refuseIf_eq_ok, decide_eq_false_iff_not, not_not] at acceptedType reachable
    simp only [refuseIf_eq_ok, decide_eq_false_iff_not] at permitted allowed reviewed
    refine ⟨ready, listed, agent, known, ⟨current, ?_, by simpa using supervised, ?_⟩,
      (Except.ok.inj built).symm⟩
    · exact ⟨acceptedType, ⟨source, sourceKnown, reachable⟩, permitted, allowed, reviewed⟩
    · simpa using gated
  · rintro ⟨ready, listed, agent, known, allows, rfl⟩
    obtain ⟨current, ⟨acceptedType, ⟨source, sourceKnown, reachable⟩, permitted, allowed,
      reviewed⟩, supervised, gated⟩ := allows
    have passes : ∀ {fails : Bool} {message : String}, fails = false →
        refuseIf fails message = .ok () := fun holds => refuseIf_eq_ok.mpr holds
    simp only [route, except_bind_eq_ok]
    refine ⟨(), requireReady_eq_ok.mpr ready, (), passes (by simp [listed]), (),
      passes (by simp [current]), agent, known, (), passes (by simp [acceptedType]), source,
      sourceKnown, (), passes (by simp [reachable]), (), passes permitted, (),
      passes allowed, (), passes (by simpa using supervised), (),
      passes (by simp [reviewed]), (), passes (by simpa using gated), rfl⟩

end SuperAdvisor.MainAgent
