import SuperAdvisor.Foundation.Sha256
import SuperAdvisor.MainAgent.PlanAcceptance
import SuperAdvisor.MainAgent.PlannedOrder
import SuperAdvisor.MainAgent.Router
import SuperAdvisor.MainAgent.SessionHistory
import SuperAdvisor.Registry.MisnamedAgent

/-!
# Planned tasks, dispatched tasks and the router

Every check of the router on a plan of the planner was made by the planner,
except that the agent has reviewers.  That is a fact of the registry: the
snapshot was built from a registry file that names reviewers for every agent.

`execute` never asks the router.  Of the router's conditions it only secures
that the registry is ready, that the task is one of the plan and that its agent
is registered; a dispatched task could be routed exactly when the rest holds of
the plan.
-/

namespace SuperAdvisor.MainAgent

open Python Registry

/-- The routed task is the task with what its decision recorded. -/
structure RoutesAsDecided (task : AgentTask) (decision : PlanningDecision)
    (routed : RoutedTask) : Prop where
  taskId : routed.taskId = task.taskId
  agentId : routed.agentId = task.agentId
  skill : routed.skill = task.skill
  decided : decision.taskId = task.taskId
  reviewers : routed.requiredReviewers = decision.requiredReviewers
  forbidden : routed.forbiddenActions = decision.forbiddenActions
  gate : routed.humanReleaseGateRequired = decision.humanReleaseGateRequired

variable {library : Library} {files : ProjectFiles} {renderedConfig : List (Key × Value)}
  {snapshot : RegistrySnapshot}

/-- A task of a plan, with the decision that accepted it, is routed. -/
theorem route_of_validateAgent
    {lower : String → String} {sourceAgent requestType : String} {task : AgentTask}
    {availableInputs : Option (List (Key × Value))} {decision : PlanningDecision}
    (accepted : validateAgent lower { registrySnapshot := snapshot, sourceAgent := sourceAgent }
      task requestType availableInputs = .ok decision)
    (supervised : ∀ agent ∈ snapshot.agents, agent.requiredReviewers ≠ [])
    {plan : DependencyPlan} (listed : task ∈ plan.tasks)
    (sameType : plan.requestType = requestType)
    (current : plan.registryDefinitionHash = snapshot.definitionHash)
    (gated : decision.humanReleaseGateRequired = true → plan.requiresHumanGate = true)
    (payload : List (Key × Value)) :
    ∃ routed, route lower { registrySnapshot := snapshot, sourceAgent := sourceAgent } plan
        task payload = .ok routed ∧ RoutesAsDecided task decision routed := by
  obtain ⟨agent, allows, decided, reviewers, forbidden, gate⟩ := validateAgent_ok accepted
  have member := (mem_of_getAgent allows.known).1
  refine ⟨routedTask snapshot agent task plan.requestType payload, ?_, ?_⟩
  · refine route_eq_ok_iff.mpr ⟨allows.ready, listsTask_of_mem listed, agent, allows.known,
      ⟨current, ?_, supervised agent member, ?_⟩, rfl⟩
    · simpa only [sameType] using allows.contract
    · intro required
      exact gated (gate.trans required)
  · exact ⟨rfl, rfl, rfl, decided, reviewers.symm, forbidden.symm, gate.symm⟩

/-- Routing a plan of the planner raises nothing and gives every task, in the
order of the plan, with the reviewers, the forbidden actions and the gate of
its decision. -/
theorem routeAll_of_buildPlan
    (built : buildRegistrySnapshot library files renderedConfig = .ok snapshot)
    {sourceAgent planId requestType : String} {tasks : List AgentTask}
    {availableInputs : List (String × List (Key × Value))} {plan : DependencyPlan}
    (planned : buildPlan library.lower
      { registrySnapshot := snapshot, sourceAgent := sourceAgent } planId requestType tasks
      availableInputs = .ok plan)
    (payloads : List (String × List (Key × Value))) :
    ∃ routed, routeAll library.lower
        { registrySnapshot := snapshot, sourceAgent := sourceAgent } plan payloads =
          .ok routed ∧
      routed.length = plan.tasks.length ∧
      plan.planningDecisions.length = plan.tasks.length ∧
      ∀ (index : Nat) task decision, plan.tasks[index]? = some task →
        plan.planningDecisions[index]? = some decision →
          ∃ shown, routed[index]? = some shown ∧ RoutesAsDecided task decision shown := by
  obtain ⟨-, sameType, current, gated, decided⟩ := buildPlan_ok planned
  obtain ⟨routed, mapped, fits⟩ := exists_mapM_of_forall₂ decided
    (fun task listed decision recorded accepted => route_of_validateAgent accepted
      (fun agent member => reviewers_of_buildRegistrySnapshot built member) listed sameType
      current (gated decision recorded)
      ((OrderedDict.get? payloads task.taskId).getD []))
  refine ⟨routed, mapped, ?_, decided.length_eq.symm, fits⟩
  exact (mapM_eq_ok_iff.mp mapped).length_eq.symm

/-! A plan for the project as the runtime knows it. -/

/-- The snapshot of that project is ready and has its agents. -/
theorem exists_runtimeSnapshot :
    ∃ files renderedConfig snapshot,
      buildRegistrySnapshot jsonLibrary files renderedConfig = .ok snapshot ∧
        snapshot.state = agentRegistryReady ∧
        snapshot.agents = definedAgents jsonLibrary runtimeDefinition := by
  obtain ⟨registry, report, agents, validated, known, ready⟩ :=
    @ready_of_fit jsonLibrary _ rfl rfl strip_sha256Hex runtimeDefinition_fits
  have valid : report.valid = true := by
    obtain ⟨isReady, sound⟩ := ready_iff_no_issues validated
    exact sound.mpr (isReady.mp ready)
  refine ⟨_, _, _, by rw [buildRegistrySnapshot, validated]; rfl, ?_, ?_⟩
  · simp [snapshotOfReport, known, valid, ready]
  · simp [snapshotOfReport, known, valid, agents]

/-- A review by the agent that the source reaches. -/
def codeReview : AgentTask :=
  { taskId := "T1"
    agentId := "blueprint-coder"
    skill := "review"
    dependsOn := []
    inputSchema := []
    taskType := "review"
    requestedAction := "review" }

theorem exists_reviewPlan
    {snapshot : RegistrySnapshot} (ready : snapshot.state = agentRegistryReady)
    (agents : snapshot.agents = definedAgents jsonLibrary runtimeDefinition) :
    ∃ plan, buildPlan jsonLibrary.lower
      { registrySnapshot := snapshot, sourceAgent := "super-advisor" } "P1" "review" [codeReview]
      [] = .ok plan ∧ plan.tasks = [codeReview] := by
  have found : ∀ agentId ∈ ["super-advisor", "blueprint-coder"], snapshot.getAgent agentId =
      .ok ((runtimeDefinition agentId).record (agentSource agentId)
        ((runtimeDefinition agentId).hash jsonLibrary)) := by
    simp [RegistrySnapshot.getAgent, agents, definedAgents, runtimeAgentIds, runtimeDefinition]
  have source := found "super-advisor" (by simp)
  have agent := found "blueprint-coder" (by simp)
  have available : ∃ decision, validateAgent jsonLibrary.lower
      { registrySnapshot := snapshot, sourceAgent := "super-advisor" } codeReview "review" none =
        .ok decision := by
    unfold validateAgent
    simp only [codeReview, RegistrySnapshot.requireReady, ready, if_true, agent, source, bind, Except.bind]
    exact ⟨_, rfl⟩
  obtain ⟨decision, accepted⟩ := available
  refine ⟨_, except_bind_eq_ok.mpr ⟨[decision], mapM_eq_ok_iff.mpr (.cons accepted .nil), rfl⟩, rfl⟩

theorem reviewPlan_routed :
    ∃ files renderedConfig snapshot plan routed,
      buildRegistrySnapshot jsonLibrary files renderedConfig = .ok snapshot ∧
        snapshot.state = agentRegistryReady ∧
        buildPlan jsonLibrary.lower { registrySnapshot := snapshot } "P1" "review" [codeReview]
          [] = .ok plan ∧
        plan.tasks = [codeReview] ∧
        routeAll jsonLibrary.lower { registrySnapshot := snapshot } plan [] = .ok routed ∧
        routed.length = plan.tasks.length := by
  obtain ⟨files, renderedConfig, snapshot, built, ready, agents⟩ := exists_runtimeSnapshot
  obtain ⟨plan, planned, tasks⟩ := exists_reviewPlan ready agents
  obtain ⟨routed, mapped, length, -⟩ := routeAll_of_buildPlan built planned []
  exact ⟨files, renderedConfig, snapshot, plan, routed, built, ready, planned, tasks, mapped,
    length⟩

open Python Registry
open Program (uses_ask uses_bind uses_bind_ofExcept uses_ofExcept uses_of_forall)

/-- What the router asks of a plan beyond what `execute` checks: the hash of
the registry, and the contract, the reviewers and the gate of the agent. -/
def PlanPermits (lower : String → String) (snapshot : RegistrySnapshot)
    (plan : DependencyPlan) (task : AgentTask) : Prop :=
  ∀ agent, snapshot.getAgent task.agentId = .ok agent →
    RouterAllows lower snapshot "super-advisor" plan task agent

section Dispatches

variable {Time : Type} (sha256Hex : List Char → String) (request : RuntimeRequest Time)

/-- The checks `execute` makes before its loop. -/
def AcceptedBy (manager : MainRuntimeManager) : Prop :=
  manager.registryState = "AGENT_REGISTRY_READY" ∧
    ∃ ordered, validateAndOrderPlan manager.capabilities request.plan request.maxHops =
      .ok ordered

/-- A dispatch is performed only for an accepted plan. -/
def DispatchesAccepted (manager : MainRuntimeManager) (op : RuntimeOp) : Prop :=
  ∀ task, op = .dispatch task → AcceptedBy request manager

variable [LinearOrder Time] [Add Time]

theorem uses_execute_accepted (manager : MainRuntimeManager) :
    (execute sha256Hex manager request).Uses (DispatchesAccepted request manager) := by
  by_cases accepted : AcceptedBy request manager
  · exact uses_of_forall (fun _ _ _ => accepted) _
  · unfold execute
    split
    next => exact .raised
    next ready =>
      split
      next => exact .raised
      next =>
        refine uses_bind_ofExcept ?_
        intro ordered validated
        exact absurd ⟨not_not.mp ready, ordered, validated⟩ accepted

theorem uses_call_accepted (manager : MainRuntimeManager) (call : OperatorCall) :
    (call.program sha256Hex request manager).Uses (DispatchesAccepted request manager) := by
  have loads : (loadCheckpoint sha256Hex request).Uses (DispatchesAccepted request manager) :=
    uses_ask (by simp [DispatchesAccepted]) (fun _ => uses_ofExcept _)
  have saves : ∀ checkpoint, (saveCheckpoint sha256Hex request checkpoint).Uses
      (DispatchesAccepted request manager) :=
    fun _ => uses_bind (uses_ofExcept _) (fun _ => .perform (by simp [DispatchesAccepted])
      (fun _ => .done))
  have executes := uses_execute_accepted sha256Hex request manager
  cases call with
  | execute => exact uses_bind executes (fun _ => .done)
  | recover => exact uses_bind executes (fun _ => .done)
  | pause => exact uses_bind (uses_bind loads (fun _ => saves _)) (fun _ => .done)
  | stop => exact uses_bind (uses_bind loads (fun _ => saves _)) (fun _ => .done)
  | resume =>
      refine uses_bind ?_ (fun _ => .done)
      exact uses_bind loads (fun _ => uses_bind (saves _) (fun _ => executes))

variable {sha256Hex request}

/-- A call that dispatched a task had accepted the plan, which has the task. -/
theorem accepted_of_dispatched
    {calls : List (OperatorInvocation Time)} {event : SessionEvent Time}
    (member : event ∈ session sha256Hex request calls) {act : RuntimeAct Time}
    (performed : act ∈ event.reply.acts) {task : AgentTask}
    (dispatched : act.op = .dispatch task) :
    task ∈ request.plan.tasks ∧ AcceptedBy request event.call.manager := by
  obtain ⟨start, -, -, facts⟩ := session_facts member
  obtain ⟨early, late, shape⟩ := List.append_of_mem performed
  obtain ⟨-, allowed⟩ := facts.during early act late shape
  unfold Allowed at allowed
  rw [dispatched] at allowed
  refine ⟨allowed.1, ?_⟩
  obtain ⟨_, call, _, -, rfl⟩ := (Machine.mem_trace_iff _).mp member
  exact Program.run_uses answer (uses_call_accepted sha256Hex request call.manager call.call)
    call.script _ act performed task dispatched

/-- The router would accept a dispatched task exactly when the plan satisfies
the conditions that `execute` does not check. -/
theorem dispatched_routable_iff
    (lower : String → String) {snapshot : RegistrySnapshot} {maxRetries : Int}
    {calls : List (OperatorInvocation Time)} {event : SessionEvent Time}
    (member : event ∈ session sha256Hex request calls)
    (managed : event.call.manager =
      MainRuntimeManager.fromRegistrySnapshot snapshot maxRetries)
    {act : RuntimeAct Time} (performed : act ∈ event.reply.acts) {task : AgentTask}
    (dispatched : act.op = .dispatch task) :
    (∃ routed, route lower { registrySnapshot := snapshot } request.plan task [] =
        .ok routed) ↔
      PlanPermits lower snapshot request.plan task := by
  obtain ⟨planned, ready, ordered, validated⟩ :=
    accepted_of_dispatched member performed dispatched
  rw [managed] at ready validated
  obtain ⟨-, capable⟩ := accepted_of_validateAndOrderPlan validated
  obtain ⟨capability, found, -⟩ := capable task planned
  obtain ⟨-, -, -, agent, registered, sameId⟩ := available_of_get?_capabilities found
  obtain ⟨first, known⟩ := exists_getAgent registered
  rw [sameId] at known
  constructor
  · rintro ⟨routed, accepted⟩ other again
    obtain ⟨-, -, chosen, selected, allows, -⟩ := route_eq_ok_iff.mp accepted
    obtain rfl : chosen = other := Except.ok.inj (selected.symm.trans again)
    exact allows
  · intro permits
    exact ⟨_, route_eq_ok_iff.mpr ⟨ready, listsTask_of_mem planned, first, known,
      permits first known, rfl⟩⟩

end Dispatches

/-- A request for a plan of review tasks under some registry hash. -/
def reviewRequest (registryDefinitionHash : String) : RuntimeRequest Int :=
  { requestId := "r"
    plan :=
      { planId := "plan"
        requestType := "code_review"
        tasks := [reviewTask "a" []]
        requiresHumanGate := false
        registryDefinitionHash := registryDefinitionHash }
    idempotencyKey := "k"
    timeoutSeconds := 60 }

def executeReview : OperatorInvocation Int :=
  { manager := MainRuntimeManager.fromRegistrySnapshot auditSnapshot 2
    call := .execute
    script := List.replicate 12 { clock := 0, outcome := .refused "boom" } }

theorem currentPlan_dispatch_routable :
    (∃ routed, route asciiLower { registrySnapshot := auditSnapshot }
        (reviewRequest "registry").plan (reviewTask "a" []) [] = .ok routed) ↔
      PlanPermits asciiLower auditSnapshot (reviewRequest "registry").plan
        (reviewTask "a" []) :=
  have called : Machine.eventOf (sessionStep sha256Hex (reviewRequest "registry")) Files.empty
      executeReview ∈ session sha256Hex (reviewRequest "registry") [executeReview] :=
    List.mem_singleton.mpr rfl
  have ⟨_, performed, dispatched⟩ : ∃ act ∈ (Machine.eventOf
      (sessionStep sha256Hex (reviewRequest "registry")) Files.empty executeReview).reply.acts,
        act.op = .dispatch (reviewTask "a" []) :=
    ⟨_, List.mem_of_getElem? (i := 3) rfl, rfl⟩
  dispatched_routable_iff asciiLower called rfl performed dispatched

/-- A plan of another registry is dispatched and would not be routed. -/
theorem stalePlan_dispatched :
    auditSnapshot.state = agentRegistryReady ∧
      ¬∀ event ∈ session sha256Hex (reviewRequest "stale") [executeReview],
        ∀ act ∈ event.reply.acts, ∀ task ∈ act.op.dispatched,
          (route asciiLower { registrySnapshot := auditSnapshot }
            (reviewRequest "stale").plan task []).isOk = true := by
  decide +kernel

end SuperAdvisor.MainAgent
