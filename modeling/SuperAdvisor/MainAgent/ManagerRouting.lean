import SuperAdvisor.MainAgent.RoutedDispatches

/-!
# The manager's own routing

The command line routes a type of task without a plan: `route_task` goes through
the available agents and takes the first one that accepts the type and that the
source reaches.  On a registry that passed its validation it never takes an
agent that the planner refuses for this type, and it passes over no agent that
the planner could use.  The planner asks for more only of the task itself, and
of an agent that may approve its own work.
-/

namespace SuperAdvisor.MainAgent

open Python Registry

structure RoutingDecision where
  selectedAgent : Option String
  reasonForSelection : String
  rejectedCandidates : List (String × String)
  requiredReviewChain : List String
  safetyRestrictions : List String

/-- A rejected candidate is its id and the reason. -/
def RoutingDecision.toDict (decision : RoutingDecision) : List (String × Value) :=
  [("selected_agent", (decision.selectedAgent.map .str).getD .none),
    ("reason_for_selection", .str decision.reasonForSelection),
    ("rejected_candidates", .list (decision.rejectedCandidates.map fun rejected =>
      .dict (named [("agent_id", .str rejected.1), ("reason", .str rejected.2)]))),
    ("required_review_chain", texts decision.requiredReviewChain),
    ("safety_restrictions", texts decision.safetyRestrictions)]

/-- The `RuntimeError` of a registry that is not ready, or what validating it raises. -/
inductive ManagerProblem where
  | runtimeError (message : String)
  | registry (problem : RegistryProblem)

structure ManagerRegistryRuntime where
  registry : AgentCapabilityRegistry
  status : String

def loadManager (library : Library) (files : ProjectFiles) (renderedConfig : List (Key × Value)) :
    Except ManagerProblem ManagerRegistryRuntime := do
  let report ←
    (validateAgentRegistry library files (some renderedConfig) true).mapError .registry
  let notReady := ManagerProblem.runtimeError ("agent registry is not ready: " ++
    "; ".intercalate (report.issues.map fun issue => issue.path ++ ": " ++ issue.message))
  match report.registry with
  | some registry => if report.valid then .ok ⟨registry, report.status⟩ else .error notReady
  | none => .error notReady

section Routing

variable (registry : AgentCapabilityRegistry)

def availableAgents : List AgentCapabilityRecord :=
  registry.agents.filter (fun agent => agent.currentAvailability = "AVAILABLE")

/-- `validate_agent_route` -/
def validateAgentRoute (sourceAgent targetAgent taskType : String) : Bool × String :=
  match registry.getAgentCapability sourceAgent, registry.getAgentCapability targetAgent with
  | .error _, _ => (false, "unknown agent id " ++ quotedText sourceAgent)
  | .ok _, .error _ => (false, "unknown agent id " ++ quotedText targetAgent)
  | .ok source, .ok target =>
      if targetAgent ∉ source.downstreamRoutes then
        (false, quotedText sourceAgent ++ " is not allowed to route to " ++ quotedText targetAgent)
      else if taskType ∉ target.acceptedTaskTypes then
        (false, quotedText targetAgent ++ " does not accept task_type " ++ quotedText taskType)
      else (true, "route_allowed")

/-- Why a candidate is rejected, if it is. -/
def rejectionOf (taskType sourceAgent : String) (candidate : AgentCapabilityRecord) :
    Option String :=
  if taskType ∉ candidate.acceptedTaskTypes then some "task_type_not_accepted"
  else
    let (allowed, reason) := validateAgentRoute registry sourceAgent candidate.agentId taskType
    if allowed then none else some reason

def selectionOf (taskType sourceAgent : String) (candidate : AgentCapabilityRecord)
    (rejected : List (String × String)) : RoutingDecision :=
  { selectedAgent := some candidate.agentId
    reasonForSelection :=
      candidate.agentId ++ " accepts task_type " ++ quotedText taskType ++
        " and is reachable from " ++ quotedText sourceAgent ++ " under the validated registry"
    rejectedCandidates := rejected
    requiredReviewChain := candidate.requiredReviewers
    safetyRestrictions := candidate.forbiddenActions.take 3 ++
      ["allowed_tools=" ++ ",".intercalate candidate.allowedTools] }

/-- The loop over the candidates. -/
def routeCandidates (taskType sourceAgent : String) :
    List AgentCapabilityRecord → List (String × String) → RoutingDecision
  | [], rejected =>
      { selectedAgent := none
        reasonForSelection := "no validated agent accepted task_type " ++ quotedText taskType
        rejectedCandidates := rejected
        requiredReviewChain := []
        safetyRestrictions := ["fail_closed"] }
  | candidate :: candidates, rejected =>
      match rejectionOf registry taskType sourceAgent candidate with
      | some reason =>
          routeCandidates taskType sourceAgent candidates
            (rejected ++ [(candidate.agentId, reason)])
      | none => selectionOf taskType sourceAgent candidate rejected

def routeTask (taskType sourceAgent : String) : RoutingDecision :=
  routeCandidates registry taskType sourceAgent (availableAgents registry) []

end Routing

/-! The answers to questions. -/

section Queries

variable (lower : String → String) (registry : AgentCapabilityRegistry)

def answerAgentDutiesQuery (query : String) : List (String × Value) :=
  [("query", .str query), ("source", .str "validated_agent_capability_registry"),
    ("registry_version", .str registry.registryVersion),
    ("registry_hash", .str registry.registryHash),
    ("agents", .list (registry.agents.map fun agent =>
      .dict (named
        [("agent_id", .str agent.agentId), ("display_name", .str agent.displayName),
          ("role_summary", .str agent.roleSummary),
          ("primary_responsibilities", texts agent.primaryResponsibilities),
          ("forbidden_actions", texts agent.forbiddenActions),
          ("current_availability", .str agent.currentAvailability),
          ("registry_definition_source", .str agent.definitionSource),
          ("registry_version", .str agent.definitionVersion),
          ("registry_schema_version", .str registry.schemaVersion),
          ("registry_definition_hash", .str registry.registryHash)])))]

/-- The type of an answer, and the answer. -/
def handleManagerQuery (query : String) :
    Except RegistryProblem (String × List (String × Value)) := do
  let normalized := lower (strip query)
  let mentions := fun tokens : List String => tokens.any (isSubstring · normalized)
  let header : List (String × Value) :=
    [("registry_version", .str registry.registryVersion),
      ("registry_hash", .str registry.registryHash)]
  if mentions ["code", "review", "ตรวจ"] then
    let decision := routeTask registry "code_review" "super-advisor"
    let (gate, forbidden) ←
      match decision.selectedAgent.filter (· ≠ "") with
      | some agentId => do
          let agent ← registry.getAgentCapability agentId
          Except.ok (agent.humanReleaseGateRequired, agent.forbiddenActions)
      | none => .ok (true, [])
    .ok ("routing_explanation", header ++ [("task_type", .str "code_review")] ++
      decision.toDict ++
      [("human_release_gate_required", .bool gate), ("forbidden_actions", texts forbidden)])
  else if mentions ["อะไรก็ได้", "ใกล้เคียง"] then
    let decision := routeTask registry "unknown_task_type" "super-advisor"
    .ok ("routing_explanation", header ++ [("task_type", .str "unknown_task_type")] ++
      decision.toDict)
  else if mentions ["agent", "หน้าที่", "มี agent", "ห้ามทำอะไร"] then
    .ok ("agent_catalog_query", answerAgentDutiesQuery registry query)
  else
    .ok ("unclassified", header ++
      [("error", .str "query could not be classified against the validated registry")])

end Queries

/-! The first candidate that is not rejected. -/

section Selection

variable {registry : AgentCapabilityRegistry} {taskType sourceAgent : String}

/-- The loop passes over rejected candidates and stops at one that is not. -/
structure StopsAt (registry : AgentCapabilityRegistry) (taskType sourceAgent : String)
    (passed later : List AgentCapabilityRecord) (earlier : List (String × String))
    (decision : RoutingDecision) : Prop where
  refused : ∀ agent ∈ passed, rejectionOf registry taskType sourceAgent agent ≠ none
  stopped : ∀ agent ∈ later.head?, rejectionOf registry taskType sourceAgent agent = none
  rejected : decision.rejectedCandidates.map Prod.fst =
    earlier.map Prod.fst ++ passed.map AgentCapabilityRecord.agentId
  selected : decision.selectedAgent = later.head?.map AgentCapabilityRecord.agentId

theorem exists_stopsAt
    (candidates : List AgentCapabilityRecord) (earlier : List (String × String)) :
    ∃ passed later, candidates = passed ++ later ∧
      StopsAt registry taskType sourceAgent passed later earlier
        (routeCandidates registry taskType sourceAgent candidates earlier) := by
  induction candidates generalizing earlier with
  | nil =>
      refine ⟨[], [], rfl, ?_⟩
      exact
        { refused := by simp
          stopped := by simp
          rejected := by simp [routeCandidates]
          selected := rfl }
  | cons candidate candidates induction =>
      unfold routeCandidates
      split
      next reason refused =>
        obtain ⟨passed, later, shape, stops⟩ :=
          induction (earlier ++ [(candidate.agentId, reason)])
        refine ⟨candidate :: passed, later, by rw [shape, List.cons_append], ?_⟩
        exact
          { refused := List.forall_mem_cons.mpr ⟨by simp [refused], stops.refused⟩
            stopped := stops.stopped
            rejected := by simpa using stops.rejected
            selected := stops.selected }
      next free =>
        refine ⟨[], candidate :: candidates, rfl, ?_⟩
        exact
          { refused := by simp
            stopped := by simp [free]
            rejected := by simp [selectionOf]
            selected := rfl }

/-- In a registry without duplicates an agent is found by its id. -/
theorem getAgentCapability_of_mem
    (distinct : registry.agentIds.Nodup) {agent : AgentCapabilityRecord}
    (member : agent ∈ registry.agents) :
    registry.getAgentCapability agent.agentId = .ok agent := by
  unfold AgentCapabilityRegistry.getAgentCapability
  cases found : registry.agents.find? (fun other => other.agentId = agent.agentId) with
  | none =>
      have absent := List.find?_eq_none.mp found agent member
      simp at absent
  | some other =>
      have same : other.agentId = agent.agentId := by simpa using List.find?_some found
      rw [List.inj_on_of_nodup_map distinct (List.mem_of_find?_eq_some found) member same]

theorem rejectionOf_eq_none_iff
    (distinct : registry.agentIds.Nodup) {agent : AgentCapabilityRecord}
    (member : agent ∈ registry.agents) :
    rejectionOf registry taskType sourceAgent agent = none ↔
      taskType ∈ agent.acceptedTaskTypes ∧
        ∃ source, registry.getAgentCapability sourceAgent = .ok source ∧
          agent.agentId ∈ source.downstreamRoutes := by
  simp only [rejectionOf, validateAgentRoute, getAgentCapability_of_mem distinct member]
  by_cases accepted : taskType ∈ agent.acceptedTaskTypes
  · simp only [accepted, not_true_eq_false, if_false, true_and]
    cases registry.getAgentCapability sourceAgent with
    | error problem => simp
    | ok source =>
        by_cases reached : agent.agentId ∈ source.downstreamRoutes <;> simp [reached, accepted]
  · simp [accepted]

/-- The selected agent is one of the registry, so a question is always answered. -/
theorem exists_handleManagerQuery
    (lower : String → String) (registry : AgentCapabilityRegistry) (query : String) :
    ∃ answer, handleManagerQuery lower registry query = .ok answer := by
  have known : ∀ agentId, (routeTask registry "code_review" "super-advisor").selectedAgent =
      some agentId → ∃ agent, registry.getAgentCapability agentId = .ok agent := by
    intro agentId selected
    obtain ⟨passed, later, shape, stops⟩ : ∃ passed later,
        availableAgents registry = passed ++ later ∧
          StopsAt registry "code_review" "super-advisor" passed later []
            (routeTask registry "code_review" "super-advisor") := exists_stopsAt _ []
    obtain ⟨agent, head, rfl⟩ :=
      Option.map_eq_some_iff.mp (stops.selected.symm.trans selected)
    have listed : agent ∈ availableAgents registry := by
      rw [shape]
      exact List.mem_append_right _ (List.mem_of_mem_head? head)
    have member : agent ∈ registry.agents := List.mem_of_mem_filter listed
    unfold AgentCapabilityRegistry.getAgentCapability
    cases found : registry.agents.find? (fun other => other.agentId = agent.agentId) with
    | none =>
        have absent := List.find?_eq_none.mp found agent member
        simp at absent
    | some other => exact ⟨other, rfl⟩
  unfold handleManagerQuery
  dsimp only
  split_ifs
  · cases selected : (routeTask registry "code_review" "super-advisor").selectedAgent.filter
        (· ≠ "") with
    | none => exact ⟨_, rfl⟩
    | some agentId =>
        obtain ⟨agent, found⟩ := known agentId (Option.filter_eq_some_iff.mp selected).1
        simp only [found]
        exact ⟨_, rfl⟩
  · exact ⟨_, rfl⟩
  · exact ⟨_, rfl⟩
  · exact ⟨_, rfl⟩

end Selection

/-! The planner on the same registry. -/

section Planner

variable (lower : String → String)

/-- What the planner asks of a task itself. -/
structure TaskFits (agent : AgentCapabilityRecord) (task : AgentTask)
    (availableInputs : Option (List (Key × Value))) : Prop where
  inputs : ∀ field ∈ requiredFieldsFromSchema agent.requiredInputSchema,
    hasField (availableInputs.getD []) field = true
  permitted : forbidsAction lower agent task = false
  allowed : disallowsAction lower agent task = false

/-- The planner accepts a task of this type for the agent. -/
def Plannable (planner : MainPlanner) (requestType taskType agentId : String) : Prop :=
  ∃ task availableInputs decision, task.agentId = agentId ∧
    task.typeOr requestType = taskType ∧
    validateAgent lower planner task requestType availableInputs = .ok decision

variable {lower} {planner : MainPlanner} {requestType : String} {task : AgentTask}
  {availableInputs : Option (List (Key × Value))}

theorem exists_decision_iff :
    (∃ decision, validateAgent lower planner task requestType availableInputs = .ok decision) ↔
      ∃ agent, PlannerAllows lower planner task requestType agent ∧
        TaskFits lower agent task availableInputs ∧ agent.selfApprovalAllowed = false := by
  constructor
  · rintro ⟨decision, accepted⟩
    obtain ⟨agent, allows, -⟩ := validateAgent_ok accepted
    refine ⟨agent, allows, ?_⟩
    simp only [validateAgent, except_bind_eq_ok] at accepted
    obtain ⟨_, -, found, known, _, -, _, -, _, -, _, given, _, permitted, _, allowed, _, -, _,
      -, _, reviewed, -⟩ := accepted
    obtain rfl : agent = found := Except.ok.inj (allows.known.symm.trans known)
    simp only [refuseIf_eq_ok, Bool.or_eq_false_iff] at given permitted allowed reviewed
    exact ⟨⟨by simpa using given, permitted, allowed⟩, reviewed.2⟩
  · rintro ⟨agent, allows, fits, reviewed⟩
    obtain ⟨source, sourceKnown, reachable⟩ := allows.contract.reachable
    have sameId := (mem_of_getAgent allows.known).2
    have given : (requiredFieldsFromSchema agent.requiredInputSchema).filter
        (fun field => !hasField (availableInputs.getD []) field) = [] := by
      rw [List.filter_eq_nil_iff]
      intro field member
      simp [fits.inputs field member]
    simp only [validateAgent, except_bind_eq_ok]
    refine ⟨_, (), requireReady_eq_ok.mpr allows.ready, agent, allows.known,
      (), refuseIf_eq_ok.mpr (by simpa [sameId] using allows.delegated),
      (), refuseIf_eq_ok.mpr (by simpa using allows.available),
      (), refuseIf_eq_ok.mpr (by simpa using allows.contract.accepted),
      (), refuseIf_eq_ok.mpr (by simp [given]),
      (), refuseIf_eq_ok.mpr fits.permitted,
      (), refuseIf_eq_ok.mpr fits.allowed, source, sourceKnown,
      (), refuseIf_eq_ok.mpr (by simpa using reachable),
      (), refuseIf_eq_ok.mpr (by simpa [reviewed] using allows.contract.reviewed), rfl⟩

end Planner

/-! Both on one project. -/

section Agreement

variable {library : Library} {files : ProjectFiles} {renderedConfig : List (Key × Value)}
  {manager : ManagerRegistryRuntime} {snapshot : RegistrySnapshot}

/-- How the decision of the manager stands to what the planner accepts. -/
structure AgreesWithPlanner (lower : String → String) (planner : MainPlanner)
    (requestType taskType : String) (candidates : List String) (decision : RoutingDecision) :
    Prop where
  /-- The candidates are rejected in their order, up to the selected one. -/
  ordered : decision.rejectedCandidates.map Prod.fst ++ decision.selectedAgent.toList <+:
    candidates
  refused : ∀ rejected ∈ decision.rejectedCandidates,
    ¬Plannable lower planner requestType taskType rejected.1
  nothing : decision.selectedAgent = none →
    ∀ agentId, ¬Plannable lower planner requestType taskType agentId
  used : ∀ agentId, decision.selectedAgent = some agentId →
    ∃ agent, planner.registrySnapshot.getAgent agentId = .ok agent ∧
      ∀ task availableInputs, task.agentId = agentId → task.typeOr requestType = taskType →
        ((∃ accepted, validateAgent lower planner task requestType availableInputs =
            .ok accepted) ↔
          TaskFits lower agent task availableInputs ∧ agent.selfApprovalAllowed = false ∧
            (agentId = "super-advisor" → agentId ∉ agent.requiredReviewers))

/-- The manager and a snapshot of the same files know the same sound registry. -/
theorem same_registry
    (loaded : loadManager library files renderedConfig = .ok manager)
    (built : buildRegistrySnapshot library files renderedConfig = .ok snapshot) :
    snapshot.state = agentRegistryReady ∧ snapshot.agents = manager.registry.agents ∧
      manager.registry.agentIds.Nodup ∧
      ∀ agent ∈ manager.registry.agents,
        agent.Acceptable library files manager.registry.agentIds := by
  simp only [loadManager, except_bind_eq_ok, except_mapError_eq_ok] at loaded
  obtain ⟨report, validated, selected⟩ := loaded
  rw [buildRegistrySnapshot, validated] at built
  obtain rfl := Except.ok.inj built
  split at selected
  next registry known =>
    split at selected
    next valid =>
      cases selected
      have clean := (ready_iff_no_issues validated).2.mp valid
      have ready := (ready_iff_no_issues validated).1.mpr clean
      obtain ⟨found, -, same, distinct, -, acceptable, -⟩ := registry_of_ready validated ready
      obtain rfl : registry = found := Option.some.inj (known.symm.trans same)
      refine ⟨?_, ?_, distinct, acceptable⟩
      · simp [snapshotOfReport, known, valid, ready]
      · simp [snapshotOfReport, known, valid]
    next => cases selected
  next => cases selected

theorem getAgent_eq_ok_iff
    (same : snapshot.agents = manager.registry.agents) {agentId : String}
    {agent : AgentCapabilityRecord} :
    snapshot.getAgent agentId = .ok agent ↔
      manager.registry.getAgentCapability agentId = .ok agent := by
  unfold RegistrySnapshot.getAgent AgentCapabilityRegistry.getAgentCapability
  rw [same]
  cases manager.registry.agents.find? (fun agent => agent.agentId = agentId) <;> simp

theorem mem_availableAgents {registry : AgentCapabilityRegistry} {agent : AgentCapabilityRecord} :
    agent ∈ availableAgents registry ↔
      agent ∈ registry.agents ∧ agent.currentAvailability = "AVAILABLE" := by
  simp [availableAgents]

/-- The manager does not reject an agent that the planner accepts. -/
theorem rejectionOf_of_allows
    (same : snapshot.agents = manager.registry.agents)
    (distinct : manager.registry.agentIds.Nodup)
    {lower : String → String} {sourceAgent requestType : String} {task : AgentTask}
    {agent : AgentCapabilityRecord}
    (allows : PlannerAllows lower
      { registrySnapshot := snapshot, sourceAgent := sourceAgent } task requestType agent) :
    agent ∈ availableAgents manager.registry ∧ agent.agentId = task.agentId ∧
      rejectionOf manager.registry (task.typeOr requestType) sourceAgent agent = none := by
  obtain ⟨member, sameId⟩ := mem_of_getAgent allows.known
  rw [same] at member
  obtain ⟨source, sourceKnown, reachable⟩ := allows.contract.reachable
  refine ⟨mem_availableAgents.mpr ⟨member, allows.available⟩, sameId, ?_⟩
  rw [rejectionOf_eq_none_iff distinct member, sameId]
  exact ⟨allows.contract.accepted, source, (getAgent_eq_ok_iff same).mp sourceKnown, reachable⟩

/-- The planner accepts an agent that the manager does not reject, if the task fits. -/
theorem allows_of_rejectionOf
    (ready : snapshot.state = agentRegistryReady)
    (same : snapshot.agents = manager.registry.agents)
    (distinct : manager.registry.agentIds.Nodup)
    (acceptable : ∀ agent ∈ manager.registry.agents,
      agent.Acceptable library files manager.registry.agentIds)
    {lower : String → String} {sourceAgent requestType : String} {task : AgentTask}
    {availableInputs : Option (List (Key × Value))} {agent : AgentCapabilityRecord}
    (available : agent ∈ availableAgents manager.registry) (sameId : task.agentId = agent.agentId)
    (free : rejectionOf manager.registry (task.typeOr requestType) sourceAgent agent = none)
    (fits : TaskFits lower agent task availableInputs)
    (reviewed : agent.agentId = "super-advisor" → agent.agentId ∉ agent.requiredReviewers) :
    PlannerAllows lower { registrySnapshot := snapshot, sourceAgent := sourceAgent } task
      requestType agent := by
  obtain ⟨member, isAvailable⟩ := mem_availableAgents.mp available
  obtain ⟨accepted, source, sourceKnown, reachable⟩ :=
    (rejectionOf_eq_none_iff distinct member).mp free
  have found : snapshot.getAgent sourceAgent = .ok source :=
    (getAgent_eq_ok_iff same).mpr sourceKnown
  obtain ⟨sourceMember, sourceId⟩ := mem_of_getAgent found
  rw [same] at sourceMember
  have known : snapshot.getAgent agent.agentId = .ok agent :=
    (getAgent_eq_ok_iff same).mpr (getAgentCapability_of_mem distinct member)
  exact
    { ready := ready
      known := by rw [sameId]; exact known
      delegated := by
        intro self
        have own : agent.agentId = source.agentId := by
          rw [sourceId, ← sameId, self]
        exact (acceptable source sourceMember).noSelfRoute (own ▸ reachable)
      available := isAvailable
      contract :=
        { accepted := accepted
          reachable := ⟨source, found, by rw [sameId]; exact reachable⟩
          permitted := fits.permitted
          allowed := fits.allowed
          reviewed := by
            rw [sameId]
            by_cases advisor : agent.agentId = "super-advisor"
            · exact reviewed advisor
            · exact (acceptable agent member).noSelfReview advisor } }

/-- The manager's routing and the planner agree on every validated project. -/
theorem routeTask_agrees
    (loaded : loadManager library files renderedConfig = .ok manager)
    (built : buildRegistrySnapshot library files renderedConfig = .ok snapshot)
    (lower : String → String) (sourceAgent requestType taskType : String) :
    AgreesWithPlanner lower { registrySnapshot := snapshot, sourceAgent := sourceAgent }
      requestType taskType
      ((availableAgents manager.registry).map AgentCapabilityRecord.agentId)
      (routeTask manager.registry taskType sourceAgent) := by
  obtain ⟨ready, same, distinct, acceptable⟩ := same_registry loaded built
  obtain ⟨passed, later, shape, stops⟩ : ∃ passed later,
      availableAgents manager.registry = passed ++ later ∧
        StopsAt manager.registry taskType sourceAgent passed later []
          (routeTask manager.registry taskType sourceAgent) := exists_stopsAt _ []
  have rejectedIds : (routeTask manager.registry taskType sourceAgent).rejectedCandidates.map
      Prod.fst = passed.map AgentCapabilityRecord.agentId := by
    simpa using stops.rejected
  have planned : ∀ {agentId}, Plannable lower
      { registrySnapshot := snapshot, sourceAgent := sourceAgent } requestType taskType agentId →
        ∃ agent ∈ availableAgents manager.registry, agent.agentId = agentId ∧
          rejectionOf manager.registry taskType sourceAgent agent = none := by
    rintro _ ⟨task, availableInputs, decision, rfl, rfl, accepted⟩
    obtain ⟨agent, allows, -⟩ := exists_decision_iff.mp ⟨decision, accepted⟩
    obtain ⟨available, sameId, free⟩ := rejectionOf_of_allows same distinct allows
    exact ⟨agent, available, sameId, free⟩
  have unique : ∀ {first second}, first ∈ availableAgents manager.registry →
      second ∈ availableAgents manager.registry → first.agentId = second.agentId →
        first = second :=
    fun first second => List.inj_on_of_nodup_map distinct (mem_availableAgents.mp first).1
      (mem_availableAgents.mp second).1
  refine
    { ordered := ?_
      refused := fun rejected member plannable => ?_
      nothing := fun unselected agentId plannable => ?_
      used := fun agentId selected => ?_ }
  · rw [rejectedIds, shape, List.map_append]
    have selected := stops.selected
    cases later with
    | nil => simp [selected]
    | cons agent later => simp [selected]
  · have listed : rejected.1 ∈ passed.map AgentCapabilityRecord.agentId :=
      rejectedIds ▸ List.mem_map_of_mem member
    obtain ⟨agent, inside, sameId⟩ := List.mem_map.mp listed
    obtain ⟨other, available, otherId, free⟩ := planned plannable
    have here : agent ∈ availableAgents manager.registry := by
      rw [shape]
      exact List.mem_append_left _ inside
    obtain rfl := unique available here (otherId.trans sameId.symm)
    exact stops.refused other inside free
  · obtain ⟨agent, available, -, free⟩ := planned plannable
    have empty : later.head? = none := by
      simpa using stops.selected.symm.trans unselected
    rw [shape, List.head?_eq_none_iff.mp empty, List.append_nil] at available
    exact stops.refused agent available free
  · have first := stops.selected.symm.trans selected
    obtain ⟨agent, head, rfl⟩ := Option.map_eq_some_iff.mp first
    have available : agent ∈ availableAgents manager.registry := by
      rw [shape]
      exact List.mem_append_right _ (List.mem_of_mem_head? head)
    have member := (mem_availableAgents.mp available).1
    refine ⟨agent, (getAgent_eq_ok_iff same).mpr (getAgentCapability_of_mem distinct member),
      fun task availableInputs sameId sameType => ?_⟩
    rw [exists_decision_iff]
    constructor
    · rintro ⟨other, allows, fits, own⟩
      obtain ⟨there, otherId, -⟩ := rejectionOf_of_allows same distinct allows
      obtain rfl := unique there available (otherId.trans sameId)
      exact ⟨fits, own, fun _ => otherId ▸ allows.contract.reviewed⟩
    · rintro ⟨fits, own, reviewed⟩
      refine ⟨agent, ?_, fits, own⟩
      have free := stops.stopped agent head
      rw [← sameType] at free
      exact allows_of_rejectionOf ready same distinct acceptable available sameId free fits
        reviewed

end Agreement

/-- On the project as the runtime knows it a review goes to the only agent that
the advisor reaches. -/
theorem review_routed_as_planned :
    ∃ files renderedConfig manager snapshot,
      loadManager jsonLibrary files renderedConfig = .ok manager ∧
        buildRegistrySnapshot jsonLibrary files renderedConfig = .ok snapshot ∧
        AgreesWithPlanner jsonLibrary.lower { registrySnapshot := snapshot } "review" "review"
          ((availableAgents manager.registry).map AgentCapabilityRecord.agentId)
          (routeTask manager.registry "review" "super-advisor") ∧
        (routeTask manager.registry "review" "super-advisor").selectedAgent ≠ none := by
  obtain ⟨registry, report, agents, validated, known, ready⟩ :=
    @ready_of_fit jsonLibrary _ rfl rfl strip_sha256Hex runtimeDefinition_fits
  have valid : report.valid = true := by
    obtain ⟨isReady, sound⟩ := ready_iff_no_issues validated
    exact sound.mpr (isReady.mp ready)
  let files := writtenFiles jsonLibrary runtimeDefinition
  let snapshot := snapshotOfReport files report
  have loaded : loadManager jsonLibrary files (renderedConfigOf registry) =
      .ok ⟨registry, report.status⟩ := by
    rw [loadManager, validated]
    simp [Except.mapError, bind, Except.bind, known, valid]
  have built : buildRegistrySnapshot jsonLibrary files (renderedConfigOf registry) =
      .ok snapshot := by
    rw [buildRegistrySnapshot, validated]
    rfl
  have agrees :=
    routeTask_agrees loaded built jsonLibrary.lower "super-advisor" "review" "review"
  have isReady : snapshot.state = agentRegistryReady := by
    simp [snapshot, snapshotOfReport, known, valid, ready]
  have defined : snapshot.agents = definedAgents jsonLibrary runtimeDefinition := by
    simp [snapshot, snapshotOfReport, known, valid, agents]
  refine ⟨files, _, _, snapshot, loaded, built, agrees, fun unselected => ?_⟩
  obtain ⟨plan, planned, -⟩ := exists_reviewPlan isReady defined
  obtain ⟨decisions, accepted, -⟩ := except_bind_eq_ok.mp planned
  obtain ⟨decision, -, accepts⟩ := exists_of_mem_left (mapM_eq_ok_iff.mp accepted)
    (List.mem_singleton_self codeReview)
  exact agrees.nothing unselected codeReview.agentId
    ⟨codeReview, _, decision, rfl, rfl, accepts⟩

end SuperAdvisor.MainAgent
