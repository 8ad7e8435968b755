import SuperAdvisor.MainAgent.PlanAcceptance
import SuperAdvisor.MainAgent.Planner
import SuperAdvisor.MainAgent.Runtime
import SuperAdvisor.Registry.Snapshot

/-!
# Planned tasks and the order of the manager

A manager built from a snapshot knows the available agents of the snapshot,
the orchestrator excepted.  Of several records with one id it knows the last.

The planner never looks at task ids, dependencies and skills.  Its plans are
accepted by the manager and list every task behind its dependencies exactly
when the given tasks already did.
-/

namespace SuperAdvisor.MainAgent

open Python Registry

/-- The skills of a record that a task can name. -/
def ownedSkillNames (agent : AgentCapabilityRecord) : List String :=
  agent.ownedSkills.filterMap (fun skill =>
    match skill with
    | .str name => some name
    | _ => none)

def capabilityOf (agent : AgentCapabilityRecord) : AgentCapability :=
  { agentId := agent.agentId
    skills := ownedSkillNames agent
    available := agent.currentAvailability = "AVAILABLE" }

def MainRuntimeManager.fromRegistrySnapshot (snapshot : RegistrySnapshot)
    (maxRetries : Int := 2) : MainRuntimeManager :=
  let specialists := snapshot.listAvailableAgents.filter
    (fun agent => agent.agentId ≠ "super-advisor")
  { capabilities := OrderedDict.ofPairs
      (specialists.map (fun agent => (agent.agentId, capabilityOf agent)))
    snapshotState := some snapshot.state
    maxRetries := maxRetries }

/-- The skills of the last available agent with the id. -/
def skillsOf (snapshot : RegistrySnapshot) (agentId : String) : List String :=
  match snapshot.listAvailableAgents.reverse.find? (fun agent => agent.agentId = agentId) with
  | some agent => ownedSkillNames agent
  | none => []

variable {snapshot : RegistrySnapshot} {maxRetries : Int} {agentId : String}

/-- The manager knows the last available specialist with an id. -/
theorem get?_capabilities :
    OrderedDict.get? (MainRuntimeManager.fromRegistrySnapshot snapshot maxRetries).capabilities
        agentId =
      if agentId = "super-advisor" then none
      else (snapshot.listAvailableAgents.reverse.find?
        (fun agent => agent.agentId = agentId)).map capabilityOf := by
  rw [MainRuntimeManager.fromRegistrySnapshot, OrderedDict.get?_ofPairs, ← List.map_reverse,
    List.find?_map, ← List.filter_reverse, List.find?_filter]
  by_cases main : agentId = "super-advisor"
  · subst main
    rw [if_pos rfl]
    simp only [Option.map_map, Option.map_eq_none_iff, List.find?_eq_none]
    intro agent _
    simp
  · rw [if_neg main, Option.map_map]
    refine congrArg (Option.map capabilityOf) ?_
    congr 1
    funext agent
    by_cases here : agent.agentId = agentId <;> simp [here, main]

/-- A capability the manager knows is one of an available specialist. -/
theorem available_of_get?_capabilities
    {capability : AgentCapability}
    (found : OrderedDict.get?
      (MainRuntimeManager.fromRegistrySnapshot snapshot maxRetries).capabilities agentId =
        some capability) :
    agentId ≠ "super-advisor" ∧ capability.available = true ∧
      capability.skills = skillsOf snapshot agentId ∧
      ∃ agent ∈ snapshot.agents, agent.agentId = agentId := by
  rw [get?_capabilities] at found
  split at found
  next => cases found
  next specialist =>
    obtain ⟨agent, here, rfl⟩ := Option.map_eq_some_iff.mp found
    have listed := List.mem_reverse.mp (List.mem_of_find?_eq_some here)
    obtain ⟨inside, available⟩ := List.mem_filter.mp listed
    refine ⟨specialist, available, ?_, agent, inside, by simpa using List.find?_some here⟩
    simp [skillsOf, here, capabilityOf]

/-- The manager accepts the plan, and the plan lists every task behind its
dependencies. -/
def ExecutablePlan (manager : MainRuntimeManager) (maxHops : Int) (plan : DependencyPlan) :
    Prop :=
  (∃ ordered, validateAndOrderPlan manager.capabilities plan maxHops = .ok ordered) ∧
    DependenciesFirst plan.tasks

variable {lower : String → String} {snapshot : RegistrySnapshot}

/-- The manager has a capability for every agent the planner accepts. -/
theorem capableOf_iff_of_plannerAllows
    {task : AgentTask} {requestType : String} {agent : AgentCapabilityRecord}
    (allows : PlannerAllows lower { registrySnapshot := snapshot } task requestType agent)
    (maxRetries : Int) :
    CapableOf (MainRuntimeManager.fromRegistrySnapshot snapshot maxRetries).capabilities task ↔
      task.skill ∈ skillsOf snapshot task.agentId := by
  obtain ⟨member, sameId⟩ := mem_of_getAgent allows.known
  have listed : agent ∈ snapshot.listAvailableAgents := by
    simpa [RegistrySnapshot.listAvailableAgents, allows.available] using member
  constructor
  · rintro ⟨capability, found, -, skilled⟩
    obtain ⟨-, -, skills, -⟩ := available_of_get?_capabilities found
    rwa [← skills]
  · intro skilled
    cases last : snapshot.listAvailableAgents.reverse.find?
        (fun other => other.agentId = task.agentId) with
    | none =>
        have absent := List.find?_eq_none.mp last agent (List.mem_reverse.mpr listed)
        simp [sameId] at absent
    | some other =>
        have found := @get?_capabilities snapshot maxRetries task.agentId
        rw [if_neg allows.delegated, last, Option.map_some] at found
        obtain ⟨-, available, skills, -⟩ := available_of_get?_capabilities found
        exact ⟨capabilityOf other, found, available, skills ▸ skilled⟩

theorem executablePlan_iff
    {planId requestType : String} {tasks : List AgentTask}
    {availableInputs : List (String × List (Key × Value))} {plan : DependencyPlan}
    (planned : buildPlan lower { registrySnapshot := snapshot } planId requestType tasks
      availableInputs = .ok plan)
    (maxRetries : Int) {maxHops : Int} (short : plan.tasks.length ≤ maxHops) :
    ExecutablePlan (MainRuntimeManager.fromRegistrySnapshot snapshot maxRetries) maxHops plan ↔
      (taskIds tasks).Nodup ∧ DependenciesFirst tasks ∧
        ∀ task ∈ tasks, task.skill ∈ skillsOf snapshot task.agentId := by
  obtain ⟨sameTasks, -, -, -, decided⟩ := buildPlan_ok planned
  have capableIff : ∀ task ∈ plan.tasks, CapableOf
      (MainRuntimeManager.fromRegistrySnapshot snapshot maxRetries).capabilities task ↔
        task.skill ∈ skillsOf snapshot task.agentId := by
    intro task member
    obtain ⟨decision, -, accepted⟩ := exists_of_mem_left decided member
    obtain ⟨agent, allows, -⟩ := validateAgent_ok accepted
    exact capableOf_iff_of_plannerAllows allows maxRetries
  rw [← sameTasks]
  constructor
  · rintro ⟨⟨ordered, accepted⟩, first⟩
    obtain ⟨distinct, capable⟩ := accepted_of_validateAndOrderPlan accepted
    exact ⟨distinct, first, fun task member => (capableIff task member).mp (capable task member)⟩
  · rintro ⟨distinct, first, skilled⟩
    refine ⟨⟨plan.tasks, validateAndOrderPlan_of_first short distinct ?_ first⟩, first⟩
    exact fun task member => (capableIff task member).mpr (skilled task member)

/-- A small registry: the orchestrator may send code reviews to one agent. -/
def auditRecord (agentId : String) (downstreamRoutes : List String) :
    AgentCapabilityRecord :=
  { agentId := agentId
    displayName := agentId
    roleSummary := "audits code"
    primaryResponsibilities := ["audit"]
    acceptedTaskTypes := ["code_review"]
    requiredInputSchema := []
    outputContract := []
    allowedActions := ["analyze code"]
    forbiddenActions := ["deploy"]
    allowedTools := ["read"]
    forbiddenTools := ["exec"]
    upstreamRoutes := ["super-advisor"]
    downstreamRoutes := downstreamRoutes
    requiredReviewers := ["super-advisor"]
    escalationTarget := "super-advisor"
    humanReleaseGateRequired := false
    mayModifyCode := false
    mayCommit := false
    mayPush := false
    mayDeploy := false
    mayPublishTelegram := false
    mayAccessBrowser := false
    mayAccessSecrets := false
    selfApprovalAllowed := false
    definitionSource := agentSource agentId
    definitionVersion := packageVersion
    definitionHash := "definition"
    ownedSkills := [.str "review"] }

def auditSnapshot : RegistrySnapshot :=
  { state := agentRegistryReady
    schemaVersion := agentRegistrySchemaVersion
    definitionHash := "registry"
    registryVersion := packageVersion
    sourcePath := registryFile
    loadedByMainRuntime := true
    lastValidationResult := "PASS"
    missingAgentCount := 0
    duplicateAgentCount := 0
    configMismatchCount := 0
    routeIssueCount := 0
    validationErrors := []
    agents := [auditRecord "super-advisor" ["system-coder-auditor"],
      auditRecord "system-coder-auditor" ["super-advisor"]] }

def reviewTask (taskId : String) (dependsOn : List String) : AgentTask :=
  { taskId := taskId
    agentId := "system-coder-auditor"
    skill := "review"
    dependsOn := dependsOn
    inputSchema := [] }

/-- The plan of review tasks. -/
def reviewPlan (tasks : List AgentTask) : Except SnapshotProblem DependencyPlan :=
  buildPlan asciiLower { registrySnapshot := auditSnapshot } "plan" "code_review" tasks []

theorem reviewPlan_executable :
    ∃ plan, reviewPlan [reviewTask "a" [], reviewTask "b" ["a"]] = .ok plan ∧
      (ExecutablePlan (MainRuntimeManager.fromRegistrySnapshot auditSnapshot 2) 50 plan ↔
        (taskIds [reviewTask "a" [], reviewTask "b" ["a"]]).Nodup ∧
          DependenciesFirst [reviewTask "a" [], reviewTask "b" ["a"]] ∧
          ∀ task ∈ [reviewTask "a" [], reviewTask "b" ["a"]],
            task.skill ∈ skillsOf auditSnapshot task.agentId) := by
  have accepted : (reviewPlan [reviewTask "a" [], reviewTask "b" ["a"]]).isOk = true := by
    decide +kernel
  cases planned : reviewPlan [reviewTask "a" [], reviewTask "b" ["a"]] with
  | error problem => simp [planned, Except.isOk, Except.toBool] at accepted
  | ok plan =>
      refine ⟨plan, rfl, executablePlan_iff planned 2 ?_⟩
      simp [(buildPlan_ok planned).1]

/-- The planner accepts a task that depends on an unknown one; the manager
refuses the plan. -/
theorem danglingDependency_not_executable :
    auditSnapshot.state = agentRegistryReady ∧
      ∃ plan, reviewPlan [reviewTask "b" ["a"]] = .ok plan ∧ plan.tasks.length ≤ 50 ∧
        ¬ExecutablePlan (MainRuntimeManager.fromRegistrySnapshot auditSnapshot 2) 50 plan := by
  have refused : (reviewPlan [reviewTask "b" ["a"]]).toOption.map (fun plan =>
      (validateAndOrderPlan (MainRuntimeManager.fromRegistrySnapshot auditSnapshot 2).capabilities
        plan 50).toOption.isSome) = some false := by
    decide +kernel
  cases planned : reviewPlan [reviewTask "b" ["a"]] with
  | error problem => simp [planned, Except.toOption] at refused
  | ok plan =>
      refine ⟨rfl, plan, rfl, by simp [(buildPlan_ok planned).1], ?_⟩
      rintro ⟨⟨ordered, accepted⟩, -⟩
      simp [planned, accepted, Except.toOption] at refused

end SuperAdvisor.MainAgent
