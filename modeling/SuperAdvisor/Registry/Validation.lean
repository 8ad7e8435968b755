import SuperAdvisor.Registry.RegistryFile

/-!
# Validation of the agent registry

A registry is ready when its agents agree with the runtime constants, with the
generated registry file and with the rendered configuration.  Every check adds
its issues; the status is decided by them.
-/

namespace SuperAdvisor.Registry

open Python

def agentSkillNames : List (String × List String) :=
  [("super-advisor",
      ["advisor-safety-contract", "environment-health", "evidence-audit",
        "agent-orchestration-contract", "super-potential-review", "incident-reporting",
        "publication-policy"]),
    ("xau-strategy-auditor",
      ["xauusd-market-analysis", "multi-timeframe-structure-review",
        "price-action-order-block", "chart-pattern-filter-review",
        "candlestick-microstructure", "strategy-logic-audit", "realtime-evidence-review",
        "super-potential-audit", "alert-quality-improvement"]),
    ("system-coder-auditor",
      ["python-pipeline-micro-audit", "code-architecture-review", "logic-conflict-detection",
        "dead-code-and-duplicate-review", "test-and-regression-design",
        "blueprint-compliance-audit", "safe-patch-workflow", "release-and-rollback",
        "skill-improvement-proposal"]),
    ("telegram-publisher",
      ["thai-telegram-publisher", "telegram-message-contract", "telegram-delivery-safety",
        "telegram-deduplication-throttle", "telegram-retry-and-dead-letter",
        "telegram-security-redaction"]),
    ("market-data-integrity-agent",
      ["market-data-coverage-audit", "data-provenance-contract", "stale-data-detection"]),
    ("price-action-microstructure-agent",
      ["candlestick-structure-analysis", "microstructure-trigger-audit",
        "m1-m5-pattern-review"]),
    ("intermarket-macro-agent",
      ["fx-basket-analysis", "us10y-context-review", "intermarket-correlation-audit",
        "regime-classification"]),
    ("statistical-backtest-agent",
      ["sample-adequacy-review", "walk-forward-analysis", "overfitting-detection"]),
    ("failure-root-cause-agent",
      ["alert-failure-analysis", "root-cause-tree-builder", "corrective-hypothesis-design"]),
    ("security-compliance-agent",
      ["advisor-only-enforcement", "privilege-boundary-audit", "secret-exposure-scan"]),
    ("reliability-watchdog-agent",
      ["process-health-monitor", "component-restart-protocol", "incident-escalation-contract"]),
    ("knowledge-skill-manager",
      ["research-knowledge-lifecycle", "skill-candidate-lifecycle",
        "experiment-outcome-recording"]),
    ("blueprint-coder",
      ["advanced-python-engineering", "software-architecture-design",
        "algorithm-and-logic-design", "blueprint-compliance-engineering",
        "runtime-pipeline-wiring", "event-driven-system-design", "state-machine-engineering",
        "data-pipeline-engineering", "secure-refactoring", "root-cause-debugging",
        "logic-conflict-remediation", "dead-code-elimination",
        "test-and-regression-engineering", "property-based-testing",
        "performance-and-reliability-engineering", "migration-and-backward-compatibility",
        "isolated-worktree-patching", "release-and-rollback-planning"])]

def standardDeny : List String :=
  ["group:runtime", "group:web", "group:ui", "group:automation", "group:messaging",
    "group:plugins", "group:memory", "group:sessions", "write", "edit", "apply_patch", "exec",
    "process", "code_execution", "browser", "canvas", "gateway", "message", "subagents",
    "memory_search", "memory_get", "sessions_list", "sessions_history", "sessions_send",
    "sessions_spawn", "sessions_yield"]

def agentAllowedTools (agentId : String) : List String :=
  if agentId = "blueprint-coder" then
    ["read", "session_status", "write", "edit", "apply_patch"]
  else if agentId ∈ runtimeAgentIds then ["read", "session_status"]
  else []

def agentDeniedTools (agentId : String) : List String :=
  if agentId = "super-advisor" then
    standardDeny.filter (· ∉ ["group:messaging", "message"])
  else if agentId = "blueprint-coder" then
    standardDeny.filter (· ∉ ["write", "edit", "apply_patch", "exec"])
  else if agentId ∈ runtimeAgentIds then standardDeny
  else []

/-- `get_agent_capability`: the first agent with the id. -/
def AgentCapabilityRegistry.getAgentCapability (registry : AgentCapabilityRegistry)
    (agentId : String) : Except RegistryProblem AgentCapabilityRecord :=
  match registry.agents.find? (fun agent => agent.agentId = agentId) with
  | some agent => .ok agent
  | none => .error (.python (.keyError agentId))

structure AgentRegistryValidationReport where
  valid : Bool
  status : String
  registry : Option AgentCapabilityRegistry
  issues : List AgentRegistryIssue
  missingAgentCount : Nat
  duplicateAgentCount : Nat
  registryConfigMismatchCount : Nat

section Definitions

variable (registry : AgentCapabilityRegistry)

/-- The issue of a check that failed. -/
def issueUnless (holds : Bool) (path rule message : String) : List AgentRegistryIssue :=
  if holds then [] else [{ path := path, rule := rule, message := message }]

def duplicateIssues (agent : AgentCapabilityRecord) (index : Nat) :
    List AgentRegistryIssue :=
  issueUnless (agent.agentId ∉ (registry.agents.take index).map AgentCapabilityRecord.agentId)
    ("agents[" ++ intText index ++ "].agent_id") "duplicate_agent"
    ("duplicate agent id " ++ quotedText agent.agentId)

/-- The checks of one definition against the constants. -/
def definitionIssues (agent : AgentCapabilityRecord) (index : Nat) :
    List AgentRegistryIssue :=
  let place := "agents[" ++ intText index ++ "]"
  let skills := (OrderedDict.get? agentSkillNames agent.agentId).getD []
  issueUnless (!agent.primaryResponsibilities.isEmpty) (place ++ ".primary_responsibilities")
      "missing" "primary responsibilities are required" ++
    issueUnless (agent.allowedTools = agentAllowedTools agent.agentId)
      (place ++ ".allowed_tools") "tool_allow_mismatch"
      "registry allowed_tools must match runtime constants" ++
    issueUnless (agent.definitionVersion = packageVersion) (place ++ ".definition_version")
      "version_mismatch" ("definition_version must be " ++ packageVersion) ++
    issueUnless (agent.forbiddenTools = agentDeniedTools agent.agentId)
      (place ++ ".forbidden_tools") "tool_deny_mismatch"
      "registry forbidden_tools must match runtime constants" ++
    issueUnless (Value.equalsItems agent.ownedSkills (skills.map .str))
      (place ++ ".owned_skills") "skill_catalog_mismatch"
      "registry owned_skills must match runtime skill ownership" ++
    issueUnless (!(agent.agentId ∈ ["system-coder-auditor", "security-compliance-agent",
        "blueprint-coder"] && agent.selfApprovalAllowed))
      (place ++ ".self_approval_allowed") "forbidden"
      (agent.agentId ++ " cannot self-approve") ++
    issueUnless (!(agent.agentId = "blueprint-coder" && !agent.mayModifyCode))
      (place ++ ".may_modify_code") "missing_capability"
      "blueprint-coder must be the code-modifying agent" ++
    issueUnless (!(agent.mayPush && !agent.mayCommit)) place "contradictory_permissions"
      "may_push cannot be true when may_commit is false" ++
    issueUnless (!(agent.mayDeploy && !agent.mayPush)) place "contradictory_permissions"
      "may_deploy cannot be true when may_push is false" ++
    issueUnless (!(agent.mayPublishTelegram && agent.agentId ≠ "telegram-publisher"))
      (place ++ ".may_publish_telegram") "forbidden"
      "only telegram-publisher may publish Telegram content"

/-- Routes, reviewers and the escalation target must be runtime agents. -/
def routeIssues (source : AgentCapabilityRecord) : List AgentRegistryIssue :=
  [("upstream_routes", source.upstreamRoutes),
      ("downstream_routes", source.downstreamRoutes),
      ("required_reviewers", source.requiredReviewers)].flatMap (fun route =>
    route.2.flatMap (fun target =>
      issueUnless (target ∈ runtimeAgentIds) (source.agentId ++ "." ++ route.1)
        "unknown_agent" ("unknown route target " ++ quotedText target))) ++
    issueUnless (source.escalationTarget ∈ runtimeAgentIds)
      (source.agentId ++ ".escalation_target") "unknown_agent"
      ("unknown escalation_target " ++ quotedText source.escalationTarget)

def reviewChainIssues : Except RegistryProblem (List AgentRegistryIssue) := do
  let coder ← registry.getAgentCapability "blueprint-coder"
  .ok (issueUnless (coder.requiredReviewers =
      ["system-coder-auditor", "security-compliance-agent", "super-advisor"])
    "blueprint-coder.required_reviewers" "review_chain_mismatch"
    ("blueprint-coder must route through system-coder-auditor, " ++
      "security-compliance-agent, and super-advisor"))

end Definitions

def generatedFileIssues (library : Library) (files : ProjectFiles)
    (registry : AgentCapabilityRegistry) :
    Except RegistryProblem (List AgentRegistryIssue) :=
  match files.agentRegistry with
  | none =>
      .ok [fileIssue files "" "missing_file" "generated agent registry file is missing"]
  | some text =>
      match loads text with
      | none =>
          .ok [fileIssue files "" "malformed_json"
            "generated agent registry file is not valid JSON"]
      | some generated => validateGeneratedRegistryPayload library files generated registry

section RenderedConfig

variable (registry : AgentCapabilityRegistry) (renderedConfig : List (Key × Value))

def registryMetaIssues : List AgentRegistryIssue :=
  match getOr renderedConfig "agentCapabilityRegistry" .none with
  | .dict registryMeta =>
      issueUnless ((getOr registryMeta "registryHash" .none).equals
          (.str registry.registryHash))
        "agentCapabilityRegistry.registryHash" "mismatch"
        "rendered config registryHash must match the validated registry" ++
      issueUnless ((getOr registryMeta "agentCount" .none).equals (.int registry.agentCount))
        "agentCapabilityRegistry.agentCount" "mismatch"
        "rendered config agentCount must match the validated registry"
  | _ =>
      issueUnless false "agentCapabilityRegistry" "missing"
        "rendered config must expose agentCapabilityRegistry metadata"

/-- The configured agents by the text of their id. -/
def configAgents (agentList : List Value) : List (String × List (Key × Value)) :=
  OrderedDict.ofPairs (agentList.filterMap (fun item =>
    match item with
    | .dict entries => some ((getOr entries "id" .none).text, entries)
    | _ => none))

def configAgentIssues (agentList : List Value) (agent : AgentCapabilityRecord) :
    Except RegistryProblem (List AgentRegistryIssue) :=
  let place := "agents.list." ++ agent.agentId
  match OrderedDict.get? (configAgents agentList) agent.agentId with
  | none =>
      .ok (issueUnless false place "missing"
        "rendered config is missing a registered agent")
  | some configAgent => do
      let skills ← (listOf (getOr configAgent "skills" (.list []))).mapError .python
      let toolIssues ←
        match getOr configAgent "tools" (.dict []) with
        | .dict tools => do
            let allow ← (listOf (getOr tools "allow" (.list []))).mapError .python
            .ok (issueUnless (Value.equalsItems allow (agent.allowedTools.map .str))
              (place ++ ".tools.allow") "mismatch"
              "rendered config tool allowlist must match the registry")
        | _ => .ok []
      .ok (issueUnless (Value.equalsItems skills agent.ownedSkills) (place ++ ".skills")
        "mismatch" "rendered config skills must match the registry" ++ toolIssues)

/-- Every issue of the rendered configuration counts as a mismatch. -/
def renderedConfigIssues : Except RegistryProblem (List AgentRegistryIssue) := do
  let agentIssues ←
    match getOr renderedConfig "agents" .none with
    | .dict section_ =>
        match getOr section_ "list" .none with
        | .list agentList => do
            let issues ← registry.agents.mapM (configAgentIssues agentList)
            .ok issues.flatten
        | _ => .ok []
    | _ =>
        .ok (issueUnless false "agents" "missing"
          "rendered config agents section is required for registry validation")
  .ok (registryMetaIssues registry renderedConfig ++ agentIssues)

end RenderedConfig

def registryStatus (issues : List AgentRegistryIssue) : String :=
  if issues.isEmpty then agentRegistryReady
  else if issues.all (fun issue => issue.rule ∈ ["missing_file", "stale_registry"]) then
    agentRegistryDegraded
  else agentRegistryInvalid

/-- The report on a registry that could be built. -/
def checkRegistry (library : Library) (files : ProjectFiles)
    (renderedConfig : Option (List (Key × Value))) (requireGeneratedFile : Bool)
    (registry : AgentCapabilityRegistry) :
    Except RegistryProblem AgentRegistryValidationReport := do
  let positions := registry.agents.zipIdx
  let agentIds := registry.agents.map AgentCapabilityRecord.agentId
  let chainIssues ← reviewChainIssues registry
  let fileIssues ←
    if requireGeneratedFile then generatedFileIssues library files registry else .ok []
  let mismatches ←
    match renderedConfig with
    | none => .ok []
    | some renderedConfig => renderedConfigIssues registry renderedConfig
  let issues :=
    positions.flatMap (fun position =>
      duplicateIssues registry position.1 position.2 ++
        definitionIssues position.1 position.2) ++
    registry.agents.flatMap routeIssues ++ chainIssues ++ fileIssues ++ mismatches
  .ok
    { valid := issues.isEmpty
      status := registryStatus issues
      registry := some registry
      issues := issues
      missingAgentCount := (runtimeAgentIds.filter (· ∉ agentIds)).length
      duplicateAgentCount := (positions.flatMap (fun position =>
        duplicateIssues registry position.1 position.2)).length
      registryConfigMismatchCount := mismatches.length }

def validateAgentRegistry (library : Library) (files : ProjectFiles)
    (renderedConfig : Option (List (Key × Value))) (requireGeneratedFile : Bool) :
    Except RegistryProblem AgentRegistryValidationReport :=
  match buildAgentRegistry library files with
  | .ok registry =>
      checkRegistry library files renderedConfig requireGeneratedFile registry
  | .error problem =>
      match problem.caught with
      | none => .error problem
      | some message =>
          .ok
            { valid := false
              status := agentRegistryInvalid
              registry := none
              issues := issueUnless false "agent_registry" "parse_error" message
              missingAgentCount := runtimeAgentIds.length
              duplicateAgentCount := 0
              registryConfigMismatchCount := 0 }

end SuperAdvisor.Registry
