import SuperAdvisor.Registry.Validation
import SuperAdvisor.Settings.Environment
import SuperAdvisor.Topology.Routing

/-!
# The contracts of the runtime agents

The contract of an agent is fixed but for the directories, which lie below those
of the project.  The topology check compares a rendered configuration with the
contracts; it looks at fewer settings than the configuration check, and is the
only one that compares the list of denied tools.
-/

namespace SuperAdvisor.Topology

open Python Registry Settings

structure AgentSpec where
  name : String
  description : String
  secretAccess : String
  timeoutSeconds : Int
  retryMaxAttempts : Int

/-- `_agent_specs` -/
def agentSpecs : List (String × AgentSpec) :=
  [("super-advisor",
      ⟨"OpenClaw MAIN Agent Manager",
        "Sole user-facing coordinator; planner, router, evidence arbiter, release gate.",
        "none", 300, 2⟩),
    ("xau-strategy-auditor",
      ⟨"XAU Strategy Research Agent",
        "Read-only XAUUSD multi-timeframe research and alert-quality review.", "none", 90, 2⟩),
    ("system-coder-auditor",
      ⟨"System Coder Auditor",
        "Read-only code-audit agent; isolated worktree patch proposals only.", "none", 90, 2⟩),
    ("telegram-publisher",
      ⟨"Thai Telegram Publisher",
        "Approved Thai publication formatter and delivery safety gate.",
        "approved_payload_only", 60, 3⟩),
    ("market-data-integrity-agent",
      ⟨"Market Data Integrity Agent",
        "MT5/FRED data quality audit: missing bars, timezone, provenance.", "none", 120, 3⟩),
    ("price-action-microstructure-agent",
      ⟨"Price Action Microstructure Agent",
        "Candlestick structure, wick/body, rejection, and M1/M5 trigger analysis.",
        "none", 90, 2⟩),
    ("intermarket-macro-agent",
      ⟨"Intermarket Macro Agent",
        "USD basket, US10Y, FX correlation, lead/lag, regime classification.", "none", 120, 2⟩),
    ("statistical-backtest-agent",
      ⟨"Statistical Backtest Agent",
        "Sample adequacy, walk-forward, stability, overfitting and leakage detection.",
        "none", 300, 2⟩),
    ("failure-root-cause-agent",
      ⟨"Failure Root Cause Agent",
        "Alert failure analysis, logic conflict audit, root-cause tree, corrective hypothesis.",
        "none", 120, 2⟩),
    ("security-compliance-agent",
      ⟨"Security Compliance Agent",
        "Advisor-only enforcement, secret exposure scan, agent privilege audit.",
        "none", 60, 2⟩),
    ("reliability-watchdog-agent",
      ⟨"Reliability Watchdog Agent",
        "Process health, heartbeat monitoring, restart protocol, incident escalation.",
        "none", 30, 5⟩),
    ("knowledge-skill-manager",
      ⟨"Knowledge and Skill Manager",
        "Research knowledge lifecycle, experiment records, skill candidate management.",
        "none", 120, 2⟩),
    ("blueprint-coder",
      ⟨"Blueprint Coder",
        "Isolated code-creation agent; writes, refactors, and patches source code in an " ++
          "isolated Git worktree. Triggered only by explicit APPLY_IMPROVEMENT command via " ++
          "super-advisor. Cannot access state/.env, cannot push/merge/deploy, cannot " ++
          "self-approve patches.",
        "none", 600, 1⟩)]

structure AgentContract where
  agentId : String
  name : String
  description : String
  workspace : String
  agentDir : String
  sessionStore : String
  memoryDir : String
  skills : List String
  allowedTools : List String
  deniedTools : List String
  secretAccess : String
  timeoutSeconds : Int
  retryMaxAttempts : Int

/-- `str(directory / "agents" / agent_id / ...)` -/
def agentPath (directory agentId tail : String) : String :=
  directory ++ "/agents/" ++ agentId ++ tail

def agentSkills (agentId : String) : List String :=
  (OrderedDict.get? agentSkillNames agentId).getD []

/-- `SKILL_NAMES` -/
def skillNames : List String :=
  runtimeAgentIds.flatMap agentSkills

def agentContract (paths : ProjectPaths) (agentId : String) (spec : AgentSpec) :
    AgentContract :=
  { agentId := agentId
    name := spec.name
    description := spec.description
    workspace := agentPath paths.workspaceDir agentId ""
    agentDir := agentPath paths.stateDir agentId "/agent"
    sessionStore := agentPath paths.stateDir agentId "/sessions"
    memoryDir := agentPath paths.stateDir agentId "/memory"
    skills := agentSkills agentId
    allowedTools := agentAllowedTools agentId
    deniedTools := agentDeniedTools agentId
    secretAccess := spec.secretAccess
    timeoutSeconds := spec.timeoutSeconds
    retryMaxAttempts := spec.retryMaxAttempts }

def buildAgentTopology (paths : ProjectPaths) : List AgentContract :=
  runtimeAgentIds.filterMap (fun agentId =>
    (OrderedDict.get? agentSpecs agentId).map (agentContract paths agentId))

structure AgentTopologyReport where
  version : String
  phase : String
  valid : Bool
  agents : List AgentContract
  issues : List AgentTopologyIssue
  routeIssues : List AgentTopologyIssue

/-- `list(items) == list(texts)` -/
def sameTexts (items : List Value) (texts : List String) : Bool :=
  (Value.list items).equals (.list (texts.map .str))

def topologyIssueUnless (holds : Bool) (path rule message : String) :
    List AgentTopologyIssue :=
  if holds then [] else [{ path := path, rule := rule, message := message }]

/-- The checks of the tools of an agent. -/
def topologyToolIssues (expected : AgentContract) (place : String) (tools : Value) :
    Except Failure (List AgentTopologyIssue) :=
  match tools with
  | .dict tools => do
      let allow ← listOf (getOr tools "allow" (.list []))
      let deny ← listOf (getOr tools "deny" (.list []))
      .ok (topologyIssueUnless (sameTexts allow expected.allowedTools)
            (place ++ ".tools.allow") "allow_mismatch" "tool allowlist mismatch" ++
          topologyIssueUnless (sameTexts deny expected.deniedTools)
            (place ++ ".tools.deny") "deny_mismatch" "tool denylist mismatch")
  | _ =>
      .ok [{ path := place ++ ".tools", rule := "missing", message := "tools block is required" }]

/-- The checks of one entry of the agent list, and the ids seen with it. -/
def topologyAgentIssues (agents : List AgentContract) (seen : List String) (index : Nat)
    (item : Value) : Except Failure (List AgentTopologyIssue × List String) :=
  let place := "agents.list[" ++ intText index ++ "]"
  match item with
  | .dict entry =>
      let agentId := (getOr entry "id" (.str "")).text
      match agents.find? (fun agent => agent.agentId = agentId) with
      | none =>
          .ok ([{ path := place ++ ".id"
                  rule := "unknown_agent"
                  message := "unexpected agent id " ++ quotedText agentId }], seen)
      | some expected => do
          let skills ← listOf (getOr entry "skills" (.list []))
          let tools ← topologyToolIssues expected place (getOr entry "tools" .none)
          .ok (topologyIssueUnless (agentId ∉ seen) (place ++ ".id") "duplicate_agent"
                ("duplicate agent id " ++ quotedText agentId) ++
              topologyIssueUnless
                ((getOr entry "workspace" (.str "")).text = expected.workspace)
                (place ++ ".workspace") "workspace_mismatch"
                "agent workspace must be isolated per agent" ++
              topologyIssueUnless ((getOr entry "agentDir" (.str "")).text = expected.agentDir)
                (place ++ ".agentDir") "agent_dir_mismatch"
                "agent directory must be isolated per agent" ++
              topologyIssueUnless (sameTexts skills expected.skills) (place ++ ".skills")
                "skills_mismatch" "agent skill allowlist mismatch" ++ tools,
            agentId :: seen)
  | _ =>
      .ok ([{ path := place, rule := "type", message := "agent entry must be an object" }], seen)

/-- The loop over the agent list. -/
def topologyAgentsFrom (agents : List AgentContract) :
    List String → Nat → List Value → Except Failure (List AgentTopologyIssue)
  | _, _, [] => .ok []
  | seen, index, item :: items => do
      let (issues, seen) ← topologyAgentIssues agents seen index item
      let later ← topologyAgentsFrom agents seen (index + 1) items
      .ok (issues ++ later)

def topologyListIssues (agents : List AgentContract) (section_ : Value) :
    Except Failure (List AgentTopologyIssue) :=
  match section_ with
  | .dict section_ => do
      let defaults := topologyIssueUnless
        (match getOr section_ "defaults" .none with
          | .dict _ => true
          | _ => false)
        "agents.defaults" "missing" "defaults required"
      match getOr section_ "list" .none with
      | .list items => do
          let each ← topologyAgentsFrom agents [] 0 items
          .ok (defaults ++
            topologyIssueUnless (items.length = agents.length) "agents.list" "count_mismatch"
              ("expected " ++ intText agents.length ++ " agents, got " ++
                intText items.length) ++ each)
      | _ =>
          .ok (defaults ++ [⟨"agents.list", "missing", "agent list is required"⟩])
  | _ => .ok [⟨"agents", "missing", "agents section is required"⟩]

def topologyRouteIssues (routing : Value) : Except Failure (List AgentTopologyIssue) :=
  match routing with
  | .dict routing => do
      let realtime ← routesOf (getOr routing "realtime" (.list []))
      let audit ← routesOf (getOr routing "code-audit" (.list []))
      let work ← routesOf (getOr routing "code-work-order" (.list []))
      .ok (mismatchIssues realtime "realtime" "realtime routing must match the allowlist"
            realtimeRouteAllowlist ++
          mismatchIssues audit "code-audit" "code-audit routing must match the allowlist"
            codeAuditRouteAllowlist ++
          mismatchIssues work "code-work-order"
            "code-work-order routing must match the allowlist" codeWorkOrderRouteAllowlist)
  | _ => .ok []

def validateAgentTopology (config : Option (List (Key × Value))) (paths : ProjectPaths) :
    Except Failure AgentTopologyReport :=
  let agents := buildAgentTopology paths
  match config with
  | none =>
      .ok
        { version := "1.2.15"
          phase := "P2.4"
          valid := false
          agents := agents
          issues := [⟨"config", "missing", "config is required"⟩]
          routeIssues := [] }
  | some config => do
      let catalog := topologyIssueUnless
        ((getOr config "skills" .none).equals (.list (skillNames.map .str)))
        "skills" "skill_catalog_mismatch"
        "runtime skill catalog must match the declared blueprint skills"
      let listed ← topologyListIssues agents (getOr config "agents" .none)
      let routes ← topologyRouteIssues (getOr config "routing" .none)
      .ok
        { version := "1.2.15"
          phase := "P2.4"
          valid := (catalog ++ listed).isEmpty && routes.isEmpty
          agents := agents
          issues := catalog ++ listed
          routeIssues := routes }

/-- Every runtime agent has a contract. -/
theorem ids_buildAgentTopology (paths : ProjectPaths) :
    (buildAgentTopology paths).map AgentContract.agentId = runtimeAgentIds := by
  have specs : ∀ agentId ∈ runtimeAgentIds, (OrderedDict.get? agentSpecs agentId).isSome := by
    decide +kernel
  unfold buildAgentTopology
  rw [List.map_filterMap]
  have each : ∀ agentId ∈ runtimeAgentIds,
      (((OrderedDict.get? agentSpecs agentId).map (agentContract paths agentId)).map
        AgentContract.agentId) = some agentId := by
    intro agentId member
    obtain ⟨spec, found⟩ := Option.isSome_iff_exists.mp (specs agentId member)
    simp [found, agentContract]
  rw [List.filterMap_congr each]
  simp

theorem nodup_runtimeAgentIds : runtimeAgentIds.Nodup := by
  decide +kernel

end SuperAdvisor.Topology
