import SuperAdvisor.Topology.Contracts

/-!
# The rendered configuration

The checks of a loaded configuration, section by section.  A section that is no
object, or a list that is none, ends the checks with an exception; everything
else that is not as it should be makes an issue.
-/

namespace SuperAdvisor.Settings

open Python Topology

structure ConfigValidationIssue where
  path : String
  message : String
  deriving DecidableEq

structure ConfigValidationReport where
  valid : Bool
  issues : List ConfigValidationIssue
  deriving DecidableEq

/-- `ConfigValidationError` with its message, or another exception. -/
inductive ConfigProblem where
  | validation (message : String)
  | python (failure : Failure)
  deriving DecidableEq

/-- The entries of an object, behind their keys. -/
abbrev Section := List (Key × Value)

/-- What a check returns: it may raise instead. -/
abbrev ConfigChecked := Except ConfigProblem (List ConfigValidationIssue)

/-- `_as_object` -/
def asObject (value : Value) (path : String) : Except ConfigProblem Section :=
  match value with
  | .dict entries => .ok entries
  | _ => .error (.validation (path ++ " must be an object"))

/-- `_as_list` -/
def asList (value : Value) (path : String) : Except ConfigProblem (List Value) :=
  match value with
  | .list items => .ok items
  | _ => .error (.validation (path ++ " must be a list"))

def configIssueUnless (holds : Bool) (path message : String) : List ConfigValidationIssue :=
  if holds then [] else [{ path := path, message := message }]

/-- `_require_equal` -/
def requireEqual (actual expected : Value) (path : String) : List ConfigValidationIssue :=
  configIssueUnless (actual.equals expected) path
    ("expected " ++ expected.shown ++ ", got " ++ actual.shown)

/-- `isinstance(value, int) and value > 0`; a Boolean is an integer. -/
def isPositiveInt : Value → Bool
  | .bool value => value
  | .int value => decide (0 < value)
  | _ => false

/-- `_require_positive_int` -/
def requirePositiveInt (actual : Value) (path : String) : List ConfigValidationIssue :=
  configIssueUnless (isPositiveInt actual) path
    ("expected positive integer, got " ++ actual.shown)

/-- `entries.get(name)`, and the path it has below that of the section. -/
def objectAt (section_ : Section) (place name : String) : Except ConfigProblem Section :=
  asObject (getOr section_ name .none) (place ++ "." ++ name)

def requireAt (section_ : Section) (place name : String) (expected : Value) :
    List ConfigValidationIssue :=
  requireEqual (getOr section_ name .none) expected (place ++ "." ++ name)

def texts (items : List String) : Value :=
  .list (items.map .str)

def expectedAllow (isBlueprintCoder : Bool) : List String :=
  if isBlueprintCoder then ["read", "session_status", "write", "edit", "apply_patch"]
  else ["read", "session_status"]

def expectedAlsoAllow (isSuperAdvisor : Bool) : Value :=
  if isSuperAdvisor then texts ["message"] else .none

/-- `required_denies`, the set as a list. -/
def requiredDenies (place : String) (isSuperAdvisor isBlueprintCoder : Bool) : List String :=
  ["group:runtime", "group:web", "group:ui", "group:automation", "group:plugins",
    "group:memory", "group:sessions", "process", "code_execution", "browser", "canvas",
    "gateway", "subagents"] ++
  (if isBlueprintCoder then [] else ["write", "edit", "apply_patch", "exec"]) ++
  (if place ≠ "tools" ∧ isSuperAdvisor = false then ["group:messaging", "message"] else [])

/-- `set(deny)`; what is no list denies nothing. -/
def denyValues (deny : Value) : Except ConfigProblem (List Value) :=
  match deny with
  | .list items =>
      match unhashableItem items with
      | some name => .error (.python (.typeError ("unhashable type: " ++ quotedText name)))
      | none => .ok items
  | _ => .ok []

/-- `sorted(required_denies.difference(deny_values))` -/
def missingDenies (required : List String) (denied : List Value) : List String :=
  (required.filter (fun name => Value.str name ∉ denied)).mergeSort
    (fun left right => decide (left ≤ right))

/-- `_validate_tools` -/
def validateTools (tools : Section) (place : String)
    (isSuperAdvisor isBlueprintCoder : Bool) : ConfigChecked := do
  let denied ← denyValues (getOr tools "deny" .none)
  let missing := missingDenies (requiredDenies place isSuperAdvisor isBlueprintCoder) denied
  let execSection ← objectAt tools place "exec"
  let message ← objectAt tools place "message"
  let actions ← objectAt message (place ++ ".message") "actions"
  let agentToAgent ← objectAt tools place "agentToAgent"
  let elevated ← objectAt tools place "elevated"
  let sandbox ← objectAt tools place "sandbox"
  let sandboxTools ← objectAt sandbox (place ++ ".sandbox") "tools"
  .ok (requireAt tools place "allow" (texts (expectedAllow isBlueprintCoder)) ++
    requireAt tools place "alsoAllow" (expectedAlsoAllow isSuperAdvisor) ++
    configIssueUnless missing.isEmpty (place ++ ".deny")
      ("missing required denies: " ++ ", ".intercalate missing) ++
    requireAt execSection (place ++ ".exec") "mode"
      (.str (if isBlueprintCoder then "allowlist" else "deny")) ++
    requireAt message (place ++ ".message") "allowCrossContextSend" (.bool false) ++
    requireAt actions (place ++ ".message.actions") "allow"
      (texts (if isSuperAdvisor then ["reply"] else [])) ++
    requireAt agentToAgent (place ++ ".agentToAgent") "enabled" (.bool false) ++
    requireAt elevated (place ++ ".elevated") "enabled" (.bool false) ++
    requireAt sandboxTools (place ++ ".sandbox.tools") "allow"
      (texts ["read", "session_status"]) ++
    requireAt sandboxTools (place ++ ".sandbox.tools") "alsoAllow"
      (expectedAlsoAllow isSuperAdvisor))

/-- `isinstance(value, str) and value` -/
def isNonEmptyText : Value → Bool
  | .str text => decide (text ≠ "")
  | _ => false

def isAliasList : Value → Bool
  | .list items => !items.isEmpty && items.all isNonEmptyText
  | _ => false

/-- The checks of one symbol of the market data. -/
def symbolIssues (item : Value × Nat) : ConfigChecked := do
  let place := "marketData.symbols[" ++ intText item.2 ++ "]"
  let symbol ← asObject item.1 place
  .ok (configIssueUnless (isNonEmptyText (getOr symbol "canonical" .none))
      (place ++ ".canonical") "expected non-empty canonical symbol" ++
    configIssueUnless (isAliasList (getOr symbol "aliases" .none))
      (place ++ ".aliases") "expected non-empty string alias list")

def supportedTimeframes : List String :=
  ["M1", "M5", "M15", "H1", "H4", "D1"]

/-- `isinstance(item, str) and item in supported` -/
def isSupportedTimeframe : Value → Bool
  | .str text => decide (text ∈ supportedTimeframes)
  | _ => false

def storagePaths : List String := ["baseDir", "sqlitePath", "parquetDir"]

def collectionNumbers : List String :=
  ["pollSeconds", "tickLookbackSeconds", "barLookbackCount", "freshnessThresholdSeconds",
    "retryMaxAttempts", "retryBackoffSeconds"]

/-- `_validate_market_data` -/
def validateMarketData (marketData : Section) : ConfigChecked := do
  let backend ← objectAt marketData "marketData" "backend"
  let symbols ← asList (getOr marketData "symbols" .none) "marketData.symbols"
  let each ← symbols.zipIdx.mapM symbolIssues
  let timeframes ← asList (getOr marketData "timeframes" .none) "marketData.timeframes"
  let storage ← objectAt marketData "marketData" "storage"
  let collection ← objectAt marketData "marketData" "collection"
  .ok (requireAt backend "marketData.backend" "kind" (.str "mt5") ++
    requireAt backend "marketData.backend" "mode" (.str "readonly") ++
    configIssueUnless (!symbols.isEmpty) "marketData.symbols" "expected at least one symbol" ++
    each.flatten ++
    configIssueUnless (!timeframes.isEmpty && timeframes.all isSupportedTimeframe)
      "marketData.timeframes"
      ("expected supported timeframe list from " ++
        (texts ["D1", "H1", "H4", "M1", "M15", "M5"]).shown) ++
    storagePaths.flatMap (fun name =>
      configIssueUnless (isNonEmptyText (getOr storage name .none))
        ("marketData.storage." ++ name) "expected non-empty string path") ++
    collectionNumbers.flatMap (fun name =>
      requirePositiveInt (getOr collection name .none) ("marketData.collection." ++ name)))

def envIssues (config : Section) : ConfigChecked := do
  let envSection ← asObject (getOr config "env" .none) "env"
  let shellEnv ← objectAt envSection "env" "shellEnv"
  .ok (requireAt shellEnv "env.shellEnv" "enabled" (.bool false))

def gatewayIssues (config : Section) : ConfigChecked := do
  let gateway ← asObject (getOr config "gateway" .none) "gateway"
  let auth ← objectAt gateway "gateway" "auth"
  let token ← objectAt auth "gateway.auth" "token"
  let controlUi ← objectAt gateway "gateway" "controlUi"
  .ok (requireAt gateway "gateway" "mode" (.str "local") ++
    requireAt gateway "gateway" "bind" (.str "loopback") ++
    requireAt gateway "gateway" "port" (.int 18789) ++
    requireAt auth "gateway.auth" "mode" (.str "token") ++
    requireAt token "gateway.auth.token" "source" (.str "env") ++
    requireAt token "gateway.auth.token" "provider" (.str "default") ++
    requireAt token "gateway.auth.token" "id" (.str "OPENCLAW_GATEWAY_TOKEN") ++
    requireAt controlUi "gateway.controlUi" "enabled" (.bool true))

def hooksIssues (config : Section) : ConfigChecked := do
  let hooks ← asObject (getOr config "hooks" .none) "hooks"
  .ok (requireAt hooks "hooks" "enabled" (.bool false) ++
    requireEqual (getOr config "skills" .none) (texts skillNames) "skills")

/-- The checks of one entry of the agent list, and the ids seen with it. -/
def agentIssues (agents : List AgentContract) (seen : List String) (index : Nat)
    (item : Value) : Except ConfigProblem (List ConfigValidationIssue × List String) := do
  let place := "agents.list[" ++ intText index ++ "]"
  let agent ← asObject item place
  let agentId := (getOr agent "id" (.str "")).text
  match agents.find? (fun expected => expected.agentId = agentId) with
  | none =>
      .ok ([{ path := place ++ ".id"
              message := "unexpected agent id " ++ quotedText agentId }], seen)
  | some expected => do
      let toolsSection ← objectAt agent place "tools"
      let tools ← validateTools toolsSection (place ++ ".tools")
        (agentId == "super-advisor") (agentId == "blueprint-coder")
      let secretAccess ← objectAt agent place "secretAccess"
      .ok (configIssueUnless (agentId ∉ seen) (place ++ ".id")
            ("duplicate agent id " ++ quotedText agentId) ++
          requireAt agent place "workspace" (.str expected.workspace) ++
          requireAt agent place "agentDir" (.str expected.agentDir) ++
          requireAt agent place "sessionStore" (.str expected.sessionStore) ++
          requireAt agent place "memoryDir" (.str expected.memoryDir) ++
          requireAt agent place "skills" (texts expected.skills) ++
          tools ++
          requireAt secretAccess (place ++ ".secretAccess") "mode"
            (.str (if agentId = "telegram-publisher" then "approved_payload_only" else "none")),
        agentId :: seen)

/-- The loop over the agent list. -/
def agentsFrom (agents : List AgentContract) : List String → Nat → List Value → ConfigChecked
  | _, _, [] => .ok []
  | seen, index, item :: items => do
      let (issues, seen) ← agentIssues agents seen index item
      let later ← agentsFrom agents seen (index + 1) items
      .ok (issues ++ later)

/-- The checks of the agent list; a list of another length is not gone through. -/
def agentListIssues (agents : List AgentContract) (agentList : List Value) : ConfigChecked :=
  if agentList.length ≠ agents.length then
    .ok [{ path := "agents.list"
           message := "expected exactly " ++ intText agents.length ++ " configured agents" }]
  else agentsFrom agents [] 0 agentList

def agentsIssues (config : Section) (paths : ProjectPaths) : ConfigChecked := do
  let agents ← asObject (getOr config "agents" .none) "agents"
  let defaults ← objectAt agents "agents" "defaults"
  let agentList ← asList (getOr agents "list" .none) "agents.list"
  let listed ← agentListIssues (buildAgentTopology paths) agentList
  .ok (requireAt defaults "agents.defaults" "workspace" (.str (paths.workspaceDir ++ "/agents")) ++
    requireAt defaults "agents.defaults" "skills" (texts skillNames) ++ listed)

/-- The routing check has its own issues and paths; what it raises passes. -/
def routingIssues (config : Section) : ConfigChecked :=
  match getOr config "routing" .none with
  | .dict routing =>
      match validateLoadedRouting (getOr routing "realtime" (.list []))
          (getOr routing "code-audit" (.list [])) (getOr routing "code-work-order" (.list [])) with
      | .error failure => .error (.python failure)
      | .ok issues =>
          .ok (issues.map (fun issue =>
            { path := "routing." ++ issue.path
              message := issue.rule ++ ": " ++ issue.message }))
  | _ => .ok [{ path := "routing", message := "routing section is required" }]

def marketDataIssues (config : Section) : ConfigChecked := do
  let marketData ← asObject (getOr config "marketData" .none) "marketData"
  validateMarketData marketData

def rootToolsIssues (config : Section) : ConfigChecked := do
  let tools ← asObject (getOr config "tools" .none) "tools"
  validateTools tools "tools" false false

def validateRenderedConfig (config : Value) (paths : ProjectPaths) :
    Except ConfigProblem ConfigValidationReport := do
  let config ← asObject config "config"
  let env ← envIssues config
  let gateway ← gatewayIssues config
  let hooks ← hooksIssues config
  let agents ← agentsIssues config paths
  let marketData ← marketDataIssues config
  let tools ← rootToolsIssues config
  let routing ← routingIssues config
  let issues := env ++ gateway ++ hooks ++ agents ++ marketData ++ tools ++ routing
  .ok { valid := issues.isEmpty, issues := issues }

end SuperAdvisor.Settings
