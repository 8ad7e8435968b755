import Mathlib.Algebra.GroupWithZero.Nat
import SuperAdvisor.Events.CanonicalJson
import SuperAdvisor.Foundation.PythonDict
import SuperAdvisor.Foundation.PythonText

/-!
# Agent capability records

The registry of agents is built from the frontmatter of one file an agent.
Every field is checked on its own; a field of the wrong kind raises a
`ValueError` that names the file and the field.
-/

namespace SuperAdvisor.Registry

open Python

/-- Functions the registry calls: the digest, `str.lower` and the loader of
frontmatters, which gives nothing where it raises an error of its own. -/
structure Library where
  sha256Hex : List Char → String
  lower : String → String
  safeLoad : List Char → Option Value

def packageVersion : String := "1.2.15"

def agentRegistrySchemaVersion : String := "1.0.0"
def agentRegistryReady : String := "AGENT_REGISTRY_READY"
def agentRegistryDegraded : String := "AGENT_REGISTRY_DEGRADED"
def agentRegistryInvalid : String := "AGENT_REGISTRY_INVALID"

def runtimeAgentIds : List String :=
  ["super-advisor", "xau-strategy-auditor", "system-coder-auditor", "telegram-publisher",
    "market-data-integrity-agent", "price-action-microstructure-agent",
    "intermarket-macro-agent", "statistical-backtest-agent", "failure-root-cause-agent",
    "security-compliance-agent", "reliability-watchdog-agent", "knowledge-skill-manager",
    "blueprint-coder"]

def requiredAgentFields : List String :=
  ["agent_id", "display_name", "role_summary", "primary_responsibilities",
    "accepted_task_types", "required_input_schema", "output_contract", "allowed_actions",
    "forbidden_actions", "allowed_tools", "forbidden_tools", "upstream_routes",
    "downstream_routes", "required_reviewers", "escalation_target",
    "human_release_gate_required", "may_modify_code", "may_commit", "may_push",
    "may_deploy", "may_publish_telegram", "may_access_browser", "may_access_secrets",
    "self_approval_allowed", "definition_source", "definition_version", "definition_hash"]

def optionalAgentFields : List String := ["owned_skills"]

/-- The required fields that the registry itself adds. -/
def addedAgentFields : List String := ["definition_source", "definition_hash"]

/-- `ownedSkills` is taken from the file unchecked. -/
structure AgentCapabilityRecord where
  agentId : String
  displayName : String
  roleSummary : String
  primaryResponsibilities : List String
  acceptedTaskTypes : List String
  requiredInputSchema : List (Key × Value)
  outputContract : List (Key × Value)
  allowedActions : List String
  forbiddenActions : List String
  allowedTools : List String
  forbiddenTools : List String
  upstreamRoutes : List String
  downstreamRoutes : List String
  requiredReviewers : List String
  escalationTarget : String
  humanReleaseGateRequired : Bool
  mayModifyCode : Bool
  mayCommit : Bool
  mayPush : Bool
  mayDeploy : Bool
  mayPublishTelegram : Bool
  mayAccessBrowser : Bool
  mayAccessSecrets : Bool
  selfApprovalAllowed : Bool
  definitionSource : String
  definitionVersion : String
  definitionHash : String
  ownedSkills : List Value
  currentAvailability : String := "AVAILABLE"

/-- A list of texts as a value. -/
def texts (items : List String) : Value :=
  .list (items.map .str)

def AgentCapabilityRecord.toDict (agent : AgentCapabilityRecord) : Value :=
  .dict (named
    [("agent_id", .str agent.agentId),
      ("display_name", .str agent.displayName),
      ("role_summary", .str agent.roleSummary),
      ("primary_responsibilities", texts agent.primaryResponsibilities),
      ("accepted_task_types", texts agent.acceptedTaskTypes),
      ("required_input_schema", .dict agent.requiredInputSchema),
      ("output_contract", .dict agent.outputContract),
      ("allowed_actions", texts agent.allowedActions),
      ("forbidden_actions", texts agent.forbiddenActions),
      ("allowed_tools", texts agent.allowedTools),
      ("forbidden_tools", texts agent.forbiddenTools),
      ("upstream_routes", texts agent.upstreamRoutes),
      ("downstream_routes", texts agent.downstreamRoutes),
      ("required_reviewers", texts agent.requiredReviewers),
      ("escalation_target", .str agent.escalationTarget),
      ("human_release_gate_required", .bool agent.humanReleaseGateRequired),
      ("may_modify_code", .bool agent.mayModifyCode),
      ("may_commit", .bool agent.mayCommit),
      ("may_push", .bool agent.mayPush),
      ("may_deploy", .bool agent.mayDeploy),
      ("may_publish_telegram", .bool agent.mayPublishTelegram),
      ("may_access_browser", .bool agent.mayAccessBrowser),
      ("may_access_secrets", .bool agent.mayAccessSecrets),
      ("self_approval_allowed", .bool agent.selfApprovalAllowed),
      ("definition_source", .str agent.definitionSource),
      ("definition_version", .str agent.definitionVersion),
      ("definition_hash", .str agent.definitionHash),
      ("owned_skills", .list agent.ownedSkills),
      ("current_availability", .str agent.currentAvailability)])

structure AgentCapabilityRegistry where
  schemaVersion : String
  registryVersion : String
  registryHash : String
  generatedFrom : String
  generatedPath : String
  generatedBy : String
  agentCount : Nat
  skillCount : Nat
  agents : List AgentCapabilityRecord

def AgentCapabilityRegistry.toDict (registry : AgentCapabilityRegistry) :
    List (Key × Value) :=
  named
    [("schema_version", .str registry.schemaVersion),
      ("registry_version", .str registry.registryVersion),
      ("registry_hash", .str registry.registryHash),
      ("generated_from", .str registry.generatedFrom),
      ("generated_path", .str registry.generatedPath),
      ("generated_by", .str registry.generatedBy),
      ("agent_count", .int registry.agentCount),
      ("skill_count", .int registry.skillCount),
      ("agents", .list (registry.agents.map AgentCapabilityRecord.toDict))]

/-- The exceptions of building and checking a registry. -/
inductive RegistryProblem where
  | fileNotFound (path : String)
  | yamlError
  | python (failure : Failure)
  | json (problem : JsonError)
  deriving DecidableEq

/-- The text of a `FileNotFoundError` or a `ValueError`; others are not caught. -/
def RegistryProblem.caught : RegistryProblem → Option String
  | .fileNotFound path =>
      some ("[Errno 2] No such file or directory: " ++ quotedText path)
  | .python (.valueError message) => some message
  | .json .valueError => some "Out of range float values are not JSON compliant"
  | _ => none

/-- The files of a project: the texts of the agents' files by agent, the text
of the generated registry, and which paths resolve into the directory of the
agents.  The project's own directories are no symbolic links. -/
structure ProjectFiles where
  rootDir : String
  agentMarkdown : String → Option (List Char)
  agentRegistry : Option (List Char)
  insideAgentsDir : String → Bool

def agentSource (agentId : String) : String :=
  "workspace/agents/" ++ agentId ++ "/AGENT.md"

def registryFile : String := "config/agent_capability_registry.json"

def ProjectFiles.agentPath (files : ProjectFiles) (agentId : String) : String :=
  files.rootDir ++ "/" ++ agentSource agentId

def ProjectFiles.registryPath (files : ProjectFiles) : String :=
  files.rootDir ++ "/" ++ registryFile

def raiseValue {α : Type} (message : String) : Except RegistryProblem α :=
  .error (.python (.valueError message))

def frontmatterMark : List Char := "---\n".toList

/-- The texts before and after the first mark. -/
def splitAtMark : List Char → Option (List Char × List Char)
  | [] => none
  | symbol :: rest =>
      if frontmatterMark.isPrefixOf (symbol :: rest) then
        some ([], (symbol :: rest).drop frontmatterMark.length)
      else (splitAtMark rest).map (fun parts => (symbol :: parts.1, parts.2))

def splitFrontmatter (text : List Char) (path : String) :
    Except RegistryProblem (List Char × List Char) :=
  if frontmatterMark.isPrefixOf text then
    match splitAtMark (text.drop frontmatterMark.length) with
    | some parts => .ok parts
    | none => raiseValue (path ++ " must contain a closing YAML frontmatter block")
  else raiseValue (path ++ " must start with YAML frontmatter")

/-! The checks of one field. -/

def asString (value : Value) (fieldName path : String) :
    Except RegistryProblem String :=
  match value with
  | .str text =>
      if strip text = "" then
        raiseValue (path ++ " field " ++ fieldName ++ " must be a non-empty string")
      else .ok (strip text)
  | _ => raiseValue (path ++ " field " ++ fieldName ++ " must be a non-empty string")

def asBool (value : Value) (fieldName path : String) : Except RegistryProblem Bool :=
  match value with
  | .bool flag => .ok flag
  | _ => raiseValue (path ++ " field " ++ fieldName ++ " must be a boolean")

def Value.isStr : Value → Bool
  | .str _ => true
  | _ => false

/-- Blank items are dropped after the list was found not to be empty. -/
def asStringTuple (value : Value) (fieldName path : String) :
    Except RegistryProblem (List String) :=
  match value with
  | .list items =>
      if items.isEmpty || !items.all Value.isStr then
        raiseValue (path ++ " field " ++ fieldName ++ " must be a non-empty string list")
      else .ok ((items.map (fun item => strip item.text)).filter (fun text => text ≠ ""))
  | _ => raiseValue (path ++ " field " ++ fieldName ++ " must be a non-empty string list")

def asObject (value : Value) (fieldName path : String) :
    Except RegistryProblem (List (Key × Value)) :=
  match value with
  | .dict entries => .ok entries
  | _ => raiseValue (path ++ " field " ++ fieldName ++ " must be an object")

def hasField (metadata : List (Key × Value)) (name : String) : Bool :=
  (lookupEntry metadata (.str name)).isSome

/-- The text of a key that is a string. -/
def Key.str? : Key → Option String
  | .str name => some name
  | _ => none

/-- The fields a frontmatter may have. -/
def allowedAgentFields : List String :=
  (requiredAgentFields ++ optionalAgentFields).filter (· ∉ addedAgentFields)

/-- Sorting and joining the unknown fields raises unless all are strings. -/
def refuseUnknownFields (metadata : List (Key × Value)) (path : String) :
    Except RegistryProblem Unit :=
  let unknown := (metadata.map Prod.fst).filter
    (fun key => !allowedAgentFields.any (fun name => key.same (.str name)))
  let names := unknown.filterMap Key.str?
  if unknown.isEmpty then .ok ()
  else if names.length = unknown.length then
    raiseValue (path ++ " frontmatter has unknown fields: " ++
      ", ".intercalate (names.insertionSort (fun left right => left ≤ right)))
  else .error (.python (.typeError "the unknown fields are not all strings"))

def refuseMissingFields (metadata : List (Key × Value)) (path : String) :
    Except RegistryProblem Unit :=
  let missing := requiredAgentFields.filter
    (fun field => field ∉ addedAgentFields ∧ hasField metadata field = false)
  if missing.isEmpty then .ok ()
  else raiseValue (path ++ " frontmatter missing fields: " ++ ", ".intercalate missing)

/-- The entries without those of some names. -/
def withoutFields (names : List String) (metadata : List (Key × Value)) :
    List (Key × Value) :=
  metadata.filter (fun entry => !names.any (fun name => entry.1.same (.str name)))

section Building

variable (library : Library)

def agentDefinitionHash (metadata : List (Key × Value)) :
    Except RegistryProblem String := do
  let sanitized := withoutFields addedAgentFields metadata
  let text ← (canonicalJson (.dict sanitized)).mapError .json
  .ok (library.sha256Hex text)

/-- The record a frontmatter describes, with its fields in the order in which
they are checked. -/
def agentOfMetadata (metadata : List (Key × Value))
    (path definitionSource definitionHash : String) :
    Except RegistryProblem AgentCapabilityRecord := do
  let field := fun name => getOr metadata name .none
  let text := fun name => asString (field name) name path
  let flag := fun name => asBool (field name) name path
  let items := fun name => asStringTuple (field name) name path
  let object := fun name => asObject (field name) name path
  let ownedSkills ← (listOf (getOr metadata "owned_skills" (.list []))).mapError .python
  let agentId ← text "agent_id"
  let displayName ← text "display_name"
  let roleSummary ← text "role_summary"
  let primaryResponsibilities ← items "primary_responsibilities"
  let acceptedTaskTypes ← items "accepted_task_types"
  let requiredInputSchema ← object "required_input_schema"
  let outputContract ← object "output_contract"
  let allowedActions ← items "allowed_actions"
  let forbiddenActions ← items "forbidden_actions"
  let allowedTools ← items "allowed_tools"
  let forbiddenTools ← items "forbidden_tools"
  let upstreamRoutes ← items "upstream_routes"
  let downstreamRoutes ← items "downstream_routes"
  let requiredReviewers ← items "required_reviewers"
  let escalationTarget ← text "escalation_target"
  let humanReleaseGateRequired ← flag "human_release_gate_required"
  let mayModifyCode ← flag "may_modify_code"
  let mayCommit ← flag "may_commit"
  let mayPush ← flag "may_push"
  let mayDeploy ← flag "may_deploy"
  let mayPublishTelegram ← flag "may_publish_telegram"
  let mayAccessBrowser ← flag "may_access_browser"
  let mayAccessSecrets ← flag "may_access_secrets"
  let selfApprovalAllowed ← flag "self_approval_allowed"
  let definitionVersion ← text "definition_version"
  .ok
    { agentId, displayName, roleSummary, primaryResponsibilities, acceptedTaskTypes,
      requiredInputSchema, outputContract, allowedActions, forbiddenActions, allowedTools,
      forbiddenTools, upstreamRoutes, downstreamRoutes, requiredReviewers,
      escalationTarget, humanReleaseGateRequired, mayModifyCode, mayCommit, mayPush,
      mayDeploy, mayPublishTelegram, mayAccessBrowser, mayAccessSecrets,
      selfApprovalAllowed, definitionSource, definitionVersion, definitionHash,
      ownedSkills }

def parseAgentMarkdown (files : ProjectFiles) (agentId : String) :
    Except RegistryProblem AgentCapabilityRecord := do
  let path := files.agentPath agentId
  match files.agentMarkdown agentId with
  | none => .error (.fileNotFound path)
  | some text =>
      let parts ← splitFrontmatter text path
      match library.safeLoad parts.1 with
      | none => .error .yamlError
      | some (.dict metadata) =>
          refuseUnknownFields metadata path
          refuseMissingFields metadata path
          let metadata :=
            setEntry metadata (.str "definition_source") (.str (agentSource agentId))
          let definitionHash ← agentDefinitionHash library metadata
          let metadata :=
            setEntry metadata (.str "definition_hash") (.str definitionHash)
          agentOfMetadata metadata path (agentSource agentId) definitionHash
      | some _ => raiseValue (path ++ " frontmatter must be a mapping")

def generatedFrom : String := "workspace/agents"

def generatedBy : String := "openclaw-advisor validate-agent-registry --write"

/-- The fields of a registry payload that its hash covers. -/
def registryPayloadHash (payload : List (Key × Value)) :
    Except RegistryProblem String := do
  let covered := named
    (["schema_version", "registry_version", "generated_from", "generated_path",
      "generated_by", "agent_count", "skill_count", "agents"].map
        (fun name => (name, getOr payload name .none)))
  let text ← (canonicalJson (.dict covered)).mapError .json
  .ok (library.sha256Hex text)

def buildAgentRegistry (files : ProjectFiles) :
    Except RegistryProblem AgentCapabilityRegistry := do
  let agents ← runtimeAgentIds.mapM (parseAgentMarkdown library files)
  let skillCount : Nat := (agents.map (fun agent => agent.ownedSkills.length)).sum
  let payload := named
    [("schema_version", .str agentRegistrySchemaVersion),
      ("registry_version", .str packageVersion),
      ("generated_from", .str generatedFrom),
      ("generated_path", .str registryFile),
      ("generated_by", .str generatedBy),
      ("agent_count", .int agents.length),
      ("skill_count", .int skillCount),
      ("agents", .list (agents.map AgentCapabilityRecord.toDict))]
  let text ← (canonicalJson (.dict payload)).mapError .json
  .ok
    { schemaVersion := agentRegistrySchemaVersion
      registryVersion := packageVersion
      registryHash := library.sha256Hex text
      generatedFrom := generatedFrom
      generatedPath := registryFile
      generatedBy := generatedBy
      agentCount := agents.length
      skillCount := skillCount
      agents := agents }

end Building

end SuperAdvisor.Registry
