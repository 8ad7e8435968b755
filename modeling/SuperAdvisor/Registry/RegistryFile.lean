import SuperAdvisor.Registry.AgentRecords

/-!
# The generated registry file

The generated file is accepted only when it holds the registry built from the
agents' files.  On the way every agent entry is checked, whatever JSON value
stands in its place.
-/

namespace SuperAdvisor.Registry

open Python

structure AgentRegistryIssue where
  path : String
  rule : String
  message : String
  deriving DecidableEq

def requiredRegistryFields : List String :=
  ["schema_version", "registry_version", "registry_hash", "generated_from",
    "generated_path", "generated_by", "agent_count", "skill_count", "agents"]

/-- The items of a list; other values have none. -/
def listItems : Value → List Value
  | .list items => items
  | _ => []

/-- Whether a value is missing from a set of ids, which raises if the value has
no hash. -/
def isUnknown (ids : List String) (value : Value) : Except RegistryProblem Bool :=
  match value.asKey with
  | none =>
      .error (.python (.typeError ("unhashable type: " ++ quotedText value.typeName)))
  | some key => .ok (!ids.any (fun agentId => key.same (.str agentId)))

section Entry

variable (library : Library) (files : ProjectFiles) (expectedIds : List String)
  (index : Nat) (agentId : String) (item : List (Key × Value))

/-- An issue of the agent entry at an index. -/
def entryIssue (place rule message : String) : AgentRegistryIssue :=
  { path := files.registryPath ++ ".agents[" ++ intText index ++ "]" ++ place
    rule := rule
    message := message }

/-- A field that must hold a list with items. -/
def listFieldIssues (fieldName : String) : List AgentRegistryIssue :=
  match getOr item fieldName .none with
  | .none =>
      [entryIssue files index ("." ++ fieldName) "missing_field"
        ("generated registry field " ++ quotedText fieldName ++ " is required for " ++
          quotedText agentId)]
  | .list (_ :: _) => []
  | _ =>
      [entryIssue files index ("." ++ fieldName) "empty_field"
        ("generated registry field " ++ quotedText fieldName ++
          " must be a non-empty list")]

def definitionSourceIssues : List AgentRegistryIssue :=
  match getOr item "definition_source" .none with
  | .str source =>
      if strip source = "" then
        [entryIssue files index ".definition_source" "missing_definition_source"
          "generated registry definition_source is required"]
      else if "..".toList ∈ source.toList.splitOn '/' then
        [entryIssue files index ".definition_source" "path_traversal"
          "generated registry definition_source may not contain parent traversal"]
      else if !files.insideAgentsDir source then
        [entryIssue files index ".definition_source" "invalid_definition_source"
          "generated registry definition_source must stay within workspace/agents"]
      else []
  | _ =>
      [entryIssue files index ".definition_source" "missing_definition_source"
        "generated registry definition_source is required"]

/-- The agent may not stand in its own list. -/
def selfIssues (fieldName rule message : String) : List AgentRegistryIssue :=
  if (listItems (getOr item fieldName (.list []))).any
      (fun target => target.equals (.str agentId)) then
    [entryIssue files index ("." ++ fieldName) rule message]
  else []

def contradictoryActionIssues : List AgentRegistryIssue :=
  let normalized := fun value : Value => library.lower (strip value.text)
  match getOr item "allowed_actions" .none, getOr item "forbidden_actions" .none with
  | .list allowed, .list forbidden =>
      if allowed.any (fun value => normalized value ∈ forbidden.map normalized) then
        [entryIssue files index "" "contradictory_actions"
          "generated registry allowed_actions and forbidden_actions conflict"]
      else []
  | _, _ => []

def unknownTargetIssues (routeKind : String) :
    Except RegistryProblem (List AgentRegistryIssue) := do
  let issues ← (listItems (getOr item routeKind (.list []))).mapM (fun target => do
    let unknown ← isUnknown expectedIds target
    .ok (if unknown then
        [entryIssue files index ("." ++ routeKind) "unknown_route_agent"
          ("generated registry references unknown agent " ++ target.shown)]
      else []))
  .ok issues.flatten

def escalationIssues : Except RegistryProblem (List AgentRegistryIssue) := do
  let unknown ← isUnknown expectedIds (getOr item "escalation_target" .none)
  .ok (if unknown then
      [entryIssue files index ".escalation_target" "unknown_escalation_target"
        "generated registry escalation_target must reference a known agent"]
    else [])

/-- The issues of an entry with a usable agent id. -/
def namedEntryIssues : Except RegistryProblem (List AgentRegistryIssue) := do
  let upstream ← unknownTargetIssues files expectedIds index item "upstream_routes"
  let downstream ← unknownTargetIssues files expectedIds index item "downstream_routes"
  let reviewers ← unknownTargetIssues files expectedIds index item "required_reviewers"
  let escalation ← escalationIssues files expectedIds index item
  .ok (["primary_responsibilities", "accepted_task_types", "required_reviewers"].flatMap
      (listFieldIssues files index agentId item) ++
    definitionSourceIssues files index item ++
    selfIssues files index agentId item "downstream_routes" "forbidden_self_route"
      "generated registry agent may not route to itself" ++
    (if agentId = "super-advisor" then []
      else selfIssues files index agentId item "required_reviewers"
        "self_approval_reviewer_chain"
        "generated registry reviewer chain may not self-approve") ++
    contradictoryActionIssues library files index item ++
    upstream ++ downstream ++ reviewers ++ escalation)

/-- An entry of the file, with the agent id it counts for. -/
def entryIssues (entry : Value) :
    Except RegistryProblem (Option String × List AgentRegistryIssue) :=
  match entry with
  | .dict item =>
      match getOr item "agent_id" .none with
      | .str agentId =>
          if strip agentId = "" then
            .ok (none, [entryIssue files index ".agent_id" "missing_agent_id"
              "generated registry agent_id is required"])
          else do
            let issues ← namedEntryIssues library files expectedIds index agentId item
            .ok (some agentId, issues)
      | _ =>
          .ok (none, [entryIssue files index ".agent_id" "missing_agent_id"
            "generated registry agent_id is required"])
  | _ =>
      .ok (none, [entryIssue files index "" "malformed_agent"
        "generated registry agent entries must be objects"])

end Entry

section Payload

variable (library : Library) (files : ProjectFiles) (payload : List (Key × Value))

/-- An issue of a field of the registry file. -/
def fileIssue (place rule message : String) : AgentRegistryIssue :=
  { path := files.registryPath ++ place
    rule := rule
    message := message }

def missingFieldIssues : List AgentRegistryIssue :=
  (requiredRegistryFields.filter (fun field => !hasField payload field)).map (fun field =>
    fileIssue files ("." ++ field) "missing_field"
      ("generated registry field " ++ quotedText field ++ " is required"))

def schemaVersionIssues : List AgentRegistryIssue :=
  let schemaVersion := getOr payload "schema_version" .none
  if schemaVersion.equals .none || schemaVersion.equals (.str "") then
    [fileIssue files ".schema_version" "missing_schema_version"
      "generated registry schema_version is required"]
  else if schemaVersion.equals (.str agentRegistrySchemaVersion) then []
  else
    [fileIssue files ".schema_version" "unsupported_schema_version"
      "generated registry schema_version is unsupported"]

def registryHashIssues : Except RegistryProblem (List AgentRegistryIssue) :=
  match getOr payload "registry_hash" .none with
  | .str registryHash =>
      if strip registryHash = "" then
        .ok [fileIssue files ".registry_hash" "missing_registry_hash"
          "generated registry registry_hash is required"]
      else do
        let computed ← registryPayloadHash library payload
        .ok (if registryHash = computed then []
          else
            [fileIssue files ".registry_hash" "invalid_registry_hash"
              "generated registry registry_hash does not match its content"])
  | _ =>
      .ok [fileIssue files ".registry_hash" "missing_registry_hash"
        "generated registry registry_hash is required"]

def agentsFieldIssues : List AgentRegistryIssue :=
  match getOr payload "agents" .none with
  | .list _ => []
  | _ =>
      [fileIssue files ".agents" "malformed_agents"
        "generated registry agents must be a list"]

def agentCountIssues (agents : List Value) : List AgentRegistryIssue :=
  if (getOr payload "agent_count" .none).equals (.int agents.length) then []
  else
    [fileIssue files ".agent_count" "agent_count_mismatch"
      "generated registry agent_count must match the number of agents"]

def generatedIdIssues (generatedIds expectedIds : List String) :
    List AgentRegistryIssue :=
  (if generatedIds.Nodup then []
    else
      [fileIssue files ".agents" "duplicate_agent"
        "generated registry contains duplicate agent ids"]) ++
  (if "super-advisor" ∈ generatedIds then []
    else
      [fileIssue files ".agents" "missing_super_advisor"
        "generated registry must include super-advisor"]) ++
  (if generatedIds ⊆ expectedIds ∧ expectedIds ⊆ generatedIds then []
    else
      [fileIssue files "" "registry_agent_set_mismatch"
        "generated registry agent set does not match AGENT.md definitions"])

def staleIssues (expected : AgentCapabilityRegistry) : List AgentRegistryIssue :=
  if (Value.dict payload).equals (.dict expected.toDict) then []
  else
    [fileIssue files "" "stale_registry"
      "generated registry does not match AGENT.md definitions"]

end Payload

def validateGeneratedRegistryPayload (library : Library) (files : ProjectFiles)
    (generated : Value) (expected : AgentCapabilityRegistry) :
    Except RegistryProblem (List AgentRegistryIssue) :=
  match generated with
  | .dict payload => do
      let hashIssues ← registryHashIssues library files payload
      let agents := listItems (getOr payload "agents" .none)
      let expectedIds := expected.agents.map AgentCapabilityRecord.agentId
      let checked ← agents.zipIdx.mapM (fun entry =>
        entryIssues library files expectedIds entry.2 entry.1)
      .ok (missingFieldIssues files payload ++ schemaVersionIssues files payload ++
        hashIssues ++ agentsFieldIssues files payload ++
        agentCountIssues files payload agents ++ checked.flatMap Prod.snd ++
        generatedIdIssues files (checked.filterMap Prod.fst) expectedIds ++
        staleIssues files payload expected)
  | _ =>
      .ok [fileIssue files "" "malformed_json"
        "generated registry must decode to an object"]

end SuperAdvisor.Registry
