import SuperAdvisor.Registry.Readiness

/-!
# Snapshots of the registry

The planner, the router and the runtime manager read the agents from a
snapshot.  A snapshot built from the project's files has agents only when the
validation found no issue; then the generated file names reviewers for every
agent, and so does the agent's own record.
-/

namespace SuperAdvisor.Registry

open Python

structure RegistrySnapshot where
  state : String
  schemaVersion : String
  definitionHash : String
  registryVersion : String
  sourcePath : String
  loadedByMainRuntime : Bool
  lastValidationResult : String
  missingAgentCount : Nat
  duplicateAgentCount : Nat
  configMismatchCount : Nat
  routeIssueCount : Nat
  validationErrors : List String
  agents : List AgentCapabilityRecord

/-- The `RuntimeError` of a registry that is not ready, or a failed lookup or
check. -/
inductive SnapshotProblem where
  | runtimeError (message : String)
  | python (failure : Failure)
  deriving DecidableEq

def RegistrySnapshot.requireReady (snapshot : RegistrySnapshot) :
    Except SnapshotProblem Unit :=
  if snapshot.state = agentRegistryReady then .ok ()
  else
    let joined := "; ".intercalate snapshot.validationErrors
    .error (.runtimeError ("agent registry is not ready for MAIN runtime: " ++
      (if joined = "" then snapshot.state else joined)))

/-- The first agent with the id. -/
def RegistrySnapshot.getAgent (snapshot : RegistrySnapshot) (agentId : String) :
    Except SnapshotProblem AgentCapabilityRecord :=
  match snapshot.agents.find? (fun agent => agent.agentId = agentId) with
  | some agent => .ok agent
  | none => .error (.python (.keyError agentId))

def RegistrySnapshot.listAvailableAgents (snapshot : RegistrySnapshot) :
    List AgentCapabilityRecord :=
  snapshot.agents.filter (fun agent => agent.currentAvailability = "AVAILABLE")

/-- The names in the list of required fields; a schema without one has none. -/
def requiredFieldsFromSchema (schema : List (Key × Value)) : List String :=
  match getOr schema "required_fields" (.list []) with
  | .list fields =>
      fields.filterMap (fun field =>
        match field with
        | .str name => if name = "" then none else some name
        | _ => none)
  | _ => []

def routeRules : List String :=
  ["unknown_agent", "review_chain_mismatch", "unknown_route_agent",
    "unknown_escalation_target", "forbidden_self_route", "self_approval_reviewer_chain"]

def snapshotOfReport (files : ProjectFiles) (report : AgentRegistryValidationReport) :
    RegistrySnapshot :=
  let routeIssueCount :=
    (report.issues.filter (fun issue => issue.rule ∈ routeRules)).length
  let validationErrors :=
    report.issues.map (fun issue => issue.path ++ ": " ++ issue.message)
  let invalid : RegistrySnapshot :=
    { state := report.status
      schemaVersion := ""
      definitionHash := ""
      registryVersion := ""
      sourcePath := files.registryPath
      loadedByMainRuntime := false
      lastValidationResult := "FAIL"
      missingAgentCount := report.missingAgentCount
      duplicateAgentCount := report.duplicateAgentCount
      configMismatchCount := report.registryConfigMismatchCount
      routeIssueCount := routeIssueCount
      validationErrors := validationErrors
      agents := [] }
  match report.registry with
  | none => invalid
  | some registry =>
      if report.valid then
        { invalid with
          schemaVersion := registry.schemaVersion
          definitionHash := registry.registryHash
          registryVersion := registry.registryVersion
          loadedByMainRuntime := true
          lastValidationResult := "PASS"
          agents := registry.agents }
      else invalid

def buildRegistrySnapshot (library : Library) (files : ProjectFiles)
    (renderedConfig : List (Key × Value)) : Except RegistryProblem RegistrySnapshot := do
  let report ← validateAgentRegistry library files (some renderedConfig) true
  .ok (snapshotOfReport files report)

theorem mem_of_getAgent
    {snapshot : RegistrySnapshot} {agentId : String} {agent : AgentCapabilityRecord}
    (found : snapshot.getAgent agentId = .ok agent) :
    agent ∈ snapshot.agents ∧ agent.agentId = agentId := by
  unfold RegistrySnapshot.getAgent at found
  split at found
  next here =>
    cases found
    exact ⟨List.mem_of_find?_eq_some here, by simpa using List.find?_some here⟩
  next => cases found

theorem exists_getAgent
    {snapshot : RegistrySnapshot} {agent : AgentCapabilityRecord}
    (member : agent ∈ snapshot.agents) :
    ∃ found, snapshot.getAgent agent.agentId = .ok found := by
  unfold RegistrySnapshot.getAgent
  split
  next found _ => exact ⟨found, rfl⟩
  next absent =>
    have different := List.find?_eq_none.mp absent agent member
    simp at different

/-- Every agent of a snapshot built from files names reviewers. -/
theorem reviewers_of_buildRegistrySnapshot
    {library : Library} {files : ProjectFiles} {renderedConfig : List (Key × Value)}
    {snapshot : RegistrySnapshot}
    (built : buildRegistrySnapshot library files renderedConfig = .ok snapshot)
    {agent : AgentCapabilityRecord} (member : agent ∈ snapshot.agents) :
    agent.requiredReviewers ≠ [] := by
  obtain ⟨report, validated, same⟩ := except_bind_eq_ok.mp built
  cases same
  unfold snapshotOfReport at member
  dsimp only at member
  split at member
  next => cases member
  next registry known =>
    split at member
    next valid =>
      obtain ⟨ready, sound⟩ := ready_iff_no_issues validated
      obtain ⟨registry, -, same, -, -, acceptable, -⟩ :=
        registry_of_ready validated (ready.mpr (sound.mp valid))
      rw [known] at same
      cases same
      exact (acceptable agent member).reviewed
    next => cases member

end SuperAdvisor.Registry
