import SuperAdvisor.Foundation.Sha256
import SuperAdvisor.Registry.Snapshot
import SuperAdvisor.Registry.WrittenProjects

/-!
# A ready registry without one of the runtime's agents

The definition in one agent's directory declares another id.  Nothing refers to
the agent it should declare, so no check fails: the missing agent is counted,
and the registry is ready.

A snapshot is built exactly when the validation returns; it is ready exactly
when it carries no errors.  A project whose coder is misnamed has no snapshot.
-/

namespace SuperAdvisor.Registry

open Python

/-- Frontmatters written as JSON are read by a JSON reader. -/
def jsonLibrary : Library :=
  { sha256Hex := sha256Hex
    lower := asciiLower
    safeLoad := loads }

theorem strip_sha256Hex (text : List Char) : strip (sha256Hex text) ≠ "" := by
  have solid : ∀ symbol ∈ (sha256Hex text).toList, isSpace symbol = false := by
    intro symbol member
    obtain ⟨digit, small, rfl⟩ := mem_sha256Hex member
    have digits : ∀ digit < 16, isSpace (Sha256.hexDigit digit) = false := by decide
    exact digits digit small
  rw [strip_of_solid solid]
  intro empty
  have length := length_sha256Hex text
  rw [empty] at length
  cases length

/-- The definitions of a project in which every agent is as the runtime knows it. -/
def runtimeDefinition (agentId : String) : AgentDefinition :=
  { declaredId := agentId
    downstreamRoutes :=
      if agentId = "super-advisor" then ["blueprint-coder"] else ["super-advisor"]
    requiredReviewers :=
      if agentId = "blueprint-coder" then
        ["system-coder-auditor", "security-compliance-agent", "super-advisor"]
      else ["super-advisor"]
    mayModifyCode := agentId = "blueprint-coder" }

def misnamedDefinition (agentId : String) : AgentDefinition :=
  if agentId = "knowledge-skill-manager" then
    { runtimeDefinition agentId with declaredId := "knowledge-manager" }
  else runtimeDefinition agentId

instance (definition : AgentDefinition) : Decidable definition.Tidy :=
  decidable_of_iff (IsTrimmed definition.declaredId ∧ definition.downstreamRoutes ≠ [] ∧
      (∀ target ∈ definition.downstreamRoutes, IsTrimmed target) ∧
      definition.requiredReviewers ≠ [] ∧
      ∀ target ∈ definition.requiredReviewers, IsTrimmed target)
    ⟨fun ⟨declaredId, someDownstream, downstream, someReviewer, reviewers⟩ =>
      ⟨declaredId, someDownstream, downstream, someReviewer, reviewers⟩,
      fun ⟨declaredId, someDownstream, downstream, someReviewer, reviewers⟩ =>
      ⟨declaredId, someDownstream, downstream, someReviewer, reviewers⟩⟩

theorem runtimeDefinition_fits : DefinitionsFit runtimeDefinition where
  tidy := by decide +kernel
  distinct := by decide +kernel
  advisor := rfl
  coder := rfl
  coding := by decide +kernel
  routed := by decide +kernel
  noSelfRoute := by decide +kernel
  noSelfReview := by decide +kernel

theorem misnamedDefinition_fits : DefinitionsFit misnamedDefinition where
  tidy := by decide +kernel
  distinct := by decide +kernel
  advisor := rfl
  coder := rfl
  coding := by decide +kernel
  routed := by decide +kernel
  noSelfRoute := by decide +kernel
  noSelfReview := by decide +kernel

example : (misnamedDefinition "knowledge-skill-manager").declaredId = "knowledge-manager" := by
  decide +kernel

/-- The project as the runtime knows it is ready, and its readiness is sound
exactly when it declares the runtime's agents. -/
theorem runtimeProject_sound_iff :
    ∃ renderedConfig report, validateAgentRegistry jsonLibrary
        (writtenFiles jsonLibrary runtimeDefinition) (some renderedConfig) true = .ok report ∧
      report.status = agentRegistryReady ∧
      (report.Sound (writtenFiles jsonLibrary runtimeDefinition) ↔
        DeclaresRuntimeAgents jsonLibrary (writtenFiles jsonLibrary runtimeDefinition)) := by
  obtain ⟨registry, report, -, validated, -, ready⟩ :=
    @ready_of_fit jsonLibrary _ rfl rfl strip_sha256Hex runtimeDefinition_fits
  exact ⟨_, report, validated, ready, sound_iff_of_ready validated ready⟩

/-- Where the manager's file declares another id, the registry is ready without
the manager. -/
theorem misnamedProject_ready :
    ∃ renderedConfig report, validateAgentRegistry jsonLibrary
        (writtenFiles jsonLibrary misnamedDefinition) (some renderedConfig) true = .ok report ∧
      report.status = agentRegistryReady ∧
      ¬report.Sound (writtenFiles jsonLibrary misnamedDefinition) := by
  obtain ⟨registry, report, agents, validated, known, ready⟩ :=
    @ready_of_fit jsonLibrary _ rfl rfl strip_sha256Hex misnamedDefinition_fits
  refine ⟨_, report, validated, ready, ?_⟩
  rintro ⟨_, same, -, runtime, -⟩
  rw [known] at same
  cases same
  have present := (runtime "knowledge-skill-manager").mpr (by simp [runtimeAgentIds])
  rw [agentIds_of_defined agents] at present
  exact absurd present (by decide +kernel)

/-- A snapshot is built, which is ready only if nothing was found wrong. -/
def SnapshotYielded (library : Library) (files : ProjectFiles)
    (renderedConfig : List (Key × Value)) : Prop :=
  ∃ snapshot, buildRegistrySnapshot library files renderedConfig = .ok snapshot ∧
    (snapshot.state = agentRegistryReady ↔ snapshot.validationErrors = [])

section Snapshots

variable {library : Library} {files : ProjectFiles}

private theorem snapshotOfReport_flags (report : AgentRegistryValidationReport) :
    (snapshotOfReport files report).state = report.status ∧
      (snapshotOfReport files report).validationErrors =
        report.issues.map (fun issue => issue.path ++ ": " ++ issue.message) := by
  unfold snapshotOfReport
  dsimp only
  split
  next => exact ⟨rfl, rfl⟩
  next =>
    split
    next => exact ⟨rfl, rfl⟩
    next => exact ⟨rfl, rfl⟩

private theorem snapshotYielded_iff (renderedConfig : List (Key × Value)) :
    SnapshotYielded library files renderedConfig ↔
      ∃ report, validateAgentRegistry library files (some renderedConfig) true =
        .ok report := by
  constructor
  · rintro ⟨snapshot, built, -⟩
    obtain ⟨report, validated, -⟩ := except_bind_eq_ok.mp built
    exact ⟨report, validated⟩
  · rintro ⟨report, validated⟩
    obtain ⟨state, errors⟩ := @snapshotOfReport_flags files report
    refine ⟨snapshotOfReport files report, except_bind_eq_ok.mpr ⟨report, validated, rfl⟩, ?_⟩
    rw [state, errors, (ready_iff_no_issues validated).1, List.map_eq_nil_iff]

theorem validateAgentRegistry_without_coder
    {registry : AgentCapabilityRegistry}
    (built : buildAgentRegistry library files = .ok registry)
    (absent : registry.agents.find? (fun agent => agent.agentId = "blueprint-coder") = none)
    (renderedConfig : Option (List (Key × Value))) (requireGeneratedFile : Bool) :
    validateAgentRegistry library files renderedConfig requireGeneratedFile =
      .error (.python (.keyError "blueprint-coder")) := by
  unfold validateAgentRegistry
  simp only [built]
  rw [checkRegistry_eq, reviewChainIssues, AgentCapabilityRegistry.getAgentCapability, absent]
  rfl

end Snapshots

/-! A project whose coder declares another id. -/

def misnamedCoder (agentId : String) : AgentDefinition :=
  if agentId = "blueprint-coder" then
    { runtimeDefinition agentId with declaredId := "blueprint-developer" }
  else runtimeDefinition agentId

theorem misnamedCoder_tidy : ∀ agentId ∈ runtimeAgentIds, (misnamedCoder agentId).Tidy := by
  decide +kernel

private theorem misnamedCoder_loadable :
    (definedFiles misnamedCoder).Loadable jsonLibrary := by
  obtain ⟨registry, built, -⟩ := @exists_definedRegistry jsonLibrary _ rfl misnamedCoder_tidy
  exact loadable_of_parsed (exists_registry_iff.mp ⟨registry, built⟩)

end SuperAdvisor.Registry
