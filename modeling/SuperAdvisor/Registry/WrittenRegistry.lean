import SuperAdvisor.Registry.Readiness

/-!
# Validating a registry that was just written

When the generated file holds the registry as it was built and the
configuration was rendered from it, neither adds an issue: the validation is
ready as soon as the definitions themselves are acceptable.
-/

namespace SuperAdvisor.Registry

open Python

/-- The configuration's part that is compared with the registry. -/
def renderedConfigOf (registry : AgentCapabilityRegistry) : List (Key × Value) :=
  named
    [("agentCapabilityRegistry", .dict (named
        [("registryHash", .str registry.registryHash),
          ("agentCount", .int registry.agentCount)])),
      ("agents", .dict (named
        [("list", .list (registry.agents.map (fun agent => .dict (named
          [("id", .str agent.agentId), ("skills", .list agent.ownedSkills),
            ("tools", .dict (named [("allow", texts agent.allowedTools)]))]))))]))]

/-- A registry whose definitions pass every check but the one of the file. -/
structure AgentCapabilityRegistry.Clean (library : Library) (files : ProjectFiles)
    (registry : AgentCapabilityRegistry) : Prop where
  issueFree : registryIssues registry = []
  chain : reviewChainIssues registry = .ok []
  acceptable : ∀ agent ∈ registry.agents,
    agent.Acceptable library files registry.agentIds
  advisor : "super-advisor" ∈ registry.agentIds
  signed : strip registry.registryHash ≠ ""
  json : (Value.dict registry.toDict).IsJson
  finite : (Value.dict registry.toDict).FiniteNumbers

section Written

variable {library : Library} {files : ProjectFiles} {registry : AgentCapabilityRegistry}

/-- The hash of a built registry covers its own fields. -/
theorem registryPayloadHash_of_built
    (built : buildAgentRegistry library files = .ok registry) :
    registryPayloadHash library registry.toDict = .ok registry.registryHash := by
  simp only [buildAgentRegistry, except_bind_eq_ok] at built
  obtain ⟨agents, -, text, dumped, shape⟩ := built
  cases shape
  exact except_bind_eq_ok.mpr ⟨text, dumped, rfl⟩

private theorem nodup_of_issueFree (issueFree : registryIssues registry = []) :
    registry.agentIds.Nodup := by
  simp only [registryIssues, List.append_eq_nil_iff, List.flatMap_eq_nil_iff] at issueFree
  exact agentIds_nodup (fun position member => (issueFree.1 position member).1)

private theorem skills_of_issueFree
    (issueFree : registryIssues registry = []) {agent : AgentCapabilityRecord}
    (member : agent ∈ registry.agents) :
    ∃ skills : List String, agent.ownedSkills = skills.map .str := by
  simp only [registryIssues, List.append_eq_nil_iff, List.flatMap_eq_nil_iff] at issueFree
  obtain ⟨index, position⟩ := List.getElem?_of_mem member
  have listed : (agent, index) ∈ registry.agents.zipIdx := by
    simpa [List.mk_mem_zipIdx_iff_getElem?] using position
  have free := (issueFree.1 _ listed).2
  simp only [definitionIssues, List.append_eq_nil_iff] at free
  obtain ⟨⟨⟨⟨⟨⟨-, owned⟩, -⟩, -⟩, -⟩, -⟩, -⟩ := free
  unfold issueUnless at owned
  split at owned
  next same =>
    have whole := equals_strings_iff.mp (equals_list_iff.mpr ⟨_, rfl, same⟩)
    exact ⟨_, Value.list.inj whole⟩
  next => cases owned

theorem equalsItems_strings (items : List String) :
    Value.equalsItems (items.map .str) (items.map .str) = true := by
  rw [equalsItems_iff, List.forall₂_same]
  intro value member
  obtain ⟨text, -, rfl⟩ := List.mem_map.mp member
  simp [Value.equals]

/-- The entry of an agent in the rendered configuration. -/
private def configEntry (agent : AgentCapabilityRecord) : List (Key × Value) :=
  named
    [("id", .str agent.agentId), ("skills", .list agent.ownedSkills),
      ("tools", .dict (named [("allow", texts agent.allowedTools)]))]

private theorem configAgents_of_rendered (agents : List AgentCapabilityRecord)
    (distinct : (agents.map AgentCapabilityRecord.agentId).Nodup) :
    configAgents (agents.map (fun agent => .dict (configEntry agent))) =
      agents.map (fun agent => (agent.agentId, configEntry agent)) := by
  have keyed : (OrderedDict.keys
      (agents.map (fun agent => (agent.agentId, configEntry agent)))).Nodup := by
    simpa [OrderedDict.keys, Function.comp_def] using distinct
  calc configAgents (agents.map (fun agent => .dict (configEntry agent)))
      = OrderedDict.ofPairs (agents.map (fun agent => (agent.agentId, configEntry agent))) := by
        unfold configAgents
        rw [List.filterMap_map, ← List.filterMap_eq_map]
        rfl
    _ = agents.map (fun agent => (agent.agentId, configEntry agent)) :=
        OrderedDict.ofPairs_of_nodup keyed

/-- The configuration rendered from a registry without issues agrees with it. -/
private theorem renderedConfigIssues_of_rendered (issueFree : registryIssues registry = []) :
    renderedConfigIssues registry (renderedConfigOf registry) = .ok [] := by
  have configured := configAgents_of_rendered registry.agents (nodup_of_issueFree issueFree)
  have agentwise : ∀ agent ∈ registry.agents,
      configAgentIssues (registry.agents.map (fun agent => .dict (configEntry agent))) agent =
        .ok [] := by
    intro agent member
    have found : OrderedDict.get? (registry.agents.map
        (fun agent => (agent.agentId, configEntry agent))) agent.agentId =
          some (configEntry agent) := by
      refine OrderedDict.get?_eq_some_of_mem ?_
        (List.mem_map_of_mem (f := fun agent => (agent.agentId, configEntry agent)) member)
      simpa [OrderedDict.keys, Function.comp_def, AgentCapabilityRegistry.agentIds] using
        nodup_of_issueFree issueFree
    obtain ⟨skills, owned⟩ := skills_of_issueFree issueFree member
    have sameSkills := equalsItems_strings skills
    rw [← owned] at sameSkills
    simp only [configAgentIssues, configured, found]
    show Except.ok (issueUnless (Value.equalsItems agent.ownedSkills agent.ownedSkills) _ _ _ ++
      issueUnless (Value.equalsItems (agent.allowedTools.map .str)
        (agent.allowedTools.map .str)) _ _ _) = .ok []
    rw [sameSkills, equalsItems_strings]
    rfl
  have all : registry.agents.mapM
      (configAgentIssues (registry.agents.map (fun agent => .dict (configEntry agent)))) =
        .ok (registry.agents.map (fun _ => [])) := by
    rw [mapM_eq_ok_iff, List.forall₂_map_right_iff, List.forall₂_same]
    exact agentwise
  have metaFree : registryMetaIssues registry (renderedConfigOf registry) = [] := by
    show issueUnless ((Value.str registry.registryHash).equals (.str registry.registryHash))
        _ _ _ ++ issueUnless ((Value.int registry.agentCount).equals (.int registry.agentCount))
        _ _ _ = []
    simp [issueUnless, Value.equals, Value.number?]
  show (registry.agents.mapM (configAgentIssues
    (registry.agents.map (fun agent => .dict (configEntry agent)))) >>= fun issues =>
      Except.ok (registryMetaIssues registry (renderedConfigOf registry) ++ issues.flatten)) = _
  rw [all, metaFree]
  simp [bind, Except.bind]

/-- The entries of a written file pass their checks. -/
private theorem entries_of_clean (clean : registry.Clean library files) :
    (registry.agents.map AgentCapabilityRecord.toDict).zipIdx.mapM (fun entry =>
        entryIssues library files registry.agentIds entry.2 entry.1) =
      .ok (registry.agents.zipIdx.map (fun entry => (some entry.1.agentId, []))) := by
  rw [List.zipIdx_map, mapM_eq_ok_iff, List.forall₂_map_left_iff, List.forall₂_map_right_iff,
    List.forall₂_same]
  intro entry member
  have inside : entry.1 ∈ registry.agents := by
    have listed := List.mem_map_of_mem (f := Prod.fst) member
    rwa [List.zipIdx_map_fst] at listed
  have stored : lookupEntry registry.toDict (.str "agents") =
      some (.list (registry.agents.map AgentCapabilityRecord.toDict)) := rfl
  have within : entry.1.toDict ∈ registry.agents.map AgentCapabilityRecord.toDict :=
    List.mem_map_of_mem inside
  have json : entry.1.toDict.IsJson :=
    isJsonItems_iff.mp (isJson_of_lookup clean.json.2.2 stored) _ within
  have finite : entry.1.toDict.FiniteNumbers :=
    finiteNumbersItems_iff.mp (finiteNumbers_of_lookup clean.finite stored) _ within
  exact (entryIssues_nil_iff json (equals_self _ json finite)).mpr
    ⟨rfl, clean.acceptable entry.1 inside⟩

/-- A file written from a clean registry has no issue. -/
private theorem payload_of_clean
    (built : buildAgentRegistry library files = .ok registry)
    (clean : registry.Clean library files) :
    validateGeneratedRegistryPayload library files (.dict registry.toDict) registry =
      .ok [] := by
  have version : registry.schemaVersion = agentRegistrySchemaVersion ∧
      registry.agentCount = registry.agents.length := by
    simp only [buildAgentRegistry, except_bind_eq_ok] at built
    obtain ⟨agents, -, text, -, shape⟩ := built
    cases shape
    exact ⟨rfl, rfl⟩
  have hashFree : registryHashIssues library files registry.toDict = .ok [] := by
    have stored : getOr registry.toDict "registry_hash" .none = .str registry.registryHash := rfl
    simp [registryHashIssues, stored, clean.signed, registryPayloadHash_of_built built, bind,
      Except.bind]
  have schemaFree : schemaVersionIssues files registry.toDict = [] := by
    have stored : getOr registry.toDict "schema_version" .none =
        .str agentRegistrySchemaVersion := version.1 ▸ rfl
    rw [schemaVersionIssues, stored]
    rfl
  have countFree : agentCountIssues files registry.toDict
      (registry.agents.map AgentCapabilityRecord.toDict) = [] := by
    have stored : getOr registry.toDict "agent_count" .none = .int registry.agentCount := rfl
    simp [agentCountIssues, stored, version.2, Value.equals, Value.number?]
  have idsFree : generatedIdIssues files registry.agentIds registry.agentIds = [] := by
    simp [generatedIdIssues, nodup_of_issueFree clean.issueFree, clean.advisor]
  have staleFree : staleIssues files registry.toDict registry = [] := by
    simp [staleIssues, equals_self _ clean.json clean.finite]
  have checked := entries_of_clean clean
  have ids : (registry.agents.zipIdx.map (fun entry =>
      (some entry.1.agentId, ([] : List AgentRegistryIssue)))).filterMap Prod.fst =
        registry.agentIds := by
    calc
      _ = registry.agents.zipIdx.map (fun entry => entry.1.agentId) := by
        rw [List.filterMap_map, ← List.filterMap_eq_map]
        rfl
      _ = (registry.agents.zipIdx.map Prod.fst).map AgentCapabilityRecord.agentId := by
        rw [List.map_map]
        rfl
      _ = registry.agentIds := by rw [List.zipIdx_map_fst, AgentCapabilityRegistry.agentIds]
  have noIssues : (registry.agents.zipIdx.map (fun entry =>
      (some entry.1.agentId, ([] : List AgentRegistryIssue)))).flatMap Prod.snd = [] := by
    simp
  have missingFree : missingFieldIssues files registry.toDict = [] := rfl
  have agentsFree : agentsFieldIssues files registry.toDict = [] := rfl
  have listed : listItems (getOr registry.toDict "agents" .none) =
      registry.agents.map AgentCapabilityRecord.toDict := rfl
  simp only [AgentCapabilityRegistry.agentIds] at checked ids idsFree
  simp only [validateGeneratedRegistryPayload, listed, hashFree, checked, bind, Except.bind]
  rw [ids, noIssues, missingFree, agentsFree, schemaFree, countFree, idsFree, staleFree]
  rfl

/-- A clean registry that was just written, with the configuration rendered from
it, is ready. -/
theorem ready_of_written
    (built : buildAgentRegistry library files = .ok registry)
    (clean : registry.Clean library files) {options : DumpOptions} (plain : options.Plain)
    {text : List Char} (dumped : dumpsIndented options (.dict registry.toDict) = .ok text)
    (written : files.agentRegistry = some (text ++ ['\n'])) :
    ∃ report, validateAgentRegistry library files (some (renderedConfigOf registry)) true =
      .ok report ∧ report.registry = some registry ∧ report.status = agentRegistryReady := by
  have loaded : loads (text ++ ['\n']) = some (.dict registry.toDict) := by
    rw [loads_dumpsIndented dumped, reload_of_isJson plain clean.json]
  have fileFree : requiredFileIssues library files registry true = .ok [] := by
    simp only [requiredFileIssues, if_true, generatedFileIssues, written, loaded]
    exact payload_of_clean built clean
  refine ⟨reportOn registry [] [] [], ?_, rfl, ?_⟩
  · unfold validateAgentRegistry
    simp only [built]
    rw [checkRegistry_eq, clean.chain, fileFree, optionalConfigIssues,
      renderedConfigIssues_of_rendered clean.issueFree]
    rfl
  · simp [reportOn, clean.issueFree, registryStatus]

end Written

end SuperAdvisor.Registry
