import SuperAdvisor.Foundation.EqualReload
import SuperAdvisor.Foundation.LowerText
import SuperAdvisor.Registry.MisnamedAgent

/-!
# The registry file against its registry

A registry is written in insertion order, read back and compared with the
registry it was written from and with others.  It comes back as it was exactly
when the owned skills, which nothing checks, are JSON values.
-/

namespace SuperAdvisor.Registry

open Python

/-- A tuple of texts as a value. -/
def textTuple (items : List String) : Value :=
  .tuple (items.map .str)

/-- The fields that `==` compares, in the order of the record. -/
def AgentCapabilityRecord.comparedFields (agent : AgentCapabilityRecord) : List Value :=
  [.str agent.agentId,
    .str agent.displayName,
    .str agent.roleSummary,
    textTuple agent.primaryResponsibilities,
    textTuple agent.acceptedTaskTypes,
    .dict agent.requiredInputSchema,
    .dict agent.outputContract,
    textTuple agent.allowedActions,
    textTuple agent.forbiddenActions,
    textTuple agent.allowedTools,
    textTuple agent.forbiddenTools,
    textTuple agent.upstreamRoutes,
    textTuple agent.downstreamRoutes,
    textTuple agent.requiredReviewers,
    .str agent.escalationTarget,
    .bool agent.humanReleaseGateRequired,
    .bool agent.mayModifyCode,
    .bool agent.mayCommit,
    .bool agent.mayPush,
    .bool agent.mayDeploy,
    .bool agent.mayPublishTelegram,
    .bool agent.mayAccessBrowser,
    .bool agent.mayAccessSecrets,
    .bool agent.selfApprovalAllowed,
    .str agent.definitionSource,
    .str agent.definitionVersion,
    .str agent.definitionHash,
    .tuple agent.ownedSkills,
    .str agent.currentAvailability]

/-- `==` of two records. -/
def AgentCapabilityRecord.equals (left right : AgentCapabilityRecord) : Bool :=
  Value.equalsItems left.comparedFields right.comparedFields

/-- Two registries whose tuples of agents are equal. -/
def SameAgents (first second : AgentCapabilityRegistry) : Prop :=
  List.Forall₂ (fun left right => AgentCapabilityRecord.equals left right = true)
    first.agents second.agents

/-- The mapping an agent's file begins with. -/
def frontmatterOf (library : Library) (files : ProjectFiles) (agentId : String) :
    Option (List (Key × Value)) := do
  let text ← files.agentMarkdown agentId
  let parts ← (splitFrontmatter text (files.agentPath agentId)).toOption
  match library.safeLoad parts.1 with
  | some (.dict metadata) => some metadata
  | _ => none

/-- Every field of a frontmatter that holds an object holds a JSON value. -/
def ObjectsAreJson (library : Library) (files : ProjectFiles) : Prop :=
  ∀ agentId ∈ runtimeAgentIds, ∀ metadata,
    frontmatterOf library files agentId = some metadata → ∀ name entries,
      lookupEntry metadata (.str name) = some (.dict entries) → (Value.dict entries).IsJson

/-- The owned skills of every frontmatter are JSON values. -/
def SkillsAreJson (library : Library) (files : ProjectFiles) : Prop :=
  ∀ agentId ∈ runtimeAgentIds, ∀ metadata,
    frontmatterOf library files agentId = some metadata → ∀ skills,
      listOf (getOr metadata "owned_skills" (.list [])) = .ok skills →
        ∀ skill ∈ skills, skill.IsJson

/-- The rules that the file of a registry must not break. -/
def writtenRules : List String :=
  ["stale_registry", "invalid_registry_hash", "agent_count_mismatch",
    "registry_agent_set_mismatch", "missing_field"]

/-- How the registry is written. -/
def writeOptions : DumpOptions :=
  { sortKeys := false
    allowNan := true
    spaced := true }

/-- The payload that is read from the written registry. -/
def AgentCapabilityRegistry.reloaded (registry : AgentCapabilityRegistry) : Option Value := do
  let text ← (dumpsIndented writeOptions (.dict registry.toDict)).toOption
  loads (text ++ ['\n'])

/-- The written registry agrees with itself and with no registry of other
agents. -/
structure WrittenFaithfully (library : Library) (files otherFiles : ProjectFiles)
    (registry other : AgentCapabilityRegistry) : Prop where
  own : ∃ payload issues, registry.reloaded = some payload ∧
    validateGeneratedRegistryPayload library files payload registry = .ok issues ∧
    ∀ issue ∈ issues, issue.rule ∉ writtenRules
  others : ¬SameAgents registry other → ∃ payload issues, registry.reloaded = some payload ∧
    validateGeneratedRegistryPayload library otherFiles payload other = .ok issues ∧
    ∃ issue ∈ issues, issue.rule = "stale_registry"

section Records

private theorem equals_list_eq_tuple (left right : List Value) :
    (Value.list left).equals (.list right) = (Value.tuple left).equals (.tuple right) := by
  simp only [Value.equals]

/-- Records are equal if what is written of them is. -/
theorem equals_of_toDict
    {left right : AgentCapabilityRecord} (equal : left.toDict.equals right.toDict = true) :
    left.equals right = true := by
  unfold AgentCapabilityRecord.toDict at equal
  have fieldwise := (equals_named_iff (by rfl) (by simp [OrderedDict.keys])).mp equal
  rw [AgentCapabilityRecord.equals, equalsItems_iff]
  simp only [texts, equals_list_eq_tuple, List.forall₂_cons, List.forall₂_nil_left_iff]
    at fieldwise
  simpa only [AgentCapabilityRecord.comparedFields, textTuple, List.forall₂_cons,
    List.forall₂_nil_left_iff] using fieldwise

/-- Registries have the same agents if what is written of them is equal. -/
theorem sameAgents_of_toDict
    {first second : AgentCapabilityRegistry}
    (equal : (Value.dict first.toDict).equals (.dict second.toDict) = true) :
    SameAgents first second := by
  unfold AgentCapabilityRegistry.toDict at equal
  have fieldwise := (equals_named_iff (by rfl) (by simp [OrderedDict.keys])).mp equal
  simp only [List.forall₂_cons] at fieldwise
  obtain ⟨-, -, -, -, -, -, -, -, agents, -⟩ := fieldwise
  simp only [Value.equals, equalsItems_iff, List.forall₂_map_left_iff,
    List.forall₂_map_right_iff] at agents
  exact agents.imp (fun _ _ => equals_of_toDict)

end Records

/-! The frontmatters and the registry built from them. -/

section Built

variable {library : Library} {files : ProjectFiles} {registry : AgentCapabilityRegistry}

/-- A text that was checked is still there when it is stripped again. -/
private theorem present_of_asString
    {value : Value} {fieldName path text : String}
    (read : asString value fieldName path = .ok text) : strip text ≠ "" := by
  unfold asString at read
  split at read
  next raw =>
    split at read
    next => cases read
    next present =>
      obtain rfl := Except.ok.inj read
      rw [Ne, strip_eq_empty_iff]
      intro spaces
      have occupied : (raw.toList.dropWhile isSpace).rdropWhile isSpace ≠ [] := by
        rw [← toList_strip, Ne, String.toList_eq_nil_iff]
        exact present
      rw [toList_strip] at spaces
      exact List.rdropWhile_last_not isSpace _ occupied (spaces _ (List.getLast_mem occupied))
  next => cases read

/-- What a record has from its frontmatter. -/
structure ReadFrom (metadata : List (Key × Value)) (agent : AgentCapabilityRecord) : Prop where
  identified : strip agent.agentId ≠ ""
  input : lookupEntry metadata (.str "required_input_schema") =
    some (.dict agent.requiredInputSchema)
  output : lookupEntry metadata (.str "output_contract") = some (.dict agent.outputContract)
  skills : listOf (getOr metadata "owned_skills" (.list [])) = .ok agent.ownedSkills

theorem readFrom_of_parsed
    {agentId : String} {agent : AgentCapabilityRecord}
    (parsed : parseAgentMarkdown library files agentId = .ok agent) :
    ∃ metadata, frontmatterOf library files agentId = some metadata ∧
      ReadFrom metadata agent := by
  unfold parseAgentMarkdown at parsed
  dsimp only at parsed
  split at parsed
  next => cases parsed
  next text present =>
    obtain ⟨parts, divided, parsed⟩ := except_bind_eq_ok.mp parsed
    split at parsed
    next => cases parsed
    next metadata loaded =>
      simp only [except_bind_eq_ok] at parsed
      obtain ⟨_, -, _, -, hash, -, parsed⟩ := parsed
      simp only [agentOfMetadata, except_bind_eq_ok] at parsed
      obtain ⟨skills, listed, _, declared, _, -, _, -, _, -, _, -, input, inputRead, output,
        outputRead, _, -, _, -, _, -, _, -, _, -, _, -, _, -, _, -, _, -, _, -, _, -, _, -, _, -, _,
        -, _, -, _, -, _, -, _, -, shape⟩ := parsed
      cases shape
      rw [getOr_stored _ _ _ (by decide)] at listed inputRead outputRead
      refine ⟨metadata, by simp [frontmatterOf, present, divided, loaded, Except.toOption], ?_⟩
      exact
        { identified := present_of_asString declared
          input := lookupEntry_of_getOr (object_of_asObject inputRead) (by simp)
          output := lookupEntry_of_getOr (object_of_asObject outputRead) (by simp)
          skills := except_mapError_eq_ok.mp listed }
    next => cases parsed

theorem identified_of_built
    (built : buildAgentRegistry library files = .ok registry) :
    ∀ agent ∈ registry.agents, strip agent.agentId ≠ "" := by
  intro agent member
  obtain ⟨agentId, -, parsed⟩ := exists_of_mem_right (agents_of_buildAgentRegistry built) member
  obtain ⟨metadata, -, read⟩ := readFrom_of_parsed parsed
  exact read.identified

private theorem isJson_toDict
    {agent : AgentCapabilityRecord} (input : (Value.dict agent.requiredInputSchema).IsJson)
    (output : (Value.dict agent.outputContract).IsJson)
    (skills : ∀ skill ∈ agent.ownedSkills, skill.IsJson) : agent.toDict.IsJson := by
  have items : ∀ names : List String, (texts names).IsJson := isJson_textList
  have owned : (Value.list agent.ownedSkills).IsJson := isJsonItems_iff.mpr skills
  refine isJson_named ?_ ?_
  · simp [OrderedDict.keys]
  · simp only [List.forall_mem_cons, items, input, output, owned, isJson_str, List.not_mem_nil,
      IsEmpty.forall_iff, implies_true, and_true, true_and]
    simp [Value.IsJson]

private theorem isJson_registry
    (agents : ∀ agent ∈ registry.agents, agent.toDict.IsJson) :
    (Value.dict registry.toDict).IsJson := by
  have items : (Value.list (registry.agents.map AgentCapabilityRecord.toDict)).IsJson := by
    refine isJsonItems_iff.mpr (fun item member => ?_)
    obtain ⟨agent, inside, rfl⟩ := List.mem_map.mp member
    exact agents agent inside
  refine isJson_named ?_ ?_
  · simp [OrderedDict.keys]
  · simp only [List.forall_mem_cons, items, isJson_str, List.not_mem_nil, IsEmpty.forall_iff,
      implies_true, and_true, true_and]
    exact ⟨trivial, trivial⟩

/-- A registry of JSON skills is a JSON value. -/
theorem isJson_of_skills
    (built : buildAgentRegistry library files = .ok registry)
    (objects : ObjectsAreJson library files) (skills : SkillsAreJson library files) :
    (Value.dict registry.toDict).IsJson := by
  refine isJson_registry (fun agent member => ?_)
  obtain ⟨agentId, listed, parsed⟩ :=
    exists_of_mem_right (agents_of_buildAgentRegistry built) member
  obtain ⟨metadata, begins, read⟩ := readFrom_of_parsed parsed
  exact isJson_toDict (objects agentId listed metadata begins _ _ read.input)
    (objects agentId listed metadata begins _ _ read.output)
    (skills agentId listed metadata begins _ read.skills)

theorem skillsAreJson_of_isJson
    (built : buildAgentRegistry library files = .ok registry)
    (json : (Value.dict registry.toDict).IsJson) : SkillsAreJson library files := by
  intro agentId listed metadata begins skills owned
  obtain ⟨agent, member, parsed⟩ :=
    exists_of_mem_left (agents_of_buildAgentRegistry built) listed
  obtain ⟨other, same, read⟩ := readFrom_of_parsed parsed
  obtain rfl : metadata = other := Option.some.inj (begins.symm.trans same)
  obtain rfl : skills = agent.ownedSkills := Except.ok.inj (owned.symm.trans read.skills)
  have stored : lookupEntry registry.toDict (.str "agents") =
      some (.list (registry.agents.map AgentCapabilityRecord.toDict)) := rfl
  have record : agent.toDict.IsJson := isJsonItems_iff.mp (isJson_of_lookup json.2.2 stored) _
    (List.mem_map_of_mem member)
  exact isJsonItems_iff.mp (isJson_of_lookup
    (show Value.IsJsonEntries _ from record.2.2)
    (show lookupEntry _ (.str "owned_skills") = some (.list agent.ownedSkills) from rfl))

/-- The numbers of a built registry are finite. -/
theorem finite_of_built
    (built : buildAgentRegistry library files = .ok registry)
    (json : (Value.dict registry.toDict).IsJson) :
    (Value.dict registry.toDict).FiniteNumbers := by
  have hashed := registryPayloadHash_of_built built
  unfold registryPayloadHash at hashed
  obtain ⟨text, printed, -⟩ := except_bind_eq_ok.mp hashed
  obtain ⟨document, converted⟩ := toDocument_of_dumps (except_mapError_eq_ok.mp printed)
  have agents := toDocument_named_field (rfl : canonicalOptions.sortKeys = true) converted
    (List.mem_map_of_mem (f := fun name => (name, getOr registry.toDict name .none))
      (show "agents" ∈ _ by simp))
  have stored : lookupEntry registry.toDict (.str "agents") =
      some (.list (registry.agents.map AgentCapabilityRecord.toDict)) := rfl
  have finite := (exists_toDocument_iff (rfl : canonicalOptions.sortKeys = true) rfl _
    (isJson_of_lookup json.2.2 stored)).mp agents
  refine finiteNumbers_named ?_
  simp only [List.forall_mem_cons, finite, List.not_mem_nil, IsEmpty.forall_iff, implies_true,
    and_true]
  exact ⟨trivial, trivial, trivial, trivial, trivial, trivial, trivial, trivial⟩

end Built

/-! The issues of the written payload. -/

section Issues

variable {library : Library} {files : ProjectFiles} {expectedIds : List String} {index : Nat}

private theorem rule_of_definitionSource {item : List (Key × Value)} :
    ∀ issue ∈ definitionSourceIssues files index item, issue.rule ∉ writtenRules := by
  unfold definitionSourceIssues
  split
  · split
    · simp [entryIssue, writtenRules]
    · split
      · simp [entryIssue, writtenRules]
      · split
        · simp [entryIssue, writtenRules]
        · simp
  · simp [entryIssue, writtenRules]

private theorem rule_of_self
    {agentId fieldName rule message : String} {item : List (Key × Value)}
    (other : rule ∉ writtenRules) :
    ∀ issue ∈ selfIssues files index agentId item fieldName rule message,
      issue.rule ∉ writtenRules := by
  unfold selfIssues
  split
  · simpa [entryIssue] using other
  · simp

private theorem rule_of_contradictory {item : List (Key × Value)} :
    ∀ issue ∈ contradictoryActionIssues library files index item,
      issue.rule ∉ writtenRules := by
  unfold contradictoryActionIssues
  dsimp only
  split
  · split
    · simp [entryIssue, writtenRules]
    · simp
  · simp

private theorem rule_of_listField
    {agentId fieldName : String} {item : List (Key × Value)} {items : List String}
    (stored : getOr item fieldName .none = texts items) :
    ∀ issue ∈ listFieldIssues files index agentId item fieldName,
      issue.rule ∉ writtenRules := by
  cases items <;> simp [listFieldIssues, stored, texts, entryIssue, writtenRules]

private theorem rule_of_unknownTarget
    {routeKind : String} {item : List (Key × Value)} {issues : List AgentRegistryIssue}
    (checked : unknownTargetIssues files expectedIds index item routeKind = .ok issues) :
    ∀ issue ∈ issues, issue.rule ∉ writtenRules := by
  simp only [unknownTargetIssues, except_bind_eq_ok] at checked
  obtain ⟨each, mapped, same⟩ := checked
  obtain rfl := Except.ok.inj same
  intro issue member
  obtain ⟨found, inside, issueIn⟩ := List.mem_flatten.mp member
  obtain ⟨target, -, step⟩ := exists_of_mem_right (mapM_eq_ok_iff.mp mapped) inside
  obtain ⟨unknown, -, same⟩ := except_bind_eq_ok.mp step
  obtain rfl := Except.ok.inj same
  split at issueIn
  · obtain rfl := List.mem_singleton.mp issueIn
    simp [entryIssue, writtenRules]
  · cases issueIn

private theorem rule_of_escalation
    {item : List (Key × Value)} {issues : List AgentRegistryIssue}
    (checked : escalationIssues files expectedIds index item = .ok issues) :
    ∀ issue ∈ issues, issue.rule ∉ writtenRules := by
  simp only [escalationIssues, except_bind_eq_ok] at checked
  obtain ⟨unknown, -, same⟩ := checked
  obtain rfl := Except.ok.inj same
  split
  · simp [entryIssue, writtenRules]
  · simp

/-- The entry of a record is checked, whatever agents are expected. -/
private theorem exists_entryIssues
    {agent : AgentCapabilityRecord} (identified : strip agent.agentId ≠ "") :
    ∃ issues, entryIssues library files expectedIds index agent.toDict =
        .ok (some agent.agentId, issues) ∧ ∀ issue ∈ issues, issue.rule ∉ writtenRules := by
  obtain ⟨item, shape, fields⟩ : ∃ item, agent.toDict = .dict item ∧
      ∀ name value, getItem agent.toDict name = .ok value → ∀ default,
        getOr item name default = value := by
    refine ⟨_, rfl, fun name value listed default => ?_⟩
    unfold AgentCapabilityRecord.toDict at listed
    rw [getItem_named] at listed
    rw [getOr, lookupEntry_named]
    split at listed
    next found here =>
      obtain rfl := Except.ok.inj listed
      rw [here]
      rfl
    next => cases listed
  obtain ⟨upstream, upstreamChecked, -⟩ := unknownTargetIssues_texts files expectedIds index
    (fields "upstream_routes" (texts agent.upstreamRoutes) rfl _)
  obtain ⟨downstream, downstreamChecked, -⟩ := unknownTargetIssues_texts files expectedIds index
    (fields "downstream_routes" (texts agent.downstreamRoutes) rfl _)
  obtain ⟨reviewers, reviewersChecked, -⟩ := unknownTargetIssues_texts files expectedIds index
    (fields "required_reviewers" (texts agent.requiredReviewers) rfl _)
  obtain ⟨escalation, escalationChecked, -⟩ := escalationIssues_text files expectedIds index
    (fields "escalation_target" (.str agent.escalationTarget) rfl _)
  have identity := fields "agent_id" (.str agent.agentId) rfl .none
  rw [shape]
  simp only [entryIssues, identity, identified, if_false, namedEntryIssues, upstreamChecked,
    downstreamChecked, reviewersChecked, escalationChecked, bind, Except.bind]
  refine ⟨_, rfl, ?_⟩
  simp only [List.flatMap_cons, List.flatMap_nil, List.append_nil, List.forall_mem_append]
  have selfReview : ∀ issue ∈ (if agent.agentId = "super-advisor" then []
      else selfIssues files index agent.agentId item "required_reviewers"
        "self_approval_reviewer_chain"
        "generated registry reviewer chain may not self-approve"), issue.rule ∉ writtenRules := by
    split
    · simp
    · exact rule_of_self (by simp [writtenRules])
  exact ⟨⟨⟨⟨⟨⟨⟨⟨⟨rule_of_listField (fields "primary_responsibilities" _ rfl _),
    rule_of_listField (fields "accepted_task_types" _ rfl _),
    rule_of_listField (fields "required_reviewers" _ rfl _)⟩, rule_of_definitionSource⟩,
    rule_of_self (by simp [writtenRules])⟩, selfReview⟩, rule_of_contradictory⟩,
    rule_of_unknownTarget upstreamChecked⟩, rule_of_unknownTarget downstreamChecked⟩,
    rule_of_unknownTarget reviewersChecked⟩, rule_of_escalation escalationChecked⟩

private theorem exists_entries
    {agents : List AgentCapabilityRecord} (identified : ∀ agent ∈ agents, strip agent.agentId ≠ "")
    (start : Nat) :
    ∃ checked, ((agents.map AgentCapabilityRecord.toDict).zipIdx start).mapM (fun entry =>
        entryIssues library files expectedIds entry.2 entry.1) = .ok checked ∧
      checked.filterMap Prod.fst = agents.map AgentCapabilityRecord.agentId ∧
      ∀ issue ∈ checked.flatMap Prod.snd, issue.rule ∉ writtenRules := by
  induction agents generalizing start with
  | nil => exact ⟨[], rfl, rfl, by simp⟩
  | cons agent agents induction =>
      obtain ⟨issues, checkedFirst, free⟩ := @exists_entryIssues library files
        expectedIds start agent (identified agent List.mem_cons_self)
      obtain ⟨checked, rest, ids, restFree⟩ :=
        induction (fun other member => identified other (List.mem_cons_of_mem _ member))
          (start + 1)
      refine ⟨(some agent.agentId, issues) :: checked, ?_, by simp [ids], ?_⟩
      · simp only [List.map_cons, List.zipIdx_cons, List.mapM_cons, checkedFirst, rest]
        rfl
      · rw [List.flatMap_cons, List.forall_mem_append]
        exact ⟨free, restFree⟩

variable {registry : AgentCapabilityRegistry}

/-- The issues of a written registry against an expected one. -/
theorem exists_payloadIssues
    (built : buildAgentRegistry library files = .ok registry)
    (otherFiles : ProjectFiles) (expected : AgentCapabilityRegistry) :
    ∃ free, validateGeneratedRegistryPayload library otherFiles (.dict registry.toDict) expected =
        .ok (free ++ generatedIdIssues otherFiles registry.agentIds expected.agentIds ++
          staleIssues otherFiles registry.toDict expected) ∧
      ∀ issue ∈ free, issue.rule ∉ writtenRules := by
  obtain ⟨checked, entries, ids, entryFree⟩ := @exists_entries library otherFiles
    expected.agentIds registry.agents (identified_of_built built) 0
  have counted : registry.agentCount = registry.agents.length := by
    simp only [buildAgentRegistry, except_bind_eq_ok] at built
    obtain ⟨_, -, _, -, shape⟩ := built
    cases shape
    rfl
  obtain ⟨hashIssues, hashed, hashFree⟩ : ∃ issues,
      registryHashIssues library otherFiles registry.toDict = .ok issues ∧
        ∀ issue ∈ issues, issue.rule ∉ writtenRules := by
    have stored : getOr registry.toDict "registry_hash" .none = .str registry.registryHash := rfl
    simp only [registryHashIssues, stored, registryPayloadHash_of_built built, bind, Except.bind,
      if_true]
    split
    · exact ⟨_, rfl, by simp [fileIssue, writtenRules]⟩
    · exact ⟨_, rfl, by simp⟩
  have schemaFree : ∀ issue ∈ schemaVersionIssues otherFiles registry.toDict,
      issue.rule ∉ writtenRules := by
    unfold schemaVersionIssues
    dsimp only
    split
    · simp [fileIssue, writtenRules]
    · split
      · simp
      · simp [fileIssue, writtenRules]
  have countFree : agentCountIssues otherFiles registry.toDict
      (registry.agents.map AgentCapabilityRecord.toDict) = [] := by
    have stored : getOr registry.toDict "agent_count" .none = .int registry.agentCount := rfl
    simp [agentCountIssues, stored, counted, Value.equals, Value.number?]
  have missingFree : missingFieldIssues otherFiles registry.toDict = [] := rfl
  have agentsFree : agentsFieldIssues otherFiles registry.toDict = [] := rfl
  have listed : listItems (getOr registry.toDict "agents" .none) =
      registry.agents.map AgentCapabilityRecord.toDict := rfl
  simp only [AgentCapabilityRegistry.agentIds] at entries
  refine ⟨schemaVersionIssues otherFiles registry.toDict ++ hashIssues ++
    checked.flatMap Prod.snd, ?_, ?_⟩
  · simp only [validateGeneratedRegistryPayload, listed, hashed, entries, ids, missingFree,
      agentsFree, countFree, bind, Except.bind, AgentCapabilityRegistry.agentIds,
      List.nil_append, List.append_nil]
  · rw [List.forall_mem_append, List.forall_mem_append]
    exact ⟨⟨schemaFree, hashFree⟩, entryFree⟩

end Issues

section Written

variable {library : Library} {files : ProjectFiles} {registry : AgentCapabilityRegistry}

theorem writeOptions_plain : writeOptions.Plain :=
  ⟨rfl, rfl⟩

/-- A registry that is a JSON value is read back as it was. -/
theorem reloaded_of_isJson (json : (Value.dict registry.toDict).IsJson) :
    registry.reloaded = some (.dict registry.toDict) := by
  obtain ⟨document, converted⟩ := toDocument_of_isJson writeOptions_plain json
  have dumped : dumpsIndented writeOptions (.dict registry.toDict) =
      .ok (JsonText.renderIndented 0 document) := by
    rw [dumpsIndented, converted]
    rfl
  have loaded := loads_dumpsIndented dumped
  rw [reload_of_isJson writeOptions_plain json] at loaded
  simp [AgentCapabilityRegistry.reloaded, dumped, loaded, Except.toOption]

/-- What is read is what the written dictionary loads back as. -/
theorem reload_of_reloaded {payload : Value} (reloaded : registry.reloaded = some payload) :
    ∃ document, (Value.dict registry.toDict).toDocument writeOptions = .ok document ∧
      (Value.dict registry.toDict).reload writeOptions = payload := by
  unfold AgentCapabilityRegistry.reloaded at reloaded
  cases dumped : dumpsIndented writeOptions (.dict registry.toDict) with
  | error problem => simp [dumped, Except.toOption] at reloaded
  | ok text =>
      have loaded : loads (text ++ ['\n']) = some payload := by
        simpa [dumped, Except.toOption] using reloaded
      rw [loads_dumpsIndented dumped] at loaded
      obtain ⟨document, converted, -⟩ := except_map_eq_ok.mp dumped
      exact ⟨document, converted, Option.some.inj loaded⟩

/-- A payload that is not reported stale equals the expected registry. -/
private theorem equals_of_fresh
    {payload : Value} {issues : List AgentRegistryIssue}
    (loaded : ∃ entries, payload = .dict entries)
    (checked : validateGeneratedRegistryPayload library files payload registry = .ok issues)
    (fresh : ∀ issue ∈ issues, issue.rule ≠ "stale_registry") :
    payload.equals (.dict registry.toDict) = true := by
  obtain ⟨entries, rfl⟩ := loaded
  simp only [validateGeneratedRegistryPayload, except_bind_eq_ok] at checked
  obtain ⟨hashIssues, -, entryChecks, -, same⟩ := checked
  obtain rfl := Except.ok.inj same
  by_contra different
  have stale : fileIssue files "" "stale_registry"
      "generated registry does not match AGENT.md definitions" ∈
        staleIssues files entries registry := by
    simp [staleIssues, different]
  exact fresh _ (List.mem_append_right _ stale) rfl

/-- A registry whose payload is not stale has JSON skills. -/
theorem skillsAreJson_of_fresh
    (built : buildAgentRegistry library files = .ok registry) {payload : Value}
    {issues : List AgentRegistryIssue} (reloaded : registry.reloaded = some payload)
    (checked : validateGeneratedRegistryPayload library files payload registry = .ok issues)
    (free : ∀ issue ∈ issues, issue.rule ∉ writtenRules) : SkillsAreJson library files := by
  obtain ⟨document, converted, rfl⟩ := reload_of_reloaded reloaded
  have equal := equals_of_fresh ⟨_, reload_dict converted⟩ checked
    (fun issue member isStale => free issue member (by rw [isStale]; simp [writtenRules]))
  exact skillsAreJson_of_isJson built
    (isJson_of_equals_reload writeOptions_plain _ ⟨document, converted⟩ equal)

end Written

/-- A written registry agrees with itself, and with no registry of other agents,
exactly if its owned skills are JSON values. -/
theorem writtenFaithfully_iff
    (library : Library) (files otherFiles : ProjectFiles)
    (registry other : AgentCapabilityRegistry)
    (built : buildAgentRegistry library files = .ok registry)
    (objects : ObjectsAreJson library files) :
    WrittenFaithfully library files otherFiles registry other ↔ SkillsAreJson library files := by
  constructor
  · rintro ⟨⟨payload, issues, reloaded, checked, free⟩, -⟩
    exact skillsAreJson_of_fresh built reloaded checked free
  · intro skills
    have json := isJson_of_skills built objects skills
    have finite := finite_of_built built json
    have reloaded := reloaded_of_isJson json
    constructor
    · obtain ⟨free, checked, ruleFree⟩ := exists_payloadIssues built files registry
      refine ⟨_, _, reloaded, checked, ?_⟩
      have stale : staleIssues files registry.toDict registry = [] := by
        simp [staleIssues, equals_self _ json finite]
      have ids : ∀ issue ∈ generatedIdIssues files registry.agentIds registry.agentIds,
          issue.rule ∉ writtenRules := by
        unfold generatedIdIssues
        simp only [List.Subset.refl, and_self, if_true, List.append_nil, List.forall_mem_append]
        refine ⟨?_, ?_⟩ <;> split <;> simp [fileIssue, writtenRules]
      rw [stale, List.append_nil, List.forall_mem_append]
      exact ⟨ruleFree, ids⟩
    · intro different
      obtain ⟨free, checked, -⟩ := exists_payloadIssues built otherFiles other
      refine ⟨_, _, reloaded, checked, fileIssue otherFiles "" "stale_registry"
        "generated registry does not match AGENT.md definitions", ?_, rfl⟩
      refine List.mem_append_right _ ?_
      have unequal : (Value.dict registry.toDict).equals (.dict other.toDict) ≠ true :=
        fun equal => different (sameAgents_of_toDict equal)
      simp [staleIssues, unequal]

private theorem frontmatterOf_of_steps
    {library : Library} {files : ProjectFiles} {agentId : String} {text : List Char}
    {parts : List Char × List Char} {metadata : List (Key × Value)}
    (written : files.agentMarkdown agentId = some text)
    (divided : splitFrontmatter text (files.agentPath agentId) = .ok parts)
    (loaded : library.safeLoad parts.1 = some (.dict metadata)) :
    frontmatterOf library files agentId = some metadata := by
  simp [frontmatterOf, written, divided, loaded, Except.toOption]

/-- The frontmatter of a written definition is the one it was written from. -/
private theorem frontmatterOf_markdown
    {library : Library} {files : ProjectFiles} {definition : AgentDefinition} {agentId : String}
    (reads : library.safeLoad (definition.frontmatter ++ ['\n']) =
      loads (definition.frontmatter ++ ['\n']))
    (written : files.agentMarkdown agentId = some definition.markdown) :
    frontmatterOf library files agentId = some (named definition.fields) :=
  frontmatterOf_of_steps written (splitFrontmatter_markdown definition _)
    (reads.trans (loads_frontmatter definition))

private theorem objects_of_fields
    (definition : AgentDefinition) {name : String} {entries : List (Key × Value)}
    (found : lookupEntry (named definition.fields) (.str name) = some (.dict entries)) :
    (Value.dict entries).IsJson :=
  isJson_of_lookup (isJson_fields definition).2.2 found

/-- The registry of the runtime's agents is read back as it was written. -/
theorem runtimeRegistry_writtenFaithfully :
    ∃ registry, buildAgentRegistry jsonLibrary (definedFiles runtimeDefinition) = .ok registry ∧
      WrittenFaithfully jsonLibrary (definedFiles runtimeDefinition)
        (definedFiles runtimeDefinition) registry registry := by
  obtain ⟨registry, built, -⟩ := @exists_definedRegistry jsonLibrary runtimeDefinition rfl
    runtimeDefinition_fits.tidy
  have begins : ∀ agentId ∈ runtimeAgentIds,
      frontmatterOf jsonLibrary (definedFiles runtimeDefinition) agentId =
        some (named (runtimeDefinition agentId).fields) := by
    intro agentId member
    exact frontmatterOf_markdown rfl (by simp [definedFiles, member])
  refine ⟨registry, built, (writtenFaithfully_iff jsonLibrary (definedFiles runtimeDefinition)
    (definedFiles runtimeDefinition) registry registry built ?_).mpr ?_⟩
  · intro agentId member metadata same name entries found
    rw [begins agentId member] at same
    obtain rfl := Option.some.inj same
    exact objects_of_fields _ found
  · intro agentId member metadata same skills listed skill inside
    rw [begins agentId member] at same
    obtain rfl := Option.some.inj same
    obtain rfl := Except.ok.inj listed
    obtain ⟨text, -, rfl⟩ := List.mem_map.mp inside
    trivial

/-- The fields of the manager's definition but the owned skills. -/
def pairedRest : List (String × Value) :=
  (runtimeDefinition "knowledge-skill-manager").fields.dropLast

/-- Owned skills that a tag makes a list of pairs. -/
def pairedSkills : List Char :=
  "!!map \x7b\"owned_skills\": !!pairs [\x7b\"a\": 1\x7d], ".toList

/-- A frontmatter with these skills. -/
def pairedFrontmatter : List Char :=
  pairedSkills ++
    ((dumps frontmatterOptions (.dict (named pairedRest))).toOption.getD []).drop 1

/-- The fields that the tagged frontmatter is loaded as. -/
def pairedFields : List (String × Value) :=
  ("owned_skills", .list [.tuple [.str "a", .int 1]]) :: pairedRest

/-- A reader of JSON that also knows the tagged frontmatter. -/
def pairsLibrary : Library :=
  { jsonLibrary with
    safeLoad := fun text =>
      if text = pairedFrontmatter ++ ['\n'] then some (.dict (named pairedFields)) else loads text }

/-- The runtime's project with the tagged frontmatter for its manager. -/
def pairedFiles : ProjectFiles :=
  { definedFiles runtimeDefinition with
    agentMarkdown := fun agentId =>
      if agentId = "knowledge-skill-manager" then
        some (frontmatterMark ++ (pairedFrontmatter ++ '\n' :: (frontmatterMark ++ [])))
      else (definedFiles runtimeDefinition).agentMarkdown agentId }

private theorem isPlain_pairedRest :
    ∀ field ∈ pairedRest, field.2.IsJson ∧ field.2.FiniteNumbers := by
  intro field member
  have inside : ((.str field.1, field.2) : Key × Value) ∈
      named (runtimeDefinition "knowledge-skill-manager").fields :=
    List.mem_map_of_mem (f := fun field => (Key.str field.1, field.2))
      ((List.dropLast_sublist _).subset member)
  exact ⟨isJsonEntries_iff.mp (isJson_fields _).2.2 _ inside,
    finiteNumbersEntries_iff.mp (finite_fields _) _ inside⟩

private theorem keys_pairedRest_nodup : (OrderedDict.keys pairedRest).Nodup := by
  simp [pairedRest, AgentDefinition.fields, OrderedDict.keys]

/-- The tagged frontmatter is one line that begins with its tag. -/
private theorem pairedFrontmatter_line :
    '\n' ∉ pairedFrontmatter ∧ pairedFrontmatter.getLast? ≠ some '-' ∧
      pairedFrontmatter.head? = some '!' := by
  obtain ⟨symbols, dumped, oneLine, last⟩ := dumps_line
    (isJson_named keys_pairedRest_nodup (fun field member => (isPlain_pairedRest field member).1))
  have shape : pairedFrontmatter = pairedSkills ++ symbols := by
    simp [pairedFrontmatter, dumped, Except.toOption]
  have tag : '\n' ∉ pairedSkills ∧ pairedSkills.head? = some '!' := by decide +kernel
  rw [shape]
  refine ⟨by simp [tag.1, oneLine], ?_, ?_⟩
  · rw [List.getLast?_append, last]
    decide
  · rw [List.head?_append, tag.2]
    rfl

private theorem reads_untagged (definition : AgentDefinition) :
    pairsLibrary.safeLoad (definition.frontmatter ++ ['\n']) =
      loads (definition.frontmatter ++ ['\n']) := by
  refine if_neg (fun same => ?_)
  have head := pairedFrontmatter_line.2.2
  rw [← List.append_cancel_right same, definition.frontmatter_head] at head
  exact absurd head (by decide)

/-- The manager's file holds the tagged frontmatter. -/
private theorem reads_manager :
    pairedFiles.agentMarkdown "knowledge-skill-manager" =
        some (frontmatterMark ++ (pairedFrontmatter ++ '\n' :: (frontmatterMark ++ []))) ∧
      (∀ path, splitFrontmatter
        (frontmatterMark ++ (pairedFrontmatter ++ '\n' :: (frontmatterMark ++ []))) path =
          .ok (pairedFrontmatter ++ ['\n'], [])) ∧
      pairsLibrary.safeLoad (pairedFrontmatter ++ ['\n']) = some (.dict (named pairedFields)) := by
  obtain ⟨oneLine, last, -⟩ := pairedFrontmatter_line
  refine ⟨?_, splitFrontmatter_line oneLine last, ?_⟩
  · simp only [pairedFiles, if_true]
  · simp only [pairsLibrary, if_true]

private theorem exists_pairedHash :
    ∃ hash, agentDefinitionHash pairsLibrary (setEntry (named pairedFields)
      (.str "definition_source") (.str (agentSource "knowledge-skill-manager"))) = .ok hash := by
  have sanitized : withoutFields addedAgentFields (setEntry (named pairedFields)
      (.str "definition_source") (.str (agentSource "knowledge-skill-manager"))) =
        named pairedFields := rfl
  have convertible : ∀ field ∈ pairedFields, ∃ document,
      field.2.toDocument canonicalOptions = .ok document := by
    intro field member
    rcases List.mem_cons.mp member with rfl | rest
    · exact ⟨_, rfl⟩
    · obtain ⟨json, finite⟩ := isPlain_pairedRest field rest
      exact (exists_toDocument_iff rfl rfl field.2 json).mpr finite
  obtain ⟨document, converted⟩ := toDocument_named_ok rfl convertible
  have printed : canonicalJson (.dict (named pairedFields)) =
      .ok (JsonText.render false document) := by
    rw [canonicalJson, dumps, converted]
    rfl
  exact ⟨_, by rw [agentDefinitionHash, sanitized, printed]; rfl⟩

/-- The tagged frontmatter has the other fields of the definition. -/
private theorem field_paired
    {name : String} {value : Value} (other : name ≠ "owned_skills")
    (found : OrderedDict.get? (runtimeDefinition "knowledge-skill-manager").fields name =
      some value) :
    OrderedDict.get? pairedFields name = some value := by
  have all : (runtimeDefinition "knowledge-skill-manager").fields =
      pairedRest ++ [("owned_skills",
        texts (runtimeDefinition "knowledge-skill-manager").ownedSkills)] := rfl
  have member := OrderedDict.mem_of_get? found
  rw [all, List.mem_append, List.mem_singleton] at member
  rcases member with inside | owned
  · rw [pairedFields, OrderedDict.get?, if_neg (Ne.symm other)]
    exact OrderedDict.get?_eq_some_of_mem keys_pairedRest_nodup inside
  · exact absurd (congrArg Prod.fst owned) other

private theorem parsed_paired :
    ∀ agentId ∈ runtimeAgentIds, ∃ agent,
      parseAgentMarkdown pairsLibrary pairedFiles agentId = .ok agent := by
  intro agentId member
  by_cases manager : agentId = "knowledge-skill-manager"
  · obtain ⟨written, divided, loaded⟩ := reads_manager
    obtain ⟨hash, hashed⟩ := exists_pairedHash
    have read := agentOfMetadata_tidy
      (runtimeDefinition_fits.tidy "knowledge-skill-manager" (by simp [runtimeAgentIds]))
      (fun name value apart other found =>
        getOr_stored_named apart (field_paired other found)
          (.str (agentSource "knowledge-skill-manager")) (.str hash))
      (congrArg listOf (getOr_stored_named (by decide)
        (show OrderedDict.get? pairedFields "owned_skills" = some _ from if_pos rfl) _ _ _))
      (pairedFiles.agentPath "knowledge-skill-manager") (agentSource "knowledge-skill-manager")
      hash
    rw [manager]
    exact ⟨_, parseAgentMarkdown_of_steps written (divided _) loaded rfl rfl hashed read⟩
  · exact ⟨_, parseAgentMarkdown_markdown (reads_untagged (runtimeDefinition agentId))
      (runtimeDefinition_fits.tidy agentId member)
      (by simp [pairedFiles, manager, definedFiles, member])⟩

private theorem frontmatterOf_manager :
    frontmatterOf pairsLibrary pairedFiles "knowledge-skill-manager" =
      some (named pairedFields) := by
  obtain ⟨written, divided, loaded⟩ := reads_manager
  exact frontmatterOf_of_steps written (divided _) loaded

/-- A registry whose skills hold a tuple is stale against its own file. -/
theorem pairedRegistry_stale :
    ∃ registry, buildAgentRegistry pairsLibrary pairedFiles = .ok registry ∧
      ObjectsAreJson pairsLibrary pairedFiles ∧
      ¬WrittenFaithfully pairsLibrary pairedFiles pairedFiles registry registry := by
  obtain ⟨registry, built⟩ := exists_registry_iff.mpr parsed_paired
  refine ⟨registry, built, ?_, ?_⟩
  · intro agentId member metadata begins name entries found
    by_cases manager : agentId = "knowledge-skill-manager"
    · rw [manager, frontmatterOf_manager] at begins
      obtain rfl := Option.some.inj begins
      obtain ⟨entry, inside, same⟩ := mem_of_lookupEntry found
      rcases List.mem_cons.mp inside with rfl | later
      · cases same
      · rw [← same]
        obtain ⟨field, rest, rfl⟩ := List.mem_map.mp later
        exact (isPlain_pairedRest field rest).1
    · rw [frontmatterOf_markdown (reads_untagged (runtimeDefinition agentId))
        (by simp [pairedFiles, manager, definedFiles, member])] at begins
      obtain rfl := Option.some.inj begins
      exact objects_of_fields _ found
  · rintro ⟨⟨payload, issues, reloaded, checked, free⟩, -⟩
    have skills := skillsAreJson_of_fresh built reloaded checked free
    exact skills "knowledge-skill-manager" (by simp [runtimeAgentIds]) (named pairedFields)
      frontmatterOf_manager _ rfl (.tuple [.str "a", .int 1]) (by simp)

end SuperAdvisor.Registry
