import SuperAdvisor.Foundation.LoadedValues
import SuperAdvisor.Registry.Validation

/-!
# What a ready registry promises

A validation without issues has accepted every entry of the generated file.
The file equals the registry, so what the entries satisfy the records satisfy:
every route stays inside the registry and no agent routes to itself or, other
than the advisor, reviews itself.  That the agents are the runtime's is not
checked: a missing runtime agent is counted but makes no issue.
-/

namespace SuperAdvisor.Registry

open Python

def AgentCapabilityRegistry.agentIds (registry : AgentCapabilityRegistry) : List String :=
  registry.agents.map AgentCapabilityRecord.agentId

/-- The routes of a registry: every target is one of its agents, no agent routes
to itself, and only the advisor may review itself. -/
structure AgentCapabilityRegistry.RoutesClosed (registry : AgentCapabilityRegistry) :
    Prop where
  upstream : ∀ agent ∈ registry.agents, ∀ target ∈ agent.upstreamRoutes,
    target ∈ registry.agentIds
  downstream : ∀ agent ∈ registry.agents, ∀ target ∈ agent.downstreamRoutes,
    target ∈ registry.agentIds
  reviewers : ∀ agent ∈ registry.agents, ∀ target ∈ agent.requiredReviewers,
    target ∈ registry.agentIds
  escalation : ∀ agent ∈ registry.agents, agent.escalationTarget ∈ registry.agentIds
  noSelfRoute : ∀ agent ∈ registry.agents, agent.agentId ∉ agent.downstreamRoutes
  noSelfReview : ∀ agent ∈ registry.agents, agent.agentId ≠ "super-advisor" →
    agent.agentId ∉ agent.requiredReviewers

/-- The generated file decodes to the registry. -/
def ProjectFiles.Generated (files : ProjectFiles) (registry : AgentCapabilityRegistry) :
    Prop :=
  ∃ text generated, files.agentRegistry = some text ∧ loads text = some generated ∧
    generated.equals (.dict registry.toDict) = true

/-- A report on a registry of exactly the runtime's agents, with closed routes
and the generated file up to date. -/
def AgentRegistryValidationReport.Sound (files : ProjectFiles)
    (report : AgentRegistryValidationReport) : Prop :=
  ∃ registry, report.registry = some registry ∧ registry.agentIds.Nodup ∧
    (∀ agentId, agentId ∈ registry.agentIds ↔ agentId ∈ runtimeAgentIds) ∧
    report.missingAgentCount = 0 ∧ registry.RoutesClosed ∧ files.Generated registry

/-- The agent id in the frontmatter of an agent's file. -/
def declaredAgentId (library : Library) (files : ProjectFiles) (agentId : String) :
    Option String := do
  let text ← files.agentMarkdown agentId
  let parts ← (splitFrontmatter text (files.agentPath agentId)).toOption
  match library.safeLoad parts.1 with
  | some (.dict metadata) =>
      match getOr metadata "agent_id" .none with
      | .str declared => some (strip declared)
      | _ => none
  | _ => none

/-- Every file that declares an agent id declares one of the runtime's. -/
def DeclaresRuntimeAgents (library : Library) (files : ProjectFiles) : Prop :=
  ∀ agentId ∈ runtimeAgentIds, ∀ declared, declaredAgentId library files agentId = some declared →
    declared ∈ runtimeAgentIds

theorem registryStatus_ready_iff {issues : List AgentRegistryIssue} :
    registryStatus issues = agentRegistryReady ↔ issues = [] := by
  unfold registryStatus
  split
  next empty => exact iff_of_true rfl (List.isEmpty_iff.mp empty)
  next occupied =>
    refine iff_of_false ?_ (fun empty => occupied (List.isEmpty_iff.mpr empty))
    split <;> decide

/-! What the check of an entry says about the record it stands for. -/

/-- A definition source the generated file may name. -/
structure ProjectFiles.Accepts (files : ProjectFiles) (source : String) : Prop where
  present : strip source ≠ ""
  noTraversal : "..".toList ∉ source.toList.splitOn '/'
  inside : files.insideAgentsDir source = true

/-- A record whose entry passes every check of the generated file. -/
structure AgentCapabilityRecord.Acceptable (library : Library) (files : ProjectFiles)
    (expectedIds : List String) (agent : AgentCapabilityRecord) : Prop where
  identified : strip agent.agentId ≠ ""
  responsible : agent.primaryResponsibilities ≠ []
  accepting : agent.acceptedTaskTypes ≠ []
  reviewed : agent.requiredReviewers ≠ []
  source : files.Accepts agent.definitionSource
  noSelfRoute : agent.agentId ∉ agent.downstreamRoutes
  noSelfReview : agent.agentId ≠ "super-advisor" → agent.agentId ∉ agent.requiredReviewers
  consistent : ∀ allowed ∈ agent.allowedActions, ∀ forbidden ∈ agent.forbiddenActions,
    library.lower (strip allowed) ≠ library.lower (strip forbidden)
  upstream : ∀ target ∈ agent.upstreamRoutes, target ∈ expectedIds
  downstream : ∀ target ∈ agent.downstreamRoutes, target ∈ expectedIds
  reviewers : ∀ target ∈ agent.requiredReviewers, target ∈ expectedIds
  escalation : agent.escalationTarget ∈ expectedIds

section Entry

variable {library : Library} {files : ProjectFiles} {expectedIds : List String}
  {index : Nat} {agentId : String} {item : List (Key × Value)}

private theorem isUnknown_str (text : String) :
    isUnknown expectedIds (.str text) = .ok (decide (text ∉ expectedIds)) := by
  simp only [isUnknown, Value.asKey, Key.same, Key.number?]
  by_cases member : text ∈ expectedIds
  · simp [member]
  · simp only [member, not_false_eq_true, decide_true, Except.ok.injEq, Bool.not_eq_true',
      List.any_eq_false]
    intro other inside
    simpa using fun same : text = other => member (same ▸ inside)

variable (files expectedIds index) in
theorem unknownTargetIssues_texts
    {routeKind : String} {routes : List String}
    (stored : getOr item routeKind (.list []) = texts routes) :
    ∃ issues, unknownTargetIssues files expectedIds index item routeKind = .ok issues ∧
      (issues = [] ↔ ∀ target ∈ routes, target ∈ expectedIds) := by
  let issueOf := fun target : String =>
    if target ∈ expectedIds then []
    else [entryIssue files index ("." ++ routeKind) "unknown_route_agent"
      ("generated registry references unknown agent " ++ (Value.str target).shown)]
  refine ⟨(routes.map issueOf).flatten, ?_, ?_⟩
  · have each : (routes.map Value.str).mapM (fun target => do
        let unknown ← isUnknown expectedIds target
        Except.ok (if unknown then
            [entryIssue files index ("." ++ routeKind) "unknown_route_agent"
              ("generated registry references unknown agent " ++ target.shown)]
          else [])) = .ok (routes.map issueOf) := by
      rw [mapM_eq_ok_iff, List.forall₂_map_left_iff, List.forall₂_map_right_iff,
        List.forall₂_same]
      intro target _
      by_cases member : target ∈ expectedIds <;>
        simp [isUnknown_str, issueOf, member, bind, Except.bind]
    simp only [unknownTargetIssues, stored, texts, listItems, each]
    rfl
  · simp only [List.flatten_eq_nil_iff, List.mem_map]
    constructor
    · intro nothing target member
      by_contra unknown
      have empty := nothing _ ⟨target, member, rfl⟩
      simp [issueOf, unknown] at empty
    · rintro known _ ⟨target, member, rfl⟩
      simp [issueOf, known target member]

variable (files expectedIds index) in
theorem escalationIssues_text
    {target : String} (stored : getOr item "escalation_target" .none = .str target) :
    ∃ issues, escalationIssues files expectedIds index item = .ok issues ∧
      (issues = [] ↔ target ∈ expectedIds) := by
  by_cases member : target ∈ expectedIds <;>
    simp [escalationIssues, stored, isUnknown_str, member, bind, Except.bind]

private theorem listFieldIssues_texts
    {fieldName : String} {items : List String}
    (stored : getOr item fieldName .none = texts items) :
    listFieldIssues files index agentId item fieldName = [] ↔ items ≠ [] := by
  cases items <;> simp [listFieldIssues, stored, texts]

private theorem definitionSourceIssues_text
    {source : String} (stored : getOr item "definition_source" .none = .str source) :
    definitionSourceIssues files index item = [] ↔ files.Accepts source := by
  simp only [definitionSourceIssues, stored]
  constructor
  · intro nothing
    split at nothing
    next => cases nothing
    next present =>
      split at nothing
      next => cases nothing
      next noTraversal =>
        split at nothing
        next => cases nothing
        next inside => exact ⟨present, noTraversal, by simpa using inside⟩
  · rintro ⟨present, noTraversal, inside⟩
    rw [if_neg present, if_neg noTraversal]
    simp [inside]

private theorem selfIssues_texts
    {fieldName rule message : String} {routes : List String}
    (stored : getOr item fieldName (.list []) = texts routes) :
    selfIssues files index agentId item fieldName rule message = [] ↔ agentId ∉ routes := by
  have listed : ((listItems (texts routes)).any
      (fun target => target.equals (.str agentId))) = decide (agentId ∈ routes) := by
    simp only [texts, listItems, List.any_map]
    rw [Bool.eq_iff_iff]
    simp [Value.equals]
  simp only [selfIssues, stored, listed]
  by_cases member : agentId ∈ routes <;> simp [member]

private theorem contradictoryActionIssues_texts
    {allowed forbidden : List String}
    (storedAllowed : getOr item "allowed_actions" .none = texts allowed)
    (storedForbidden : getOr item "forbidden_actions" .none = texts forbidden) :
    contradictoryActionIssues library files index item = [] ↔
      ∀ left ∈ allowed, ∀ right ∈ forbidden,
        library.lower (strip left) ≠ library.lower (strip right) := by
  simp only [contradictoryActionIssues, storedAllowed, storedForbidden, texts]
  split
  next conflict =>
    obtain ⟨_, member, same⟩ := List.any_eq_true.mp conflict
    obtain ⟨left, inside, rfl⟩ := List.mem_map.mp member
    obtain ⟨_, other, same⟩ := List.mem_map.mp (of_decide_eq_true same)
    obtain ⟨right, behind, rfl⟩ := List.mem_map.mp other
    simpa using ⟨left, inside, right, behind, same.symm⟩
  next consistent =>
    refine iff_of_true rfl (fun left inside right behind same => consistent ?_)
    refine List.any_eq_true.mpr ⟨.str left, List.mem_map_of_mem inside, ?_⟩
    exact decide_eq_true (List.mem_map.mpr ⟨.str right, List.mem_map_of_mem behind, same.symm⟩)

variable {agent : AgentCapabilityRecord}

/-- An entry equal to a record has the record's fields. -/
private theorem lookup_of_equals_record
    (json : (Value.dict item).IsJson) (equal : (Value.dict item).equals agent.toDict = true)
    {name : String} {value : Value} (listed : getItem agent.toDict name = .ok value) :
    ∃ found, lookupEntry item (.str name) = some found ∧ found.equals value = true := by
  unfold AgentCapabilityRecord.toDict at equal listed
  rw [getItem_named] at listed
  split at listed
  next found here =>
    cases listed
    exact lookup_of_equals_named json equal here
  next => cases listed

/-- An entry equal to a record passes the checks when the record is acceptable. -/
theorem entryIssues_nil_iff
    (json : (Value.dict item).IsJson) (equal : (Value.dict item).equals agent.toDict = true)
    {generatedId : Option String} :
    entryIssues library files expectedIds index (.dict item) = .ok (generatedId, []) ↔
      generatedId = some agent.agentId ∧ agent.Acceptable library files expectedIds := by
  have text : ∀ name value, getItem agent.toDict name = .ok (.str value) →
      ∀ default, getOr item name default = .str value := by
    intro name value listed default
    obtain ⟨found, looked, same⟩ := lookup_of_equals_record json equal listed
    simp [getOr, looked, equals_str_iff.mp same]
  have list : ∀ name items, getItem agent.toDict name = .ok (texts items) →
      ∀ default, getOr item name default = texts items := by
    intro name items listed default
    obtain ⟨found, looked, same⟩ := lookup_of_equals_record json equal listed
    simp [getOr, looked, equals_strings_iff.mp same, texts]
  obtain ⟨upstream, upstreamChecked, upstreamFree⟩ :=
    unknownTargetIssues_texts files expectedIds index
      (list "upstream_routes" agent.upstreamRoutes rfl _)
  obtain ⟨downstream, downstreamChecked, downstreamFree⟩ :=
    unknownTargetIssues_texts files expectedIds index
      (list "downstream_routes" agent.downstreamRoutes rfl _)
  obtain ⟨reviewers, reviewersChecked, reviewersFree⟩ :=
    unknownTargetIssues_texts files expectedIds index
      (list "required_reviewers" agent.requiredReviewers rfl _)
  obtain ⟨escalation, escalationChecked, escalationFree⟩ :=
    escalationIssues_text files expectedIds index
      (text "escalation_target" agent.escalationTarget rfl _)
  have identity := text "agent_id" agent.agentId rfl .none
  have selfReview : (if agent.agentId = "super-advisor" then []
      else selfIssues files index agent.agentId item "required_reviewers"
        "self_approval_reviewer_chain" "generated registry reviewer chain may not self-approve")
        = [] ↔ (agent.agentId ≠ "super-advisor" → agent.agentId ∉ agent.requiredReviewers) := by
    by_cases advisor : agent.agentId = "super-advisor"
    · simp [advisor]
    · simp [advisor, selfIssues_texts (list "required_reviewers" _ rfl _)]
  have checked (identified : strip agent.agentId ≠ "") :
      namedEntryIssues library files expectedIds index agent.agentId item = .ok [] ↔
        agent.Acceptable library files expectedIds := by
    simp only [namedEntryIssues, upstreamChecked, downstreamChecked, reviewersChecked,
      escalationChecked, bind, Except.bind, Except.ok.injEq, List.append_eq_nil_iff,
      List.flatMap_cons, List.flatMap_nil, and_true,
      listFieldIssues_texts (list "primary_responsibilities" _ rfl _),
      listFieldIssues_texts (list "accepted_task_types" _ rfl _),
      listFieldIssues_texts (list "required_reviewers" _ rfl _),
      definitionSourceIssues_text (text "definition_source" _ rfl _),
      selfIssues_texts (list "downstream_routes" _ rfl _), selfReview,
      contradictoryActionIssues_texts (list "allowed_actions" _ rfl _)
        (list "forbidden_actions" _ rfl _), upstreamFree, downstreamFree, reviewersFree,
      escalationFree]
    constructor
    · rintro ⟨⟨⟨⟨⟨⟨⟨⟨⟨responsible, accepting, reviewed⟩, source⟩, noSelfRoute⟩,
        noSelfReview⟩, consistent⟩, upstream⟩, downstream⟩, reviewers⟩, escalation⟩
      exact ⟨identified, responsible, accepting, reviewed, source, noSelfRoute, noSelfReview,
        consistent, upstream, downstream, reviewers, escalation⟩
    · rintro ⟨-, responsible, accepting, reviewed, source, noSelfRoute, noSelfReview,
        consistent, upstream, downstream, reviewers, escalation⟩
      exact ⟨⟨⟨⟨⟨⟨⟨⟨⟨responsible, accepting, reviewed⟩, source⟩, noSelfRoute⟩,
        noSelfReview⟩, consistent⟩, upstream⟩, downstream⟩, reviewers⟩, escalation⟩
  simp only [entryIssues, identity]
  split
  next blank =>
    refine iff_of_false ?_ (fun accepted => accepted.2.identified blank)
    simp
  next identified =>
    rw [except_bind_eq_ok, ← checked identified]
    constructor
    · rintro ⟨issues, collected, same⟩
      cases same
      exact ⟨rfl, collected⟩
    · rintro ⟨rfl, collected⟩
      exact ⟨[], collected, rfl⟩

end Entry

section Report

variable {library : Library} {files : ProjectFiles} {registry : AgentCapabilityRegistry}

/-- A file without issues equals the registry, whose records are acceptable. -/
theorem acceptable_of_payload
    {generated : Value} (json : generated.IsJson)
    (checked : validateGeneratedRegistryPayload library files generated registry = .ok []) :
    generated.equals (.dict registry.toDict) = true ∧
      ∀ agent ∈ registry.agents, agent.Acceptable library files registry.agentIds := by
  unfold validateGeneratedRegistryPayload at checked
  split at checked
  next payload =>
    simp only [except_bind_eq_ok] at checked
    obtain ⟨hashIssues, -, checkedEntries, entries, joined⟩ := checked
    have nothing := Except.ok.inj joined
    simp only [List.append_eq_nil_iff] at nothing
    obtain ⟨⟨⟨-, entryFree⟩, -⟩, stale⟩ := nothing
    have equal : (Value.dict payload).equals (.dict registry.toDict) = true := by
      by_contra different
      simp [staleIssues, different] at stale
    refine ⟨equal, fun agent member => ?_⟩
    obtain ⟨found, looked, agree⟩ := @lookup_of_equals_named _ _ json equal "agents" _ rfl
    obtain ⟨items, rfl, matched⟩ := equals_list_iff.mp agree
    obtain ⟨item, inside, itemEqual⟩ := exists_of_mem_right (equalsItems_iff.mp matched)
      (List.mem_map_of_mem (f := AgentCapabilityRecord.toDict) member)
    have itemJson : item.IsJson :=
      isJsonItems_iff.mp (isJson_of_lookup json.2.2 looked) item inside
    obtain ⟨entry, rfl, -⟩ := lookup_of_equals_dict itemEqual
    obtain ⟨index, position⟩ := List.getElem?_of_mem inside
    have listed : (Value.dict entry, index) ∈
        (listItems (getOr payload "agents" .none)).zipIdx := by
      simpa [getOr, looked, listItems, List.mk_mem_zipIdx_iff_getElem?] using position
    obtain ⟨⟨generatedId, issues⟩, counted, checkedItem⟩ :=
      exists_of_mem_left (mapM_eq_ok_iff.mp entries) listed
    obtain rfl : issues = [] := List.flatMap_eq_nil_iff.mp entryFree _ counted
    exact ((entryIssues_nil_iff itemJson itemEqual).mp checkedItem).2
  next => cases checked

/-- A registry whose agents are no duplicates has different ids. -/
theorem agentIds_nodup
    (unique : ∀ position ∈ registry.agents.zipIdx,
      duplicateIssues registry position.1 position.2 = []) : registry.agentIds.Nodup := by
  refine List.pairwise_iff_getElem.mpr (fun first second inFirst inSecond before same => ?_)
  simp only [AgentCapabilityRegistry.agentIds, List.length_map] at inFirst inSecond
  have listed : (registry.agents[second], second) ∈ registry.agents.zipIdx := by
    simp [List.mk_mem_zipIdx_iff_getElem?]
  have free := unique _ listed
  simp only [duplicateIssues, issueUnless] at free
  split at free
  next fresh =>
    refine of_decide_eq_true fresh (List.mem_map.mpr ⟨registry.agents[first], ?_, ?_⟩)
    · exact List.mem_take_iff_getElem.mpr ⟨first, by omega, rfl⟩
    · simpa [AgentCapabilityRegistry.agentIds] using same
  next => cases free

/-! A validation looks at the constants, the review chain, the generated file and
the configuration, in this order. -/

def requiredFileIssues (library : Library) (files : ProjectFiles)
    (registry : AgentCapabilityRegistry) (requireGeneratedFile : Bool) :
    Except RegistryProblem (List AgentRegistryIssue) :=
  if requireGeneratedFile then generatedFileIssues library files registry else .ok []

def optionalConfigIssues (registry : AgentCapabilityRegistry) :
    Option (List (Key × Value)) → Except RegistryProblem (List AgentRegistryIssue)
  | none => .ok []
  | some renderedConfig => renderedConfigIssues registry renderedConfig

/-- The issues of a registry by itself. -/
def registryIssues (registry : AgentCapabilityRegistry) : List AgentRegistryIssue :=
  registry.agents.zipIdx.flatMap (fun position =>
    duplicateIssues registry position.1 position.2 ++
      definitionIssues position.1 position.2) ++
  registry.agents.flatMap routeIssues

/-- The report on a registry with these further issues. -/
def reportOn (registry : AgentCapabilityRegistry)
    (chainIssues fileIssues mismatches : List AgentRegistryIssue) :
    AgentRegistryValidationReport :=
  let issues := registryIssues registry ++ chainIssues ++ fileIssues ++ mismatches
  { valid := issues.isEmpty
    status := registryStatus issues
    registry := some registry
    issues := issues
    missingAgentCount := (runtimeAgentIds.filter (· ∉ registry.agentIds)).length
    duplicateAgentCount := (registry.agents.zipIdx.flatMap (fun position =>
      duplicateIssues registry position.1 position.2)).length
    registryConfigMismatchCount := mismatches.length }

theorem checkRegistry_eq
    (renderedConfig : Option (List (Key × Value))) (requireGeneratedFile : Bool) :
    checkRegistry library files renderedConfig requireGeneratedFile registry = (do
      let chainIssues ← reviewChainIssues registry
      let fileIssues ← requiredFileIssues library files registry requireGeneratedFile
      let mismatches ← optionalConfigIssues registry renderedConfig
      .ok (reportOn registry chainIssues fileIssues mismatches)) := by
  unfold checkRegistry requiredFileIssues optionalConfigIssues
  cases requireGeneratedFile <;> cases renderedConfig <;> rfl

/-- A report is ready, and valid, exactly when it has no issues. -/
theorem ready_iff_no_issues
    {renderedConfig : Option (List (Key × Value))} {requireGeneratedFile : Bool}
    {report : AgentRegistryValidationReport}
    (validated : validateAgentRegistry library files renderedConfig requireGeneratedFile =
      .ok report) :
    (report.status = agentRegistryReady ↔ report.issues = []) ∧
      (report.valid = true ↔ report.issues = []) := by
  unfold validateAgentRegistry at validated
  split at validated
  next registry built =>
    simp only [checkRegistry_eq, except_bind_eq_ok] at validated
    obtain ⟨_, -, _, -, _, -, shape⟩ := validated
    cases shape
    exact ⟨registryStatus_ready_iff, List.isEmpty_iff⟩
  next =>
    split at validated
    next => cases validated
    next =>
      cases validated
      simp [issueUnless, agentRegistryInvalid, agentRegistryReady]

/-- What a ready report says of the registry it was built on. -/
theorem registry_of_ready
    {renderedConfig : Option (List (Key × Value))} {report : AgentRegistryValidationReport}
    (validated : validateAgentRegistry library files renderedConfig true = .ok report)
    (ready : report.status = agentRegistryReady) :
    ∃ registry, buildAgentRegistry library files = .ok registry ∧
      report.registry = some registry ∧ registry.agentIds.Nodup ∧
      report.missingAgentCount = (runtimeAgentIds.filter (· ∉ registry.agentIds)).length ∧
      (∀ agent ∈ registry.agents, agent.Acceptable library files registry.agentIds) ∧
      files.Generated registry := by
  unfold validateAgentRegistry at validated
  split at validated
  next registry built =>
    simp only [checkRegistry_eq, except_bind_eq_ok] at validated
    obtain ⟨chainIssues, -, fileIssues, generated, mismatches, -, shape⟩ := validated
    cases shape
    have nothing := registryStatus_ready_iff.mp ready
    simp only [registryIssues, List.append_eq_nil_iff, List.flatMap_eq_nil_iff] at nothing
    obtain ⟨⟨⟨⟨definitions, -⟩, -⟩, rfl⟩, -⟩ := nothing
    refine ⟨registry, built, rfl, ?_, rfl, ?_⟩
    · exact agentIds_nodup (fun position member => (definitions position member).1)
    simp only [requiredFileIssues, if_true, generatedFileIssues] at generated
    split at generated
    next => cases generated
    next text here =>
      split at generated
      next => cases generated
      next payload loaded =>
        obtain ⟨equal, acceptable⟩ := acceptable_of_payload (isJson_of_loads loaded) generated
        exact ⟨acceptable, text, payload, here, loaded, equal⟩
  next problem failed =>
    split at validated
    next => cases validated
    next =>
      cases validated
      have different : agentRegistryInvalid ≠ agentRegistryReady := by decide
      exact absurd ready different

theorem agents_of_buildAgentRegistry
    (built : buildAgentRegistry library files = .ok registry) :
    List.Forall₂ (fun agentId agent => parseAgentMarkdown library files agentId = .ok agent)
      runtimeAgentIds registry.agents := by
  simp only [buildAgentRegistry, except_bind_eq_ok] at built
  obtain ⟨agents, parsed, text, -, shape⟩ := built
  cases shape
  exact mapM_eq_ok_iff.mp parsed

/-- The id of a record is the one its file declares. -/
theorem declaredAgentId_of_parse
    {agentId : String} {agent : AgentCapabilityRecord}
    (parsed : parseAgentMarkdown library files agentId = .ok agent) :
    declaredAgentId library files agentId = some agent.agentId := by
  unfold parseAgentMarkdown at parsed
  unfold declaredAgentId
  dsimp only at parsed
  split at parsed
  next => cases parsed
  next text here =>
    obtain ⟨parts, divided, parsed⟩ := except_bind_eq_ok.mp parsed
    split at parsed
    next => cases parsed
    next metadata loaded =>
      simp only [except_bind_eq_ok] at parsed
      obtain ⟨_, -, _, -, hash, -, parsed⟩ := parsed
      simp only [agentOfMetadata, except_bind_eq_ok] at parsed
      obtain ⟨_, -, declared, identified, _, -, _, -, _, -, _, -, _, -, _, -, _, -, _, -, _, -,
        _, -, _, -, _, -, _, -, _, -, _, -, _, -, _, -, _, -, _, -, _, -, _, -, _, -, _, -, _, -,
        shape⟩ := parsed
      cases shape
      have field : getOr (setEntry (setEntry metadata (.str "definition_source")
          (.str (agentSource agentId))) (.str "definition_hash") (.str hash)) "agent_id" .none =
          getOr metadata "agent_id" .none := by
        simp only [getOr]
        rw [lookupEntry_setEntry_of_ne _ _ (by decide),
          lookupEntry_setEntry_of_ne _ _ (by decide)]
      rw [field] at identified
      unfold asString at identified
      split at identified
      next text stated =>
        split at identified
        next => cases identified
        next =>
          cases identified
          simp [here, divided, loaded, stated, Except.toOption]
      next => cases identified
    next => cases parsed

/-- The records' ids are the declared ones. -/
theorem mem_agentIds_iff_declared
    (built : buildAgentRegistry library files = .ok registry) {declared : String} :
    declared ∈ registry.agentIds ↔
      ∃ agentId ∈ runtimeAgentIds, declaredAgentId library files agentId = some declared := by
  have parsed := agents_of_buildAgentRegistry built
  constructor
  · intro member
    obtain ⟨agent, inside, rfl⟩ := List.mem_map.mp member
    obtain ⟨agentId, listed, parsed⟩ := exists_of_mem_right parsed inside
    exact ⟨agentId, listed, declaredAgentId_of_parse parsed⟩
  · rintro ⟨agentId, listed, stated⟩
    obtain ⟨agent, inside, parsed⟩ := exists_of_mem_left parsed listed
    rw [declaredAgentId_of_parse parsed] at stated
    cases stated
    exact List.mem_map_of_mem inside

/-- A ready report is sound exactly when every agent's file declares one of the
runtime's agents. -/
theorem sound_iff_of_ready
    {renderedConfig : Option (List (Key × Value))} {report : AgentRegistryValidationReport}
    (validated : validateAgentRegistry library files renderedConfig true = .ok report)
    (ready : report.status = agentRegistryReady) :
    report.Sound files ↔ DeclaresRuntimeAgents library files := by
  obtain ⟨registry, built, known, distinct, missing, acceptable, generated⟩ :=
    registry_of_ready validated ready
  constructor
  · rintro ⟨_, same, -, runtime, -⟩ agentId listed declared stated
    rw [known] at same
    cases same
    exact (runtime declared).mp
      ((mem_agentIds_iff_declared built).mpr ⟨agentId, listed, stated⟩)
  · intro declares
    have inside : registry.agentIds ⊆ runtimeAgentIds := by
      intro declared member
      obtain ⟨agentId, listed, stated⟩ := (mem_agentIds_iff_declared built).mp member
      exact declares agentId listed declared stated
    have sameLength : registry.agentIds.length = runtimeAgentIds.length := by
      rw [(agents_of_buildAgentRegistry built).length_eq]
      simp [AgentCapabilityRegistry.agentIds]
    -- As many different agents as the runtime has, all of them the runtime's.
    have permuted := (List.subperm_of_subset distinct inside).perm_of_length_le sameLength.ge
    refine ⟨registry, known, distinct, fun agentId => permuted.mem_iff, ?_, ?_, generated⟩
    · rw [missing, List.length_eq_zero_iff, List.filter_eq_nil_iff]
      intro agentId listed absent
      exact of_decide_eq_true absent (permuted.mem_iff.mpr listed)
    · exact
        { upstream := fun agent member => (acceptable agent member).upstream
          downstream := fun agent member => (acceptable agent member).downstream
          reviewers := fun agent member => (acceptable agent member).reviewers
          escalation := fun agent member => (acceptable agent member).escalation
          noSelfRoute := fun agent member => (acceptable agent member).noSelfRoute
          noSelfReview := fun agent member => (acceptable agent member).noSelfReview }

end Report

end SuperAdvisor.Registry
