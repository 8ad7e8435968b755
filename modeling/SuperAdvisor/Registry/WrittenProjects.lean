import SuperAdvisor.Registry.UncaughtErrors
import SuperAdvisor.Registry.WrittenRegistry

/-!
# Projects of written definitions

A project whose agents' files hold given definitions, with the frontmatters
written as JSON, and the registry generated from them.
-/

namespace SuperAdvisor.Registry

open Python

def frontmatterOptions : DumpOptions :=
  { sortKeys := false
    allowNan := true
    spaced := true }

theorem frontmatterOptions_plain : frontmatterOptions.Plain :=
  ⟨rfl, rfl⟩

/-- What differs between the definitions of a project's agents. -/
structure AgentDefinition where
  declaredId : String
  downstreamRoutes : List String
  requiredReviewers : List String
  mayModifyCode : Bool

/-- A text that is left as it is by `strip` and is not empty. -/
def IsTrimmed (text : String) : Prop :=
  strip text = text ∧ text ≠ ""

instance (text : String) : Decidable (IsTrimmed text) :=
  inferInstanceAs (Decidable (strip text = text ∧ text ≠ ""))

example : IsTrimmed "super-advisor" ∧ ¬IsTrimmed " super-advisor" := by
  decide +kernel

/-- A list of tools in a frontmatter; a blank text stands for no tool, as the
list may not be empty. -/
def toolTexts (tools : List String) : Value :=
  texts (if tools.isEmpty then [" "] else tools)

namespace AgentDefinition

def ownedSkills (definition : AgentDefinition) : List String :=
  (OrderedDict.get? agentSkillNames definition.declaredId).getD []

def fields (definition : AgentDefinition) : List (String × Value) :=
  [("agent_id", .str definition.declaredId),
    ("display_name", .str definition.declaredId),
    ("role_summary", .str "reviews its part"),
    ("primary_responsibilities", texts ["review"]),
    ("accepted_task_types", texts ["review"]),
    ("required_input_schema", .dict []),
    ("output_contract", .dict []),
    ("allowed_actions", texts ["review"]),
    ("forbidden_actions", texts ["deploy"]),
    ("allowed_tools", toolTexts (agentAllowedTools definition.declaredId)),
    ("forbidden_tools", toolTexts (agentDeniedTools definition.declaredId)),
    ("upstream_routes", texts ["super-advisor"]),
    ("downstream_routes", texts definition.downstreamRoutes),
    ("required_reviewers", texts definition.requiredReviewers),
    ("escalation_target", .str "super-advisor"),
    ("human_release_gate_required", .bool true),
    ("may_modify_code", .bool definition.mayModifyCode),
    ("may_commit", .bool false),
    ("may_push", .bool false),
    ("may_deploy", .bool false),
    ("may_publish_telegram", .bool false),
    ("may_access_browser", .bool false),
    ("may_access_secrets", .bool false),
    ("self_approval_allowed", .bool false),
    ("definition_version", .str packageVersion),
    ("owned_skills", texts definition.ownedSkills)]

def record (definition : AgentDefinition) (source hash : String) : AgentCapabilityRecord :=
  { agentId := definition.declaredId
    displayName := definition.declaredId
    roleSummary := "reviews its part"
    primaryResponsibilities := ["review"]
    acceptedTaskTypes := ["review"]
    requiredInputSchema := []
    outputContract := []
    allowedActions := ["review"]
    forbiddenActions := ["deploy"]
    allowedTools := agentAllowedTools definition.declaredId
    forbiddenTools := agentDeniedTools definition.declaredId
    upstreamRoutes := ["super-advisor"]
    downstreamRoutes := definition.downstreamRoutes
    requiredReviewers := definition.requiredReviewers
    escalationTarget := "super-advisor"
    humanReleaseGateRequired := true
    mayModifyCode := definition.mayModifyCode
    mayCommit := false
    mayPush := false
    mayDeploy := false
    mayPublishTelegram := false
    mayAccessBrowser := false
    mayAccessSecrets := false
    selfApprovalAllowed := false
    definitionSource := source
    definitionVersion := packageVersion
    definitionHash := hash
    ownedSkills := definition.ownedSkills.map .str }

/-- The definition as a JSON object on one line, or nothing where it has none. -/
def frontmatter (definition : AgentDefinition) : List Char :=
  (dumps frontmatterOptions (.dict (named definition.fields))).toOption.getD []

/-- The text of the agent's file. -/
def markdown (definition : AgentDefinition) : List Char :=
  frontmatterMark ++ (definition.frontmatter ++ '\n' :: (frontmatterMark ++ []))

/-- The digest of the canonical form of the definition. -/
def hash (library : Library) (definition : AgentDefinition) : String :=
  library.sha256Hex ((canonicalJson (.dict (named definition.fields))).toOption.getD [])

@[simp] theorem record_agentId (definition : AgentDefinition) (source hash : String) :
    (definition.record source hash).agentId = definition.declaredId := rfl

/-- Texts that the reader of frontmatters keeps as they are. -/
structure Tidy (definition : AgentDefinition) : Prop where
  declaredId : IsTrimmed definition.declaredId
  someDownstream : definition.downstreamRoutes ≠ []
  downstream : ∀ target ∈ definition.downstreamRoutes, IsTrimmed target
  someReviewer : definition.requiredReviewers ≠ []
  reviewers : ∀ target ∈ definition.requiredReviewers, IsTrimmed target

end AgentDefinition

private theorem asString_trimmed
    {text : String} (trimmed : IsTrimmed text) (fieldName path : String) :
    asString (.str text) fieldName path = .ok text := by
  simp [asString, trimmed.1, trimmed.2]

private theorem asStringTuple_trimmed
    {items : List String} (occupied : items ≠ [])
    (trimmed : ∀ item ∈ items, IsTrimmed item) (fieldName path : String) :
    asStringTuple (texts items) fieldName path = .ok items := by
  have kept : (items.map (fun item => strip item)).filter (fun text => text ≠ "") = items := by
    rw [List.map_congr_left (fun item member => (trimmed item member).1), List.map_id']
    exact List.filter_eq_self.mpr (fun item member => by simpa using (trimmed item member).2)
  have strings : (items.map Value.str).all Value.isStr = true := by simp [Value.isStr]
  simp only [asStringTuple, texts, strings, List.isEmpty_map, List.isEmpty_iff, occupied,
    Bool.not_true, Bool.or_false, if_false, List.map_map]
  simpa [Function.comp_def, Value.text] using kept

private theorem asStringTuple_tools
    {tools : List String} (trimmed : ∀ tool ∈ tools, IsTrimmed tool)
    (fieldName path : String) :
    asStringTuple (toolTexts tools) fieldName path = .ok tools := by
  unfold toolTexts
  cases tools with
  | nil => rfl
  | cons tool tools => exact asStringTuple_trimmed (by simp) trimmed fieldName path

private theorem trimmed_standardDeny : ∀ tool ∈ standardDeny, IsTrimmed tool := by
  decide +kernel

private theorem trimmed_allowedTools (agentId : String) :
    ∀ tool ∈ agentAllowedTools agentId, IsTrimmed tool := by
  unfold agentAllowedTools
  split
  · decide +kernel
  · split
    · decide +kernel
    · simp

private theorem trimmed_deniedTools (agentId : String) :
    ∀ tool ∈ agentDeniedTools agentId, IsTrimmed tool := by
  intro tool member
  refine trimmed_standardDeny tool ?_
  unfold agentDeniedTools at member
  split at member
  · exact List.mem_of_mem_filter member
  · split at member
    · exact List.mem_of_mem_filter member
    · split at member
      · exact member
      · cases member

section Reading

variable {library : Library} {definition : AgentDefinition}

/-- Metadata with the fields of a tidy definition is read as the record it was
written for, with its own skills. -/
theorem agentOfMetadata_tidy
    (tidy : definition.Tidy) {metadata : List (Key × Value)}
    (field : ∀ name value, name ∉ addedAgentFields → name ≠ "owned_skills" →
      OrderedDict.get? definition.fields name = some value → ∀ default,
        getOr metadata name default = value)
    {skills : List Value}
    (listed : listOf (getOr metadata "owned_skills" (.list [])) = .ok skills)
    (path source hash : String) :
    agentOfMetadata metadata path source hash =
      .ok { definition.record source hash with ownedSkills := skills } := by
  simp only [agentOfMetadata,
    field "agent_id" _ (by decide) (by decide) rfl,
    field "display_name" _ (by decide) (by decide) rfl,
    field "role_summary" _ (by decide) (by decide) rfl,
    field "primary_responsibilities" _ (by decide) (by decide) rfl,
    field "accepted_task_types" _ (by decide) (by decide) rfl,
    field "required_input_schema" _ (by decide) (by decide) rfl,
    field "output_contract" _ (by decide) (by decide) rfl,
    field "allowed_actions" _ (by decide) (by decide) rfl,
    field "forbidden_actions" _ (by decide) (by decide) rfl,
    field "allowed_tools" _ (by decide) (by decide) rfl,
    field "forbidden_tools" _ (by decide) (by decide) rfl,
    field "upstream_routes" _ (by decide) (by decide) rfl,
    field "downstream_routes" _ (by decide) (by decide) rfl,
    field "required_reviewers" _ (by decide) (by decide) rfl,
    field "escalation_target" _ (by decide) (by decide) rfl,
    field "human_release_gate_required" _ (by decide) (by decide) rfl,
    field "may_modify_code" _ (by decide) (by decide) rfl,
    field "may_commit" _ (by decide) (by decide) rfl,
    field "may_push" _ (by decide) (by decide) rfl,
    field "may_deploy" _ (by decide) (by decide) rfl,
    field "may_publish_telegram" _ (by decide) (by decide) rfl,
    field "may_access_browser" _ (by decide) (by decide) rfl,
    field "may_access_secrets" _ (by decide) (by decide) rfl,
    field "self_approval_allowed" _ (by decide) (by decide) rfl,
    field "definition_version" _ (by decide) (by decide) rfl,
    listed]
  have single : ∀ text name, IsTrimmed text →
      asStringTuple (texts [text]) name path = .ok [text] :=
    fun text name trimmed => asStringTuple_trimmed (by simp) (by simpa using trimmed) name path
  simp only [asString_trimmed tidy.declaredId,
    asString_trimmed (show IsTrimmed "reviews its part" by decide +kernel),
    asString_trimmed (show IsTrimmed "super-advisor" by decide +kernel),
    asString_trimmed (show IsTrimmed packageVersion by decide +kernel),
    single "review" _ (by decide +kernel), single "deploy" _ (by decide +kernel),
    single "super-advisor" _ (by decide +kernel),
    asStringTuple_trimmed tidy.someDownstream tidy.downstream,
    asStringTuple_trimmed tidy.someReviewer tidy.reviewers,
    asStringTuple_tools (trimmed_allowedTools _), asStringTuple_tools (trimmed_deniedTools _),
    asObject, asBool]
  rfl

/-- The fields that are stored besides do not change the others. -/
theorem getOr_stored_named
    {fields : List (String × Value)} {name : String} {value : Value}
    (apart : name ∉ addedAgentFields) (found : OrderedDict.get? fields name = some value)
    (source hash : Value) (default : Value) :
    getOr (setEntry (setEntry (named fields) (.str "definition_source") source)
      (.str "definition_hash") hash) name default = value := by
  rw [getOr_stored _ _ _ apart, getOr, lookupEntry_named, found]
  rfl

private theorem agentOfMetadata_fields
    (tidy : definition.Tidy) (path source hash : String) :
    agentOfMetadata (setEntry (setEntry (named definition.fields) (.str "definition_source")
        (.str source)) (.str "definition_hash") (.str hash)) path source hash =
      .ok (definition.record source hash) := by
  refine agentOfMetadata_tidy tidy (fun name value apart _ found =>
    getOr_stored_named apart found _ _) ?_ path source hash
  rw [getOr_stored_named (by decide) (by rfl : OrderedDict.get? definition.fields "owned_skills" =
    some (texts definition.ownedSkills))]
  rfl

/-- The first mark after a line is found behind it. -/
private theorem splitAtMark_line
    {line : List Char} (oneLine : '\n' ∉ line) (last : line.getLast? ≠ some '-')
    (rest : List Char) :
    splitAtMark (line ++ '\n' :: (frontmatterMark ++ rest)) = some (line ++ ['\n'], rest) := by
  induction line with
  | nil => rfl
  | cons symbol line induction =>
      have notMark : frontmatterMark.isPrefixOf
          (symbol :: (line ++ '\n' :: (frontmatterMark ++ rest))) = false := by
        rw [Bool.eq_false_iff, Ne, List.isPrefixOf_iff_prefix]
        rintro ⟨others, shape⟩
        -- The line break of the mark would be inside the line or right behind it.
        match line with
        | [] =>
            have same := congrArg (·[0]?) shape
            exact last (by simpa [frontmatterMark] using same.symm)
        | [second] =>
            have same := congrArg (·[1]?) shape
            exact last (by simpa [frontmatterMark] using same.symm)
        | [second, third] =>
            have same := congrArg (·[2]?) shape
            exact last (by simpa [frontmatterMark] using same.symm)
        | second :: third :: fourth :: line =>
            have same := congrArg (·[3]?) shape
            have broken : fourth = '\n' := by simpa [frontmatterMark] using same.symm
            exact oneLine (by simp [broken])
      have others : splitAtMark (line ++ '\n' :: (frontmatterMark ++ rest)) =
          some (line ++ ['\n'], rest) := by
        refine induction (fun member => oneLine (List.mem_cons_of_mem _ member)) ?_
        cases line with
        | nil => simp
        | cons second line => simpa using last
      rw [List.cons_append, splitAtMark, if_neg (by simp [notMark]), others]
      rfl

private theorem isJson_texts (items : List String) : (texts items).IsJson :=
  isJson_textList items

theorem isJson_fields (definition : AgentDefinition) :
    (Value.dict (named definition.fields)).IsJson := by
  refine isJson_named ?_ ?_
  · show (definition.fields.map Prod.fst).Nodup
    simp [AgentDefinition.fields]
  · simp only [AgentDefinition.fields, List.forall_mem_cons, toolTexts, isJson_texts, isJson_str,
      List.not_mem_nil, IsEmpty.forall_iff, implies_true, and_true, true_and]
    simp [Value.IsJson, Value.IsJsonEntries]

private theorem finite_texts (items : List String) : (texts items).FiniteNumbers := by
  refine finiteNumbersItems_iff.mpr (fun item member => ?_)
  obtain ⟨text, -, rfl⟩ := List.mem_map.mp member
  trivial

theorem finite_fields (definition : AgentDefinition) :
    (Value.dict (named definition.fields)).FiniteNumbers := by
  refine finiteNumbers_named ?_
  simp only [AgentDefinition.fields, List.forall_mem_cons, toolTexts, finite_texts,
    List.not_mem_nil, IsEmpty.forall_iff, implies_true, and_true, true_and]
  simp [Value.FiniteNumbers, Value.FiniteNumbersEntries]

private theorem getLast?_renderFields
    (spaced : Bool) (fields : List (String × JsonText.Document)) :
    (JsonText.renderFields spaced fields).getLast? = some '\x7d' := by
  induction fields with
  | nil => rfl
  | cons field fields induction =>
      obtain ⟨name, value⟩ := field
      cases fields with
      | nil => simp [JsonText.renderFields, List.getLast?_append, List.getLast?_cons]
      | cons second fields =>
          simp [JsonText.renderFields, List.getLast?_append, List.getLast?_cons, induction]

/-- A record is dumped on one line between braces. -/
theorem dumps_line
    {fields : List (String × Value)} (json : (Value.dict (named fields)).IsJson) :
    ∃ symbols, dumps frontmatterOptions (.dict (named fields)) = .ok ('\x7b' :: symbols) ∧
      '\n' ∉ symbols ∧ symbols.getLast? = some '\x7d' := by
  obtain ⟨document, converted⟩ := toDocument_of_isJson frontmatterOptions_plain json
  have dumped : dumps frontmatterOptions (.dict (named fields)) =
      .ok (JsonText.render true document) := by
    simp only [dumps, converted]
    rfl
  rw [toDocument_named_plain frontmatterOptions_plain] at converted
  obtain ⟨documents, -, rfl⟩ := except_map_eq_ok.mp converted
  refine ⟨_, dumped, ?_, getLast?_renderFields true documents⟩
  intro member
  have printable := JsonText.render_printable true (.object documents) _
    (List.mem_cons_of_mem _ member)
  exact absurd printable (by decide)

/-- A frontmatter is one line that begins with a brace and ends with one. -/
private theorem frontmatter_line (definition : AgentDefinition) :
    dumps frontmatterOptions (.dict (named definition.fields)) = .ok definition.frontmatter ∧
      '\n' ∉ definition.frontmatter ∧ definition.frontmatter.getLast? ≠ some '-' ∧
      definition.frontmatter.head? = some '\x7b' := by
  obtain ⟨symbols, dumped, oneLine, last⟩ := dumps_line (isJson_fields definition)
  have shape : definition.frontmatter = '\x7b' :: symbols := by
    simp [AgentDefinition.frontmatter, dumped, Except.toOption]
  rw [shape]
  refine ⟨dumped, by simp [oneLine], ?_, rfl⟩
  rw [List.getLast?_cons, last]
  decide

theorem AgentDefinition.frontmatter_head (definition : AgentDefinition) :
    definition.frontmatter.head? = some '\x7b' :=
  (frontmatter_line definition).2.2.2

private theorem exists_canonicalJson
    {value : Value} (json : value.IsJson) (finite : value.FiniteNumbers) :
    ∃ text, canonicalJson value = .ok text := by
  have strict : canonicalOptions.allowNan = false := rfl
  obtain ⟨document, converted⟩ := (exists_toDocument_iff rfl strict value json).mpr finite
  exact ⟨_, by rw [canonicalJson, dumps, converted]; rfl⟩

private theorem hash_of_fields (definition : AgentDefinition) (source : String) :
    agentDefinitionHash library (setEntry (named definition.fields)
      (.str "definition_source") (.str source)) = .ok (definition.hash library) := by
  have sanitized : withoutFields addedAgentFields (setEntry (named definition.fields)
      (.str "definition_source") (.str source)) = named definition.fields := rfl
  obtain ⟨text, dumped⟩ := exists_canonicalJson (isJson_fields definition)
    (finite_fields definition)
  simp [agentDefinitionHash, sanitized, dumped, AgentDefinition.hash, bind, Except.bind,
    Except.mapError, Except.toOption]

theorem splitFrontmatter_line
    {line : List Char} (oneLine : '\n' ∉ line) (last : line.getLast? ≠ some '-')
    (path : String) :
    splitFrontmatter (frontmatterMark ++ (line ++ '\n' :: (frontmatterMark ++ []))) path =
      .ok (line ++ ['\n'], []) := by
  have marked : frontmatterMark.isPrefixOf
      (frontmatterMark ++ (line ++ '\n' :: (frontmatterMark ++ []))) = true :=
    List.isPrefixOf_iff_prefix.mpr (List.prefix_append _ _)
  have rest : (frontmatterMark ++ (line ++ '\n' :: (frontmatterMark ++ []))).drop
      frontmatterMark.length = line ++ '\n' :: (frontmatterMark ++ []) := List.drop_left
  simp only [splitFrontmatter, marked, if_true, rest, splitAtMark_line oneLine last]

theorem splitFrontmatter_markdown (definition : AgentDefinition) (path : String) :
    splitFrontmatter definition.markdown path = .ok (definition.frontmatter ++ ['\n'], []) := by
  obtain ⟨-, oneLine, last, -⟩ := frontmatter_line definition
  exact splitFrontmatter_line oneLine last path

/-- A frontmatter is read as the fields it was written from. -/
theorem loads_frontmatter (definition : AgentDefinition) :
    loads (definition.frontmatter ++ ['\n']) = some (.dict (named definition.fields)) := by
  rw [loads_dumps_line (frontmatter_line definition).1,
    reload_of_isJson frontmatterOptions_plain (isJson_fields definition)]

/-- A file whose frontmatter passes every step is parsed. -/
theorem parseAgentMarkdown_of_steps
    {files : ProjectFiles} {agentId definitionHash : String} {text : List Char}
    {parts : List Char × List Char} {metadata : List (Key × Value)}
    {agent : AgentCapabilityRecord} (written : files.agentMarkdown agentId = some text)
    (divided : splitFrontmatter text (files.agentPath agentId) = .ok parts)
    (loaded : library.safeLoad parts.1 = some (.dict metadata))
    (known : refuseUnknownFields metadata (files.agentPath agentId) = .ok ())
    (complete : refuseMissingFields metadata (files.agentPath agentId) = .ok ())
    (hashed : agentDefinitionHash library (setEntry metadata (.str "definition_source")
      (.str (agentSource agentId))) = .ok definitionHash)
    (read : agentOfMetadata (setEntry (setEntry metadata (.str "definition_source")
        (.str (agentSource agentId))) (.str "definition_hash") (.str definitionHash))
      (files.agentPath agentId) (agentSource agentId) definitionHash = .ok agent) :
    parseAgentMarkdown library files agentId = .ok agent := by
  simp only [parseAgentMarkdown, written, divided, loaded, known, complete, hashed, bind,
    Except.bind]
  exact read

/-- The file of a tidy definition is parsed to its record. -/
theorem parseAgentMarkdown_markdown
    (reads : library.safeLoad (definition.frontmatter ++ ['\n']) =
      loads (definition.frontmatter ++ ['\n'])) {files : ProjectFiles} {agentId : String}
    (tidy : definition.Tidy) (written : files.agentMarkdown agentId = some definition.markdown) :
    parseAgentMarkdown library files agentId =
      .ok (definition.record (agentSource agentId) (definition.hash library)) := by
  have loaded := reads.trans (loads_frontmatter definition)
  exact parseAgentMarkdown_of_steps written (splitFrontmatter_markdown definition _) loaded rfl
    rfl (hash_of_fields definition _) (agentOfMetadata_fields tidy _ _ _)

end Reading

/-! A project with these definitions. -/

section Project

variable (library : Library) (definitions : String → AgentDefinition)

/-- The files before the registry is written. -/
def definedFiles : ProjectFiles :=
  { rootDir := "/srv/openclaw"
    agentMarkdown := fun agentId =>
      if agentId ∈ runtimeAgentIds then some (definitions agentId).markdown else none
    agentRegistry := none
    insideAgentsDir := fun source => "workspace/agents/".toList.isPrefixOf source.toList }

/-- The records of the definitions, in the order of the runtime's agents. -/
def definedAgents : List AgentCapabilityRecord :=
  runtimeAgentIds.map (fun agentId =>
    (definitions agentId).record (agentSource agentId) ((definitions agentId).hash library))

/-- The files after the registry is written. -/
def writtenFiles : ProjectFiles :=
  { definedFiles definitions with
    agentRegistry := do
      let registry ← (buildAgentRegistry library (definedFiles definitions)).toOption
      let text ← (dumpsIndented frontmatterOptions (.dict registry.toDict)).toOption
      some (text ++ ['\n']) }

/-- Definitions that agree with the constants and whose routes stay among the
declared agents and the runtime's. -/
structure DefinitionsFit : Prop where
  tidy : ∀ agentId ∈ runtimeAgentIds, (definitions agentId).Tidy
  distinct : (runtimeAgentIds.map (fun agentId => (definitions agentId).declaredId)).Nodup
  advisor : (definitions "super-advisor").declaredId = "super-advisor"
  coder : (definitions "blueprint-coder").declaredId = "blueprint-coder"
  coding : ∀ agentId ∈ runtimeAgentIds,
    (definitions agentId).declaredId = "blueprint-coder" →
      (definitions agentId).mayModifyCode = true ∧
        (definitions agentId).requiredReviewers =
          ["system-coder-auditor", "security-compliance-agent", "super-advisor"]
  routed : ∀ agentId ∈ runtimeAgentIds, ∀ target ∈
    (definitions agentId).downstreamRoutes ++ (definitions agentId).requiredReviewers,
      target ∈ runtimeAgentIds ∧ (definitions target).declaredId = target
  noSelfRoute : ∀ agentId ∈ runtimeAgentIds,
    (definitions agentId).declaredId ∉ (definitions agentId).downstreamRoutes
  noSelfReview : ∀ agentId ∈ runtimeAgentIds,
    (definitions agentId).declaredId ≠ "super-advisor" →
      (definitions agentId).declaredId ∉ (definitions agentId).requiredReviewers

variable {library definitions}

private theorem isJson_record (definition : AgentDefinition) (source hash : String) :
    (definition.record source hash).toDict.IsJson := by
  refine isJson_named ?_ ?_
  · show (List.map Prod.fst _).Nodup
    simp
  · simp only [List.forall_mem_cons, AgentDefinition.record, isJson_texts, isJson_str,
      List.not_mem_nil, IsEmpty.forall_iff, implies_true, and_true, true_and]
    refine ⟨?_, ?_, trivial, trivial, trivial, trivial, trivial, trivial, trivial, trivial,
      trivial, isJson_texts _⟩
    · simp [Value.IsJson, Value.IsJsonEntries]
    · simp [Value.IsJson, Value.IsJsonEntries]

private theorem finite_record (definition : AgentDefinition) (source hash : String) :
    (definition.record source hash).toDict.FiniteNumbers := by
  refine finiteNumbers_named ?_
  simp only [List.forall_mem_cons, AgentDefinition.record, finite_texts,
    List.not_mem_nil, IsEmpty.forall_iff, implies_true, and_true, true_and]
  have skills : (Value.list (definition.ownedSkills.map .str)).FiniteNumbers :=
    finite_texts _
  simp [Value.FiniteNumbers, Value.FiniteNumbersEntries] at skills ⊢
  exact skills

private theorem agents_json :
    (Value.list ((definedAgents library definitions).map
      AgentCapabilityRecord.toDict)).IsJson := by
  refine isJsonItems_iff.mpr (fun item member => ?_)
  obtain ⟨agent, inside, rfl⟩ := List.mem_map.mp member
  obtain ⟨agentId, -, rfl⟩ := List.mem_map.mp inside
  exact isJson_record _ _ _

private theorem agents_finite :
    (Value.list ((definedAgents library definitions).map
      AgentCapabilityRecord.toDict)).FiniteNumbers := by
  refine finiteNumbersItems_iff.mpr (fun item member => ?_)
  obtain ⟨agent, inside, rfl⟩ := List.mem_map.mp member
  obtain ⟨agentId, -, rfl⟩ := List.mem_map.mp inside
  exact finite_record _ _ _

/-- A registry of the defined agents is a JSON value. -/
private theorem registry_json
    {registry : AgentCapabilityRegistry}
    (agents : registry.agents = definedAgents library definitions) :
    (Value.dict registry.toDict).IsJson ∧ (Value.dict registry.toDict).FiniteNumbers := by
  refine ⟨isJson_named ?_ ?_, finiteNumbers_named ?_⟩
  · show (List.map Prod.fst _).Nodup
    simp
  · simp only [List.forall_mem_cons, isJson_str, List.not_mem_nil, IsEmpty.forall_iff,
      implies_true, and_true, true_and, agents]
    exact ⟨trivial, trivial, agents_json⟩
  · simp only [List.forall_mem_cons, List.not_mem_nil, IsEmpty.forall_iff, implies_true,
      and_true, agents]
    exact ⟨trivial, trivial, trivial, trivial, trivial, trivial, trivial, trivial,
      agents_finite⟩

/-- The registry of the defined agents is built. -/
theorem exists_definedRegistry
    (reads : library.safeLoad = loads) (tidy : ∀ agentId ∈ runtimeAgentIds,
      (definitions agentId).Tidy) :
    ∃ registry, buildAgentRegistry library (definedFiles definitions) = .ok registry ∧
      registry.agents = definedAgents library definitions := by
  have parsed : ∀ agentId ∈ runtimeAgentIds,
      parseAgentMarkdown library (definedFiles definitions) agentId =
        .ok ((definitions agentId).record (agentSource agentId)
          ((definitions agentId).hash library)) :=
    fun agentId member => parseAgentMarkdown_markdown (by rw [reads]) (tidy agentId member)
      (by simp [definedFiles, member])
  obtain ⟨registry, built⟩ := exists_registry_iff.mpr
    (fun agentId member => ⟨_, parsed agentId member⟩)
  refine ⟨registry, built, ?_⟩
  have all : runtimeAgentIds.mapM (parseAgentMarkdown library (definedFiles definitions)) =
      .ok (definedAgents library definitions) := by
    rw [mapM_eq_ok_iff, definedAgents, List.forall₂_map_right_iff, List.forall₂_same]
    exact parsed
  have again := mapM_eq_ok_iff.mpr (agents_of_buildAgentRegistry built)
  exact Except.ok.inj (again.symm.trans all)

private theorem duplicateIssues_of_nodup
    {registry : AgentCapabilityRegistry} (distinct : registry.agentIds.Nodup)
    {position : AgentCapabilityRecord × Nat} (listed : position ∈ registry.agents.zipIdx) :
    duplicateIssues registry position.1 position.2 = [] := by
  obtain ⟨agent, index⟩ := position
  obtain ⟨inside, rfl⟩ := List.getElem?_eq_some_iff.mp
    (List.mk_mem_zipIdx_iff_getElem?.mp listed)
  have fresh : registry.agents[index].agentId ∉
      (registry.agents.take index).map AgentCapabilityRecord.agentId := by
    intro member
    obtain ⟨other, taken, same⟩ := List.mem_map.mp member
    obtain ⟨earlier, before, rfl⟩ := List.mem_take_iff_getElem.mp taken
    have unequal := List.pairwise_iff_getElem.mp distinct earlier index
      (by simp [AgentCapabilityRegistry.agentIds]; omega)
      (by simpa [AgentCapabilityRegistry.agentIds] using inside) (by omega)
    exact unequal (by simpa [AgentCapabilityRegistry.agentIds] using same)
  simp only [duplicateIssues, issueUnless, fresh, not_false_eq_true, decide_true, if_true]

private theorem definitionIssues_record
    {definition : AgentDefinition} {source hash : String} {index : Nat}
    (coding : definition.declaredId = "blueprint-coder" → definition.mayModifyCode = true) :
    definitionIssues (definition.record source hash) index = [] := by
  have skills : Value.equalsItems (definition.ownedSkills.map .str)
      (definition.ownedSkills.map .str) = true := equalsItems_strings _
  simp only [AgentDefinition.ownedSkills] at skills
  by_cases coder : definition.declaredId = "blueprint-coder"
  · simp [definitionIssues, AgentDefinition.record, AgentDefinition.ownedSkills, issueUnless,
      skills, coding coder]
  · simp [definitionIssues, AgentDefinition.record, AgentDefinition.ownedSkills, issueUnless,
      skills, coder]

private theorem routeIssues_record
    {definition : AgentDefinition} {source hash : String}
    (routed : ∀ target ∈ definition.downstreamRoutes ++ definition.requiredReviewers,
      target ∈ runtimeAgentIds) :
    routeIssues (definition.record source hash) = [] := by
  have advisor : "super-advisor" ∈ runtimeAgentIds := by simp [runtimeAgentIds]
  simp only [routeIssues, AgentDefinition.record, List.flatMap_cons, List.flatMap_nil,
    List.append_nil, List.append_eq_nil_iff, List.flatMap_eq_nil_iff, issueUnless, advisor,
    decide_true, if_true, true_and]
  refine ⟨?_, ?_⟩
  · intro target member
    simp [routed target (List.mem_append_left _ member)]
  · intro target member
    simp [routed target (List.mem_append_right _ member)]

private theorem accepts_agentSource (definitions : String → AgentDefinition) :
    ∀ agentId ∈ runtimeAgentIds, (writtenFiles library definitions).Accepts
      (agentSource agentId) := by
  have sources : ∀ agentId ∈ runtimeAgentIds, strip (agentSource agentId) ≠ "" ∧
      "..".toList ∉ (agentSource agentId).toList.splitOn '/' ∧
        "workspace/agents/".toList.isPrefixOf (agentSource agentId).toList = true := by
    decide +kernel
  intro agentId member
  obtain ⟨present, noTraversal, inside⟩ := sources agentId member
  exact ⟨present, noTraversal, inside⟩

theorem agentIds_of_defined
    {registry : AgentCapabilityRegistry}
    (agents : registry.agents = definedAgents library definitions) :
    registry.agentIds =
      runtimeAgentIds.map (fun agentId => (definitions agentId).declaredId) := by
  rw [AgentCapabilityRegistry.agentIds, agents, definedAgents, List.map_map]
  rfl

/-- A registry of fitting definitions is clean. -/
private theorem clean_of_fit
    (lowers : library.lower = asciiLower) (fit : DefinitionsFit definitions)
    {registry : AgentCapabilityRegistry}
    (agents : registry.agents = definedAgents library definitions)
    (signed : strip registry.registryHash ≠ "") :
    registry.Clean library (writtenFiles library definitions) := by
  have ids := agentIds_of_defined agents
  have routed : ∀ agentId ∈ runtimeAgentIds, ∀ target ∈
      (definitions agentId).downstreamRoutes ++ (definitions agentId).requiredReviewers,
        target ∈ registry.agentIds := by
    intro agentId listed target member
    obtain ⟨runtime, declared⟩ := fit.routed agentId listed target member
    rw [ids]
    exact List.mem_map.mpr ⟨target, runtime, declared⟩
  have advisor : "super-advisor" ∈ registry.agentIds := by
    rw [ids]
    exact List.mem_map.mpr ⟨_, by simp [runtimeAgentIds], fit.advisor⟩
  have distinct : registry.agentIds.Nodup := ids ▸ fit.distinct
  obtain ⟨json, finite⟩ := registry_json agents
  refine ⟨?_, ?_, ?_, advisor, signed, json, finite⟩
  · simp only [registryIssues, List.append_eq_nil_iff, List.flatMap_eq_nil_iff]
    refine ⟨fun position listed => ⟨duplicateIssues_of_nodup distinct listed, ?_⟩, ?_⟩
    · have member := List.mem_map_of_mem (f := Prod.fst) listed
      rw [List.zipIdx_map_fst, agents] at member
      obtain ⟨agentId, runtime, same⟩ := List.mem_map.mp member
      rw [← same]
      exact definitionIssues_record (fun coder => (fit.coding agentId runtime coder).1)
    · rw [agents]
      intro agent member
      obtain ⟨agentId, runtime, rfl⟩ := List.mem_map.mp member
      exact routeIssues_record
        (fun target routes => (fit.routed agentId runtime target routes).1)
  · cases found : registry.agents.find? (fun agent => agent.agentId = "blueprint-coder") with
    | none =>
        have missing := List.find?_eq_none.mp found
          ((definitions "blueprint-coder").record (agentSource "blueprint-coder")
            ((definitions "blueprint-coder").hash library))
          (agents ▸ List.mem_map.mpr ⟨_, by simp [runtimeAgentIds], rfl⟩)
        exact absurd (decide_eq_true fit.coder) missing
    | some coder =>
        have member := List.mem_of_find?_eq_some found
        rw [agents] at member
        obtain ⟨agentId, runtime, rfl⟩ := List.mem_map.mp member
        have identified := List.find?_some found
        have reviewers := (fit.coding agentId runtime (of_decide_eq_true identified)).2
        simp [reviewChainIssues, AgentCapabilityRegistry.getAgentCapability, found, bind,
          Except.bind, AgentDefinition.record, reviewers, issueUnless]
  · rw [agents]
    intro agent member
    obtain ⟨agentId, runtime, rfl⟩ := List.mem_map.mp member
    have tidy := fit.tidy agentId runtime
    exact
      { identified := by
          show strip (definitions agentId).declaredId ≠ ""
          rw [tidy.declaredId.1]
          exact tidy.declaredId.2
        responsible := by simp [AgentDefinition.record]
        accepting := by simp [AgentDefinition.record]
        reviewed := tidy.someReviewer
        source := accepts_agentSource definitions agentId runtime
        noSelfRoute := fit.noSelfRoute agentId runtime
        noSelfReview := fit.noSelfReview agentId runtime
        consistent := by
          have apart : asciiLower (strip "review") ≠ asciiLower (strip "deploy") := by
            decide +kernel
          simpa [AgentDefinition.record, lowers] using apart
        upstream := by simpa [AgentDefinition.record] using advisor
        downstream := fun target member =>
          routed agentId runtime target (List.mem_append_left _ member)
        reviewers := fun target member =>
          routed agentId runtime target (List.mem_append_right _ member)
        escalation := advisor }

/-- A written project with fitting definitions is ready, with the configuration
rendered from its registry. -/
theorem ready_of_fit
    (reads : library.safeLoad = loads) (lowers : library.lower = asciiLower)
    (signs : ∀ text, strip (library.sha256Hex text) ≠ "") (fit : DefinitionsFit definitions) :
    ∃ registry report, registry.agents = definedAgents library definitions ∧
      validateAgentRegistry library (writtenFiles library definitions)
        (some (renderedConfigOf registry)) true = .ok report ∧
      report.registry = some registry ∧ report.status = agentRegistryReady := by
  obtain ⟨registry, built, agents⟩ := exists_definedRegistry reads fit.tidy
  have signed : strip registry.registryHash ≠ "" := by
    simp only [buildAgentRegistry, except_bind_eq_ok] at built
    obtain ⟨_, -, text, -, shape⟩ := built
    cases shape
    exact signs text
  have clean := clean_of_fit lowers fit agents signed
  obtain ⟨document, converted⟩ := toDocument_of_isJson frontmatterOptions_plain clean.json
  have dumped : dumpsIndented frontmatterOptions (.dict registry.toDict) =
      .ok (JsonText.renderIndented 0 document) := by
    rw [dumpsIndented, converted]
    rfl
  have written : (writtenFiles library definitions).agentRegistry =
      some (JsonText.renderIndented 0 document ++ ['\n']) := by
    simp [writtenFiles, built, dumped, Except.toOption]
  have rebuilt : buildAgentRegistry library (writtenFiles library definitions) =
      .ok registry := built
  obtain ⟨report, validated, known, ready⟩ :=
    ready_of_written rebuilt clean frontmatterOptions_plain dumped written
  exact ⟨registry, report, agents, validated, known, ready⟩

end Project

end SuperAdvisor.Registry
