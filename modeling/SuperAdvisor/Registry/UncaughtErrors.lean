import SuperAdvisor.Registry.Readiness

/-!
# What a validation lets through

Building the registry may raise: only missing files and wrong values are caught.
After that nothing is.  The inputs that raise are told apart here: a frontmatter
whose keys or values have no JSON form, a project without a coder, and files or
configurations that hold values without a hash or without items.
-/

namespace SuperAdvisor.Registry

open Python

/-- A value `tuple` accepts. -/
def IsIterable (value : Value) : Prop :=
  ∃ items, listOf value = .ok items

/-- The keys a frontmatter should not have. -/
def unknownKeys (metadata : List (Key × Value)) : List Key :=
  (metadata.map Prod.fst).filter
    (fun key => !allowedAgentFields.any (fun name => key.same (.str name)))

/-- The fields a frontmatter lacks. -/
def missingKeys (metadata : List (Key × Value)) : List String :=
  requiredAgentFields.filter
    (fun field => field ∉ addedAgentFields ∧ hasField metadata field = false)

/-- A frontmatter whose reading raises an exception that is not caught. -/
inductive FrontmatterCrashes (metadata : List (Key × Value)) : Prop where
  | keys {key : Key} (unknown : key ∈ unknownKeys metadata) (other : Key.str? key = none)
  | values (known : unknownKeys metadata = []) (complete : missingKeys metadata = [])
      (noJson : canonicalJson (.dict metadata) = .error .typeError)
  | skills (known : unknownKeys metadata = []) (complete : missingKeys metadata = [])
      (json : ∃ text, canonicalJson (.dict metadata) = .ok text)
      (single : ¬IsIterable (getOr metadata "owned_skills" (.list [])))

/-- An agent's file with such a frontmatter. -/
def DefinitionCrashes (library : Library) (files : ProjectFiles) (agentId : String) : Prop :=
  ∃ text parts metadata, files.agentMarkdown agentId = some text ∧
    splitFrontmatter text (files.agentPath agentId) = .ok parts ∧
    library.safeLoad parts.1 = some (.dict metadata) ∧ FrontmatterCrashes metadata

/-- The fields the registry hash covers. -/
def hashedFields : List String :=
  ["schema_version", "registry_version", "generated_from", "generated_path",
    "generated_by", "agent_count", "skill_count", "agents"]

/-- An entry of the generated file that names an agent by a value without a
hash. -/
inductive EntryCrashes (item : List (Key × Value)) : Prop where
  | target {agentId routeKind : String} {target : Value}
      (identified : getOr item "agent_id" .none = .str agentId) (named : strip agentId ≠ "")
      (kind : routeKind ∈ ["upstream_routes", "downstream_routes", "required_reviewers"])
      (listed : target ∈ listItems (getOr item routeKind (.list [])))
      (unhashable : target.asKey = none)
  | escalation {agentId : String}
      (identified : getOr item "agent_id" .none = .str agentId) (named : strip agentId ≠ "")
      (unhashable : (getOr item "escalation_target" .none).asKey = none)

/-- A generated file whose check raises. -/
inductive PayloadCrashes (payload : List (Key × Value)) : Prop where
  | hash {registryHash name : String}
      (signed : getOr payload "registry_hash" .none = .str registryHash)
      (present : strip registryHash ≠ "") (covered : name ∈ hashedFields)
      (infinite : ¬(getOr payload name .none).FiniteNumbers)
  | entry {item : List (Key × Value)}
      (listed : .dict item ∈ listItems (getOr payload "agents" .none))
      (crashes : EntryCrashes item)

/-- A configured agent whose skills or allowed tools are no sequence. -/
inductive ConfigAgentCrashes (configAgent : List (Key × Value)) : Prop where
  | skills (single : ¬IsIterable (getOr configAgent "skills" (.list [])))
  | tools {tools : List (Key × Value)} (given : getOr configAgent "tools" (.dict []) = .dict tools)
      (single : ¬IsIterable (getOr tools "allow" (.list [])))

/-- A configuration with such an agent under one of these ids. -/
def ConfigCrashes (agentIds : List String) (renderedConfig : List (Key × Value)) : Prop :=
  ∃ agents agentList agentId configAgent,
    getOr renderedConfig "agents" .none = .dict agents ∧
    getOr agents "list" .none = .list agentList ∧ agentId ∈ agentIds ∧
    OrderedDict.get? (configAgents agentList) agentId = some configAgent ∧
    ConfigAgentCrashes configAgent

/-- The inputs on which a validation raises. -/
inductive ValidationCrashes (library : Library) (files : ProjectFiles)
    (renderedConfig : Option (List (Key × Value))) (requireGeneratedFile : Bool) : Prop where
  | definition {before after : List String} {agentId : String}
      (order : runtimeAgentIds = before ++ agentId :: after)
      (accepted : ∀ earlier ∈ before, ∃ agent,
        parseAgentMarkdown library files earlier = .ok agent)
      (crashes : DefinitionCrashes library files agentId)
  | coder
      (accepted : ∀ agentId ∈ runtimeAgentIds, ∃ agent,
        parseAgentMarkdown library files agentId = .ok agent)
      (missing : ∀ agentId ∈ runtimeAgentIds,
        declaredAgentId library files agentId ≠ some "blueprint-coder")
  | file {text : List Char} {payload : List (Key × Value)}
      (accepted : ∀ agentId ∈ runtimeAgentIds, ∃ agent,
        parseAgentMarkdown library files agentId = .ok agent)
      (required : requireGeneratedFile = true) (present : files.agentRegistry = some text)
      (loaded : loads text = some (.dict payload)) (crashes : PayloadCrashes payload)
  | config {config : List (Key × Value)}
      (accepted : ∀ agentId ∈ runtimeAgentIds, ∃ agent,
        parseAgentMarkdown library files agentId = .ok agent)
      (given : renderedConfig = some config)
      (crashes : ConfigCrashes (runtimeAgentIds.filterMap (declaredAgentId library files)) config)

/-- Every frontmatter is loaded as some value. -/
def ProjectFiles.Loadable (library : Library) (files : ProjectFiles) : Prop :=
  ∀ agentId ∈ runtimeAgentIds, ∀ text parts, files.agentMarkdown agentId = some text →
    splitFrontmatter text (files.agentPath agentId) = .ok parts →
      ∃ value, library.safeLoad parts.1 = some value

/-! Reading a definition. -/

section Definitions

variable {library : Library} {files : ProjectFiles}

/-- A computation that raises caught exceptions only. -/
private def OnlyCaught {α : Type} (result : Except RegistryProblem α) : Prop :=
  ∀ problem, result = .error problem → problem.caught ≠ none

private theorem onlyCaught_ok {α : Type} (value : α) :
    OnlyCaught (.ok value : Except RegistryProblem α) := by
  intro problem raised
  cases raised

private theorem onlyCaught_raiseValue {α : Type} (message : String) :
    OnlyCaught (raiseValue message : Except RegistryProblem α) := by
  intro problem raised
  cases raised
  simp [RegistryProblem.caught]

private theorem onlyCaught_bind
    {α β : Type} {first : Except RegistryProblem α} {next : α → Except RegistryProblem β}
    (head : OnlyCaught first) (tail : ∀ value, OnlyCaught (next value)) :
    OnlyCaught (first >>= next) := by
  cases first with
  | error problem =>
      intro other raised
      cases raised
      exact head problem rfl
  | ok value => exact tail value

private theorem onlyCaught_asString (value : Value) (fieldName path : String) :
    OnlyCaught (asString value fieldName path) := by
  unfold asString
  split
  · split
    · exact onlyCaught_raiseValue _
    · exact onlyCaught_ok _
  · exact onlyCaught_raiseValue _

private theorem onlyCaught_asBool (value : Value) (fieldName path : String) :
    OnlyCaught (asBool value fieldName path) := by
  unfold asBool
  split
  · exact onlyCaught_ok _
  · exact onlyCaught_raiseValue _

private theorem onlyCaught_asStringTuple (value : Value) (fieldName path : String) :
    OnlyCaught (asStringTuple value fieldName path) := by
  unfold asStringTuple
  split
  · split
    · exact onlyCaught_raiseValue _
    · exact onlyCaught_ok _
  · exact onlyCaught_raiseValue _

private theorem onlyCaught_asObject (value : Value) (fieldName path : String) :
    OnlyCaught (asObject value fieldName path) := by
  unfold asObject
  split
  · exact onlyCaught_ok _
  · exact onlyCaught_raiseValue _

/-- Only converting the owned skills raises an exception that is not caught. -/
private theorem agentOfMetadata_caught
    {metadata : List (Key × Value)} {path source hash : String}
    (iterable : IsIterable (getOr metadata "owned_skills" (.list []))) :
    OnlyCaught (agentOfMetadata metadata path source hash) := by
  obtain ⟨skills, listed⟩ := iterable
  unfold agentOfMetadata
  refine onlyCaught_bind ?_ (fun _ => ?_)
  · rw [listed]
    exact onlyCaught_ok _
  repeat' refine onlyCaught_bind ?_ (fun _ => ?_)
  all_goals first
    | exact onlyCaught_asString _ _ _
    | exact onlyCaught_asBool _ _ _
    | exact onlyCaught_asStringTuple _ _ _
    | exact onlyCaught_asObject _ _ _
    | exact onlyCaught_ok _

private theorem listOf_error {value : Value} (single : ¬IsIterable value) :
    ∃ message, listOf value = .error (.typeError message) := by
  cases value with
  | list items => exact absurd ⟨items, rfl⟩ single
  | tuple items => exact absurd ⟨items, rfl⟩ single
  | str text => exact absurd ⟨_, rfl⟩ single
  | dict entries => exact absurd ⟨_, rfl⟩ single
  | _ => exact ⟨_, rfl⟩

private theorem onlyCaught_splitFrontmatter (text : List Char) (path : String) :
    OnlyCaught (splitFrontmatter text path) := by
  unfold splitFrontmatter
  split
  · split
    · exact onlyCaught_ok _
    · exact onlyCaught_raiseValue _
  · exact onlyCaught_raiseValue _

/-- The entry of a field that is left out does not matter. -/
private theorem withoutFields_setEntry
    {names : List String} {name : String} (left : name ∈ names)
    (metadata : List (Key × Value)) (value : Value) :
    withoutFields names (setEntry metadata (.str name) value) =
      withoutFields names metadata := by
  have dropped : ∀ key : Key, key.same (.str name) = true →
      (!names.any (fun other => key.same (.str other))) = false := by
    intro key same
    rw [Bool.not_eq_false', List.any_eq_true]
    exact ⟨name, left, same⟩
  induction metadata with
  | nil =>
      simp only [setEntry, withoutFields, List.filter_cons, List.filter_nil,
        dropped (.str name) (by simp [Key.same, Key.number?])]
      rfl
  | cons entry metadata induction =>
      obtain ⟨key, old⟩ := entry
      unfold withoutFields at induction ⊢
      by_cases here : key.same (.str name) = true
      · simp [setEntry, here, dropped key here]
      · simp [setEntry, here, List.filter_cons, induction]

/-- Known fields are not left out of the hashed definition. -/
private theorem withoutFields_known
    {metadata : List (Key × Value)} (known : unknownKeys metadata = []) :
    withoutFields addedAgentFields metadata = metadata := by
  refine List.filter_eq_self.mpr (fun entry member => ?_)
  have allowed := List.filter_eq_nil_iff.mp known entry.1 (List.mem_map_of_mem member)
  simp only [Bool.not_eq_true', Bool.not_eq_false, List.any_eq_true] at allowed
  obtain ⟨name, listed, same⟩ := allowed
  have apart : ∀ name ∈ allowedAgentFields, name ∉ addedAgentFields := by decide
  rw [Bool.not_eq_true', List.any_eq_false]
  intro other added again
  rw [Key.same_str_iff] at same again
  rw [same] at again
  exact apart name listed (Key.str.inj again ▸ added)

/-- The hash of a definition is the one of its known fields. -/
private theorem agentDefinitionHash_known
    {metadata : List (Key × Value)} (known : unknownKeys metadata = []) (source : Value) :
    agentDefinitionHash library (setEntry metadata (.str "definition_source") source) =
      ((canonicalJson (.dict metadata)).mapError .json >>= fun text =>
        .ok (library.sha256Hex text)) := by
  rw [agentDefinitionHash, withoutFields_setEntry (by simp [addedAgentFields]),
    withoutFields_known known]

theorem getOr_stored
    (metadata : List (Key × Value)) (source hash : Value) {name : String}
    (apart : name ∉ addedAgentFields) (default : Value) :
    getOr (setEntry (setEntry metadata (.str "definition_source") source)
        (.str "definition_hash") hash) name default = getOr metadata name default := by
  simp only [addedAgentFields, List.mem_cons, List.not_mem_nil, or_false, not_or] at apart
  rw [getOr, lookupEntry_setEntry_of_ne _ _ apart.2,
    lookupEntry_setEntry_of_ne _ _ apart.1, getOr]

private theorem refuseUnknownFields_known
    {metadata : List (Key × Value)} (known : unknownKeys metadata = []) (path : String) :
    refuseUnknownFields metadata path = .ok () := by
  have empty : (unknownKeys metadata).isEmpty = true := by simp [known]
  unfold refuseUnknownFields
  unfold unknownKeys at empty
  simp only [empty, if_true]

private theorem refuseMissingFields_complete
    {metadata : List (Key × Value)} (complete : missingKeys metadata = []) (path : String) :
    refuseMissingFields metadata path = .ok () := by
  have empty : (missingKeys metadata).isEmpty = true := by simp [complete]
  unfold refuseMissingFields
  unfold missingKeys at empty
  simp only [empty, if_true]

/-- What a file's mapping is read as. -/
private def parseMapping (library : Library) (metadata : List (Key × Value))
    (path source : String) : Except RegistryProblem AgentCapabilityRecord := do
  refuseUnknownFields metadata path
  refuseMissingFields metadata path
  let metadata := setEntry metadata (.str "definition_source") (.str source)
  let definitionHash ← agentDefinitionHash library metadata
  let metadata := setEntry metadata (.str "definition_hash") (.str definitionHash)
  agentOfMetadata metadata path source definitionHash

private def readFrontmatter (library : Library) (path source : String) :
    Option Value → Except RegistryProblem AgentCapabilityRecord
  | none => .error .yamlError
  | some (.dict metadata) => parseMapping library metadata path source
  | some _ => raiseValue (path ++ " frontmatter must be a mapping")

/-- A mapping is read without an exception that is not caught, unless it
crashes. -/
private theorem parseMapping_caught
    {metadata : List (Key × Value)} (sound : ¬FrontmatterCrashes metadata)
    (path source : String) : OnlyCaught (parseMapping library metadata path source) := by
  unfold parseMapping
  cases unknown : unknownKeys metadata with
  | cons key keys =>
      have allTexts : ((unknownKeys metadata).filterMap Key.str?).length =
          (unknownKeys metadata).length := by
        refine List.filterMap_length_eq_length.mpr (fun other member => ?_)
        rw [Option.isSome_iff_ne_none]
        exact fun none => sound (.keys member none)
      have refused : ∃ message, refuseUnknownFields metadata path = raiseValue message := by
        have occupied : (unknownKeys metadata).isEmpty = false := by simp [unknown]
        unfold refuseUnknownFields
        unfold unknownKeys at allTexts occupied
        simp only [occupied, allTexts, Bool.false_eq_true, if_false, if_true]
        exact ⟨_, rfl⟩
      obtain ⟨message, refused⟩ := refused
      rw [refused]
      exact onlyCaught_raiseValue message
  | nil =>
      rw [refuseUnknownFields_known unknown]
      by_cases complete : missingKeys metadata = []
      · rw [refuseMissingFields_complete complete]
        show OnlyCaught (agentDefinitionHash library
          (setEntry metadata (.str "definition_source") (.str source)) >>= _)
        rw [agentDefinitionHash_known unknown]
        cases dumped : canonicalJson (.dict metadata) with
        | error problem =>
            cases problem with
            | typeError => exact absurd (.values unknown complete dumped) sound
            | valueError =>
                intro problem raised
                cases raised
                simp [RegistryProblem.caught]
        | ok text =>
            refine agentOfMetadata_caught ?_
            rw [getOr_stored _ _ _ (by decide)]
            by_contra single
            exact sound (.skills unknown complete ⟨text, dumped⟩ single)
      · have refused : ∃ message, refuseMissingFields metadata path = raiseValue message := by
          have occupied : (missingKeys metadata).isEmpty = false := by simpa using complete
          unfold refuseMissingFields
          unfold missingKeys at occupied
          simp only [occupied, Bool.false_eq_true, if_false]
          exact ⟨_, rfl⟩
        obtain ⟨message, refused⟩ := refused
        rw [refused]
        exact onlyCaught_raiseValue message

private theorem parseMapping_crashes
    {metadata : List (Key × Value)} (crashes : FrontmatterCrashes metadata)
    (path source : String) :
    ∃ problem, parseMapping library metadata path source = .error problem ∧
      problem.caught = none := by
  unfold parseMapping
  cases crashes with
  | @keys key unknown other =>
      have occupied : (unknownKeys metadata).isEmpty = false := by
        cases shape : unknownKeys metadata with
        | nil => simp [shape] at unknown
        | cons first others => rfl
      have notAll : ((unknownKeys metadata).filterMap Key.str?).length ≠
          (unknownKeys metadata).length := by
        intro same
        have text := List.filterMap_length_eq_length.mp same key unknown
        rw [other] at text
        cases text
      have raised : refuseUnknownFields metadata path =
          .error (.python (.typeError "the unknown fields are not all strings")) := by
        unfold refuseUnknownFields
        unfold unknownKeys at occupied notAll
        simp only [occupied, notAll, Bool.false_eq_true, if_false]
      rw [raised]
      exact ⟨_, rfl, rfl⟩
  | values known complete noJson =>
      rw [refuseUnknownFields_known known, refuseMissingFields_complete complete]
      refine ⟨.json .typeError, ?_, rfl⟩
      show (agentDefinitionHash library
        (setEntry metadata (.str "definition_source") (.str source)) >>= _) = _
      rw [agentDefinitionHash_known known, noJson]
      rfl
  | skills known complete json single =>
      obtain ⟨text, dumped⟩ := json
      obtain ⟨message, raised⟩ := listOf_error single
      rw [refuseUnknownFields_known known, refuseMissingFields_complete complete]
      refine ⟨.python (.typeError message), ?_, rfl⟩
      show (agentDefinitionHash library
        (setEntry metadata (.str "definition_source") (.str source)) >>= _) = _
      rw [agentDefinitionHash_known known, dumped]
      show agentOfMetadata _ _ _ _ = _
      rw [agentOfMetadata, getOr_stored _ _ _ (by decide), raised]
      rfl

/-- An agent's file is read without an exception that is not caught, unless its
frontmatter crashes. -/
private theorem parse_uncaught_iff
    {agentId : String} (loads : ∀ text parts, files.agentMarkdown agentId = some text →
      splitFrontmatter text (files.agentPath agentId) = .ok parts →
        ∃ value, library.safeLoad parts.1 = some value) :
    (∃ problem, parseAgentMarkdown library files agentId = .error problem ∧
      problem.caught = none) ↔ DefinitionCrashes library files agentId := by
  constructor
  · rintro ⟨problem, raised, uncaught⟩
    unfold parseAgentMarkdown at raised
    dsimp only at raised
    split at raised
    next =>
      cases raised
      cases uncaught
    next text present =>
      cases divided : splitFrontmatter text (files.agentPath agentId) with
      | error other =>
          rw [divided] at raised
          cases raised
          exact absurd uncaught (onlyCaught_splitFrontmatter _ _ _ divided)
      | ok parts =>
          rw [divided] at raised
          replace raised : readFrontmatter library (files.agentPath agentId)
              (agentSource agentId) (library.safeLoad parts.1) = .error problem := raised
          unfold readFrontmatter at raised
          split at raised
          next unloaded =>
            obtain ⟨value, loaded⟩ := loads text parts present divided
            rw [unloaded] at loaded
            cases loaded
          next metadata loaded =>
            refine ⟨text, parts, metadata, present, divided, loaded, ?_⟩
            by_contra sound
            exact parseMapping_caught sound _ _ problem raised uncaught
          next =>
            cases raised
            cases uncaught
  · rintro ⟨text, parts, metadata, present, divided, loaded, crashes⟩
    obtain ⟨problem, raised, uncaught⟩ :=
      parseMapping_crashes crashes (files.agentPath agentId) (agentSource agentId)
    refine ⟨problem, ?_, uncaught⟩
    unfold parseAgentMarkdown
    simp only [present, divided]
    show readFrontmatter library (files.agentPath agentId) (agentSource agentId)
      (library.safeLoad parts.1) = .error problem
    rw [loaded]
    exact raised

/-- A parsed file was loaded. -/
theorem loadable_of_parsed
    (parsed : ∀ agentId ∈ runtimeAgentIds, ∃ agent,
      parseAgentMarkdown library files agentId = .ok agent) : files.Loadable library := by
  intro agentId member text parts present divided
  obtain ⟨agent, read⟩ := parsed agentId member
  cases loaded : library.safeLoad parts.1 with
  | some value => exact ⟨value, rfl⟩
  | none =>
      unfold parseAgentMarkdown at read
      simp only [present, divided] at read
      replace read : readFrontmatter library (files.agentPath agentId) (agentSource agentId)
          (library.safeLoad parts.1) = .ok agent := read
      rw [loaded] at read
      cases read

/-- A field of a dumped mapping is dumped. -/
private theorem toDocument_getOr
    {metadata : List (Key × Value)} {document : JsonText.Document}
    (converted : (Value.dict metadata).toDocument canonicalOptions = .ok document)
    {name : String} {default : Value}
    (fallback : ∃ inner, default.toDocument canonicalOptions = .ok inner) :
    ∃ inner, (getOr metadata name default).toDocument canonicalOptions = .ok inner := by
  unfold getOr
  cases looked : lookupEntry metadata (.str name) with
  | none => exact fallback
  | some value =>
      obtain ⟨entry, member, rfl⟩ := mem_of_lookupEntry looked
      exact (toDocument_entry converted entry member).2

theorem object_of_asObject
    {value : Value} {fieldName path : String} {entries : List (Key × Value)}
    (read : asObject value fieldName path = .ok entries) : value = .dict entries := by
  unfold asObject at read
  split at read
  · cases read
    rfl
  · cases read

/-- The record of a parsed file is dumped, since its frontmatter was. -/
private theorem toDocument_parsed
    {agentId : String} {agent : AgentCapabilityRecord}
    (parsed : parseAgentMarkdown library files agentId = .ok agent) :
    ∃ document, agent.toDict.toDocument canonicalOptions = .ok document := by
  unfold parseAgentMarkdown at parsed
  dsimp only at parsed
  split at parsed
  next => cases parsed
  next text present =>
    obtain ⟨parts, divided, parsed⟩ := except_bind_eq_ok.mp parsed
    split at parsed
    next => cases parsed
    next metadata loaded =>
      simp only [except_bind_eq_ok] at parsed
      obtain ⟨_, noUnknown, _, -, hash, hashed, parsed⟩ := parsed
      have known : unknownKeys metadata = [] := by
        unfold refuseUnknownFields at noUnknown
        dsimp only at noUnknown
        split at noUnknown
        next empty => exact List.isEmpty_iff.mp empty
        next =>
          split at noUnknown
          next => cases noUnknown
          next => cases noUnknown
      rw [agentDefinitionHash_known known] at hashed
      obtain ⟨dumped, printed, -⟩ := except_bind_eq_ok.mp hashed
      obtain ⟨document, converted⟩ := toDocument_of_dumps (except_mapError_eq_ok.mp printed)
      simp only [agentOfMetadata, except_bind_eq_ok] at parsed
      obtain ⟨skills, listed, _, -, _, -, _, -, _, -, _, -, input, inputRead, output, outputRead,
        _, -, _, -, _, -, _, -, _, -, _, -, _, -, _, -, _, -, _, -, _, -, _, -, _, -, _, -, _, -,
        _, -, _, -, _, -, shape⟩ := parsed
      cases shape
      rw [getOr_stored _ _ _ (by decide)] at listed inputRead outputRead
      have someList : ∃ inner, (Value.list []).toDocument canonicalOptions = .ok inner :=
        ⟨_, rfl⟩
      have someNone : ∃ inner, Value.none.toDocument canonicalOptions = .ok inner := ⟨_, rfl⟩
      have inputDumped := @toDocument_getOr _ _ converted "required_input_schema" _ someNone
      have outputDumped := @toDocument_getOr _ _ converted "output_contract" _ someNone
      obtain ⟨_, skillsDumped⟩ := @toDocument_getOr _ _ converted "owned_skills" _ someList
      rw [object_of_asObject inputRead] at inputDumped
      rw [object_of_asObject outputRead] at outputDumped
      obtain ⟨skillDocuments, skillsConverted⟩ := toDocuments_ok
        (toDocument_listOf skillsDumped (except_mapError_eq_ok.mp listed))
      have skillsListed : ∃ inner, (Value.list skills).toDocument canonicalOptions = .ok inner :=
        ⟨_, by rw [Value.toDocument, skillsConverted]; rfl⟩
      refine toDocument_named_ok rfl ?_
      simp only [List.forall_mem_cons, List.not_mem_nil, IsEmpty.forall_iff, implies_true,
        and_true]
      exact ⟨⟨_, rfl⟩, ⟨_, rfl⟩, ⟨_, rfl⟩, toDocument_textList _, toDocument_textList _,
        inputDumped, outputDumped, toDocument_textList _, toDocument_textList _,
        toDocument_textList _, toDocument_textList _, toDocument_textList _,
        toDocument_textList _, toDocument_textList _, ⟨_, rfl⟩, ⟨_, rfl⟩, ⟨_, rfl⟩, ⟨_, rfl⟩,
        ⟨_, rfl⟩, ⟨_, rfl⟩, ⟨_, rfl⟩, ⟨_, rfl⟩, ⟨_, rfl⟩, ⟨_, rfl⟩, ⟨_, rfl⟩, ⟨_, rfl⟩,
        ⟨_, rfl⟩, skillsListed, ⟨_, rfl⟩⟩
    next => cases parsed

/-- If every file is parsed, the registry is built. -/
theorem exists_registry_iff :
    (∃ registry, buildAgentRegistry library files = .ok registry) ↔
      ∀ agentId ∈ runtimeAgentIds, ∃ agent,
        parseAgentMarkdown library files agentId = .ok agent := by
  constructor
  · rintro ⟨registry, built⟩ agentId member
    obtain ⟨agent, -, parsed⟩ := exists_of_mem_left (agents_of_buildAgentRegistry built) member
    exact ⟨agent, parsed⟩
  · intro accepted
    obtain ⟨agents, parsed⟩ := exists_mapM_iff.mpr accepted
    have each : ∀ item ∈ agents.map AgentCapabilityRecord.toDict, ∃ document,
        item.toDocument canonicalOptions = .ok document := by
      intro item member
      obtain ⟨agent, inside, rfl⟩ := List.mem_map.mp member
      obtain ⟨agentId, -, here⟩ := exists_of_mem_right (mapM_eq_ok_iff.mp parsed) inside
      exact toDocument_parsed here
    obtain ⟨documents, converted⟩ := toDocuments_ok each
    have agentsListed : ∃ inner, (Value.list (agents.map AgentCapabilityRecord.toDict)).toDocument
        canonicalOptions = .ok inner := ⟨_, by rw [Value.toDocument, converted]; rfl⟩
    let payload := fun agentCount skillCount : Nat =>
      [("schema_version", .str agentRegistrySchemaVersion),
        ("registry_version", .str packageVersion), ("generated_from", .str generatedFrom),
        ("generated_path", .str registryFile), ("generated_by", .str generatedBy),
        ("agent_count", .int agentCount), ("skill_count", .int skillCount),
        ("agents", Value.list (agents.map AgentCapabilityRecord.toDict))]
    have dumps : ∀ agentCount skillCount : Nat, ∃ text,
        canonicalJson (.dict (named (payload agentCount skillCount))) = .ok text := by
      intro agentCount skillCount
      have fields : ∀ field ∈ payload agentCount skillCount, ∃ document,
          field.2.toDocument canonicalOptions = .ok document := by
        simp only [payload, List.forall_mem_cons, List.not_mem_nil, IsEmpty.forall_iff,
          implies_true, and_true]
        exact ⟨⟨_, rfl⟩, ⟨_, rfl⟩, ⟨_, rfl⟩, ⟨_, rfl⟩, ⟨_, rfl⟩, ⟨_, rfl⟩, ⟨_, rfl⟩,
          agentsListed⟩
      obtain ⟨document, accepted⟩ := toDocument_named_ok rfl fields
      exact ⟨_, by rw [canonicalJson, Python.dumps, accepted]; rfl⟩
    obtain ⟨text, dumped⟩ := dumps agents.length
      (agents.map (fun agent => agent.ownedSkills.length)).sum
    simp only [buildAgentRegistry, except_bind_eq_ok]
    exact ⟨_, _, parsed, text, except_mapError_eq_ok.mpr dumped, rfl⟩

/-- Building raises an exception that is not caught if the first file that is not
parsed crashes. -/
private theorem build_uncaught_iff (loadable : files.Loadable library) :
    (∃ problem, buildAgentRegistry library files = .error problem ∧ problem.caught = none) ↔
      ∃ before agentId after, runtimeAgentIds = before ++ agentId :: after ∧
        (∀ earlier ∈ before, ∃ agent, parseAgentMarkdown library files earlier = .ok agent) ∧
        DefinitionCrashes library files agentId := by
  constructor
  · rintro ⟨problem, raised, uncaught⟩
    cases parsed : runtimeAgentIds.mapM (parseAgentMarkdown library files) with
    | ok agents =>
        obtain ⟨registry, built⟩ :=
          exists_registry_iff.mpr (exists_mapM_iff.mp ⟨agents, parsed⟩)
        rw [built] at raised
        cases raised
    | error other =>
        have same : other = problem := by
          rw [buildAgentRegistry, parsed] at raised
          exact Except.error.inj raised
        subst same
        obtain ⟨before, agentId, after, order, accepted, here⟩ := mapM_eq_error_iff.mp parsed
        have member : agentId ∈ runtimeAgentIds := by simp [order]
        exact ⟨before, agentId, after, order, accepted,
          (parse_uncaught_iff (loadable agentId member)).mp ⟨other, here, uncaught⟩⟩
  · rintro ⟨before, agentId, after, order, accepted, crashes⟩
    have member : agentId ∈ runtimeAgentIds := by simp [order]
    obtain ⟨problem, raised, uncaught⟩ :=
      (parse_uncaught_iff (loadable agentId member)).mpr crashes
    have parsed : runtimeAgentIds.mapM (parseAgentMarkdown library files) = .error problem :=
      mapM_eq_error_iff.mpr ⟨before, agentId, after, order, accepted, raised⟩
    exact ⟨problem, by rw [buildAgentRegistry, parsed]; rfl, uncaught⟩

end Definitions

/-! Checking the generated file and the configuration. -/

section Checks

variable {library : Library} {files : ProjectFiles} {expectedIds : List String}
  {index : Nat} {item : List (Key × Value)}

private theorem isUnknown_isOk_iff {value : Value} :
    (∃ unknown, isUnknown expectedIds value = .ok unknown) ↔ value.asKey ≠ none := by
  unfold isUnknown
  cases key : value.asKey with
  | none => simp
  | some key => exact iff_of_true ⟨_, rfl⟩ (by simp)

private theorem unknownTargetIssues_isOk_iff {routeKind : String} :
    (∃ issues, unknownTargetIssues files expectedIds index item routeKind = .ok issues) ↔
      ∀ target ∈ listItems (getOr item routeKind (.list [])), target.asKey ≠ none := by
  have each : ∀ target, (∃ issues, (do
      let unknown ← isUnknown expectedIds target
      .ok (if unknown then
          [entryIssue files index ("." ++ routeKind) "unknown_route_agent"
            ("generated registry references unknown agent " ++ target.shown)]
        else []) : Except RegistryProblem (List AgentRegistryIssue)) = .ok issues) ↔
          target.asKey ≠ none := by
    intro target
    rw [← @isUnknown_isOk_iff expectedIds target]
    exact exists_bind_ok_iff
  unfold unknownTargetIssues
  rw [exists_bind_ok_iff, exists_mapM_iff]
  exact forall₂_congr (fun target _ => each target)

private theorem escalationIssues_isOk_iff :
    (∃ issues, escalationIssues files expectedIds index item = .ok issues) ↔
      (getOr item "escalation_target" .none).asKey ≠ none := by
  rw [← @isUnknown_isOk_iff expectedIds]
  exact exists_bind_ok_iff

private theorem namedEntryIssues_isOk_iff {agentId : String} :
    (∃ issues, namedEntryIssues library files expectedIds index agentId item = .ok issues) ↔
      (∀ routeKind ∈ ["upstream_routes", "downstream_routes", "required_reviewers"],
        ∀ target ∈ listItems (getOr item routeKind (.list [])), target.asKey ≠ none) ∧
        (getOr item "escalation_target" .none).asKey ≠ none := by
  simp only [List.forall_mem_cons, List.not_mem_nil, IsEmpty.forall_iff, implies_true,
    and_true, ← @unknownTargetIssues_isOk_iff files expectedIds index item,
    ← @escalationIssues_isOk_iff files expectedIds index item, namedEntryIssues,
    except_bind_eq_ok]
  constructor
  · rintro ⟨_, up, upstream, down, downstream, review, reviewers, last, escalation, -⟩
    exact ⟨⟨⟨up, upstream⟩, ⟨down, downstream⟩, review, reviewers⟩, last, escalation⟩
  · rintro ⟨⟨⟨up, upstream⟩, ⟨down, downstream⟩, review, reviewers⟩, last, escalation⟩
    exact ⟨_, up, upstream, down, downstream, review, reviewers, last, escalation, rfl⟩

/-- The check of an entry returns unless the entry crashes. -/
private theorem entryIssues_isOk_iff {entry : Value} :
    (∃ checked, entryIssues library files expectedIds index entry = .ok checked) ↔
      ¬∃ item, entry = .dict item ∧ EntryCrashes item := by
  unfold entryIssues
  split
  next item =>
    split
    next agentId identified =>
      split
      next blank =>
        refine iff_of_true ⟨_, rfl⟩ ?_
        rintro ⟨_, same, crashes⟩
        cases same
        cases crashes with
        | target again named =>
            rw [identified] at again
            cases again
            exact named blank
        | escalation again named =>
            rw [identified] at again
            cases again
            exact named blank
      next named =>
        rw [exists_bind_ok_iff, namedEntryIssues_isOk_iff]
        constructor
        · rintro ⟨hashable, escalates⟩ ⟨_, same, crashes⟩
          cases same
          cases crashes with
          | target _ _ kind listed unhashable => exact hashable _ kind _ listed unhashable
          | escalation _ _ unhashable => exact escalates unhashable
        · intro sound
          refine ⟨fun routeKind kind target listed unhashable => ?_, fun unhashable => ?_⟩
          · exact sound ⟨item, rfl, .target identified named kind listed unhashable⟩
          · exact sound ⟨item, rfl, .escalation identified named unhashable⟩
    next unnamed =>
      refine iff_of_true ⟨_, rfl⟩ ?_
      rintro ⟨_, same, crashes⟩
      cases same
      cases crashes with
      | target again => exact unnamed _ again
      | escalation again => exact unnamed _ again
  next other =>
    refine iff_of_true ⟨_, rfl⟩ ?_
    rintro ⟨item, rfl, -⟩
    exact other item rfl

private theorem isJson_getOr
    {entries : List (Key × Value)} (json : (Value.dict entries).IsJson) (name : String) :
    (getOr entries name .none).IsJson := by
  unfold getOr
  cases looked : lookupEntry entries (.str name) with
  | none => trivial
  | some value => exact isJson_of_lookup json.2.2 looked

/-- The hash of a file is computed when its covered numbers are finite. -/
private theorem registryPayloadHash_isOk_iff
    {payload : List (Key × Value)} (json : (Value.dict payload).IsJson) :
    (∃ hash, registryPayloadHash library payload = .ok hash) ↔
      ∀ name ∈ hashedFields, (getOr payload name .none).FiniteNumbers := by
  have sorting : canonicalOptions.sortKeys = true := rfl
  have strict : canonicalOptions.allowNan = false := rfl
  have covered : (∃ document, (Value.dict (named (hashedFields.map
      (fun name => (name, getOr payload name .none))))).toDocument canonicalOptions =
        .ok document) ↔ ∀ name ∈ hashedFields, (getOr payload name .none).FiniteNumbers := by
    rw [toDocument_named_iff sorting, List.forall_mem_map]
    exact forall₂_congr (fun name _ =>
      exists_toDocument_iff sorting strict _ (isJson_getOr json name))
  rw [← covered]
  unfold registryPayloadHash
  rw [exists_bind_ok_iff]
  constructor
  · rintro ⟨text, dumped⟩
    exact toDocument_of_dumps (except_mapError_eq_ok.mp dumped)
  · rintro ⟨document, converted⟩
    exact ⟨_, except_mapError_eq_ok.mpr (except_map_eq_ok.mpr ⟨document, converted, rfl⟩)⟩

private theorem registryHashIssues_isOk_iff
    {payload : List (Key × Value)} (json : (Value.dict payload).IsJson) :
    (∃ issues, registryHashIssues library files payload = .ok issues) ↔
      ∀ registryHash, getOr payload "registry_hash" .none = .str registryHash →
        strip registryHash ≠ "" →
          ∀ name ∈ hashedFields, (getOr payload name .none).FiniteNumbers := by
  rw [← @registryPayloadHash_isOk_iff library payload json]
  unfold registryHashIssues
  split
  next registryHash signed =>
    split
    next blank =>
      refine iff_of_true ⟨_, rfl⟩ (fun other again present => ?_)
      rw [signed] at again
      cases again
      exact absurd blank present
    next present =>
      rw [exists_bind_ok_iff]
      constructor
      · intro computed _ _ _
        exact computed
      · intro computed
        exact computed registryHash signed present
  next unsigned =>
    exact iff_of_true ⟨_, rfl⟩ (fun other again => absurd again (unsigned other))

/-- The check of a decoded file returns unless the file crashes. -/
private theorem validatePayload_isOk_iff
    {generated : Value} (json : generated.IsJson) {registry : AgentCapabilityRegistry} :
    (∃ issues, validateGeneratedRegistryPayload library files generated registry =
      .ok issues) ↔ ¬∃ payload, generated = .dict payload ∧ PayloadCrashes payload := by
  unfold validateGeneratedRegistryPayload
  split
  next payload =>
    have parts : (∃ issues, (do
        let hashIssues ← registryHashIssues library files payload
        let agents := listItems (getOr payload "agents" .none)
        let expectedIds := registry.agents.map AgentCapabilityRecord.agentId
        let checked ← agents.zipIdx.mapM (fun entry =>
          entryIssues library files expectedIds entry.2 entry.1)
        .ok (missingFieldIssues files payload ++ schemaVersionIssues files payload ++
          hashIssues ++ agentsFieldIssues files payload ++
          agentCountIssues files payload agents ++ checked.flatMap Prod.snd ++
          generatedIdIssues files (checked.filterMap Prod.fst) expectedIds ++
          staleIssues files payload registry)) = Except.ok issues) ↔
        (∃ issues, registryHashIssues library files payload = .ok issues) ∧
        ∀ entry ∈ listItems (getOr payload "agents" .none),
          ¬∃ item, entry = .dict item ∧ EntryCrashes item := by
      simp only [except_bind_eq_ok]
      constructor
      · rintro ⟨_, hashIssues, hashed, checked, entries, -⟩
        refine ⟨⟨hashIssues, hashed⟩, fun entry member => ?_⟩
        obtain ⟨index, position⟩ := List.getElem?_of_mem member
        have listed : (entry, index) ∈ (listItems (getOr payload "agents" .none)).zipIdx := by
          simpa [List.mk_mem_zipIdx_iff_getElem?] using position
        exact entryIssues_isOk_iff.mp (exists_mapM_iff.mp ⟨checked, entries⟩ _ listed)
      · rintro ⟨⟨hashIssues, hashed⟩, sound⟩
        have each : ∀ entry ∈ (listItems (getOr payload "agents" .none)).zipIdx, ∃ checked,
            entryIssues library files (registry.agents.map AgentCapabilityRecord.agentId)
              entry.2 entry.1 = .ok checked := by
          intro entry member
          have inside := List.mem_map_of_mem (f := Prod.fst) member
          rw [List.zipIdx_map_fst] at inside
          exact entryIssues_isOk_iff.mpr (sound entry.1 inside)
        obtain ⟨checked, entries⟩ := exists_mapM_iff.mpr each
        exact ⟨_, hashIssues, hashed, checked, entries, rfl⟩
    rw [parts, registryHashIssues_isOk_iff json]
    constructor
    · rintro ⟨finite, entries⟩ ⟨_, same, crashes⟩
      cases same
      cases crashes with
      | hash signed present covered infinite => exact infinite (finite _ signed present _ covered)
      | entry listed crashes => exact entries _ listed ⟨_, rfl, crashes⟩
    · intro sound
      refine ⟨fun registryHash signed present name covered => ?_, ?_⟩
      · by_contra infinite
        exact sound ⟨payload, rfl, .hash signed present covered infinite⟩
      · rintro entry listed ⟨item, rfl, crashes⟩
        exact sound ⟨payload, rfl, .entry listed crashes⟩
  next other =>
    refine iff_of_true ⟨_, rfl⟩ ?_
    rintro ⟨payload, rfl, -⟩
    exact other payload rfl

private theorem requiredFileIssues_isOk_iff
    {registry : AgentCapabilityRegistry} {requireGeneratedFile : Bool} :
    (∃ issues, requiredFileIssues library files registry requireGeneratedFile = .ok issues) ↔
      ¬(requireGeneratedFile = true ∧ ∃ text payload, files.agentRegistry = some text ∧
        loads text = some (.dict payload) ∧ PayloadCrashes payload) := by
  cases requireGeneratedFile with
  | false => exact iff_of_true ⟨_, rfl⟩ (by simp)
  | true =>
      simp only [requiredFileIssues, if_true, generatedFileIssues, true_and]
      split
      next absent => exact iff_of_true ⟨_, rfl⟩ (by simp [absent])
      next text present =>
        split
        next unread =>
          refine iff_of_true ⟨_, rfl⟩ ?_
          rintro ⟨_, payload, same, loaded, -⟩
          rw [present] at same
          cases same
          rw [unread] at loaded
          cases loaded
        next generated loaded =>
          rw [validatePayload_isOk_iff (isJson_of_loads loaded)]
          refine not_congr ⟨?_, ?_⟩
          · rintro ⟨payload, rfl, crashes⟩
            exact ⟨text, payload, present, loaded, crashes⟩
          · rintro ⟨_, payload, same, again, crashes⟩
            rw [present] at same
            cases same
            rw [loaded] at again
            exact ⟨payload, Option.some.inj again, crashes⟩

private theorem configAgentIssues_isOk_iff
    {agentList : List Value} {agent : AgentCapabilityRecord} :
    (∃ issues, configAgentIssues agentList agent = .ok issues) ↔
      ¬∃ configAgent, OrderedDict.get? (configAgents agentList) agent.agentId =
        some configAgent ∧ ConfigAgentCrashes configAgent := by
  unfold configAgentIssues
  dsimp only
  split
  next absent =>
    refine iff_of_true ⟨_, rfl⟩ ?_
    rintro ⟨configAgent, found, -⟩
    rw [absent] at found
    cases found
  next configAgent found =>
    have crashing : (∃ other, OrderedDict.get? (configAgents agentList) agent.agentId =
        some other ∧ ConfigAgentCrashes other) ↔ ConfigAgentCrashes configAgent := by
      constructor
      · rintro ⟨other, again, crashes⟩
        rw [found] at again
        cases again
        exact crashes
      · exact fun crashes => ⟨configAgent, found, crashes⟩
    refine Iff.trans ?_ (not_congr crashing).symm
    cases skillsListed : listOf (getOr configAgent "skills" (.list [])) with
    | error failure =>
        refine iff_of_false ?_ (not_not.mpr (.skills ?_))
        · rintro ⟨_, raised⟩
          cases raised
        · rintro ⟨_, listed⟩
          rw [skillsListed] at listed
          cases listed
    | ok skills =>
        have iterable : IsIterable (getOr configAgent "skills" (.list [])) :=
          ⟨skills, skillsListed⟩
        split
        next tools given =>
          cases allowListed : listOf (getOr tools "allow" (.list [])) with
          | error failure =>
              refine iff_of_false ?_ (not_not.mpr (.tools given ?_))
              · rintro ⟨_, raised⟩
                cases raised
              · rintro ⟨_, listed⟩
                rw [allowListed] at listed
                cases listed
          | ok allow =>
              refine iff_of_true ⟨_, rfl⟩ ?_
              rintro (single | ⟨again, single⟩)
              · exact single iterable
              · rw [given] at again
                cases again
                exact single ⟨allow, allowListed⟩
        next noTools =>
          refine iff_of_true ⟨_, rfl⟩ ?_
          rintro (single | ⟨given, -⟩)
          · exact single iterable
          · exact noTools _ given

private theorem optionalConfigIssues_isOk_iff
    {registry : AgentCapabilityRegistry} {renderedConfig : Option (List (Key × Value))} :
    (∃ issues, optionalConfigIssues registry renderedConfig = .ok issues) ↔
      ¬∃ config, renderedConfig = some config ∧ ConfigCrashes registry.agentIds config := by
  cases renderedConfig with
  | none => exact iff_of_true ⟨_, rfl⟩ (by simp)
  | some config =>
      simp only [optionalConfigIssues, Option.some.injEq, exists_eq_left']
      unfold renderedConfigIssues
      split
      next agents given =>
        split
        next agentList listed =>
          have agentwise : (∃ issues, registry.agents.mapM (configAgentIssues agentList) =
              .ok issues) ↔ ¬ConfigCrashes registry.agentIds config := by
            rw [exists_mapM_iff]
            constructor
            · rintro sound ⟨_, _, agentId, configAgent, again, list, member, found, crashes⟩
              rw [given] at again
              cases again
              rw [listed] at list
              cases list
              obtain ⟨agent, inside, rfl⟩ := List.mem_map.mp member
              exact configAgentIssues_isOk_iff.mp (sound agent inside)
                ⟨configAgent, found, crashes⟩
            · intro sound agent inside
              refine configAgentIssues_isOk_iff.mpr ?_
              rintro ⟨configAgent, found, crashes⟩
              exact sound ⟨agents, agentList, agent.agentId, configAgent, given, listed,
                List.mem_map_of_mem inside, found, crashes⟩
          rw [← agentwise]
          exact exists_bind_ok_iff
        next unlisted =>
          refine iff_of_true ⟨_, rfl⟩ ?_
          rintro ⟨_, agentList, _, _, again, list, -⟩
          rw [given] at again
          cases again
          exact unlisted _ list
      next missing =>
        refine iff_of_true ⟨_, rfl⟩ ?_
        rintro ⟨agents, _, _, _, given, -⟩
        exact missing _ given

private theorem reviewChainIssues_isOk_iff {registry : AgentCapabilityRegistry} :
    (∃ issues, reviewChainIssues registry = .ok issues) ↔
      "blueprint-coder" ∈ registry.agentIds := by
  unfold reviewChainIssues AgentCapabilityRegistry.getAgentCapability
  rw [exists_bind_ok_iff]
  split
  next coder found =>
    refine iff_of_true ⟨_, rfl⟩ (List.mem_map.mpr ⟨coder, List.mem_of_find?_eq_some found, ?_⟩)
    simpa using List.find?_some found
  next absent =>
    refine iff_of_false (by simp) (fun member => ?_)
    obtain ⟨coder, inside, same⟩ := List.mem_map.mp member
    exact List.find?_eq_none.mp absent coder inside (by simpa using same)

end Checks

/-- A validation raises exactly when its inputs crash it. -/
theorem validateAgentRegistry_isOk_iff
    {library : Library} {files : ProjectFiles} (loadable : files.Loadable library)
    (renderedConfig : Option (List (Key × Value))) (requireGeneratedFile : Bool) :
    (∃ report, validateAgentRegistry library files renderedConfig requireGeneratedFile =
      .ok report) ↔
      ¬ValidationCrashes library files renderedConfig requireGeneratedFile := by
  have crashing := build_uncaught_iff loadable
  unfold validateAgentRegistry
  split
  next registry built =>
    have accepted := exists_registry_iff.mp ⟨registry, built⟩
    have ids : ∀ agentId, agentId ∈ registry.agentIds ↔
        agentId ∈ runtimeAgentIds.filterMap (declaredAgentId library files) := by
      intro agentId
      rw [mem_agentIds_iff_declared built, List.mem_filterMap]
    have config : ∀ config, ConfigCrashes registry.agentIds config ↔
        ConfigCrashes (runtimeAgentIds.filterMap (declaredAgentId library files)) config := by
      intro config
      simp only [ConfigCrashes, ids]
    have parts : (∃ report, checkRegistry library files renderedConfig requireGeneratedFile
        registry = .ok report) ↔ (∃ issues, reviewChainIssues registry = .ok issues) ∧
        (∃ issues, requiredFileIssues library files registry requireGeneratedFile =
          .ok issues) ∧ ∃ issues, optionalConfigIssues registry renderedConfig = .ok issues := by
      simp only [checkRegistry_eq, except_bind_eq_ok]
      constructor
      · rintro ⟨_, chain, chained, file, checked, mismatches, rendered, -⟩
        exact ⟨⟨chain, chained⟩, ⟨file, checked⟩, mismatches, rendered⟩
      · rintro ⟨⟨chain, chained⟩, ⟨file, checked⟩, mismatches, rendered⟩
        exact ⟨_, chain, chained, file, checked, mismatches, rendered, rfl⟩
    rw [parts, reviewChainIssues_isOk_iff, requiredFileIssues_isOk_iff,
      optionalConfigIssues_isOk_iff]
    constructor
    · rintro ⟨coder, file, configured⟩ crashes
      cases crashes with
      | definition order before crashes =>
          obtain ⟨problem, raised, -⟩ := crashing.mpr ⟨_, _, _, order, before, crashes⟩
          rw [built] at raised
          cases raised
      | coder _ missing =>
          obtain ⟨agentId, listed, declared⟩ := (mem_agentIds_iff_declared built).mp coder
          exact missing agentId listed declared
      | file _ required present loaded crashes =>
          exact file ⟨required, _, _, present, loaded, crashes⟩
      | config _ given crashes => exact configured ⟨_, given, (config _).mpr crashes⟩
    · intro sound
      refine ⟨?_, ?_, ?_⟩
      · by_contra missing
        refine sound (.coder accepted (fun agentId listed declared => missing ?_))
        exact (mem_agentIds_iff_declared built).mpr ⟨agentId, listed, declared⟩
      · rintro ⟨required, text, payload, present, loaded, crashes⟩
        exact sound (.file accepted required present loaded crashes)
      · rintro ⟨given, rendered, crashes⟩
        exact sound (.config accepted rendered ((config _).mp crashes))
  next problem raised =>
    have unparsed : ¬∀ agentId ∈ runtimeAgentIds, ∃ agent,
        parseAgentMarkdown library files agentId = .ok agent := by
      intro accepted
      obtain ⟨registry, built⟩ := exists_registry_iff.mpr accepted
      rw [built] at raised
      cases raised
    split
    next uncaught =>
      obtain ⟨before, agentId, after, order, accepted, crashes⟩ :=
        crashing.mp ⟨problem, raised, uncaught⟩
      exact iff_of_false (by simp) (not_not.mpr (.definition order accepted crashes))
    next message caught =>
      refine iff_of_true ⟨_, rfl⟩ (fun crashes => ?_)
      cases crashes with
      | definition order before crashes =>
          obtain ⟨other, again, uncaught⟩ := crashing.mpr ⟨_, _, _, order, before, crashes⟩
          rw [raised] at again
          cases again
          rw [caught] at uncaught
          cases uncaught
      | coder accepted => exact unparsed accepted
      | file accepted => exact unparsed accepted
      | config accepted => exact unparsed accepted

end SuperAdvisor.Registry
