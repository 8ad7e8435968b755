import SuperAdvisor.Foundation.Checks
import SuperAdvisor.Settings.RenderedConfig

/-!
# Accepted configurations

What the check of a rendered configuration accepts, as a schema.  The agents may
stand in any order, and other entries may be anywhere; the routing must be the
allowlists.

The check only asks for some denied tools.  Together with the topology check,
which compares the list of denied tools, an agent is denied what its contract
says.
-/

namespace SuperAdvisor.Settings

open Python Registry Topology

/-- A list of hashable items with the required names. -/
def Denies (required : List String) (deny : Value) : Prop :=
  ∃ items, deny = .list items ∧ unhashableItem items = none ∧
    ∀ name ∈ required, Value.str name ∈ items

def toolsFields (isSuperAdvisor isBlueprintCoder : Bool) (denies : Value → Prop) :
    List (String × Schema) :=
  [("deny", .leaf denies),
    ("allow", .equal (texts (expectedAllow isBlueprintCoder))),
    ("alsoAllow", .equal (expectedAlsoAllow isSuperAdvisor)),
    ("exec", .object
      [("mode", .equal (.str (if isBlueprintCoder then "allowlist" else "deny")))]),
    ("message", .object
      [("allowCrossContextSend", .equal (.bool false)),
        ("actions", .object
          [("allow", .equal (texts (if isSuperAdvisor then ["reply"] else [])))])]),
    ("agentToAgent", .object [("enabled", .equal (.bool false))]),
    ("elevated", .object [("enabled", .equal (.bool false))]),
    ("sandbox", .object
      [("tools", .object
        [("allow", .equal (texts ["read", "session_status"])),
          ("alsoAllow", .equal (expectedAlsoAllow isSuperAdvisor))])])]

/-- An entry of the agent list that meets a contract. -/
def agentSchema (denies : AgentContract → Value → Prop) (contract : AgentContract) : Schema :=
  .object
    [("id", .leaf (fun value => value.text = contract.agentId)),
      ("workspace", .equal (.str contract.workspace)),
      ("agentDir", .equal (.str contract.agentDir)),
      ("sessionStore", .equal (.str contract.sessionStore)),
      ("memoryDir", .equal (.str contract.memoryDir)),
      ("skills", .equal (texts contract.skills)),
      ("tools", .object
        (toolsFields (contract.agentId == "super-advisor") (contract.agentId == "blueprint-coder")
          (denies contract))),
      ("secretAccess", .object
        [("mode", .equal (.str
          (if contract.agentId = "telegram-publisher" then "approved_payload_only"
          else "none")))])]

/-- One entry for each contract, in any order. -/
def IsAgentList (fits : AgentContract → Schema) (agents : List AgentContract) (value : Value) :
    Prop :=
  ∃ items order, value = .list items ∧ order.Perm agents ∧
    List.Forall₂ (fun item contract => (fits contract).Accepts item) items order

def symbolSchema : Schema :=
  .object
    [("canonical", .leaf (fun value => isNonEmptyText value = true)),
      ("aliases", .leaf (fun value => isAliasList value = true))]

/-- A list with some item, all of them as they should be. -/
def IsListOf (fits : Value → Prop) (value : Value) : Prop :=
  ∃ items, value = .list items ∧ items ≠ [] ∧ ∀ item ∈ items, fits item

def marketDataFields : List (String × Schema) :=
  [("backend", .object [("kind", .equal (.str "mt5")), ("mode", .equal (.str "readonly"))]),
    ("symbols", .leaf (IsListOf symbolSchema.Accepts)),
    ("timeframes", .leaf (IsListOf (fun value => isSupportedTimeframe value = true))),
    ("storage", .object (storagePaths.map (fun name =>
      (name, .leaf (fun value => isNonEmptyText value = true))))),
    ("collection", .object (collectionNumbers.map (fun name =>
      (name, .leaf (fun value => isPositiveInt value = true)))))]

/-- The three sections of the routing are read as the allowlists. -/
def IsRouting (value : Value) : Prop :=
  ∃ routing, value = .dict routing ∧
    IsAllowlist (getOr routing "realtime" (.list [])) realtimeRouteAllowlist ∧
    IsAllowlist (getOr routing "code-audit" (.list [])) codeAuditRouteAllowlist ∧
    IsAllowlist (getOr routing "code-work-order" (.list [])) codeWorkOrderRouteAllowlist

def gatewayFields : List (String × Schema) :=
  [("mode", .equal (.str "local")),
    ("bind", .equal (.str "loopback")),
    ("port", .equal (.int 18789)),
    ("auth", .object
      [("mode", .equal (.str "token")),
        ("token", .object
          [("source", .equal (.str "env")),
            ("provider", .equal (.str "default")),
            ("id", .equal (.str "OPENCLAW_GATEWAY_TOKEN"))])]),
    ("controlUi", .object [("enabled", .equal (.bool true))])]

/-- The accepted configurations, given what an agent has to be denied. -/
def configFields (paths : ProjectPaths) (denies : AgentContract → Value → Prop) :
    List (String × Schema) :=
  [("env", .object [("shellEnv", .object [("enabled", .equal (.bool false))])]),
    ("gateway", .object gatewayFields),
    ("hooks", .object [("enabled", .equal (.bool false))]),
    ("skills", .equal (texts skillNames)),
    ("agents", .object
      [("defaults", .object
        [("workspace", .equal (.str (paths.workspaceDir ++ "/agents"))),
          ("skills", .equal (texts skillNames))]),
        ("list", .leaf (IsAgentList (agentSchema denies) (buildAgentTopology paths)))]),
    ("marketData", .object marketDataFields),
    ("tools", .object
      (toolsFields false false (Denies (requiredDenies "tools" false false)))),
    ("routing", .leaf IsRouting)]

/-- What every agent has to be denied. -/
def requiredOf (contract : AgentContract) (deny : Value) : Prop :=
  Denies (requiredDenies "agents" (contract.agentId == "super-advisor")
    (contract.agentId == "blueprint-coder")) deny

/-! Checks that find nothing. -/

@[simp] theorem asObject_eq_ok_iff {value : Value} {path : String} {entries : Section} :
    asObject value path = .ok entries ↔ value = .dict entries := by
  cases value <;> simp [asObject]

@[simp] theorem objectAt_eq_ok_iff {section_ entries : Section} {place name : String} :
    objectAt section_ place name = .ok entries ↔ getOr section_ name .none = .dict entries :=
  asObject_eq_ok_iff

@[simp] theorem asList_eq_ok_iff {value : Value} {path : String} {items : List Value} :
    asList value path = .ok items ↔ value = .list items := by
  cases value <;> simp [asList]

@[simp] theorem configIssueUnless_eq_nil_iff {holds : Bool} {path message : String} :
    configIssueUnless holds path message = [] ↔ holds = true := by
  cases holds <;> simp [configIssueUnless]

@[simp] theorem requireEqual_eq_nil_iff {actual expected : Value} {path : String} :
    requireEqual actual expected path = [] ↔ actual.equals expected = true :=
  configIssueUnless_eq_nil_iff

@[simp] theorem requireAt_eq_nil_iff
    {section_ : Section} {place name : String} {expected : Value} :
    requireAt section_ place name expected = [] ↔
      (getOr section_ name .none).equals expected = true :=
  requireEqual_eq_nil_iff

theorem missingDenies_eq_nil_iff {required : List String} {denied : List Value} :
    missingDenies required denied = [] ↔ ∀ name ∈ required, Value.str name ∈ denied := by
  unfold missingDenies
  rw [← List.length_eq_zero_iff, List.length_mergeSort, List.length_eq_zero_iff]
  simp

theorem requiredDenies_ne_nil (place : String) (isSuperAdvisor isBlueprintCoder : Bool) :
    requiredDenies place isSuperAdvisor isBlueprintCoder ≠ [] := by
  simp [requiredDenies]

/-- The check of the denied tools. -/
private theorem exists_denyValues_iff {required : List String} {deny : Value}
    (some_ : required ≠ []) :
    (∃ denied, denyValues deny = .ok denied ∧ missingDenies required denied = []) ↔
      Denies required deny := by
  simp only [missingDenies_eq_nil_iff, Denies]
  obtain ⟨name, member⟩ := List.exists_mem_of_ne_nil required some_
  cases deny with
  | list items =>
      cases hashed : unhashableItem items with
      | none => simp [denyValues, hashed]
      | some kind => simp [denyValues, hashed]
  | none | bool | int | float | str | tuple | dict | other =>
      simpa [denyValues] using ⟨name, member⟩

theorem validateTools_eq_nil_iff
    {tools : Section} {place : String} {isSuperAdvisor isBlueprintCoder : Bool} :
    validateTools tools place isSuperAdvisor isBlueprintCoder = .ok [] ↔
      Schema.AcceptsFields (toolsFields isSuperAdvisor isBlueprintCoder
        (Denies (requiredDenies place isSuperAdvisor isBlueprintCoder))) tools := by
  simp only [validateTools, toolsFields, except_bind_eq_ok, objectAt_eq_ok_iff, Except.ok.injEq,
    List.append_eq_nil_iff, requireAt_eq_nil_iff, configIssueUnless_eq_nil_iff,
    List.isEmpty_iff, acceptsFields_cons, accepts_object, accepts_equal, accepts_leaf,
    acceptsFields_nil, and_true,
    ← exists_denyValues_iff (requiredDenies_ne_nil place isSuperAdvisor isBlueprintCoder)]
  constructor
  · rintro ⟨denied, denies, execSection, exec, message, said, actions, acted, agentToAgent, agent,
      elevated, raised, sandbox, boxed, sandboxTools, inside,
      ⟨⟨⟨⟨⟨⟨⟨⟨⟨allow, also⟩, missing⟩, mode⟩, cross⟩, reply⟩, apart⟩, low⟩, read⟩, readAlso⟩⟩
    exact ⟨⟨denied, denies, missing⟩, allow, also, ⟨execSection, exec, mode⟩,
      ⟨message, said, cross, actions, acted, reply⟩, ⟨agentToAgent, agent, apart⟩,
      ⟨elevated, raised, low⟩, sandbox, boxed, sandboxTools, inside, read, readAlso⟩
  · rintro ⟨⟨denied, denies, missing⟩, allow, also, ⟨execSection, exec, mode⟩,
      ⟨message, said, cross, actions, acted, reply⟩, ⟨agentToAgent, agent, apart⟩,
      ⟨elevated, raised, low⟩, sandbox, boxed, sandboxTools, inside, read, readAlso⟩
    exact ⟨denied, denies, execSection, exec, message, said, actions, acted, agentToAgent, agent,
      elevated, raised, sandbox, boxed, sandboxTools, inside,
      ⟨⟨⟨⟨⟨⟨⟨⟨⟨allow, also⟩, missing⟩, mode⟩, cross⟩, reply⟩, apart⟩, low⟩, read⟩, readAlso⟩⟩

private theorem symbolIssues_eq_nil_iff {item : Value × Nat} :
    symbolIssues item = .ok [] ↔ symbolSchema.Accepts item.1 := by
  simp only [symbolIssues, symbolSchema, except_bind_eq_ok, asObject_eq_ok_iff,
    Except.ok.injEq, List.append_eq_nil_iff, configIssueUnless_eq_nil_iff, accepts_object,
    acceptsFields_cons, accepts_leaf, acceptsFields_nil, and_true]

theorem validateMarketData_eq_nil_iff {marketData : Section} :
    validateMarketData marketData = .ok [] ↔
      Schema.AcceptsFields marketDataFields marketData := by
  simp only [validateMarketData, marketDataFields, except_bind_eq_ok, objectAt_eq_ok_iff,
    asList_eq_ok_iff, Except.ok.injEq, List.append_eq_nil_iff, requireAt_eq_nil_iff,
    configIssueUnless_eq_nil_iff, requirePositiveInt, acceptsFields_cons, accepts_object,
    accepts_equal, accepts_leaf, acceptsFields_nil, and_true, storagePaths, collectionNumbers,
    List.map_cons, List.map_nil, List.flatMap_cons, List.flatMap_nil, IsListOf]
  have loop : ∀ symbols : List Value,
      (∀ item ∈ symbols, symbolSchema.Accepts item) ↔
        ∃ each, symbols.zipIdx.mapM symbolIssues = .ok each ∧ each.flatten = [] := by
    intro symbols
    simp only [exists_mapM_flatten_nil_iff, symbolIssues_eq_nil_iff, forall_mem_zipIdx_iff]
  simp only [loop]
  constructor
  · rintro ⟨backend, read, symbols, listed, each, checked, timeframes, framed, storage, stored,
      collection, collected, ⟨⟨⟨⟨⟨kind, mode⟩, any⟩, nothing⟩, frames⟩, places⟩, numbers⟩
    simp only [Bool.and_eq_true, Bool.not_eq_true', List.isEmpty_eq_false_iff,
      List.all_eq_true] at any frames
    exact ⟨⟨backend, read, kind, mode⟩, ⟨symbols, listed, any, each, checked, nothing⟩,
      ⟨timeframes, framed, frames⟩, ⟨storage, stored, places⟩, collection, collected, numbers⟩
  · rintro ⟨⟨backend, read, kind, mode⟩, ⟨symbols, listed, any, each, checked, nothing⟩,
      ⟨timeframes, framed, frames⟩, ⟨storage, stored, places⟩, collection, collected, numbers⟩
    refine ⟨backend, read, symbols, listed, each, checked, timeframes, framed, storage, stored,
      collection, collected, ⟨⟨⟨⟨⟨kind, mode⟩, ?_⟩, nothing⟩, ?_⟩, places⟩, numbers⟩
    · simpa using any
    · simpa using frames

/-- The text of an id is the same with either default, if it is the id of an agent. -/
theorem text_getOr_iff
    {agent : Section} {agentId : String} (filled : agentId ≠ "") (named : agentId ≠ "None") :
    (getOr agent "id" (.str "")).text = agentId ↔
      (getOr agent "id" .none).text = agentId := by
  unfold getOr
  cases lookupEntry agent (.str "id") with
  | some value => rfl
  | none =>
      exact iff_of_false (fun same => filled same.symm) (fun same => named same.symm)

theorem mem_buildAgentTopology
    {paths : ProjectPaths} {contract : AgentContract}
    (member : contract ∈ buildAgentTopology paths) :
    contract.agentId ≠ "" ∧ contract.agentId ≠ "None" := by
  have id_mem : contract.agentId ∈ runtimeAgentIds := by
    rw [← ids_buildAgentTopology paths]
    exact List.mem_map_of_mem member
  have each : ∀ agentId ∈ runtimeAgentIds, agentId ≠ "" ∧ agentId ≠ "None" := by
    decide +kernel
  exact each _ id_mem

theorem nodup_buildAgentTopology (paths : ProjectPaths) :
    ((buildAgentTopology paths).map AgentContract.agentId).Nodup := by
  rw [ids_buildAgentTopology]
  exact nodup_runtimeAgentIds

/-- The contract with an id is found. -/
theorem find?_buildAgentTopology_iff
    {paths : ProjectPaths} {agentId : String} {contract : AgentContract} :
    (buildAgentTopology paths).find? (fun expected => expected.agentId = agentId) =
        some contract ↔
      contract ∈ buildAgentTopology paths ∧ contract.agentId = agentId := by
  constructor
  · intro found
    exact ⟨List.mem_of_find?_eq_some found, by simpa using List.find?_some found⟩
  · rintro ⟨member, rfl⟩
    cases found : (buildAgentTopology paths).find?
        (fun expected => expected.agentId = contract.agentId) with
    | none => simpa using List.find?_eq_none.mp found contract member
    | some other =>
        have same : other.agentId = contract.agentId := by simpa using List.find?_some found
        rw [List.inj_on_of_nodup_map (nodup_buildAgentTopology paths)
          (List.mem_of_find?_eq_some found) member same]

private theorem requiredDenies_of_agent (index : Nat) (isSuperAdvisor isBlueprintCoder : Bool) :
    requiredDenies ("agents.list[" ++ intText index ++ "]" ++ ".tools") isSuperAdvisor
        isBlueprintCoder =
      requiredDenies "agents" isSuperAdvisor isBlueprintCoder := by
  have apart : "agents.list[" ++ intText index ++ "]" ++ ".tools" ≠ "tools" := by
    intro same
    have first := congrArg (fun text => text.toList.head?) same
    simp at first
  simp [requiredDenies, apart]

/-- One round of the loop over the agents. -/
private theorem agentIssues_eq_nil_iff
    {paths : ProjectPaths} {seen later : List String} {index : Nat} {item : Value} :
    agentIssues (buildAgentTopology paths) seen index item = .ok ([], later) ↔
      ∃ contract ∈ buildAgentTopology paths, contract.agentId ∉ seen ∧
        (agentSchema requiredOf contract).Accepts item ∧ later = contract.agentId :: seen := by
  have tools_iff := fun tools isSuperAdvisor isBlueprintCoder =>
    @validateTools_eq_nil_iff tools ("agents.list[" ++ intText index ++ "]" ++ ".tools")
      isSuperAdvisor isBlueprintCoder
  simp only [requiredDenies_of_agent] at tools_iff
  simp only [agentIssues, except_bind_eq_ok, asObject_eq_ok_iff]
  constructor
  · rintro ⟨agent, rfl, checked⟩
    split at checked
    next => simp at checked
    next contract found =>
      simp only [except_bind_eq_ok, objectAt_eq_ok_iff, Except.ok.injEq, Prod.mk.injEq,
        List.append_eq_nil_iff, requireAt_eq_nil_iff, configIssueUnless_eq_nil_iff,
        decide_eq_true_eq] at checked
      obtain ⟨toolsSection, hasTools, tools, toolsChecked, secretAccess, secret,
        ⟨⟨⟨⟨⟨⟨⟨unseen, workspace⟩, directory⟩, store⟩, memory⟩, skills⟩, rfl⟩, mode⟩, rfl⟩ :=
          checked
      obtain ⟨member, same⟩ := find?_buildAgentTopology_iff.mp found
      obtain ⟨filled, notNone⟩ := mem_buildAgentTopology member
      rw [← same] at toolsChecked mode unseen ⊢
      refine ⟨contract, member, unseen, ?_, rfl⟩
      simp only [agentSchema, accepts_object, acceptsFields_cons, accepts_leaf, accepts_equal,
        acceptsFields_nil, and_true]
      exact ⟨agent, rfl, (text_getOr_iff filled notNone).mp same.symm, workspace, directory, store,
        memory, skills, ⟨toolsSection, hasTools, (tools_iff _ _ _).mp toolsChecked⟩, secretAccess,
        secret, mode⟩
  · rintro ⟨contract, member, unseen, accepted, rfl⟩
    simp only [agentSchema, accepts_object, acceptsFields_cons, accepts_leaf, accepts_equal,
      acceptsFields_nil, and_true] at accepted
    obtain ⟨agent, rfl, same, workspace, directory, store, memory, skills,
      ⟨toolsSection, hasTools, tools⟩, secretAccess, secret, mode⟩ := accepted
    obtain ⟨filled, notNone⟩ := mem_buildAgentTopology member
    have named := (text_getOr_iff filled notNone).mpr same
    refine ⟨agent, rfl, ?_⟩
    rw [named, find?_buildAgentTopology_iff.mpr ⟨member, rfl⟩]
    simp only [except_bind_eq_ok, objectAt_eq_ok_iff, Except.ok.injEq, Prod.mk.injEq,
      List.append_eq_nil_iff, requireAt_eq_nil_iff, configIssueUnless_eq_nil_iff,
      decide_eq_true_eq]
    exact ⟨toolsSection, hasTools, [], (tools_iff _ _ _).mpr tools, secretAccess, secret,
      ⟨⟨⟨⟨⟨⟨⟨unseen, workspace⟩, directory⟩, store⟩, memory⟩, skills⟩, rfl⟩, mode⟩, trivial⟩

/-- Every contract is met once, by the entries in any order. -/
private theorem agentListIssues_eq_nil_iff {paths : ProjectPaths} {items : List Value} :
    agentListIssues (buildAgentTopology paths) items = .ok [] ↔
      ∃ order, order.Perm (buildAgentTopology paths) ∧
        List.Forall₂ (fun item contract => (agentSchema requiredOf contract).Accepts item)
          items order := by
  let accepts : List String → Nat → List Value → Prop := fun seen index items =>
    agentsFrom (buildAgentTopology paths) seen index items = .ok []
  have round : ∀ seen index item items, accepts seen index (item :: items) ↔
      ∃ contract ∈ buildAgentTopology paths, contract.agentId ∉ seen ∧
        (agentSchema requiredOf contract).Accepts item ∧
        accepts (contract.agentId :: seen) (index + 1) items := by
    intro seen index item items
    simp only [accepts, agentsFrom, except_bind_eq_ok, Except.ok.injEq, List.append_eq_nil_iff]
    constructor
    · rintro ⟨⟨issues, next⟩, checked, later, rest, rfl, rfl⟩
      obtain ⟨contract, member, unseen, accepted, rfl⟩ := agentIssues_eq_nil_iff.mp checked
      exact ⟨contract, member, unseen, accepted, rest⟩
    · rintro ⟨contract, member, unseen, accepted, rest⟩
      exact ⟨([], contract.agentId :: seen),
        agentIssues_eq_nil_iff.mpr ⟨contract, member, unseen, accepted, rfl⟩, [], rest, rfl, rfl⟩
  have done : ∀ seen index, accepts seen index [] := fun _ _ => rfl
  rw [← accepts_all_iff done round (nodup_buildAgentTopology paths) items, agentListIssues]
  split
  next few => simp [few]
  next many => simp [accepts, not_not.mp many]

private theorem agentsIssues_eq_nil_iff {config : Section} {paths : ProjectPaths} :
    agentsIssues config paths = .ok [] ↔
      (Schema.object
        [("defaults", .object
          [("workspace", .equal (.str (paths.workspaceDir ++ "/agents"))),
            ("skills", .equal (texts skillNames))]),
          ("list", .leaf (IsAgentList (agentSchema requiredOf) (buildAgentTopology paths)))]
        ).Accepts (getOr config "agents" .none) := by
  simp only [agentsIssues, except_bind_eq_ok, asObject_eq_ok_iff, objectAt_eq_ok_iff,
    asList_eq_ok_iff, Except.ok.injEq, List.append_eq_nil_iff, requireAt_eq_nil_iff,
    accepts_object, acceptsFields_cons, accepts_equal, accepts_leaf, acceptsFields_nil, and_true]
  constructor
  · rintro ⟨agents, found, defaults, default, items, listed, issues, checked,
      ⟨workspace, skills⟩, rfl⟩
    obtain ⟨order, permuted, matched⟩ := agentListIssues_eq_nil_iff.mp checked
    exact ⟨agents, found, ⟨defaults, default, workspace, skills⟩, items, order, listed, permuted,
      matched⟩
  · rintro ⟨agents, found, ⟨defaults, default, workspace, skills⟩, items, order, listed, permuted,
      matched⟩
    exact ⟨agents, found, defaults, default, items, listed, [],
      agentListIssues_eq_nil_iff.mpr ⟨order, permuted, matched⟩, ⟨workspace, skills⟩, rfl⟩

private theorem routingIssues_eq_nil_iff {config : Section} :
    routingIssues config = .ok [] ↔ IsRouting (getOr config "routing" .none) := by
  unfold routingIssues IsRouting
  cases getOr config "routing" .none with
  | dict routing =>
      simp only [Value.dict.injEq, exists_eq_left', ← validateLoadedRouting_eq_nil_iff]
      cases validateLoadedRouting (getOr routing "realtime" (.list []))
        (getOr routing "code-audit" (.list [])) (getOr routing "code-work-order" (.list [])) with
      | error failure => simp
      | ok issues => simp
  | none | bool | int | float | str | list | tuple | other => simp

/-- The sections in turn, as far as something is accepted. -/
theorem validateRenderedConfig_valid_iff_sections
    {config : Value} {paths : ProjectPaths} :
    (∃ report, validateRenderedConfig config paths = .ok report ∧ report.valid = true) ↔
      ∃ entries, config = .dict entries ∧ envIssues entries = .ok [] ∧
        gatewayIssues entries = .ok [] ∧ hooksIssues entries = .ok [] ∧
        agentsIssues entries paths = .ok [] ∧ marketDataIssues entries = .ok [] ∧
        rootToolsIssues entries = .ok [] ∧ routingIssues entries = .ok [] := by
  simp only [validateRenderedConfig, except_bind_eq_ok, asObject_eq_ok_iff, Except.ok.injEq]
  constructor
  · rintro ⟨_, ⟨entries, rfl, env, first, gateway, second, hooks, third, agents, fourth,
      marketData, fifth, tools, sixth, routing, seventh, rfl⟩, valid⟩
    simp only [List.isEmpty_iff, List.append_eq_nil_iff] at valid
    obtain ⟨⟨⟨⟨⟨⟨rfl, rfl⟩, rfl⟩, rfl⟩, rfl⟩, rfl⟩, rfl⟩ := valid
    exact ⟨entries, rfl, first, second, third, fourth, fifth, sixth, seventh⟩
  · rintro ⟨entries, rfl, first, second, third, fourth, fifth, sixth, seventh⟩
    exact ⟨_, ⟨entries, rfl, [], first, [], second, [], third, [], fourth, [], fifth, [], sixth,
      [], seventh, rfl⟩, rfl⟩

private theorem gatewayIssues_eq_nil_iff {config : Section} :
    gatewayIssues config = .ok [] ↔
      (Schema.object gatewayFields).Accepts (getOr config "gateway" .none) := by
  simp only [gatewayIssues, gatewayFields, except_bind_eq_ok, asObject_eq_ok_iff,
    objectAt_eq_ok_iff, Except.ok.injEq, List.append_eq_nil_iff, requireAt_eq_nil_iff,
    accepts_object, acceptsFields_cons, accepts_equal, acceptsFields_nil, and_true]
  constructor
  · rintro ⟨gateway, found, auth, known, token, given, controlUi, shown,
      ⟨⟨⟨⟨⟨⟨⟨mode, bind⟩, port⟩, authMode⟩, source⟩, provider⟩, id⟩, enabled⟩⟩
    exact ⟨gateway, found, mode, bind, port,
      ⟨auth, known, authMode, token, given, source, provider, id⟩, controlUi, shown, enabled⟩
  · rintro ⟨gateway, found, mode, bind, port,
      ⟨auth, known, authMode, token, given, source, provider, id⟩, controlUi, shown, enabled⟩
    exact ⟨gateway, found, auth, known, token, given, controlUi, shown,
      ⟨⟨⟨⟨⟨⟨⟨mode, bind⟩, port⟩, authMode⟩, source⟩, provider⟩, id⟩, enabled⟩⟩

private theorem hooksIssues_eq_nil_iff {config : Section} :
    hooksIssues config = .ok [] ↔
      (Schema.object [("enabled", .equal (.bool false))]).Accepts (getOr config "hooks" .none) ∧
        (Schema.equal (texts skillNames)).Accepts (getOr config "skills" .none) := by
  simp only [hooksIssues, except_bind_eq_ok, asObject_eq_ok_iff, Except.ok.injEq,
    List.append_eq_nil_iff, requireAt_eq_nil_iff, requireEqual_eq_nil_iff, accepts_object,
    acceptsFields_cons, accepts_equal, acceptsFields_nil, and_true, ← and_assoc,
    exists_and_right]

/-- The sections find nothing in what the schema accepts, and in nothing else. -/
theorem sections_accept_iff {entries : Section} {paths : ProjectPaths} :
    (envIssues entries = .ok [] ∧ gatewayIssues entries = .ok [] ∧ hooksIssues entries = .ok [] ∧
        agentsIssues entries paths = .ok [] ∧ marketDataIssues entries = .ok [] ∧
        rootToolsIssues entries = .ok [] ∧ routingIssues entries = .ok []) ↔
      Schema.AcceptsFields (configFields paths requiredOf) entries := by
  have tools_iff := fun tools => @validateTools_eq_nil_iff tools "tools" false false
  simp only [configFields, acceptsFields_cons, acceptsFields_nil, and_true,
    gatewayIssues_eq_nil_iff, hooksIssues_eq_nil_iff, agentsIssues_eq_nil_iff,
    routingIssues_eq_nil_iff, accepts_leaf, and_assoc]
  simp only [envIssues, marketDataIssues, rootToolsIssues, except_bind_eq_ok, asObject_eq_ok_iff,
    objectAt_eq_ok_iff, Except.ok.injEq, requireAt_eq_nil_iff, tools_iff,
    validateMarketData_eq_nil_iff, accepts_object, acceptsFields_cons, acceptsFields_nil,
    accepts_equal, and_true]

/-- The configurations that are accepted are those of the schema. -/
theorem renderedConfig_valid_iff (config : Value) (paths : ProjectPaths) :
    (∃ report, validateRenderedConfig config paths = .ok report ∧ report.valid = true) ↔
      (Schema.object (configFields paths requiredOf)).Accepts config := by
  rw [validateRenderedConfig_valid_iff_sections, accepts_object]
  exact exists_congr (fun entries => and_congr_right (fun _ => sections_accept_iff))

end SuperAdvisor.Settings
