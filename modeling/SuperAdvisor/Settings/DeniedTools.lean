import SuperAdvisor.Settings.AcceptedConfig

/-!
# Denied tools

What the topology check accepts is stated for one entry of the agent list.  Both
checks use every contract once, so an entry has the same contract in both; where
both accept, the configuration denies every agent what its contract says.
-/

namespace SuperAdvisor.Settings

open Python Registry Topology

/-- The list of denied tools is the one of the contract. -/
def deniedOf (contract : AgentContract) (deny : Value) : Prop :=
  deny = texts contract.deniedTools

/-- `list(value)` is a list of these texts. -/
def ListsTexts (value : Value) (names : List String) : Prop :=
  ∃ items, listOf value = .ok items ∧ sameTexts items names = true

/-- An entry of the agent list in which the topology check finds nothing. -/
def MeetsTopology (item : Value) (contract : AgentContract) : Prop :=
  ∃ entry, item = .dict entry ∧ (getOr entry "id" (.str "")).text = contract.agentId ∧
    (getOr entry "workspace" (.str "")).text = contract.workspace ∧
    (getOr entry "agentDir" (.str "")).text = contract.agentDir ∧
    ListsTexts (getOr entry "skills" (.list [])) contract.skills ∧
    ∃ tools, getOr entry "tools" .none = .dict tools ∧
      ListsTexts (getOr tools "allow" (.list [])) contract.allowedTools ∧
      ListsTexts (getOr tools "deny" (.list [])) contract.deniedTools

@[simp] theorem topologyIssueUnless_eq_nil_iff {holds : Bool} {path rule message : String} :
    topologyIssueUnless holds path rule message = [] ↔ holds = true := by
  cases holds <;> simp [topologyIssueUnless]

private theorem topologyToolIssues_eq_nil_iff
    {contract : AgentContract} {place : String} {tools : Value} :
    topologyToolIssues contract place tools = .ok [] ↔
      ∃ entries, tools = .dict entries ∧
        ListsTexts (getOr entries "allow" (.list [])) contract.allowedTools ∧
        ListsTexts (getOr entries "deny" (.list [])) contract.deniedTools := by
  cases tools with
  | dict entries =>
      simp only [topologyToolIssues, except_bind_eq_ok, Except.ok.injEq, List.append_eq_nil_iff,
        topologyIssueUnless_eq_nil_iff, ListsTexts, Value.dict.injEq, exists_eq_left']
      constructor
      · rintro ⟨allow, listed, deny, denied, same, equal⟩
        exact ⟨⟨allow, listed, same⟩, deny, denied, equal⟩
      · rintro ⟨⟨allow, listed, same⟩, deny, denied, equal⟩
        exact ⟨allow, listed, deny, denied, same, equal⟩
  | none | bool | int | float | str | list | tuple | other => simp [topologyToolIssues]

/-- One round of the loop of the topology check. -/
private theorem topologyAgentIssues_eq_nil_iff
    {paths : ProjectPaths} {seen later : List String} {index : Nat} {item : Value} :
    topologyAgentIssues (buildAgentTopology paths) seen index item = .ok ([], later) ↔
      ∃ contract ∈ buildAgentTopology paths, contract.agentId ∉ seen ∧
        MeetsTopology item contract ∧ later = contract.agentId :: seen := by
  cases item with
  | dict entry =>
      simp only [topologyAgentIssues]
      constructor
      · intro checked
        split at checked
        next => simp at checked
        next contract found =>
          simp only [except_bind_eq_ok, Except.ok.injEq, Prod.mk.injEq, List.append_eq_nil_iff,
            topologyIssueUnless_eq_nil_iff, decide_eq_true_eq] at checked
          obtain ⟨skills, listed, tools, used,
            ⟨⟨⟨⟨unseen, workspace⟩, directory⟩, same⟩, rfl⟩, rfl⟩ := checked
          obtain ⟨member, named⟩ := find?_buildAgentTopology_iff.mp found
          rw [← named] at unseen ⊢
          exact ⟨contract, member, unseen, ⟨entry, rfl, named.symm, workspace, directory,
            ⟨skills, listed, same⟩, topologyToolIssues_eq_nil_iff.mp used⟩, rfl⟩
      · rintro ⟨contract, member, unseen, ⟨_, built, named, workspace, directory,
          ⟨skills, listed, same⟩, tools⟩, rfl⟩
        cases built
        rw [named, find?_buildAgentTopology_iff.mpr ⟨member, rfl⟩]
        simp only [except_bind_eq_ok, Except.ok.injEq, Prod.mk.injEq, List.append_eq_nil_iff,
          topologyIssueUnless_eq_nil_iff, decide_eq_true_eq]
        exact ⟨skills, listed, [], topologyToolIssues_eq_nil_iff.mpr tools,
          ⟨⟨⟨⟨unseen, workspace⟩, directory⟩, same⟩, rfl⟩, trivial⟩
  | none | bool | int | float | str | list | tuple | other =>
      simp [topologyAgentIssues, MeetsTopology]

/-- The entries are matched with the contracts in an order of them. -/
def IsMatchedBy (fits : Value → AgentContract → Prop) (paths : ProjectPaths)
    (items : List Value) : Prop :=
  ∃ order, order.Perm (buildAgentTopology paths) ∧ List.Forall₂ fits items order

private theorem topologyAgentsFrom_eq_nil_iff {paths : ProjectPaths} {items : List Value} :
    (topologyAgentsFrom (buildAgentTopology paths) [] 0 items = .ok [] ∧
        items.length = (buildAgentTopology paths).length) ↔
      IsMatchedBy MeetsTopology paths items := by
  let accepts : List String → Nat → List Value → Prop := fun seen index items =>
    topologyAgentsFrom (buildAgentTopology paths) seen index items = .ok []
  have round : ∀ seen index item items, accepts seen index (item :: items) ↔
      ∃ contract ∈ buildAgentTopology paths, contract.agentId ∉ seen ∧
        MeetsTopology item contract ∧ accepts (contract.agentId :: seen) (index + 1) items := by
    intro seen index item items
    simp only [accepts, topologyAgentsFrom, except_bind_eq_ok, Except.ok.injEq,
      List.append_eq_nil_iff]
    constructor
    · rintro ⟨⟨issues, next⟩, checked, later, rest, rfl, rfl⟩
      obtain ⟨contract, member, unseen, meets, rfl⟩ := topologyAgentIssues_eq_nil_iff.mp checked
      exact ⟨contract, member, unseen, meets, rest⟩
    · rintro ⟨contract, member, unseen, meets, rest⟩
      exact ⟨([], contract.agentId :: seen),
        topologyAgentIssues_eq_nil_iff.mpr ⟨contract, member, unseen, meets, rfl⟩, [], rest, rfl,
        rfl⟩
  have done : ∀ seen index, accepts seen index [] := fun _ _ => rfl
  exact accepts_all_iff done round (nodup_buildAgentTopology paths) items

private theorem topologyListIssues_eq_nil_iff {paths : ProjectPaths} {value : Value} :
    topologyListIssues (buildAgentTopology paths) value = .ok [] ↔
      ∃ agents, value = .dict agents ∧
        (∃ defaults, getOr agents "defaults" .none = .dict defaults) ∧
        ∃ items, getOr agents "list" .none = .list items ∧
          IsMatchedBy MeetsTopology paths items := by
  cases value with
  | dict agents =>
      simp only [topologyListIssues, ← topologyAgentsFrom_eq_nil_iff, Value.dict.injEq,
        exists_eq_left']
      cases getOr agents "list" .none with
      | list items =>
          simp only [except_bind_eq_ok, Except.ok.injEq, List.append_eq_nil_iff,
            topologyIssueUnless_eq_nil_iff, Value.list.injEq, exists_eq_left']
          cases getOr agents "defaults" .none with
          | dict defaults =>
              constructor
              · rintro ⟨each, checked, ⟨-, many⟩, rfl⟩
                exact ⟨⟨defaults, rfl⟩, checked, by simpa using many⟩
              · rintro ⟨-, checked, many⟩
                exact ⟨[], checked, ⟨rfl, by simpa using many⟩, rfl⟩
          | none | bool | int | float | str | list | tuple | other => simp
      | none | bool | int | float | str | dict | tuple | other => simp
  | none | bool | int | float | str | list | tuple | other => simp [topologyListIssues]

private theorem topologyRouteIssues_eq_nil_iff {value : Value} :
    topologyRouteIssues value = .ok [] ↔
      ((∃ routing, value = .dict routing) → IsRouting value) := by
  have mismatch : ∀ (routes : List (List Value)) (name message : String)
      (allowlist : List (String × String)),
      mismatchIssues routes name message allowlist = [] ↔
        routes = allowlist.map (fun pair => [.str pair.1, .str pair.2]) := by
    intro routes name message allowlist
    rw [← matchesAllowlist_iff, mismatchIssues]
    split
    next matched => simp [matched]
    next different => simp [different]
  cases value with
  | dict routing =>
      simp only [topologyRouteIssues, except_bind_eq_ok, Except.ok.injEq, List.append_eq_nil_iff,
        mismatch, IsRouting, IsAllowlist, Value.dict.injEq, exists_eq_left', exists_eq',
        forall_const]
      constructor
      · rintro ⟨realtime, first, audit, second, work, third, ⟨rfl, rfl⟩, rfl⟩
        exact ⟨first, second, third⟩
      · rintro ⟨first, second, third⟩
        exact ⟨_, first, _, second, _, third, ⟨rfl, rfl⟩, rfl⟩
  | none | bool | int | float | str | list | tuple | other => simp [topologyRouteIssues]

/-- The topology check accepts the parts that it looks at. -/
theorem agentTopology_valid_iff (config : Section) (paths : ProjectPaths) :
    (∃ report, validateAgentTopology (some config) paths = .ok report ∧ report.valid = true) ↔
      (getOr config "skills" .none).equals (texts skillNames) = true ∧
        (∃ agents, getOr config "agents" .none = .dict agents ∧
          (∃ defaults, getOr agents "defaults" .none = .dict defaults) ∧
          ∃ items, getOr agents "list" .none = .list items ∧
            IsMatchedBy MeetsTopology paths items) ∧
        ((∃ routing, getOr config "routing" .none = .dict routing) →
          IsRouting (getOr config "routing" .none)) := by
  rw [← topologyListIssues_eq_nil_iff, ← topologyRouteIssues_eq_nil_iff]
  simp only [validateAgentTopology, except_bind_eq_ok, Except.ok.injEq]
  constructor
  · rintro ⟨_, ⟨listed, checked, routes, routed, rfl⟩, valid⟩
    simp only [Bool.and_eq_true, List.isEmpty_iff, List.append_eq_nil_iff,
      topologyIssueUnless_eq_nil_iff] at valid
    obtain ⟨⟨catalog, rfl⟩, rfl⟩ := valid
    exact ⟨catalog, checked, routed⟩
  · rintro ⟨catalog, checked, routed⟩
    refine ⟨_, ⟨[], checked, [], routed, rfl⟩, ?_⟩
    simpa [texts] using catalog

/-- A report on the right routes is valid unless it has issues. -/
theorem agentTopology_valid_of_issues
    {config : Section} {paths : ProjectPaths} {report : AgentTopologyReport}
    (checked : validateAgentTopology (some config) paths = .ok report)
    (routed : IsRouting (getOr config "routing" .none)) (nothing : report.issues = []) :
    report.valid = true := by
  simp only [validateAgentTopology, except_bind_eq_ok, Except.ok.injEq] at checked
  obtain ⟨listed, -, routes, found, rfl⟩ := checked
  obtain rfl : [] = routes := by
    simpa [topologyRouteIssues_eq_nil_iff.mpr (fun _ => routed)] using found
  simpa using nothing

/-! The two checks together. -/

/-- The id of an entry. -/
def entryId : Value → String
  | .dict entry => (getOr entry "id" (.str "")).text
  | _ => ""

/-- Entries are matched with contracts by their ids, so in one order only. -/
private theorem order_unique
    {paths : ProjectPaths} {items : List Value} {order others : List AgentContract}
    (known : order ⊆ buildAgentTopology paths) (within : others ⊆ buildAgentTopology paths)
    (left : List.Forall₂ (fun item contract => entryId item = contract.agentId) items order)
    (right : List.Forall₂ (fun item contract => entryId item = contract.agentId) items others) :
    order = others := by
  induction left generalizing others with
  | nil =>
      cases right
      rfl
  | cons here _ induction =>
      cases right with
      | cons there rest =>
          rw [List.cons_subset] at known within
          rw [List.inj_on_of_nodup_map (nodup_buildAgentTopology paths) known.1 within.1
            (here.symm.trans there), induction known.2 within.2 rest]

/-- A matched contract is one of those in the order. -/
private theorem matched_and_mem
    {contracts order : List AgentContract} {items : List Value}
    {fits : Value → AgentContract → Prop} (known : order ⊆ contracts)
    (matched : List.Forall₂ fits items order) :
    List.Forall₂ (fun item contract => contract ∈ contracts ∧ fits item contract) items order :=
  List.Forall₂.flip
    ((List.forall₂_and_left order items).mpr ⟨fun _ member => known member, matched.flip⟩)

/-- What the contracts allow is what the check of the configuration expects, and
what they deny covers what it requires. -/
theorem allowed_denied_of_contract
    {paths : ProjectPaths} {contract : AgentContract}
    (member : contract ∈ buildAgentTopology paths) :
    contract.allowedTools = expectedAllow (contract.agentId == "blueprint-coder") ∧
      ∀ name ∈ requiredDenies "agents" (contract.agentId == "super-advisor")
        (contract.agentId == "blueprint-coder"), name ∈ contract.deniedTools := by
  unfold buildAgentTopology at member
  obtain ⟨agentId, known, built⟩ := List.mem_filterMap.mp member
  obtain ⟨spec, -, rfl⟩ := Option.map_eq_some_iff.mp built
  have each : ∀ agentId ∈ runtimeAgentIds,
      agentAllowedTools agentId = expectedAllow (agentId == "blueprint-coder") ∧
        ∀ name ∈ requiredDenies "agents" (agentId == "super-advisor")
          (agentId == "blueprint-coder"), name ∈ agentDeniedTools agentId := by
    decide +kernel
  exact each agentId known

theorem unhashableItem_texts (names : List String) :
    unhashableItem (names.map .str) = none := by
  induction names with
  | nil => rfl
  | cons name names induction => simpa [unhashableItem, unhashable] using induction

/-- The list of the contract is enough. -/
theorem requiredOf_of_deniedOf
    {paths : ProjectPaths} {contract : AgentContract}
    (member : contract ∈ buildAgentTopology paths) {deny : Value}
    (denied : deniedOf contract deny) : requiredOf contract deny := by
  refine ⟨_, denied, unhashableItem_texts _, fun name required => ?_⟩
  exact List.mem_map_of_mem ((allowed_denied_of_contract member).2 name required)

theorem acceptsFields_toolsFields
    {isSuperAdvisor isBlueprintCoder : Bool} {denies : Value → Prop} {tools : Section} :
    Schema.AcceptsFields (toolsFields isSuperAdvisor isBlueprintCoder denies) tools ↔
      denies (getOr tools "deny" .none) ∧
        Schema.AcceptsFields (toolsFields isSuperAdvisor isBlueprintCoder (fun _ => True))
          tools := by
  simp only [toolsFields, acceptsFields_cons, accepts_leaf, true_and]

private theorem getOr_of_present
    {entries : Section} {name : String} {value : Value} (default : Value)
    (found : getOr entries name .none = value) (present : value ≠ .none) :
    getOr entries name default = value := by
  simp [getOr, lookupEntry_of_getOr found present]

private theorem listsTexts_of_equal
    {entries : Section} {name : String} {names : List String}
    (equal : (getOr entries name .none).equals (texts names) = true) :
    ListsTexts (getOr entries name (.list [])) names := by
  have found := equals_strings_iff.mp equal
  rw [getOr_of_present _ found (by simp)]
  exact ⟨_, rfl, equals_strings_iff.mpr rfl⟩

private theorem text_getOr_of_equal
    {entries : Section} {name text : String}
    (equal : (getOr entries name .none).equals (.str text) = true) :
    (getOr entries name (.str "")).text = text := by
  rw [getOr_of_present _ (equals_str_iff.mp equal) (by simp)]
  rfl

/-- A list that is denied what the contract says. -/
private theorem deniedOf_of_listsTexts
    {tools : Section} {contract : AgentContract}
    (required : requiredOf contract (getOr tools "deny" .none))
    (listed : ListsTexts (getOr tools "deny" (.list [])) contract.deniedTools) :
    deniedOf contract (getOr tools "deny" .none) := by
  obtain ⟨items, found, -⟩ := required
  rw [getOr_of_present _ found (by simp)] at listed
  obtain ⟨others, same, equal⟩ := listed
  obtain rfl : items = others := by simpa [listOf] using same
  exact found.trans (equals_strings_iff.mp equal)

/-- An entry is accepted by both checks exactly if it is denied what its contract
says, and is as the configuration check has it. -/
private theorem agentSchema_deniedOf_iff
    {paths : ProjectPaths} {contract : AgentContract}
    (member : contract ∈ buildAgentTopology paths) (item : Value) :
    (agentSchema deniedOf contract).Accepts item ↔
      (agentSchema requiredOf contract).Accepts item ∧ MeetsTopology item contract := by
  obtain ⟨allowed, -⟩ := allowed_denied_of_contract member
  simp only [agentSchema, accepts_object, acceptsFields_cons, accepts_leaf, accepts_equal,
    acceptsFields_nil, and_true, @acceptsFields_toolsFields _ _ (deniedOf contract),
    @acceptsFields_toolsFields _ _ (requiredOf contract)]
  constructor
  · rintro ⟨entry, rfl, named, workspace, directory, store, memory, skills,
      ⟨tools, used, denied, others⟩, secretAccess⟩
    refine ⟨⟨entry, rfl, named, workspace, directory, store, memory, skills,
      ⟨tools, used, requiredOf_of_deniedOf member denied, others⟩, secretAccess⟩, entry, rfl,
      ?_, text_getOr_of_equal workspace, text_getOr_of_equal directory,
      listsTexts_of_equal skills, tools, used, ?_, ?_⟩
    · obtain ⟨filled, notNone⟩ := mem_buildAgentTopology member
      exact (text_getOr_iff filled notNone).mpr named
    · simp only [toolsFields, acceptsFields_cons, accepts_equal] at others
      rw [allowed]
      exact listsTexts_of_equal others.2.1
    · refine listsTexts_of_equal ?_
      rw [show getOr tools "deny" .none = texts contract.deniedTools from denied]
      exact equals_strings_iff.mpr rfl
  · rintro ⟨⟨entry, rfl, named, workspace, directory, store, memory, skills,
      ⟨tools, used, required, others⟩, secretAccess⟩, _, built, -, -, -, -, found, has, -, listed⟩
    cases built
    cases used.symm.trans has
    exact ⟨entry, rfl, named, workspace, directory, store, memory, skills,
      ⟨tools, used, deniedOf_of_listsTexts required listed, others⟩, secretAccess⟩

private theorem entryId_of_agentSchema
    {paths : ProjectPaths} {contract : AgentContract} {denies : AgentContract → Value → Prop}
    (member : contract ∈ buildAgentTopology paths) {item : Value}
    (accepted : (agentSchema denies contract).Accepts item) :
    entryId item = contract.agentId := by
  simp only [agentSchema, accepts_object, acceptsFields_cons, accepts_leaf] at accepted
  obtain ⟨entry, rfl, named, -⟩ := accepted
  obtain ⟨filled, notNone⟩ := mem_buildAgentTopology member
  exact (text_getOr_iff filled notNone).mpr named

private theorem entryId_of_meetsTopology {item : Value} {contract : AgentContract}
    (meets : MeetsTopology item contract) : entryId item = contract.agentId := by
  obtain ⟨entry, rfl, named, -⟩ := meets
  exact named

/-- What both checks accept is what denies every agent what its contract says. -/
private theorem isAgentList_deniedOf_iff {paths : ProjectPaths} {value : Value} :
    IsAgentList (agentSchema deniedOf) (buildAgentTopology paths) value ↔
      IsAgentList (agentSchema requiredOf) (buildAgentTopology paths) value ∧
        ∃ items, value = .list items ∧ IsMatchedBy MeetsTopology paths items := by
  constructor
  · rintro ⟨items, order, rfl, permuted, matched⟩
    have both := (matched_and_mem permuted.subset matched).imp
      (fun item contract known => (agentSchema_deniedOf_iff known.1 item).mp known.2)
    exact ⟨⟨items, order, rfl, permuted, both.imp (fun _ _ known => known.1)⟩, items, rfl, order,
      permuted, both.imp (fun _ _ known => known.2)⟩
  · rintro ⟨⟨items, order, rfl, permuted, matched⟩, _, built, others, again, topology⟩
    cases built
    have known := matched_and_mem permuted.subset matched
    have ids := known.imp (fun _ _ known => entryId_of_agentSchema known.1 known.2)
    have others_ids := topology.imp (fun _ _ => entryId_of_meetsTopology)
    obtain rfl := order_unique permuted.subset again.subset ids others_ids
    exact ⟨items, order, rfl, permuted, List.Forall₂.mp
      (fun item contract known meets => (agentSchema_deniedOf_iff known.1 item).mpr
        ⟨known.2, meets⟩) known topology⟩

/-- What the configuration check accepts, and the parts that the topology check
looks at. -/
theorem acceptsFields_deniedOf_iff {config : Section} {paths : ProjectPaths} :
    (Schema.AcceptsFields (configFields paths requiredOf) config ∧
        (getOr config "skills" .none).equals (texts skillNames) = true ∧
          (∃ agents, getOr config "agents" .none = .dict agents ∧
            (∃ defaults, getOr agents "defaults" .none = .dict defaults) ∧
            ∃ items, getOr agents "list" .none = .list items ∧
              IsMatchedBy MeetsTopology paths items)) ↔
      Schema.AcceptsFields (configFields paths deniedOf) config := by
  simp only [configFields, accepts_object, acceptsFields_cons, accepts_leaf, accepts_equal,
    acceptsFields_nil, and_true, isAgentList_deniedOf_iff]
  constructor
  · rintro ⟨⟨env, gateway, hooks, skills, ⟨agents, found, defaults, listed⟩, marketData, tools,
      routing⟩, -, _, again, -, matched⟩
    cases found.symm.trans again
    exact ⟨env, gateway, hooks, skills, ⟨agents, found, defaults, listed, matched⟩, marketData,
      tools, routing⟩
  · rintro ⟨env, gateway, hooks, skills, ⟨agents, found, ⟨defaults, default, kept⟩, listed,
      matched⟩, marketData, tools, routing⟩
    exact ⟨⟨env, gateway, hooks, skills, ⟨agents, found, ⟨defaults, default, kept⟩, listed⟩,
      marketData, tools, routing⟩, skills, agents, found, ⟨defaults, default⟩, matched⟩

theorem isRouting_of_acceptsFields
    {config : Section} {paths : ProjectPaths} {denies : AgentContract → Value → Prop}
    (accepted : Schema.AcceptsFields (configFields paths denies) config) :
    IsRouting (getOr config "routing" .none) := by
  simp only [configFields, acceptsFields_cons, accepts_leaf] at accepted
  exact accepted.2.2.2.2.2.2.2.1

theorem renderedDict_valid_iff (config : Section) (paths : ProjectPaths) :
    (∃ report, validateRenderedConfig (.dict config) paths = .ok report ∧
        report.valid = true) ↔ Schema.AcceptsFields (configFields paths requiredOf) config := by
  simp only [validateRenderedConfig_valid_iff_sections, sections_accept_iff, Value.dict.injEq,
    exists_eq_left']

/-- Both checks accept a configuration exactly if it is one of the schema in which
every agent is denied what its contract says. -/
theorem both_checks_valid_iff (config : Section) (paths : ProjectPaths) :
    ((∃ report, validateRenderedConfig (.dict config) paths = .ok report ∧
          report.valid = true) ∧
        ∃ report, validateAgentTopology (some config) paths = .ok report ∧
          report.valid = true) ↔
      (Schema.object (configFields paths deniedOf)).Accepts (.dict config) := by
  rw [renderedDict_valid_iff, agentTopology_valid_iff]
  simp only [accepts_object, Value.dict.injEq, exists_eq_left', ← acceptsFields_deniedOf_iff]
  constructor
  · rintro ⟨accepted, skills, agents, -⟩
    exact ⟨accepted, skills, agents⟩
  · rintro ⟨accepted, skills, agents⟩
    exact ⟨accepted, skills, agents, fun _ => isRouting_of_acceptsFields accepted⟩

end SuperAdvisor.Settings
