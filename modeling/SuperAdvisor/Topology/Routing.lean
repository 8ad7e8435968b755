import SuperAdvisor.Foundation.RaisingLoops
import SuperAdvisor.Foundation.ValueEquality

/-!
# Routing validation

A routing object is valid when its three known sections are the allowlists.
Other sections are not read, so they may carry any route.

In a configuration the sections are whatever was loaded.  They are iterated, and
so are their routes; what cannot be iterated raises, and what can is compared
with the allowlists as on lists of names.
-/

namespace SuperAdvisor.Topology

open Python

def realtimeRouteAllowlist : List (String × String) :=
  [("evidence-archive", "super-advisor"),
    ("super-advisor", "xau-strategy-auditor"),
    ("xau-strategy-auditor", "super-advisor"),
    ("super-advisor", "telegram-publisher"),
    ("telegram-publisher", "outcome-ledger")]

def codeAuditRouteAllowlist : List (String × String) :=
  [("source-bundle", "system-coder-auditor"),
    ("system-coder-auditor", "audit-report")]

def codeWorkOrderRouteAllowlist : List (String × String) :=
  [("super-advisor", "blueprint-coder"),
    ("blueprint-coder", "system-coder-auditor"),
    ("system-coder-auditor", "security-compliance-agent"),
    ("security-compliance-agent", "super-advisor")]

def disallowedRoutes : List (String × String) :=
  [("telegram-publisher", "xau-strategy-auditor"),
    ("telegram-publisher", "system-coder-auditor"),
    ("xau-strategy-auditor", "telegram-publisher"),
    ("system-coder-auditor", "super-advisor"),
    ("unknown-agent", "any"),
    ("blueprint-coder", "telegram-publisher"),
    ("blueprint-coder", "outcome-ledger"),
    ("blueprint-coder", "super-advisor"),
    ("blueprint-coder", "blueprint-coder")]

structure AgentTopologyIssue where
  path : String
  rule : String
  message : String
  deriving DecidableEq

structure RouteValidationReport where
  version : String
  phase : String
  valid : Bool
  allowedRoutes : List (String × String)
  issues : List AgentTopologyIssue
  deriving DecidableEq

/-- The lists of routes by section; a route is a list of agents. -/
abbrev Routes := List (String × List (List String))

/-- A pair as the routes of a section have it. -/
def asRoute (pair : String × String) : List String := [pair.1, pair.2]

/-- `routes.get(section, [])` -/
def Routes.section (routes : Routes) (name : String) : List (List String) :=
  (OrderedDict.get? routes name).getD []

/-- The check of one section against its allowlist. -/
def sectionIssues (routes : Routes) (name message : String)
    (allowlist : List (String × String)) : List AgentTopologyIssue :=
  if routes.section name ≠ allowlist.map asRoute then
    [{ path := "routing." ++ name, rule := "allowlist_mismatch", message := message }]
  else []

/-- The check of one route; the routes of the set have two agents. -/
def routeIssues (route : List String) : List AgentTopologyIssue :=
  if route ∈ disallowedRoutes.map asRoute then
    [{ path := "routing"
       rule := "disallowed_route"
       message := "disallowed route " ++ quotedText (route.getD 0 "") ++ " -> " ++
        quotedText (route.getD 1 "") }]
  else []

def validateRouting (routes : Option Routes) : RouteValidationReport :=
  match routes with
  | none =>
      { version := "1.2.15"
        phase := "P2.4"
        valid := false
        allowedRoutes := []
        issues := [⟨"routing", "missing", "routing config is required"⟩] }
  | some routes =>
      let issues :=
        sectionIssues routes "realtime" "realtime routing must match the allowlist"
            realtimeRouteAllowlist ++
          sectionIssues routes "code-audit" "code-audit routing must match the allowlist"
            codeAuditRouteAllowlist ++
          sectionIssues routes "code-work-order"
            "code-work-order routing must match the allowlist" codeWorkOrderRouteAllowlist ++
          (routes.section "realtime" ++ routes.section "code-audit" ++
            routes.section "code-work-order").flatMap routeIssues
      { version := "1.2.15"
        phase := "P2.4"
        valid := issues.isEmpty
        allowedRoutes := realtimeRouteAllowlist ++ codeAuditRouteAllowlist ++
          codeWorkOrderRouteAllowlist
        issues := issues }

/-- The sections that the validation reads. -/
def readSections : List String := ["realtime", "code-audit", "code-work-order"]

/-- The route is one of the allowlists. -/
def IsAllowed (route : List String) : Prop :=
  route ∈ (realtimeRouteAllowlist ++ codeAuditRouteAllowlist ++
    codeWorkOrderRouteAllowlist).map asRoute

instance (route : List String) : Decidable (IsAllowed route) :=
  inferInstanceAs (Decidable (route ∈ _))

theorem not_disallowed_of_isAllowed
    {route : List String} (allowed : IsAllowed route) : route ∉ disallowedRoutes.map asRoute := by
  have each : ∀ route ∈ (realtimeRouteAllowlist ++ codeAuditRouteAllowlist ++
      codeWorkOrderRouteAllowlist).map asRoute, route ∉ disallowedRoutes.map asRoute := by
    decide +kernel
  exact each route allowed

private theorem sectionIssues_eq_nil_iff
    (routes : Routes) (name message : String) (allowlist : List (String × String)) :
    sectionIssues routes name message allowlist = [] ↔
      routes.section name = allowlist.map asRoute := by
  unfold sectionIssues
  split
  next different => simp [different]
  next same => simpa using same

/-- A routing object is valid exactly if the sections that are read are the
allowlists. -/
theorem validateRouting_valid_iff (routes : Routes) :
    (validateRouting (some routes)).valid = true ↔
      routes.section "realtime" = realtimeRouteAllowlist.map asRoute ∧
        routes.section "code-audit" = codeAuditRouteAllowlist.map asRoute ∧
        routes.section "code-work-order" = codeWorkOrderRouteAllowlist.map asRoute := by
  simp only [validateRouting, List.isEmpty_iff, List.append_eq_nil_iff, sectionIssues_eq_nil_iff,
    List.flatMap_eq_nil_iff, and_assoc]
  constructor
  · exact fun all => ⟨all.1, all.2.1, all.2.2.1⟩
  · rintro ⟨realtime, audit, work⟩
    refine ⟨realtime, audit, work, ?_⟩
    rw [realtime, audit, work, ← List.map_append, ← List.map_append]
    intro route allowed
    exact if_neg (not_disallowed_of_isAllowed allowed)

/-- In a valid routing object every route is allowed and none is disallowed
exactly if the sections that are not read have allowed routes only. -/
theorem valid_routes_allowed_iff
    {routes : Routes} (valid : (validateRouting (some routes)).valid = true) :
    (∀ name listed, OrderedDict.get? routes name = some listed → ∀ route ∈ listed,
      IsAllowed route ∧ route ∉ disallowedRoutes.map asRoute) ↔
      ∀ name listed, OrderedDict.get? routes name = some listed → name ∉ readSections →
        ∀ route ∈ listed, IsAllowed route := by
  obtain ⟨realtime, audit, work⟩ := (validateRouting_valid_iff routes).mp valid
  constructor
  · exact fun all name listed found _ route member => (all name listed found route member).1
  · intro others name listed found route member
    have section_eq : routes.section name = listed := by simp [Routes.section, found]
    suffices allowed : IsAllowed route from ⟨allowed, not_disallowed_of_isAllowed allowed⟩
    by_cases isRead : name ∈ readSections
    · unfold IsAllowed
      rw [List.map_append, List.map_append]
      rw [← section_eq] at member
      simp only [readSections, List.mem_cons, List.not_mem_nil, or_false] at isRead
      rcases isRead with rfl | rfl | rfl
      · rw [realtime] at member
        exact List.mem_append_left _ (List.mem_append_left _ member)
      · rw [audit] at member
        exact List.mem_append_left _ (List.mem_append_right _ member)
      · rw [work] at member
        exact List.mem_append_right _ member
    · exact others name listed found isRead route member

/-- The three sections, and another one. -/
def routesWith (name : String) (listed : List (List String)) : Routes :=
  [("realtime", realtimeRouteAllowlist.map asRoute),
    ("code-audit", codeAuditRouteAllowlist.map asRoute),
    ("code-work-order", codeWorkOrderRouteAllowlist.map asRoute), (name, listed)]

theorem auditRoutes_allowed :
    IsAllowed ["source-bundle", "system-coder-auditor"] ∧
      ["source-bundle", "system-coder-auditor"] ∉ disallowedRoutes.map asRoute := by
  have other : ∀ entry ∈ routesWith "audit" [["source-bundle", "system-coder-auditor"]],
      entry.1 ∉ readSections → ∀ route ∈ entry.2, IsAllowed route := by decide +kernel
  have allowed : ∀ name listed, OrderedDict.get? (routesWith "audit" [["source-bundle",
      "system-coder-auditor"]]) name = some listed → name ∉ readSections →
        ∀ route ∈ listed, IsAllowed route :=
    fun _ _ found => other _ (OrderedDict.mem_of_get? found)
  exact (valid_routes_allowed_iff (by decide +kernel)).mpr allowed "audit" _ rfl _
    (List.mem_singleton_self _)

/-- A disallowed route in a section that is not read. -/
theorem shadowRoute_valid :
    (validateRouting (some (routesWith "shadow"
        [["blueprint-coder", "telegram-publisher"]]))).valid = true ∧
      ¬∀ name listed, OrderedDict.get? (routesWith "shadow"
          [["blueprint-coder", "telegram-publisher"]]) name = some listed → ∀ route ∈ listed,
        IsAllowed route ∧ route ∉ disallowedRoutes.map asRoute := by
  refine ⟨by decide +kernel, fun all => ?_⟩
  exact (all "shadow" _ rfl _ (List.mem_singleton_self _)).2 (by decide +kernel)

/-! Sections that were loaded. -/

/-- `[tuple(item) for item in section]` -/
def routesOf (loaded : Value) : Except Failure (List (List Value)) := do
  let items ← listOf loaded
  items.mapM listOf

def routeValue (pair : String × String) : Value :=
  .tuple [.str pair.1, .str pair.2]

/-- The converted routes are those of the allowlist. -/
def matchesAllowlist (routes : List (List Value)) (allowlist : List (String × String)) : Bool :=
  (Value.list (routes.map .tuple)).equals (.list (allowlist.map routeValue))

mutual

/-- The type at which `hash(value)` raises. -/
def unhashable : Value → Option String
  | .list _ => some "list"
  | .dict _ => some "dict"
  | .tuple items => unhashableItem items
  | _ => none

def unhashableItem : List Value → Option String
  | [] => none
  | item :: items => (unhashable item).or (unhashableItem items)

end

def mismatchIssues (routes : List (List Value)) (name message : String)
    (allowlist : List (String × String)) : List AgentTopologyIssue :=
  if matchesAllowlist routes allowlist then []
  else [{ path := "routing." ++ name, rule := "allowlist_mismatch", message := message }]

/-- `route in disallowed_routes`, and the issue it makes. -/
def loadedRouteIssues (route : List Value) : Except Failure (List AgentTopologyIssue) :=
  match unhashableItem route with
  | some name => .error (.typeError ("unhashable type: " ++ quotedText name))
  | none =>
      if Value.tuple route ∈ disallowedRoutes.map routeValue then
        .ok [{ path := "routing"
               rule := "disallowed_route"
               message := "disallowed route " ++ (route.getD 0 .none).shown ++ " -> " ++
                 (route.getD 1 .none).shown }]
      else .ok []

/-- `validate_routing` on three sections as they were loaded. -/
def validateLoadedRouting (realtime codeAudit codeWorkOrder : Value) :
    Except Failure (List AgentTopologyIssue) := do
  let realtimeRoutes ← routesOf realtime
  let auditRoutes ← routesOf codeAudit
  let workRoutes ← routesOf codeWorkOrder
  let disallowed ← (realtimeRoutes ++ auditRoutes ++ workRoutes).mapM loadedRouteIssues
  .ok (mismatchIssues realtimeRoutes "realtime" "realtime routing must match the allowlist"
        realtimeRouteAllowlist ++
      mismatchIssues auditRoutes "code-audit" "code-audit routing must match the allowlist"
        codeAuditRouteAllowlist ++
      mismatchIssues workRoutes "code-work-order"
        "code-work-order routing must match the allowlist" codeWorkOrderRouteAllowlist ++
      disallowed.flatten)

/-- The section is read as the allowlist. -/
def IsAllowlist (loaded : Value) (allowlist : List (String × String)) : Prop :=
  routesOf loaded = .ok (allowlist.map (fun pair => [.str pair.1, .str pair.2]))

private theorem equalsItems_routes {routes : List (List Value)}
    {allowlist : List (String × String)} :
    Value.equalsItems (routes.map .tuple) (allowlist.map routeValue) = true ↔
      routes = allowlist.map (fun pair => [.str pair.1, .str pair.2]) := by
  induction routes generalizing allowlist with
  | nil =>
      cases allowlist with
      | nil => simp [Value.equalsItems]
      | cons pair allowlist => simp [Value.equalsItems]
  | cons route routes induction =>
      cases allowlist with
      | nil => simp [Value.equalsItems]
      | cons pair allowlist =>
          have first : (Value.tuple route).equals (routeValue pair) = true ↔
              route = [.str pair.1, .str pair.2] := by
            simp only [routeValue, Value.equals]
            rcases route with _ | ⟨source, _ | ⟨target, _ | ⟨third, more⟩⟩⟩
            · simp [Value.equalsItems]
            · simp [Value.equalsItems]
            · simp [Value.equalsItems, equals_str_iff]
            · simp [Value.equalsItems]
          simp [Value.equalsItems, first, induction]

theorem matchesAllowlist_iff {routes : List (List Value)} {allowlist : List (String × String)} :
    matchesAllowlist routes allowlist = true ↔
      routes = allowlist.map (fun pair => [.str pair.1, .str pair.2]) := by
  unfold matchesAllowlist
  rw [Value.equals]
  exact equalsItems_routes

/-- A route of names is hashable, and disallowed as it was on names. -/
private theorem loadedRouteIssues_names (pair : String × String) :
    loadedRouteIssues [.str pair.1, .str pair.2] = .ok (routeIssues (asRoute pair)) := by
  have same : Value.tuple [.str pair.1, .str pair.2] ∈ disallowedRoutes.map routeValue ↔
      asRoute pair ∈ disallowedRoutes.map asRoute := by
    simp [routeValue, asRoute]
  simp only [loadedRouteIssues, unhashableItem, unhashable, Option.or_none, routeIssues, same]
  split
  · rfl
  · rfl

private theorem mapM_loadedRouteIssues (pairs : List (String × String)) :
    (pairs.map (fun pair => [Value.str pair.1, .str pair.2])).mapM loadedRouteIssues =
      .ok (pairs.map (fun pair => routeIssues (asRoute pair))) := by
  induction pairs with
  | nil => rfl
  | cons pair pairs induction =>
      simp [loadedRouteIssues_names, induction, bind, Except.bind, pure, Except.pure]

/-- Loaded sections make no issue exactly if they are read as the allowlists. -/
theorem validateLoadedRouting_eq_nil_iff (realtime codeAudit codeWorkOrder : Value) :
    validateLoadedRouting realtime codeAudit codeWorkOrder = .ok [] ↔
      IsAllowlist realtime realtimeRouteAllowlist ∧
        IsAllowlist codeAudit codeAuditRouteAllowlist ∧
        IsAllowlist codeWorkOrder codeWorkOrderRouteAllowlist := by
  have mismatch : ∀ (routes : List (List Value)) (name message : String)
      (allowlist : List (String × String)),
      mismatchIssues routes name message allowlist = [] ↔
        routes = allowlist.map (fun pair => [.str pair.1, .str pair.2]) := by
    intro routes name message allowlist
    rw [← matchesAllowlist_iff, mismatchIssues]
    split
    next matched => simp [matched]
    next different => simp [different]
  unfold validateLoadedRouting IsAllowlist
  constructor
  · intro accepted
    simp only [except_bind_eq_ok] at accepted
    obtain ⟨realtimeRoutes, first, auditRoutes, second, workRoutes, third, disallowed, -, built⟩ :=
      accepted
    simp only [Except.ok.injEq, List.append_eq_nil_iff, mismatch] at built
    rw [first, second, third, built.1.1.1, built.1.1.2, built.1.2]
    exact ⟨rfl, rfl, rfl⟩
  · rintro ⟨first, second, third⟩
    have allowed : ∀ pair ∈ realtimeRouteAllowlist ++ codeAuditRouteAllowlist ++
        codeWorkOrderRouteAllowlist, routeIssues (asRoute pair) = [] := by
      intro pair member
      exact if_neg (not_disallowed_of_isAllowed (List.mem_map_of_mem member))
    rw [first, second, third]
    simp only [bind, Except.bind, (mismatch _ _ _ _).mpr rfl, List.nil_append,
      ← List.map_append, mapM_loadedRouteIssues, List.map_congr_left allowed]
    simp

end SuperAdvisor.Topology
