import Mathlib.Logic.Relation
import SuperAdvisor.Scanning.ModuleImports

/-!
# Modules reported as reachable

The search visits exactly the modules that edges lead to from its root.  So a
flagged module is reported exactly if edges lead to it from another module that
no edge enters; what only a cycle, a relative import or an imported submodule
leads to stays unseen.
-/

namespace SuperAdvisor.Scanning

open Python FileTree Relation

/-! The search. -/

section Search

variable (graph : ImportGraph)

def ImportGraph.Edge (first second : String) : Prop :=
  second ∈ graph.targets first

variable {graph}

private theorem mem_sorted_iff {current name : String} {stack : List String} :
    name ∈ ((graph.targets current).insertionSort (fun left right => left ≤ right)).reverse ++
        stack ↔ graph.Edge current name ∨ name ∈ stack := by
  rw [List.mem_append, List.mem_reverse, (List.perm_insertionSort _ _).mem_iff]
  rfl

/-- Every stacked module is visited, and with a module its targets. -/
private theorem visit_closed (visited stack : List String) :
    (∀ name ∈ stack, name ∈ visited ∨ name ∈ graph.visit visited stack) ∧
      ∀ name ∈ graph.visit visited stack, ∀ target, graph.Edge name target →
        target ∈ visited ∨ target ∈ graph.visit visited stack := by
  induction visited, stack using ImportGraph.visit.induct graph with
  | case1 visited => simp [ImportGraph.visit]
  | case2 visited current stack seen induction =>
      rw [ImportGraph.visit, if_pos seen]
      refine ⟨fun name member => ?_, induction.2⟩
      rcases List.mem_cons.mp member with rfl | later
      · exact .inl seen
      · exact induction.1 name later
  | case3 visited current stack fresh induction =>
      rw [ImportGraph.visit, if_neg fresh]
      have shift : ∀ {name : String} {rest : List String},
          name ∈ current :: visited ∨ name ∈ rest → name ∈ visited ∨ name ∈ current :: rest := by
        intro name rest either
        simp only [List.mem_cons] at either ⊢
        tauto
      constructor
      · intro name member
        rcases List.mem_cons.mp member with rfl | later
        · exact .inr List.mem_cons_self
        · exact shift (induction.1 name (mem_sorted_iff.mpr (.inr later)))
      · intro name member target edge
        rcases List.mem_cons.mp member with rfl | later
        · exact shift (induction.1 target (mem_sorted_iff.mpr (.inl edge)))
        · exact shift (induction.2 name later target edge)

private theorem reachable_of_mem_visit (visited stack : List String) :
    ∀ name ∈ graph.visit visited stack,
      ∃ start ∈ stack, ReflTransGen graph.Edge start name := by
  induction visited, stack using ImportGraph.visit.induct graph with
  | case1 visited => simp [ImportGraph.visit]
  | case2 visited current stack seen induction =>
      rw [ImportGraph.visit, if_pos seen]
      intro name member
      obtain ⟨start, inside, path⟩ := induction name member
      exact ⟨start, List.mem_cons_of_mem _ inside, path⟩
  | case3 visited current stack fresh induction =>
      rw [ImportGraph.visit, if_neg fresh]
      intro name member
      rcases List.mem_cons.mp member with rfl | later
      · exact ⟨name, List.mem_cons_self, .refl⟩
      · obtain ⟨start, inside, path⟩ := induction name later
        rcases mem_sorted_iff.mp inside with edge | stacked
        · exact ⟨current, List.mem_cons_self, path.head edge⟩
        · exact ⟨start, List.mem_cons_of_mem _ stacked, path⟩

theorem mem_visit_iff (root name : String) :
    name ∈ graph.visit [] [root] ↔ ReflTransGen graph.Edge root name := by
  constructor
  · intro member
    obtain ⟨start, inside, path⟩ := reachable_of_mem_visit [] [root] name member
    exact List.mem_singleton.mp inside ▸ path
  · intro path
    obtain ⟨stacked, closed⟩ := @visit_closed graph [] [root]
    induction path with
    | refl => exact (stacked root List.mem_cons_self).resolve_left List.not_mem_nil
    | tail _ edge induction => exact (closed _ induction _ edge).resolve_left List.not_mem_nil

theorem mem_reachableHits_iff {root : String} {hit : Hit} :
    hit ∈ reachableHits graph root ↔
      ∃ current node, ReflTransGen graph.Edge root current ∧
        OrderedDict.get? graph current = some node ∧ node.flagged = true ∧ current ≠ root ∧
        hit = { detector := "import_graph", rule := "reachable_dependency", path := node.path,
                line := 1, detail := "reachable from " ++ root } := by
  rw [reachableHits, List.mem_flatMap]
  constructor
  · rintro ⟨current, visited, here⟩
    split at here
    case h_1 node found =>
      split at here
      case isTrue reported =>
        exact ⟨current, node, (mem_visit_iff root current).mp visited, found, reported.1,
          reported.2, List.mem_singleton.mp here⟩
      case isFalse => cases here
    case h_2 => cases here
  · rintro ⟨current, node, path, found, flagged, other, rfl⟩
    refine ⟨current, (mem_visit_iff root current).mpr path, ?_⟩
    simp [found, flagged, other]

end Search

/-! The set of modules. -/

namespace ModuleSet

variable (set : ModuleSet)

/-- The scan reports the module as reachable. -/
def Reported (name : String) : Prop :=
  ∃ hits, importGraphHits set.project = .ok hits ∧
    ∃ hit ∈ hits, hit.rule = "reachable_dependency" ∧ ∃ tree, set.Holds name hit.path tree

/-- Every flagged module that another module outside tests loads, directly or by
way of other modules, is reported. -/
def ReachComplete (binds : String → String → Bool) : Prop :=
  ∀ name, set.Flagged name →
    (∃ other, other ≠ name ∧ set.OutsideTests other ∧ TransGen (set.Imports binds) other name) →
      set.Reported name

/-- Every such module is led to by edges from a root other than itself. -/
def Covered (binds : String → String → Bool) : Prop :=
  ∀ name, set.Flagged name →
    (∃ other, other ≠ name ∧ set.OutsideTests other ∧ TransGen (set.Imports binds) other name) →
      ∃ root, set.Root root ∧ root ≠ name ∧ ReflTransGen set.Draws root name

variable {set}

private theorem root_iff
    {graph : ImportGraph} (keys : OrderedDict.keys graph = set.names)
    (nodes : ∀ name node, OrderedDict.get? graph name = some node ↔
      ∃ path tree, set.Holds name path tree ∧ node = moduleNode set.names path tree)
    (name : String) : name ∈ graph.roots ↔ set.Root name := by
  have free : graph.indegree name = 0 ↔ ∀ other, ¬set.Draws other name := by
    rw [ImportGraph.indegree, List.countP_eq_zero]
    constructor
    · intro none other drawn
      have target := (mem_targets_iff nodes other name).mpr drawn
      unfold ImportGraph.targets at target
      cases found : OrderedDict.get? graph other with
      | none => simp [found] at target
      | some node =>
          refine none _ (OrderedDict.mem_of_get? found) ?_
          simpa [found] using target
    · intro none entry member entering
      have found : OrderedDict.get? graph entry.1 = some entry.2 :=
        OrderedDict.get?_eq_some_of_mem (keys ▸ set.distinct) member
      refine none entry.1 ((mem_targets_iff nodes entry.1 name).mp ?_)
      simpa [ImportGraph.targets, found] using entering
  simp only [ImportGraph.roots, List.mem_filter, keys, Bool.and_eq_true, decide_eq_true_eq,
    Bool.not_eq_true', free, Root]

/-- A module is reported exactly if it is flagged and edges lead to it from a root
other than itself. -/
theorem reported_iff (name : String) :
    set.Reported name ↔
      set.Flagged name ∧
        ∃ root, set.Root root ∧ root ≠ name ∧ ReflTransGen set.Draws root name := by
  obtain ⟨graph, built, keys, nodes⟩ := exists_importGraph set
  have edges : graph.Edge = set.Draws := by
    funext first second
    exact propext (mem_targets_iff nodes first second)
  have hits : importGraphHits set.project = .ok (graph.roots.flatMap (reachableHits graph)) := by
    rw [importGraphHits, built]
    rfl
  constructor
  · rintro ⟨found, scanned, hit, member, -, tree, holds⟩
    rw [hits] at scanned
    obtain rfl := Except.ok.inj scanned
    obtain ⟨root, isRoot, reached⟩ := List.mem_flatMap.mp member
    obtain ⟨current, node, path, looked, flagged, other, rfl⟩ := mem_reachableHits_iff.mp reached
    obtain ⟨place, text, there, rfl⟩ := (nodes current node).mp looked
    have same : current = name := by
      obtain ⟨entry, -, named, placed, -⟩ := holds
      obtain ⟨entry', -, named', placed', -⟩ := there
      rw [← named, ← named', placed, placed']
      rfl
    subst same
    exact ⟨⟨place, text, there, flagged⟩, root, (root_iff keys nodes root).mp isRoot, other.symm,
      edges ▸ path⟩
  · rintro ⟨⟨path, tree, holds, calls⟩, root, isRoot, other, reached⟩
    have looked := (nodes name _).mpr ⟨path, tree, holds, rfl⟩
    refine ⟨_, hits, _, List.mem_flatMap.mpr ⟨root, (root_iff keys nodes root).mpr isRoot,
      mem_reachableHits_iff.mpr ⟨name, _, edges ▸ reached, looked, calls, other.symm, rfl⟩⟩,
      rfl, tree, holds⟩

end ModuleSet

/-- `a` and `b` import each other, and `b` calls `order_send`. -/
def cyclicProject : Project where
  files := [
    (["a.py"], ⟨[], .ok [.importNames ["b"]]⟩),
    (["b.py"], ⟨[], .ok [.importNames ["a"], .call 2 (.name "order_send") [] []]⟩)]
  named := by decide
  listed := []
  staged := []
  history := []

private theorem cyclicProject_parsed :
    ∀ entry ∈ pythonFiles cyclicProject, ∃ tree, entry.2.tree = .ok tree := by
  intro entry member
  have inside := List.mem_of_mem_filter (List.mem_of_mem_filter member)
  simp only [cyclicProject, List.mem_cons, List.not_mem_nil, or_false] at inside
  rcases inside with rfl | rfl <;> exact ⟨_, rfl⟩

private theorem cyclicProject_distinct :
    ((pythonFiles cyclicProject).map (fun entry => moduleName entry.1)).Nodup := by
  decide +kernel

def importCycle : ModuleSet where
  project := cyclicProject
  parsed := cyclicProject_parsed
  distinct := cyclicProject_distinct

private theorem importCycle_names : importCycle.names = ["a", "b"] := by
  decide +kernel

private theorem importCycle_a : importCycle.Holds "a" ["a.py"] [.importNames ["b"]] :=
  ⟨(["a.py"], ⟨[], .ok [.importNames ["b"]]⟩),
    List.mem_filter.mpr ⟨List.mem_filter.mpr ⟨by simp [importCycle, cyclicProject], by decide +kernel⟩,
      by decide +kernel⟩, by decide +kernel, rfl, rfl⟩

private theorem importCycle_b :
    importCycle.Holds "b" ["b.py"]
      [.importNames ["a"], .call 2 (.name "order_send") [] []] :=
  ⟨(["b.py"], ⟨[], .ok [.importNames ["a"], .call 2 (.name "order_send") [] []]⟩),
    List.mem_filter.mpr ⟨List.mem_filter.mpr ⟨by simp [importCycle, cyclicProject], by decide +kernel⟩,
      by decide +kernel⟩, by decide +kernel, rfl, rfl⟩

end SuperAdvisor.Scanning
