import Mathlib.Data.List.Dedup
import SuperAdvisor.Foundation.RaisingLoops
import SuperAdvisor.Scanning.Detectors

/-!
# Imports of a set of modules

What the import statements of a module load by the rules of Python, those of
relative names and of submodules included, and the edges that the scan draws for
them.
-/

namespace SuperAdvisor.Scanning

open Python FileTree

/-! The rules of Python. -/

def nameParts (name : String) : List String :=
  (name.toList.splitOn '.').map String.ofList

def dotted (parts : List String) : String :=
  ".".intercalate parts

/-- The packages that an import loads on its way, and the module itself. -/
def loadedNames (parts : List String) : List String :=
  parts.inits.tail.map dotted

/-- The package a relative import starts from; an absolute one starts from no
package, and one beyond the top level fails. -/
def importBase (name : List String) (isPackage : Bool) (level : Nat) : Option (List String) :=
  if level = 0 then some []
  else
    let package := if isPackage then name else name.dropLast
    if level ≤ package.length then some (package.take (package.length + 1 - level)) else none

/-- The modules of the set that a statement loads.  `binds` tells the names a
package has by itself: such a name is not looked up as a submodule. -/
def importedNames (modules : List String) (binds : String → String → Bool) (name : List String)
    (isPackage : Bool) : Node → List String
  | .importNames names =>
      (names.flatMap (fun imported => loadedNames (nameParts imported))).filter
        (fun loaded => decide (loaded ∈ modules))
  | .importFrom level source names =>
      match importBase name isPackage level with
      | none => []
      | some base =>
          let target := base ++ (source.elim [] nameParts)
          let submodules := (names.filter (fun part => !binds (dotted target) part)).map
            (fun part => dotted (target ++ [part]))
          (loadedNames target ++ submodules).filter (fun loaded => decide (loaded ∈ modules))
  | _ => []

def isPackageFile (path : Path) : Bool :=
  decide (fileName path = "__init__.py")

/-! Sets of modules. -/

/-- A project whose Python files are modules: they have a syntax tree each, and
different names. -/
structure ModuleSet where
  project : Project
  parsed : ∀ entry ∈ pythonFiles project, ∃ tree, entry.2.tree = .ok tree
  distinct : ((pythonFiles project).map (fun entry => moduleName entry.1)).Nodup

namespace ModuleSet

variable (set : ModuleSet)

def names : List String :=
  (pythonFiles set.project).map (fun entry => moduleName entry.1)

/-- The module of this name, its path and its tree. -/
def Holds (name : String) (path : Path) (tree : Module) : Prop :=
  ∃ entry ∈ pythonFiles set.project,
    moduleName entry.1 = name ∧ entry.1 = path ∧ entry.2.tree = .ok tree

/-- A statement of the first module loads the second one. -/
def Imports (binds : String → String → Bool) (first second : String) : Prop :=
  ∃ path tree, set.Holds first path tree ∧
    ∃ node ∈ walk tree,
      second ∈ importedNames set.names binds (nameParts first) (isPackageFile path) node

/-- The scan draws an edge from the first module to the second one. -/
def Draws (first second : String) : Prop :=
  ∃ path tree, set.Holds first path tree ∧
    ∃ node ∈ walk tree, second ∈ importTargets set.names node

/-- The module contains a forbidden call. -/
def Flagged (name : String) : Prop :=
  ∃ path tree, set.Holds name path tree ∧
    (scanAstForFile path tree).any (fun hit => decide (hit.detail ∈ forbiddenSymbols)) = true

def OutsideTests (name : String) : Prop :=
  ∃ path tree, set.Holds name path tree ∧ hasPart ["tests"] path = false

/-- No edge leads to the module, and its name is not one of tests. -/
def Root (name : String) : Prop :=
  name ∈ set.names ∧ (∀ other, ¬set.Draws other name) ∧ isSubstring "tests." name = false

variable {set}

theorem holds_unique
    {name : String} {path other : Path} {tree otherTree : Module}
    (first : set.Holds name path tree) (second : set.Holds name other otherTree) :
    path = other ∧ tree = otherTree := by
  obtain ⟨entry, member, named, rfl, parsed⟩ := first
  obtain ⟨entry', member', named', rfl, parsed'⟩ := second
  have same : entry = entry' :=
    List.inj_on_of_nodup_map set.distinct member member' (named.trans named'.symm)
  subst same
  rw [parsed] at parsed'
  exact ⟨rfl, Except.ok.inj parsed'⟩

private theorem keys_of_converted
    {modules : List String} {pairs : List (String × Path × SourceFile)} {graph : ImportGraph}
    (converted : List.Forall₂ (fun pair entry => (pair.2.2.tree.map (fun tree =>
      (pair.1, moduleNode modules pair.2.1 tree))) = .ok entry) pairs graph) :
    OrderedDict.keys graph = OrderedDict.keys pairs := by
  induction converted with
  | nil => rfl
  | cons here _ induction =>
      obtain ⟨tree, -, rfl⟩ := except_map_eq_ok.mp here
      simpa [OrderedDict.keys] using induction

/-- The graph has the modules of the set, with their edges. -/
theorem exists_importGraph (set : ModuleSet) :
    ∃ graph, importGraph set.project = .ok graph ∧ OrderedDict.keys graph = set.names ∧
      ∀ name node, OrderedDict.get? graph name = some node ↔
        ∃ path tree, set.Holds name path tree ∧ node = moduleNode set.names path tree := by
  let pairs := (pythonFiles set.project).map (fun entry => (moduleName entry.1, entry))
  have keys : OrderedDict.keys pairs = set.names := by
    simp [pairs, OrderedDict.keys, names]
  have kept : OrderedDict.ofPairs pairs = pairs :=
    OrderedDict.ofPairs_of_nodup (keys ▸ set.distinct)
  have parses : ∀ pair ∈ pairs, ∃ node, pair.2.2.tree.map (fun tree =>
      (pair.1, moduleNode set.names pair.2.1 tree)) = .ok node := by
    intro pair member
    obtain ⟨entry, inside, rfl⟩ := List.mem_map.mp member
    obtain ⟨tree, parsed⟩ := set.parsed entry inside
    exact ⟨_, by rw [parsed]; rfl⟩
  obtain ⟨graph, built⟩ := exists_mapM_iff.mpr parses
  have converted := mapM_eq_ok_iff.mp built
  have graphKeys : OrderedDict.keys graph = set.names := (keys_of_converted converted).trans keys
  refine ⟨graph, ?_, graphKeys, fun name node => ⟨fun found => ?_, ?_⟩⟩
  · rw [importGraph, kept, keys]
    exact built
  · obtain ⟨pair, member, here⟩ := exists_of_mem_right converted (OrderedDict.mem_of_get? found)
    obtain ⟨entry, inside, rfl⟩ := List.mem_map.mp member
    obtain ⟨tree, parsed, same⟩ := except_map_eq_ok.mp here
    cases same
    exact ⟨entry.1, tree, ⟨entry, inside, rfl, rfl, parsed⟩, rfl⟩
  · rintro ⟨path, tree, ⟨entry, inside, rfl, rfl, parsed⟩, rfl⟩
    obtain ⟨other, member, here⟩ := exists_of_mem_left converted
      (List.mem_map_of_mem (f := fun entry => (moduleName entry.1, entry)) inside)
    obtain ⟨again, parsedAgain, rfl⟩ := except_map_eq_ok.mp here
    rw [parsed] at parsedAgain
    obtain rfl := Except.ok.inj parsedAgain
    exact OrderedDict.get?_eq_some_of_mem (graphKeys ▸ set.distinct) member

theorem mem_targets_iff
    {graph : ImportGraph} (nodes : ∀ name node, OrderedDict.get? graph name = some node ↔
      ∃ path tree, set.Holds name path tree ∧ node = moduleNode set.names path tree)
    (first second : String) :
    second ∈ graph.targets first ↔ set.Draws first second := by
  unfold ImportGraph.targets
  cases found : OrderedDict.get? graph first with
  | none =>
      refine iff_of_false (by simp) ?_
      rintro ⟨path, tree, holds, -⟩
      rw [(nodes first _).mpr ⟨path, tree, holds, rfl⟩] at found
      cases found
  | some node =>
      obtain ⟨path, tree, holds, rfl⟩ := (nodes first node).mp found
      simp only [Option.map_some, Option.getD_some, moduleNode, List.mem_dedup, List.mem_flatMap]
      constructor
      · exact fun drawn => ⟨path, tree, holds, drawn⟩
      · rintro ⟨other, otherTree, otherHolds, drawn⟩
        obtain ⟨rfl, rfl⟩ := holds_unique holds otherHolds
        exact drawn

end ModuleSet

end SuperAdvisor.Scanning
