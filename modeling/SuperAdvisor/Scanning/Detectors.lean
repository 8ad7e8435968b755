import Mathlib.Data.List.Sort
import SuperAdvisor.Scanning.ProjectFiles

/-!
# The detectors of forbidden symbols

Text lines, calls in syntax trees, constants that resolve to a forbidden symbol,
and modules that import a module with a forbidden call.
-/

namespace SuperAdvisor.Scanning

open Python FileTree

def forbiddenSymbols : List String :=
  ["order_send", "order_check", "TRADE_ACTION", "ExecutionKernel", "execution_kernel",
    "execution_dispatch_bridge", "position_close", "close_position", "modify_order",
    "cancel_order", "execute_order", "auto_trade"]

def sourceExtensions : List String :=
  [".py", ".json", ".toml", ".yml", ".yaml", ".md", ".txt"]

def pythonExtensions : List String := [".py"]

/-! Lines of text. -/

def isWordSymbol (symbol : Char) : Bool :=
  symbol.isAlphanum || decide (symbol = '_')

/-- The pattern stands in the text as a word of its own; `before` is the symbol in
front of the text. -/
def searchWord (pattern : List Char) (before : Option Char) : List Char → Bool
  | [] => false
  | symbol :: rest =>
      (!before.any isWordSymbol && decide (pattern <+: symbol :: rest) &&
        !((symbol :: rest).drop pattern.length).head?.any isWordSymbol) ||
      searchWord pattern (some symbol) rest

/-- `FORBIDDEN_REGEXES[pattern].search(line)` -/
def mentions (line : List Char) (pattern : String) : Bool :=
  searchWord pattern.toList none line

/-- `_should_ignore_source_text_hit` -/
def ignoresHit (path : Path) (line : List Char) (pattern : String) : Bool :=
  decide (fileName path = "constants.py") && decide (pattern.toList <:+: line) &&
    decide ('"' ∈ line)

def fileTextHits (path : Path) (text : List Char) : List Hit :=
  ((splitLines text).zipIdx 1).flatMap (fun line =>
    (forbiddenSymbols.filter (fun pattern =>
      !ignoresHit path line.1 pattern && mentions line.1 pattern)).map (fun pattern =>
        { detector := "source_text", rule := pattern, path := path, line := line.2,
          detail := pattern }))

def sourceTextHits (project : Project) : List Hit :=
  (iterFiles project).flatMap (fun entry =>
    if lowerSuffix entry.1 ∈ sourceExtensions then fileTextHits entry.1 entry.2.text else [])

/-! Calls. -/

/-- The name called, if it is forbidden. -/
def directCall : Node → Option String
  | .name id => if id ∈ forbiddenSymbols then some id else none
  | _ => none

def attributeCall : Node → Option String
  | .attributeOf _ attr => if attr ∈ forbiddenSymbols then some attr else none
  | _ => none

/-- The forbidden symbol that `getattr(object, name)` asks for. -/
def getattrCall (constants : List (String × String)) (func : Node) (args : List Node) :
    Option String :=
  match func, args with
  | .name "getattr", _ :: name :: _ =>
      (resolveString constants name).filter (fun text => decide (text ∈ forbiddenSymbols))
  | _, _ => none

def importlibCall (constants : List (String × String)) (func : Node) (args : List Node) :
    Option String :=
  match func, args with
  | .attributeOf (.name "importlib") "import_module", name :: _ => resolveString constants name
  | _, _ => none

def builtinImportCall (constants : List (String × String)) (func : Node) (args : List Node) :
    Option String :=
  match func, args with
  | .name "__import__", name :: _ => resolveString constants name
  | _, _ => none

/-- A hit of a detector under a rule, if there is a symbol to show. -/
def hitOf (detector rule : String) (path : Path) (line : Nat) (found : Option String) :
    List Hit :=
  found.toList.map (fun detail =>
    { detector := detector, rule := rule, path := path, line := line, detail := detail })

/-- What `scan_ast_for_file` appends for one node. -/
def callHits (constants : List (String × String)) (path : Path) : Node → List Hit
  | .call line func args _ =>
      hitOf "ast" "direct_call" path line (directCall func) ++
      hitOf "ast" "attribute_call" path line (attributeCall func) ++
      hitOf "ast" "getattr" path line (getattrCall constants func args)
  | _ => []

/-- `scan_ast_for_file` -/
def scanAstForFile (path : Path) (tree : Module) : List Hit :=
  (walk tree).flatMap (callHits (moduleConstants tree) path)

/-- What `scan_ast` appends for one node. -/
def astNodeHits (constants : List (String × String)) (path : Path) (node : Node) : List Hit :=
  callHits constants path node ++
    match node with
    | .call line func args _ =>
        hitOf "ast" "importlib" path line (importlibCall constants func args) ++
        hitOf "ast" "builtin_import" path line (builtinImportCall constants func args)
    | _ => []

def pythonFiles (project : Project) : Folder SourceFile :=
  (iterFiles project).filter (fun entry => decide (lowerSuffix entry.1 ∈ pythonExtensions))

/-- The hits of a detector that looks at one module after another. -/
def eachModule (files : Folder SourceFile) (hits : Path → Module → List Hit) :
    Except Failure (List Hit) := do
  let found ← files.mapM (fun entry => entry.2.tree.map (hits entry.1))
  .ok found.flatten

def astHits (project : Project) : Except Failure (List Hit) :=
  eachModule (pythonFiles project) (fun path tree =>
    (walk tree).flatMap (astNodeHits (moduleConstants tree) path))

/-! Resolved constants. -/

def constantHits (constants : List (String × String)) (path : Path) : Node → List Hit
  | .assign line _ value =>
      hitOf "resolved_constants" "constant_value" path line
        ((resolveString constants value).filter (fun text => decide (text ∈ forbiddenSymbols)))
  | _ => []

def resolvedCallHits (constants : List (String × String)) (path : Path) : Node → List Hit
  | .call line func args _ =>
      hitOf "resolved_constants" "getattr_constant" path line (getattrCall constants func args) ++
      hitOf "resolved_constants" "importlib_constant" path line
        ((importlibCall constants func args).filter (fun text => decide (text ≠ ""))) ++
      hitOf "resolved_constants" "builtin_import_constant" path line
        ((builtinImportCall constants func args).filter (fun text => decide (text ≠ "")))
  | _ => []

def resolvedConstantHits (project : Project) : Except Failure (List Hit) :=
  eachModule (pythonFiles project) (fun path tree =>
    tree.flatMap (constantHits (moduleConstants tree) path) ++
      (walk tree).flatMap (resolvedCallHits (moduleConstants tree) path))

/-! The import graph. -/

/-- `_module_name`: the path without its suffix, an `__init__` left out. -/
def moduleName (path : Path) : String :=
  let parts := path.dropLast ++ [String.ofList (splitSuffix (fileName path)).1]
  let parts := if parts.getLast? = some "__init__" then parts.dropLast else parts
  ".".intercalate parts

/-- `_resolve_import` -/
def resolveImport (source : String) : Option String :=
  if ['.'] <+: source.toList then none else some source

/-- The modules of the project that a node imports. -/
def importTargets (modules : List String) : Node → List String
  | .importNames names => names.filter (fun name => decide (name ∈ modules))
  | .importFrom _ (some source) _ =>
      if source = "" then []
      else (resolveImport source).toList.filter (fun name => decide (name ∈ modules))
  | _ => []

/-- A module of the graph: whether it holds a forbidden call, and its targets. -/
structure ModuleNode where
  path : Path
  flagged : Bool
  targets : List String

def moduleNode (modules : List String) (path : Path) (tree : Module) : ModuleNode :=
  { path := path
    flagged := (scanAstForFile path tree).any (fun hit => decide (hit.detail ∈ forbiddenSymbols))
    targets := ((walk tree).flatMap (importTargets modules)).dedup }

abbrev ImportGraph := List (String × ModuleNode)

/-- Every module under its name; a later file with the name of an earlier one
takes its place. -/
def importGraph (project : Project) : Except Failure ImportGraph := do
  let modules := OrderedDict.ofPairs
    ((pythonFiles project).map (fun entry => (moduleName entry.1, entry)))
  modules.mapM (fun entry => entry.2.2.tree.map (fun tree =>
    (entry.1, moduleNode (OrderedDict.keys modules) entry.2.1 tree)))

def ImportGraph.targets (graph : ImportGraph) (name : String) : List String :=
  ((OrderedDict.get? graph name).map ModuleNode.targets).getD []

/-- `indegree[name]` -/
def ImportGraph.indegree (graph : ImportGraph) (name : String) : Nat :=
  graph.countP (fun entry => decide (name ∈ entry.2.targets))

/-- The modules that no module imports, tests left out. -/
def ImportGraph.roots (graph : ImportGraph) : List String :=
  (OrderedDict.keys graph).filter (fun name =>
    decide (graph.indegree name = 0) && !isSubstring "tests." name)

private theorem filter_visited_lt
    {names visited : List String} {current : String} (member : current ∈ names)
    (fresh : current ∉ visited) :
    (names.filter (fun name => decide (name ∉ current :: visited))).length <
      (names.filter (fun name => decide (name ∉ visited))).length := by
  have split : names.filter (fun name => decide (name ∉ current :: visited)) =
      (names.filter (fun name => decide (name ∉ visited))).filter
        (fun name => decide (name ≠ current)) := by
    rw [List.filter_filter]
    exact List.filter_congr (fun name _ => by simp)
  rw [split]
  refine List.length_filter_lt_length_iff_exists.mpr ⟨current, ?_, by simp⟩
  exact List.mem_filter.mpr ⟨member, by simpa using fresh⟩

private theorem filter_visited_of_not_mem
    {names visited : List String} {current : String} (absent : current ∉ names) :
    names.filter (fun name => decide (name ∉ current :: visited)) =
      names.filter (fun name => decide (name ∉ visited)) := by
  refine List.filter_congr (fun name member => ?_)
  have different : name ≠ current := by
    rintro rfl
    exact absent member
  simp [different]

theorem ImportGraph.targets_of_not_mem
    {graph : ImportGraph} {name : String} (absent : name ∉ OrderedDict.keys graph) :
    graph.targets name = [] := by
  simp [ImportGraph.targets, OrderedDict.get?_eq_none_iff.mpr absent]

/-- The modules that the search visits, with `stack` still to look at. -/
def ImportGraph.visit (graph : ImportGraph) (visited : List String) :
    List String → List String
  | [] => []
  | current :: stack =>
      if current ∈ visited then graph.visit visited stack
      else
        current :: graph.visit (current :: visited)
          (((graph.targets current).insertionSort (fun left right => left ≤ right)).reverse ++
            stack)
termination_by stack =>
  (((OrderedDict.keys graph).filter (fun name => decide (name ∉ visited))).length, stack.length)
decreasing_by
  · exact Prod.Lex.right _ (by simp)
  · rename_i fresh
    by_cases member : current ∈ OrderedDict.keys graph
    · exact Prod.Lex.left _ _ (filter_visited_lt member fresh)
    · rw [filter_visited_of_not_mem member, ImportGraph.targets_of_not_mem member]
      exact Prod.Lex.right _ (by simp)

def reachableHits (graph : ImportGraph) (root : String) : List Hit :=
  (graph.visit [] [root]).flatMap (fun current =>
    match OrderedDict.get? graph current with
    | some node =>
        if node.flagged ∧ current ≠ root then
          [{ detector := "import_graph", rule := "reachable_dependency", path := node.path,
             line := 1, detail := "reachable from " ++ root }]
        else []
    | none => [])

def importGraphHits (project : Project) : Except Failure (List Hit) := do
  let graph ← importGraph project
  .ok (graph.roots.flatMap (reachableHits graph))

end SuperAdvisor.Scanning
