import Mathlib.Algebra.GroupWithZero.Nat
import Mathlib.Algebra.Order.BigOperators.Group.List
import SuperAdvisor.Foundation.FileTree
import SuperAdvisor.Foundation.OrderedDict
import SuperAdvisor.Foundation.PythonDict
import SuperAdvisor.Foundation.PythonText

/-!
# The files of a scanned project

The nodes of `ast` that the detectors look at, the order in which `ast.walk`
yields them, and the strings that expressions resolve to.

A project is its files in the order in which they are discovered, and what the
`git` commands print.  A file is ignored by the parts of its path below the
root; it is classified by all parts of its absolute path.
-/

namespace SuperAdvisor.Scanning

/-- A node, with the fields the detectors read and those that tell what the
statement `import` names.  Every other class of node is its children, in the
order of `ast.iter_child_nodes`; contexts and operators, which have no children,
are left out. -/
inductive Node where
  | text (value : String)
  | name (id : String)
  | addition (left right : Node)
  | attributeOf (value : Node) (attr : String)
  | call (line : Nat) (func : Node) (args keywords : List Node)
  | assign (line : Nat) (targets : List Node) (value : Node)
  | importNames (names : List String)
  | importFrom (level : Nat) (source : Option String) (names : List String)
  | other (children : List Node)

/-- The statements of a module. -/
abbrev Module := List Node

def Node.children : Node → List Node
  | .addition left right => [left, right]
  | .attributeOf value _ => [value]
  | .call _ func args keywords => func :: (args ++ keywords)
  | .assign _ targets value => targets ++ [value]
  | .other children => children
  | _ => []

private theorem sum_sizeOf_le (nodes : List Node) : (nodes.map sizeOf).sum ≤ sizeOf nodes := by
  induction nodes with
  | nil => simp
  | cons node nodes induction =>
      simp only [List.map_cons, List.sum_cons, List.cons.sizeOf_spec]
      omega

theorem sum_sizeOf_children_lt (node : Node) : (node.children.map sizeOf).sum < sizeOf node := by
  cases node with
  | call line func args keywords =>
      have inside := sum_sizeOf_le args
      have named := sum_sizeOf_le keywords
      simp only [Node.children, List.map_cons, List.map_append, List.sum_cons, List.sum_append,
        Node.call.sizeOf_spec]
      omega
  | assign line targets value =>
      have inside := sum_sizeOf_le targets
      simp only [Node.children, List.map_append, List.sum_append, List.map_cons, List.map_nil,
        List.sum_cons, List.sum_nil, Node.assign.sizeOf_spec]
      omega
  | other children =>
      have inside := sum_sizeOf_le children
      simp only [Node.children, Node.other.sizeOf_spec]
      omega
  | addition left right => simp [Node.children]
  | _ => simp [Node.children] <;> omega

/-- `ast.walk` from a queue of nodes: breadth first. -/
def walkFrom : List Node → List Node
  | [] => []
  | node :: queue => node :: walkFrom (queue ++ node.children)
termination_by queue => (queue.map sizeOf).sum
decreasing_by
  have smaller := sum_sizeOf_children_lt node
  simp only [List.map_append, List.sum_append, List.map_cons, List.sum_cons]
  omega

/-- `ast.walk(tree)`, without the module itself -/
def walk (tree : Module) : List Node :=
  walkFrom tree

/-- `_resolve_string` -/
def resolveString (constants : List (String × String)) : Node → Option String
  | .text value => some value
  | .name id => OrderedDict.get? constants id
  | .addition left right =>
      match resolveString constants left, resolveString constants right with
      | some first, some second => some (first ++ second)
      | _, _ => none
  | _ => none

/-- What one statement adds to the constants of its module. -/
def bindConstants (constants : List (String × String)) : Node → List (String × String)
  | .assign _ targets value =>
      match resolveString constants value with
      | none => constants
      | some text =>
          targets.foldl (fun bound target =>
            match target with
            | .name id => OrderedDict.set bound id text
            | _ => bound) constants
  | _ => constants

/-- `_module_constants` -/
def moduleConstants (tree : Module) : List (String × String) :=
  tree.foldl bindConstants []

open Python FileTree

/-- A file: its text as it is read with decoding errors ignored, and the module
that `ast.parse` makes of it or the exception it raises. -/
structure SourceFile where
  text : List Char
  tree : Except Failure Module

structure Project where
  /-- `root.rglob("*")` without directories, the paths relative to the root -/
  files : Folder SourceFile
  named : ∀ entry ∈ files, entry.1 ≠ []
  /-- `git ls-files` -/
  listed : List String
  /-- `git diff --cached --name-only` -/
  staged : List String
  /-- `git log --all -p --no-color --format=COMMIT:%H` -/
  history : List (List Char)

def ignoredDirNames : List String :=
  [".git", ".mypy_cache", ".pytest_cache", ".ruff_cache", ".tmp_pytest", ".venv", ".venv-audit",
    "__pycache__", "archive", "dist", "build", "logs", "data", "htmlcov", "state"]

/-- `_iter_files`: the discovered paths, relative to the root. -/
def iterFiles (project : Project) : Folder SourceFile :=
  project.files.filter (fun entry => !entry.1.any (fun part => decide (part ∈ ignoredDirNames)))

/-- `path.name` -/
def fileName (path : Path) : String :=
  path.getLast?.getD ""

/-- The stem and the suffix of a name; a dot at its beginning or its end makes no
suffix. -/
def splitSuffix (name : String) : List Char × List Char :=
  let tail := (name.toList.reverse.takeWhile (fun symbol => symbol ≠ '.')).reverse
  let stem := name.toList.take (name.toList.length - tail.length - 1)
  if '.' ∈ name.toList ∧ stem ≠ [] ∧ tail ≠ [] then (stem, '.' :: tail) else (name.toList, [])

/-- `path.suffix.lower()` -/
def lowerSuffix (path : Path) : String :=
  asciiLower (String.ofList (splitSuffix (fileName path)).2)

/-- `str(root / relative)` -/
def absoluteText (root relative : Path) : String :=
  "/" ++ pathText (root ++ relative)

inductive Classification where
  | testOnly
  | documentation
  | activeSource
  deriving DecidableEq

def Classification.text : Classification → String
  | .testOnly => "TEST_ONLY"
  | .documentation => "DOCUMENTATION"
  | .activeSource => "ACTIVE_SOURCE"

def generatedReportNames : List String := ["security-scan.json"]

/-- A part of the path is one of the names, in any letter case. -/
def hasPart (names : List String) (path : Path) : Bool :=
  path.any (fun part => decide (asciiLower part ∈ names))

/-- `_classify_path` of an absolute path -/
def classifyPath (path : Path) : Classification :=
  if hasPart ["tests"] path then .testOnly
  else if hasPart ["artifacts", "docs"] path then .documentation
  else if asciiLower (fileName path) ∈ generatedReportNames then .documentation
  else if lowerSuffix path ∈ [".md", ".txt"] then .documentation
  else .activeSource

structure ScanFinding where
  detector : String
  rule : String
  file : String
  line : Nat
  classification : Classification
  detail : String
  deriving DecidableEq

structure SecretFinding where
  scope : String
  file : String
  line : Nat
  secretType : String
  redactedFingerprint : String
  commit : Option String := none
  deriving DecidableEq

/-- What a detector finds in a file, before the path is shown and classified. -/
structure Hit where
  detector : String
  rule : String
  path : Path
  line : Nat
  detail : String

/-- The finding of a hit in the project below `root`. -/
def Hit.finding (root : Path) (hit : Hit) : ScanFinding :=
  { detector := hit.detector
    rule := hit.rule
    file := absoluteText root hit.path
    line := hit.line
    classification := classifyPath (root ++ hit.path)
    detail := hit.detail }

end SuperAdvisor.Scanning
