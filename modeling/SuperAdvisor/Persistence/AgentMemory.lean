import SuperAdvisor.Events.CanonicalJson
import SuperAdvisor.Foundation.IsoText
import SuperAdvisor.Foundation.PosixTree

/-!
# Agent memories

Every agent id names a directory below the memory root, and its memory is the
files of the days in that directory.  The id is joined into the path as it is.
-/

namespace SuperAdvisor.Persistence

open Python Calendar FileTree PosixTree

/-- The memory root is a location of proper names. -/
structure AgentMemoryStore where
  memoryRoot : Location
  named : ∀ name ∈ memoryRoot, IsName name

inductive MemoryProblem where
  | embeddedNull
  | path (error : PathError)
  | json (problem : JsonError)
  | undecodable
  deriving DecidableEq

abbrev MemoryTree := PosixTree.Tree (List Char)

abbrev MemoryM := EStateM MemoryProblem MemoryTree

/-- System calls on the tree. -/
def onTree {α : Type} (program : TreeM (List Char) α) : MemoryM α := fun tree =>
  match program.run tree with
  | .ok value after => .ok value after
  | .error error after => .error (.path error) after

def nullChar : Char := Char.ofNat 0

/-- `f"{date.isoformat()}.md"` -/
def memoryFile (today : Date) : String :=
  String.ofList (isoDate today ++ ".md".toList)

/-- The entry of one append. -/
def memoryEntry (agentId content : String) (provenance : Option (List (Key × Value)))
    (createdAt : String) : Value :=
  .dict (named
    [("created_at_utc", .str createdAt),
      ("agent_id", .str agentId),
      ("provenance", .dict (provenance.getD [])),
      ("content", .str content)])

/-- `path.open("a")` creates a file that is not there. -/
def openAppend (path : Path) : MemoryM Location := do
  let tree ← get
  let location ← ofExcept ((walk tree [] path).mapError .path)
  match nodeAt tree location with
  | some .directory => throw (.path .isADirectory)
  | some (.file _) => pure location
  | none => do
      set (tree.set location (.file []))
      pure location

def writeText (location : Location) (text : List Char) : MemoryM Unit := do
  let tree ← get
  match nodeAt tree location with
  | some (.file written) => set (tree.set location (.file (written ++ text)))
  | _ => throw (.path .notFound)

/-- `path.read_text()` -/
def readText (tree : MemoryTree) (path : Path) : Except MemoryProblem (List Char) := do
  let location ← (walk tree [] path).mapError .path
  match nodeAt tree location with
  | some (.file text) => .ok text
  | some .directory => .error (.path .isADirectory)
  | none => .error (.path .notFound)

def parseEntry (line : List Char) : Except MemoryProblem Value :=
  match loads line with
  | some entry => .ok entry
  | none => .error .undecodable

/-- The name fits the pattern `*.md`. -/
def isMemoryName (name : String) : Bool :=
  decide (".md".toList <:+ name.toList)

/-- `sorted(directory.glob("*.md"))` -/
def memoryNames (tree : MemoryTree) (location : Location) : List String :=
  ((namesIn tree location).filter isMemoryName).insertionSort (fun left right => left ≤ right)

/-- The entries of the files of one directory. -/
def readDirectory (tree : MemoryTree) (directory : Path) :
    Except MemoryProblem (List Value) := do
  let location ← (walk tree [] directory).mapError .path
  (memoryNames tree location).foldlM
    (fun entries name => do
      let text ← readText tree (directory ++ [name])
      let found ← ((splitLines text).filter (fun line => !isBlankLine line)).mapM parseEntry
      .ok (entries ++ found)) []

namespace AgentMemoryStore

variable (store : AgentMemoryStore)

/-- `self.memory_root / agent_id / "memory"`: an id that begins with a slash
replaces the root. -/
def agentPath (agentId : String) : Path :=
  (if ['/'] <+: agentId.toList then [] else store.memoryRoot) ++ pathOf agentId ++ ["memory"]

def agentDir (agentId : String) : MemoryM Path := do
  if nullChar ∈ agentId.toList then throw .embeddedNull
  onTree (makeParents (store.agentPath agentId))
  pure (store.agentPath agentId)

def append (agentId content : String) (provenance : Option (List (Key × Value)))
    (createdAt : String) (today : Date) : MemoryM Path := do
  let directory ← store.agentDir agentId
  let location ← openAppend (directory ++ [memoryFile today])
  let line ← ofExcept ((canonicalJson
    (memoryEntry agentId content provenance createdAt)).mapError .json)
  writeText location (line ++ ['\n'])
  pure (directory ++ [memoryFile today])

def read (agentId : String) : MemoryM (List Value) := do
  let directory ← store.agentDir agentId
  let tree ← get
  ofExcept (readDirectory tree directory)

end AgentMemoryStore

inductive MemoryCall where
  | append (agentId content : String) (provenance : Option (List (Key × Value)))
      (createdAt : String) (today : Date)
  | read (agentId : String)

inductive MemoryReply where
  | appended (result : Except MemoryProblem Path)
  | entries (result : Except MemoryProblem (List Value))

/-- The result of a computation, and the tree it leaves. -/
def outcomeOf {α : Type} (program : MemoryM α) (tree : MemoryTree) :
    Except MemoryProblem α × MemoryTree :=
  match program.run tree with
  | .ok value after => (.ok value, after)
  | .error problem after => (.error problem, after)

def memoryStep (store : AgentMemoryStore) (tree : MemoryTree) :
    MemoryCall → MemoryReply × MemoryTree
  | .append agentId content provenance createdAt today =>
      let (result, after) := outcomeOf
        (store.append agentId content provenance createdAt today) tree
      (.appended result, after)
  | .read agentId =>
      let (result, after) := outcomeOf (store.read agentId) tree
      (.entries result, after)

/-- The store was constructed: its root is a directory. -/
def Constructed (store : AgentMemoryStore) (tree : MemoryTree) : Prop :=
  ∀ location, location <+: store.memoryRoot → nodeAt tree location = some .directory

end SuperAdvisor.Persistence
