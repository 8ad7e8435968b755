import SuperAdvisor.Events.CanonicalJson
import SuperAdvisor.Foundation.FileTree
import SuperAdvisor.Foundation.IsoText
import SuperAdvisor.Foundation.Raising

/-!
# Backups

A backup copies the files of a source tree into a directory named by the clock
and writes a manifest with their digests beside them.  Verifying it reads the
manifest back and hashes the copies again.
-/

namespace SuperAdvisor

open Python Calendar FileTree

/-- The digest of bytes, `str.lower`, and the files that a path which leads out
of a backup would read. -/
structure BackupLibrary where
  sha256Hex : ByteArray → String
  lower : String → String
  outside : (path : String) → Option ByteArray

structure SourceFile where
  path : Path
  content : ByteArray

/-- The files of a source tree, in the order of their paths. -/
structure SourceTree where
  root : String
  files : List SourceFile
  named : ∀ file ∈ files, file.path ≠ [] ∧ ∀ name ∈ file.path, IsName name
  apart : files.Pairwise (fun first second =>
    ¬first.path <+: second.path ∧ ¬second.path <+: first.path)

structure ManifestFile where
  path : String
  sha256 : String
  size : Nat

def ManifestFile.fields (file : ManifestFile) : List (String × Value) :=
  [("path", .str file.path),
    ("sha256", .str file.sha256),
    ("size", .int file.size)]

structure BackupManifest where
  backupId : String
  createdAtUtc : String
  sourceRoot : String
  files : List ManifestFile
  excluded : List String
  manifestSha256 : String

/-- The fields under the digest of the manifest. -/
def BackupManifest.content (manifest : BackupManifest) : List (String × Value) :=
  [("backup_id", .str manifest.backupId),
    ("created_at_utc", .str manifest.createdAtUtc),
    ("source_root", .str manifest.sourceRoot),
    ("files", .list (manifest.files.map (fun file => .dict (named file.fields)))),
    ("excluded", .list (manifest.excluded.map .str))]

def BackupManifest.payload (manifest : BackupManifest) : List (String × Value) :=
  manifest.content ++ [("manifest_sha256", .str manifest.manifestSha256)]

/-- The directories of the backups with their files. -/
abbrev BackupRoot := List (String × Folder ByteArray)

inductive BackupProblem where
  | fileExists
  | isADirectory
  | json (problem : JsonError)

abbrev BackupM := EStateM BackupProblem BackupRoot

def folderOf (root : BackupRoot) (backupId : String) : Folder ByteArray :=
  (OrderedDict.get? root backupId).getD []

/-- `strftime("backup-%Y%m%d-%H%M%S")` -/
def backupName (clock : DateTime) : String :=
  "backup-" ++ String.ofList (padded 4 clock.date.year ++ padded 2 clock.date.month ++
    padded 2 clock.date.day) ++ "-" ++
    String.ofList (padded 2 clock.hour ++ padded 2 clock.minute ++ padded 2 clock.second)

section Manager

variable (library : BackupLibrary)

/-- `_should_exclude` -/
def shouldExclude (relative : Path) : Bool :=
  let normalized := library.lower
    (String.ofList (replaceText ['/'] [JsonText.backslash] (pathText relative).toList))
  let separated := fun names : List String =>
    String.ofList ([JsonText.backslash].intercalate (names.map String.toList))
  let parts := ((normalized.toList.splitOn JsonText.backslash).map String.ofList).filter
    (fun part => part ≠ "")
  let startsWith := fun part : String => decide (part.toList <+: normalized.toList)
  let endsWith := fun part : String => decide (part.toList <:+ normalized.toList)
  let contains := fun part : String => isSubstring part normalized
  if endsWith (separated ["", ".env"]) || decide (normalized = ".env") ||
      decide (normalized = separated ["state", ".env"]) then true
  else if startsWith (separated ["data", "backups"]) ||
      contains (separated ["", "data", "backups", ""]) then true
  else if startsWith (separated ["state", "npm"]) ||
      contains (separated ["", "state", "npm", ""]) then true
  else if parts.any (fun part => decide (part ∈
      [".git", ".venv", "venv", "node_modules", "_tmp", "__pycache__", ".pytest_cache",
        ".mypy_cache", ".ruff_cache", ".tox", ".nox"])) then true
  else if parts.any (fun part => decide (".egg-info".toList <:+ part.toList)) then true
  else if decide (normalized ∈ [".coverage", "coverage.xml"]) || endsWith ".coverage" then true
  else if startsWith "htmlcov" || contains (separated ["", "htmlcov", ""]) then true
  else ["apikey", "password", "token", "browser profile"].any contains

/-- One file of `create`: the directory above the copy is made, the file is
copied and the copy is hashed.  A copy onto a directory goes into it. -/
def copyFile (backupId : String) (file : SourceFile) : BackupM ManifestFile := do
  let root ← get
  let folder := folderOf root backupId
  if isBlocked folder file.path.dropLast then
    throw .fileExists
  if isDirectory folder file.path then
    let inner := file.path ++ [file.path.getLast?.getD ""]
    if isDirectory folder inner then
      throw .isADirectory
    set (OrderedDict.set root backupId (OrderedDict.set folder inner file.content))
    throw .isADirectory
  set (OrderedDict.set root backupId (OrderedDict.set folder file.path file.content))
  pure
    { path := pathText file.path
      sha256 := library.sha256Hex file.content
      size := file.content.size }

/-- `_fingerprint` of the fields under the digest. -/
def manifestFingerprint (manifest : BackupManifest) : Except BackupProblem String := do
  let text ← (canonicalJson (.dict (named manifest.content))).mapError .json
  .ok (String.ofList ((library.sha256Hex (encodeText text)).toList.take 12))

def manifestPath : Path := ["manifest.json"]

/-- The arguments of `create` and the two readings of the clock. -/
structure BackupCall where
  source : SourceTree
  clock : DateTime
  createdAt : String

def BackupCall.backupId (call : BackupCall) : String :=
  backupName call.clock

/-- One round of the loop: the copied files and the excluded ones so far. -/
def copyRound (backupId : String) (found : List ManifestFile × List String)
    (file : SourceFile) : BackupM (List ManifestFile × List String) := do
  if shouldExclude library file.path then
    pure (found.1, found.2 ++ [pathText file.path])
  else
    let copied ← copyFile library backupId file
    pure (found.1 ++ [copied], found.2)

/-- The end of `create`: the manifest with its digest is written and returned. -/
def writeManifest (manifest : BackupManifest) : BackupM BackupManifest := do
  let hash ← ofExcept (manifestFingerprint library manifest)
  let complete := { manifest with manifestSha256 := hash }
  let text ← ofExcept ((canonicalJson (.dict (named complete.payload))).mapError .json)
  let root ← get
  let folder := folderOf root manifest.backupId
  if isDirectory folder manifestPath then
    throw .isADirectory
  set (OrderedDict.set root manifest.backupId
    (OrderedDict.set folder manifestPath (encodeText (text ++ ['\n']))))
  pure complete

def createBackup (call : BackupCall) : BackupM BackupManifest := do
  modify (fun root => OrderedDict.set root call.backupId (folderOf root call.backupId))
  let found ← call.source.files.foldlM (copyRound library call.backupId) ([], [])
  writeManifest library
    { backupId := call.backupId
      createdAtUtc := call.createdAt
      sourceRoot := call.source.root
      files := found.1
      excluded := found.2
      manifestSha256 := "" }

/-! Verifying a backup. -/

inductive VerifyError where
  | fileNotFound
  | undecodable
  | notADictionary
  | untypedPath
  | isADirectory
  | failure (problem : Failure)

structure Verification where
  backupId : String
  valid : Bool
  mismatches : List String
  error : Option VerifyError
  manifest : Value

/-- What a path of a manifest leads to. -/
inductive Located where
  | missing
  | directory
  | file (content : ByteArray)

def locate (folder : Folder ByteArray) (text : String) : Located :=
  if leavesDirectory text then
    match library.outside text with
    | some content => .file content
    | none => .missing
  else
    match OrderedDict.get? folder (pathOf text) with
    | some content => .file content
    | none => if isDirectory folder (pathOf text) then .directory else .missing

/-- One round of the loop of `verify`. -/
def verifyItem (folder : Folder ByteArray) (mismatches : List String) (entry : Value) :
    Except VerifyError (List String) := do
  let path ← (getItem entry "path").mapError .failure
  match path with
  | .str text =>
      match locate library folder text with
      | .missing => .ok (mismatches ++ [text])
      | .directory => .error .isADirectory
      | .file content => do
          let expected ← (getItem entry "sha256").mapError .failure
          if (Value.str (library.sha256Hex content)).equals expected then .ok mismatches
          else .ok (mismatches ++ [text])
  | _ => .error .untypedPath

def verifyFolder (folder : Folder ByteArray) : Except VerifyError (List String × Value) := do
  let content ← match OrderedDict.get? folder manifestPath with
    | some content => .ok content
    | none => .error .fileNotFound
  let text ← match decodeText content with
    | some text => .ok text
    | none => .error .undecodable
  let manifest ← match loads text with
    | some manifest => .ok manifest
    | none => .error .undecodable
  let entries ← match manifest with
    | .dict entries => .ok entries
    | _ => .error .notADictionary
  let items ← (listOf (getOr entries "files" (.list []))).mapError .failure
  let mismatches ← items.foldlM (verifyItem library folder) []
  .ok (mismatches, manifest)

def verify (root : BackupRoot) (backupId : String) : Verification :=
  match verifyFolder library (folderOf root backupId) with
  | .ok (mismatches, manifest) =>
      { backupId := backupId
        valid := mismatches.isEmpty
        mismatches := mismatches
        error := none
        manifest := manifest }
  | .error problem =>
      { backupId := backupId
        valid := false
        mismatches := []
        error := some problem
        manifest := .dict [] }

/-! The restore drill. -/

/-- Why a drill ends without a report.  A path that leads out of the backup is not
followed here. -/
inductive DrillError where
  | fileNotFound
  | isADirectory
  | fileExists
  | untypedPath
  | outside (path : String)
  | failure (problem : Failure)

structure DrillReport where
  backupId : String
  restoredDir : String
  valid : Bool
  verifiedFiles : Nat
  deriving DecidableEq

/-- `shutil.copy2`; a copy onto a directory goes into it. -/
def placeCopy (restored : Folder ByteArray) (path : Path) (content : ByteArray) :
    Except DrillError (Folder ByteArray) :=
  let inner := path ++ [path.getLast?.getD ""]
  if isDirectory restored path = false then .ok (OrderedDict.set restored path content)
  else if isDirectory restored inner then .error .isADirectory
  else .ok (OrderedDict.set restored inner content)

/-- One round of the loop of `restore_drill`. -/
def restoreFile (folder restored : Folder ByteArray) (entry : Value) :
    Except DrillError (Folder ByteArray) := do
  let path ← (getItem entry "path").mapError .failure
  match path with
  | .str text =>
      if leavesDirectory text then .error (.outside text)
      else if isBlocked restored (pathOf text).dropLast then .error .fileExists
      else
        match locate library folder text with
        | .missing => .error .fileNotFound
        | .directory => .error .isADirectory
        | .file content => placeCopy restored (pathOf text) content
  | _ => .error .untypedPath

/-- The listed files, and the directory into which they are copied. -/
def restoreFiles (root : BackupRoot) (backupId : String) :
    Except DrillError (List Value × Folder ByteArray) := do
  let items ←
    match (verify library root backupId).manifest with
    | .dict entries => (listOf (getOr entries "files" (.list []))).mapError .failure
    | value => .error (.failure (noAttribute value "get"))
  let restored ← items.foldlM (restoreFile library (folderOf root backupId)) []
  .ok (items, restored)

/-- `restore_drill` with a new directory, which is gone when the drill ends. -/
def restoreDrill (root : BackupRoot) (directory backupId : String) :
    Except DrillError DrillReport := do
  let (items, _) ← restoreFiles library root backupId
  .ok
    { backupId := backupId
      restoredDir := directory
      valid := (verify library root backupId).valid
      verifiedFiles := items.length }

/-! A call of the manager. -/

def backupStep (root : BackupRoot) (call : BackupCall) :
    Except BackupProblem BackupManifest × BackupRoot :=
  match (createBackup library call).run root with
  | .ok manifest after => (.ok manifest, after)
  | .error problem after => (.error problem, after)

end Manager

end SuperAdvisor
