import SuperAdvisor.Foundation.PlainDump
import SuperAdvisor.Foundation.Sha256
import SuperAdvisor.Scanning.Detectors

/-!
# The security scan

Secrets in the working tree, among the staged files and in the history, runtime
state under version control, and the report over all detectors.  Regular
expressions are searched by a function that is given.
-/

namespace SuperAdvisor.Scanning

open Python FileTree

/-- The types of secrets and their patterns. -/
def secretPatterns : List (String × String) :=
  [("openai_key", "sk-proj-[A-Za-z0-9_-]\x7b10,\x7d|sk-[A-Za-z0-9]\x7b20,\x7d"),
    ("anthropic_key", "sk-ant-[A-Za-z0-9_-]\x7b20,\x7d"),
    ("telegram_bot_token", "\\b\\d\x7b8,10\x7d:[A-Za-z0-9_-]\x7b20,\x7d\\b"),
    ("github_pat", "\\bgh[pousr]_[A-Za-z0-9]\x7b20,\x7d\\b"),
    ("jwt_like", "\\beyJ[A-Za-z0-9_-]+\\.[A-Za-z0-9._-]+\\.[A-Za-z0-9._-]+\\b"),
    ("private_key", "-----BEGIN [A-Z ]*PRIVATE KEY-----")]

/-- `_fingerprint` -/
def fingerprint (value : List Char) : String :=
  String.ofList ((sha256Hex value).toList.take 12)

section Secrets

-- `search pattern line` is the match of the pattern in the line
variable (search : String → List Char → Option (List Char)) (root : Path)

def lineSecrets (scope file : String) (line : Nat) (commit : Option String)
    (content : List Char) : List SecretFinding :=
  secretPatterns.filterMap (fun pattern =>
    (search pattern.2 content).map (fun found =>
      { scope := scope, file := file, line := line, secretType := pattern.1,
        redactedFingerprint := fingerprint found, commit := commit }))

def fileSecrets (scope : String) (path : Path) (text : List Char) : List SecretFinding :=
  if classifyPath (root ++ path) = .testOnly then []
  else
    ((splitLines text).zipIdx 1).flatMap (fun line =>
      lineSecrets search scope (absoluteText root path) line.2 none line.1)

/-- `scan_paths_for_secrets` of files that are there -/
def scanPathsForSecrets (files : Folder SourceFile) (scope : String) : List SecretFinding :=
  files.flatMap (fun entry => fileSecrets search root scope entry.1 entry.2.text)

/-- `staged_paths`, those that are files -/
def stagedFiles (project : Project) : Folder SourceFile :=
  project.staged.filterMap (fun line =>
    if strip line = "" then none
    else
      (OrderedDict.get? project.files (pathOf (strip line))).map (fun file =>
        (pathOf (strip line), file)))

/-- Where the reader of the history is. -/
structure HistoryPlace where
  commit : Option String
  file : String
  line : Nat

/-- The first number after a plus sign. -/
def hunkStart : List Char → Nat
  | [] => 0
  | '+' :: rest =>
      match rest.takeWhile Char.isDigit with
      | [] => hunkStart rest
      | digits => Nat.ofDigitChars 10 digits 0
  | _ :: rest => hunkStart rest

/-- One line of the history. -/
def readHistory (state : HistoryPlace × List SecretFinding) (line : List Char) :
    HistoryPlace × List SecretFinding :=
  let place := state.1
  let findings := state.2
  if "COMMIT:".toList <+: line then
    ({ commit := some (String.ofList (line.drop 7)), file := "<unknown>", line := 0 }, findings)
  else if "+++ b/".toList <+: line then
    ({ place with file := String.ofList (line.drop 6) }, findings)
  else if "@@".toList <+: line then ({ place with line := hunkStart line }, findings)
  else if ['+'] <+: line ∨ ['-'] <+: line then
    if classifyPath (root ++ pathOf place.file) = .testOnly then
      ({ place with line := place.line + 1 }, findings)
    else
      ({ place with line := place.line + 1 },
        findings ++
          lineSecrets search "history" place.file place.line place.commit (line.drop 1))
  else (place, findings)

def scanGitHistory (project : Project) : List SecretFinding :=
  (project.history.foldl (readHistory search root)
    ({ commit := none, file := "<unknown>", line := 0 }, [])).2

end Secrets

def forbiddenTrackedPaths : List String :=
  ["state\\.env", "state\\openclaw.json", "state\\credentials", "state\\sessions",
    "state\\logs", "\\.venv", "logs", "data\\runtime", "archive"]

/-- The path with backslashes. -/
def normalizedPath (path : String) : String :=
  String.ofList (path.toList.map (fun symbol => if symbol = '/' then '\\' else symbol))

/-- The path is a forbidden one or lies below it. -/
def isRuntimeState (path : String) : Bool :=
  forbiddenTrackedPaths.any (fun forbidden =>
    decide (path = forbidden) || decide ((forbidden ++ "\\").toList <+: path.toList))

def trackedRuntimeStateViolations (project : Project) : List String :=
  ((project.listed.map normalizedPath).filter isRuntimeState).insertionSort
    (fun left right => left ≤ right)

/-! The report. -/

/-- The findings that a report shows. -/
structure ScanReport where
  sourceText : List ScanFinding
  ast : List ScanFinding
  resolvedConstants : List ScanFinding
  importGraph : List ScanFinding
  workingTree : List SecretFinding
  staged : List SecretFinding
  history : List SecretFinding
  tracked : List String

def ScanFinding.isActive (finding : ScanFinding) : Bool :=
  decide (finding.classification = .activeSource)

namespace ScanReport

def sourceFindings (report : ScanReport) : List ScanFinding :=
  report.sourceText ++ report.ast ++ report.resolvedConstants ++ report.importGraph

def activeSourceViolations (report : ScanReport) : List ScanFinding :=
  report.sourceFindings.filter ScanFinding.isActive

/-- `summary["pass"]` -/
def pass (report : ScanReport) : Bool :=
  report.activeSourceViolations.isEmpty && report.workingTree.isEmpty && report.staged.isEmpty &&
    report.history.isEmpty && report.tracked.isEmpty

end ScanReport

/-- `perform_security_scan` -/
def performSecurityScan (search : String → List Char → Option (List Char)) (root : Path)
    (project : Project) (includeHistory : Bool) : Except Failure ScanReport := do
  let sourceFindings := (sourceTextHits project).map (Hit.finding root)
  let astFindings ← astHits project
  let constantFindings ← resolvedConstantHits project
  let importGraphFindings ← importGraphHits project
  .ok
    { sourceText := sourceFindings
      ast := astFindings.map (Hit.finding root)
      resolvedConstants := constantFindings.map (Hit.finding root)
      importGraph := importGraphFindings.map (Hit.finding root)
      workingTree := scanPathsForSecrets search root (iterFiles project) "working_tree"
      staged := scanPathsForSecrets search root (stagedFiles project) "staged"
      history := if includeHistory then scanGitHistory search root project else []
      tracked := trackedRuntimeStateViolations project }

/-- `finding.__dict__` -/
def ScanFinding.toValue (finding : ScanFinding) : Value :=
  .dict (named
    [("detector", .str finding.detector), ("rule", .str finding.rule),
      ("file", .str finding.file), ("line", .int finding.line),
      ("classification", .str finding.classification.text), ("detail", .str finding.detail)])

def SecretFinding.toValue (finding : SecretFinding) : Value :=
  .dict (named
    [("scope", .str finding.scope), ("file", .str finding.file), ("line", .int finding.line),
      ("secret_type", .str finding.secretType),
      ("redacted_fingerprint", .str finding.redactedFingerprint),
      ("commit", optionalText finding.commit)])

namespace ScanReport

def summary (report : ScanReport) : List (String × Value) :=
  [("pass", .bool report.pass),
    ("active_source_violations", .int report.activeSourceViolations.length),
    ("documentation_hits",
      .int (report.sourceText.countP (fun finding => finding.classification = .documentation))),
    ("test_hits",
      .int (report.sourceText.countP (fun finding => finding.classification = .testOnly)))]

def secrets (report : ScanReport) : List (String × Value) :=
  [("working_tree", .list (report.workingTree.map SecretFinding.toValue)),
    ("staged", .list (report.staged.map SecretFinding.toValue)),
    ("history", .list (report.history.map SecretFinding.toValue))]

/-- The dictionary that `perform_security_scan` returns. -/
def toDict (report : ScanReport) : List (String × Value) :=
  [("version", .str "1.2.15"), ("phase", .str "P2.4"),
    ("summary", .dict (named report.summary)),
    ("source_text", .list (report.sourceText.map ScanFinding.toValue)),
    ("ast", .list (report.ast.map ScanFinding.toValue)),
    ("resolved_constants", .list (report.resolvedConstants.map ScanFinding.toValue)),
    ("import_graph", .list (report.importGraph.map ScanFinding.toValue)),
    ("secrets", .dict (named report.secrets)),
    ("runtime_state_tracking",
      .dict (named [("tracked_forbidden_paths", textList report.tracked)]))]

end ScanReport

end SuperAdvisor.Scanning
