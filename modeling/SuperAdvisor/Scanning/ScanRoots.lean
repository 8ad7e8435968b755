import Mathlib.Data.List.Forall2
import SuperAdvisor.Foundation.RaisingLoops
import SuperAdvisor.Scanning.SecurityScan

/-!
# Scans of one project below two roots

Files are found by their path below the root, and classified by all parts of
the absolute path.  So a part `tests`, `artifacts` or `docs` of the root hides
every violation in the sources, and a part `tests` every secret.  Two roots give
the same results exactly if they agree on that, or there is nothing to hide.
-/

namespace SuperAdvisor.Scanning

open Python FileTree

/-! What a root hides. -/

/-- Below this root no file is active source. -/
def hidesSource (root : Path) : Bool :=
  hasPart ["tests"] root || hasPart ["artifacts", "docs"] root

/-- Below this root no file is searched for secrets. -/
def hidesSecrets (root : Path) : Bool :=
  hasPart ["tests"] root

theorem hasPart_append (names : List String) (root relative : Path) :
    hasPart names (root ++ relative) = (hasPart names root || hasPart names relative) := by
  simp [hasPart]

theorem classifyPath_eq_active_iff
    {root relative : Path} (nonempty : relative ≠ []) :
    classifyPath (root ++ relative) = .activeSource ↔
      hidesSource root = false ∧ classifyPath relative = .activeSource := by
  have name : fileName (root ++ relative) = fileName relative := by
    simp [fileName, List.getLast?_append_of_ne_nil _ nonempty]
  have suffix : lowerSuffix (root ++ relative) = lowerSuffix relative := by
    rw [lowerSuffix, name, lowerSuffix]
  cases tests : hasPart ["tests"] root <;> cases others : hasPart ["artifacts", "docs"] root <;>
    simp [classifyPath, hidesSource, hasPart_append, name, suffix, tests, others]
  all_goals grind

theorem classifyPath_eq_testOnly_iff {path : Path} :
    classifyPath path = .testOnly ↔ hasPart ["tests"] path = true := by
  unfold classifyPath
  split
  next tests => simp [tests]
  next tests =>
    constructor
    · intro testOnly
      split at testOnly
      · cases testOnly
      · split at testOnly
        · cases testOnly
        · split at testOnly <;> cases testOnly
    · exact fun found => absurd found tests

/-! Where the hits are. -/

/-- Every hit has a path below the root. -/
def Placed (hits : List Hit) : Prop :=
  ∀ hit ∈ hits, hit.path ≠ []

variable {project : Project}

theorem path_ne_nil {entry : Path × SourceFile} (member : entry ∈ iterFiles project) :
    entry.1 ≠ [] :=
  project.named entry (List.mem_filter.mp member).1

theorem pythonFiles_path_ne_nil
    {entry : Path × SourceFile} (member : entry ∈ pythonFiles project) : entry.1 ≠ [] :=
  path_ne_nil (List.mem_filter.mp member).1

theorem Placed.append
    {first second : List Hit} (early : Placed first) (late : Placed second) :
    Placed (first ++ second) :=
  fun hit member => (List.mem_append.mp member).elim (early hit) (late hit)

theorem placed_sourceText : Placed (sourceTextHits project) := by
  intro hit member
  obtain ⟨entry, inside, found⟩ := List.mem_flatMap.mp member
  split at found
  next =>
    obtain ⟨line, -, shown⟩ := List.mem_flatMap.mp found
    obtain ⟨pattern, -, rfl⟩ := List.mem_map.mp shown
    exact path_ne_nil inside
  next => cases found

theorem path_of_mem_hitOf
    {detector rule : String} {path : Path} {line : Nat} {found : Option String} {hit : Hit}
    (member : hit ∈ hitOf detector rule path line found) : hit.path = path := by
  obtain ⟨detail, -, rfl⟩ := List.mem_map.mp member
  rfl

theorem placed_eachModule
    {hits : Path → Module → List Hit} {found : List Hit}
    (own : ∀ path tree, ∀ hit ∈ hits path tree, hit.path = path)
    (scanned : eachModule (pythonFiles project) hits = .ok found) : Placed found := by
  obtain ⟨results, mapped, built⟩ := except_bind_eq_ok.mp scanned
  cases built
  intro hit member
  obtain ⟨result, inside, here⟩ := List.mem_flatten.mp member
  obtain ⟨entry, entryIn, converted⟩ := exists_of_mem_right (mapM_eq_ok_iff.mp mapped) inside
  obtain ⟨tree, -, rfl⟩ := except_map_eq_ok.mp converted
  rw [own entry.1 tree hit here]
  exact pythonFiles_path_ne_nil entryIn

theorem path_of_mem_callHits
    {constants : List (String × String)} {path : Path} {node : Node} {hit : Hit}
    (member : hit ∈ callHits constants path node) : hit.path = path := by
  cases node with
  | call line func args keywords =>
      simp only [callHits, List.mem_append] at member
      rcases member with (direct | named) | asked
      · exact path_of_mem_hitOf direct
      · exact path_of_mem_hitOf named
      · exact path_of_mem_hitOf asked
  | _ => cases member

theorem placed_ast {found : List Hit} (scanned : astHits project = .ok found) :
    Placed found := by
  refine placed_eachModule ?_ scanned
  intro path tree hit member
  obtain ⟨node, -, here⟩ := List.mem_flatMap.mp member
  rcases List.mem_append.mp here with called | imported
  · exact path_of_mem_callHits called
  · cases node with
    | call line func args keywords =>
        rcases List.mem_append.mp imported with first | second
        · exact path_of_mem_hitOf first
        · exact path_of_mem_hitOf second
    | _ => cases imported

theorem placed_resolvedConstants
    {found : List Hit} (scanned : resolvedConstantHits project = .ok found) :
    Placed found := by
  refine placed_eachModule ?_ scanned
  intro path tree hit member
  rcases List.mem_append.mp member with assigned | called
  · obtain ⟨node, -, here⟩ := List.mem_flatMap.mp assigned
    cases node with
    | assign line targets value => exact path_of_mem_hitOf here
    | _ => cases here
  · obtain ⟨node, -, here⟩ := List.mem_flatMap.mp called
    cases node with
    | call line func args keywords =>
        simp only [resolvedCallHits, List.mem_append] at here
        rcases here with (asked | first) | second
        · exact path_of_mem_hitOf asked
        · exact path_of_mem_hitOf first
        · exact path_of_mem_hitOf second
    | _ => cases here

theorem path_of_importGraph
    {graph : ImportGraph} (built : importGraph project = .ok graph) {name : String}
    {node : ModuleNode} (found : OrderedDict.get? graph name = some node) : node.path ≠ [] := by
  obtain ⟨entry, member, converted⟩ := exists_of_mem_right (mapM_eq_ok_iff.mp built)
    (OrderedDict.mem_of_get? found)
  obtain ⟨tree, -, same⟩ := except_map_eq_ok.mp converted
  cases same
  obtain ⟨pair, pairIn, same⟩ := OrderedDict.mem_ofPairs member
  obtain ⟨file, inside, rfl⟩ := List.mem_map.mp pairIn
  simp only [moduleNode, same]
  exact pythonFiles_path_ne_nil inside

theorem placed_importGraph {found : List Hit} (scanned : importGraphHits project = .ok found) :
    Placed found := by
  obtain ⟨graph, made, built⟩ := except_bind_eq_ok.mp scanned
  cases built
  intro hit member
  obtain ⟨root, -, reached⟩ := List.mem_flatMap.mp member
  obtain ⟨current, -, here⟩ := List.mem_flatMap.mp reached
  split at here
  next node kept =>
    split at here
    next =>
      obtain rfl := List.mem_singleton.mp here
      exact path_of_importGraph made kept
    next => cases here
  next => cases here

/-! The results below a root. -/

/-- The hits of all detectors. -/
def sourceHits (project : Project) : Except Failure (List Hit) := do
  let ast ← astHits project
  let constants ← resolvedConstantHits project
  let graph ← importGraphHits project
  .ok (sourceTextHits project ++ ast ++ constants ++ graph)

/-- Below every root the scan raises, or it reports the same hits. -/
theorem performSecurityScan_cases
    (search : String → List Char → Option (List Char)) (project : Project)
    (includeHistory : Bool) :
    (∃ failure, ∀ root,
      performSecurityScan search root project includeHistory = .error failure) ∨
    ∃ hits, sourceHits project = .ok hits ∧ Placed hits ∧ ∀ root, ∃ report,
      performSecurityScan search root project includeHistory = .ok report ∧
      report.sourceFindings = hits.map (Hit.finding root) ∧
      report.workingTree =
        scanPathsForSecrets search root (iterFiles project) "working_tree" := by
  cases calls : astHits project with
  | error failure =>
      exact .inl ⟨failure, fun root => by
        simp [performSecurityScan, calls, bind, Except.bind]⟩
  | ok ast =>
  cases resolved : resolvedConstantHits project with
  | error failure =>
      exact .inl ⟨failure, fun root => by
        simp [performSecurityScan, calls, resolved, bind, Except.bind]⟩
  | ok constants =>
  cases imported : importGraphHits project with
  | error failure =>
      exact .inl ⟨failure, fun root => by
        simp [performSecurityScan, calls, resolved, imported, bind, Except.bind]⟩
  | ok graph =>
      refine .inr ⟨sourceTextHits project ++ ast ++ constants ++ graph, ?_, ?_, fun root => ?_⟩
      · simp [sourceHits, calls, resolved, imported, bind, Except.bind]
      · exact ((placed_sourceText.append (placed_ast calls)).append
          (placed_resolvedConstants resolved)).append (placed_importGraph imported)
      · refine ⟨_, by simp [performSecurityScan, calls, resolved, imported, bind, Except.bind]; rfl,
          ?_, rfl⟩
        simp [ScanReport.sourceFindings]

theorem violations_of_root
    {root : Path} {hits : List Hit} (placed : Placed hits) {report : ScanReport}
    (findings : report.sourceFindings = hits.map (Hit.finding root)) :
    report.activeSourceViolations =
      if hidesSource root then []
      else (hits.filter (fun hit => decide (classifyPath hit.path = .activeSource))).map
        (Hit.finding root) := by
  rw [ScanReport.activeSourceViolations, findings, List.filter_map]
  cases hidden : hidesSource root with
  | true =>
      have none : ∀ hit ∈ hits, ¬(ScanFinding.isActive ∘ Hit.finding root) hit = true := by
        intro hit member
        simp [ScanFinding.isActive, Hit.finding, classifyPath_eq_active_iff (placed hit member),
          hidden]
      simp [List.filter_eq_nil_iff.mpr none]
  | false =>
      have same : ∀ hit ∈ hits, (ScanFinding.isActive ∘ Hit.finding root) hit =
          decide (classifyPath hit.path = .activeSource) := by
        intro hit member
        simp [ScanFinding.isActive, Hit.finding, classifyPath_eq_active_iff (placed hit member),
          hidden]
      simp [List.filter_congr same]

/-- The secrets of the files that no part of their relative path excludes. -/
def secretHits (search : String → List Char → Option (List Char)) (project : Project) :
    List (Path × SecretFinding) :=
  (iterFiles project).flatMap (fun entry =>
    if hasPart ["tests"] entry.1 then []
    else
      ((splitLines entry.2.text).zipIdx 1).flatMap (fun line =>
        (lineSecrets search "working_tree" "" line.2 none line.1).map (fun finding =>
          (entry.1, finding))))

/-- A secret in the project below a root. -/
def secretAt (root : Path) (hit : Path × SecretFinding) : SecretFinding :=
  { hit.2 with file := absoluteText root hit.1 }

private theorem lineSecrets_at
    (search : String → List Char → Option (List Char)) (root path : Path) (scope : String)
    (line : Nat) (commit : Option String) (content : List Char) :
    lineSecrets search scope (absoluteText root path) line commit content =
      ((lineSecrets search scope "" line commit content).map (fun finding =>
        (path, finding))).map (secretAt root) := by
  simp only [lineSecrets, List.map_filterMap, Option.map_map]
  rfl

theorem secrets_of_root
    (search : String → List Char → Option (List Char)) (root : Path) (project : Project) :
    scanPathsForSecrets search root (iterFiles project) "working_tree" =
      if hidesSecrets root then [] else (secretHits search project).map (secretAt root) := by
  have excluded : ∀ path, classifyPath (root ++ path) = .testOnly ↔
      (hidesSecrets root || hasPart ["tests"] path) = true := by
    intro path
    rw [classifyPath_eq_testOnly_iff, hasPart_append, hidesSecrets]
  cases hidden : hidesSecrets root with
  | true =>
      refine List.flatMap_eq_nil_iff.mpr (fun entry _ => ?_)
      simp [fileSecrets, excluded, hidden]
  | false =>
      rw [if_neg (by simp), secretHits, List.map_flatMap]
      refine List.flatMap_congr (fun entry _ => ?_)
      cases tests : hasPart ["tests"] entry.1 with
      | true => simp [fileSecrets, excluded, tests]
      | false =>
          simp only [fileSecrets, excluded, hidden, tests, Bool.or_self, Bool.false_eq_true,
            if_false, List.map_flatMap]
          exact List.flatMap_congr (fun line _ => lineSecrets_at ..)

/-! Two roots. -/

/-- One finding in two copies: the files differ in the root in front of them. -/
def SameSource (first second : Path) (left right : ScanFinding) : Prop :=
  ∃ relative, left.file = absoluteText first relative ∧
    right = { left with file := absoluteText second relative }

def SameSecret (first second : Path) (left right : SecretFinding) : Prop :=
  ∃ relative, left.file = absoluteText first relative ∧
    right = { left with file := absoluteText second relative }

/-- The reports below two roots give the same violations and secrets. -/
structure SameResults (first second : Path) (left right : ScanReport) : Prop where
  violations : List.Forall₂ (SameSource first second) left.activeSourceViolations
    right.activeSourceViolations
  secrets : List.Forall₂ (SameSecret first second) left.workingTree right.workingTree

/-- A detector hits a file that its relative path makes active source. -/
def HoldsViolation (project : Project) : Prop :=
  ∃ hits, sourceHits project = .ok hits ∧ ∃ hit ∈ hits, classifyPath hit.path = .activeSource

/-- A line matches a secret pattern in a file whose relative path has no part
`tests`. -/
def HoldsSecret (search : String → List Char → Option (List Char)) (project : Project) : Prop :=
  ∃ entry ∈ iterFiles project, hasPart ["tests"] entry.1 = false ∧
    ∃ line ∈ splitLines entry.2.text, ∃ pattern ∈ secretPatterns,
      (search pattern.2 line).isSome = true

/-- The roots hide the same, or there is nothing to hide. -/
structure RootsAgree (search : String → List Char → Option (List Char)) (project : Project)
    (first second : Path) : Prop where
  source : hidesSource first = hidesSource second ∨ ¬HoldsViolation project
  secrets : hidesSecrets first = hidesSecrets second ∨ ¬HoldsSecret search project

private theorem forall₂_shown_iff
    {α β : Type} {related : β → β → Prop} {items : List α} {left right : α → β}
    (hidden hidden' : Bool)
    (each : hidden = false → hidden' = false →
      ∀ item ∈ items, related (left item) (right item)) :
    List.Forall₂ related (if hidden then [] else items.map left)
        (if hidden' then [] else items.map right) ↔
      hidden = hidden' ∨ items = [] := by
  cases hidden with
  | true => cases hidden' <;> simp
  | false =>
      cases hidden' with
      | true => simp
      | false =>
          simpa [List.forall₂_map_left_iff, List.forall₂_map_right_iff, List.forall₂_same] using
            each rfl rfl

theorem secretHits_eq_nil_iff
    {search : String → List Char → Option (List Char)} {project : Project} :
    secretHits search project = [] ↔ ¬HoldsSecret search project := by
  have numbered : ∀ (lines : List (List Char)) line,
      (∃ index, (line, index) ∈ lines.zipIdx 1) ↔ line ∈ lines := by
    intro lines line
    conv_rhs => rw [← List.zipIdx_map_fst 1 lines]
    simp [-List.zipIdx_map_fst]
  have clean : ∀ scope file line commit content,
      lineSecrets search scope file line commit content = [] ↔
        ∀ pattern ∈ secretPatterns, search pattern.2 content = none := by
    intro scope file line commit content
    simp [lineSecrets, List.filterMap_eq_nil_iff]
  simp only [secretHits, List.flatMap_eq_nil_iff, HoldsSecret, not_exists, not_and]
  constructor
  · intro empty entry member tests line lineIn pattern patternIn found
    have here := empty entry member
    rw [tests, if_neg (by simp), List.flatMap_eq_nil_iff] at here
    obtain ⟨index, numberedIn⟩ := (numbered _ line).mpr lineIn
    have none := (clean ..).mp (List.map_eq_nil_iff.mp (here _ numberedIn)) pattern patternIn
    simp [none] at found
  · intro absent entry member
    split
    next => rfl
    next tests =>
      refine List.flatMap_eq_nil_iff.mpr (fun line numberedIn => ?_)
      refine List.map_eq_nil_iff.mpr ((clean ..).mpr (fun pattern patternIn => ?_))
      have lineIn := (numbered _ line.1).mp ⟨line.2, numberedIn⟩
      simpa using absent entry member (by simpa using tests) line.1 lineIn pattern patternIn

/-- Below two roots the scan raises the same exception, or its results are the
same exactly if the roots agree. -/
theorem scan_same_iff
    (search : String → List Char → Option (List Char)) (project : Project)
    (includeHistory : Bool) (first second : Path) :
    (∃ failure, performSecurityScan search first project includeHistory = .error failure ∧
      performSecurityScan search second project includeHistory = .error failure) ∨
    ∃ left right, performSecurityScan search first project includeHistory = .ok left ∧
      performSecurityScan search second project includeHistory = .ok right ∧
      (SameResults first second left right ↔ RootsAgree search project first second) := by
  rcases performSecurityScan_cases search project includeHistory with
    ⟨failure, raises⟩ | ⟨hits, scanned, placed, returns⟩
  · exact .inl ⟨failure, raises first, raises second⟩
  · obtain ⟨left, leftScan, leftFindings, leftSecrets⟩ := returns first
    obtain ⟨right, rightScan, rightFindings, rightSecrets⟩ := returns second
    refine .inr ⟨left, right, leftScan, rightScan, ?_⟩
    have violations : List.Forall₂ (SameSource first second) left.activeSourceViolations
          right.activeSourceViolations ↔
        hidesSource first = hidesSource second ∨ ¬HoldsViolation project := by
      rw [violations_of_root placed leftFindings, violations_of_root placed rightFindings,
        forall₂_shown_iff]
      · simp [HoldsViolation, scanned, List.filter_eq_nil_iff]
      · intro shown shown' hit member
        obtain ⟨inside, active⟩ := List.mem_filter.mp member
        have classified : ∀ root, hidesSource root = false →
            classifyPath (root ++ hit.path) = .activeSource := fun root visible =>
          (classifyPath_eq_active_iff (placed hit inside)).mpr ⟨visible, by simpa using active⟩
        refine ⟨hit.path, rfl, ?_⟩
        simp [Hit.finding, classified first shown, classified second shown']
    have secrets : List.Forall₂ (SameSecret first second) left.workingTree right.workingTree ↔
        hidesSecrets first = hidesSecrets second ∨ ¬HoldsSecret search project := by
      rw [leftSecrets, rightSecrets, secrets_of_root, secrets_of_root,
        forall₂_shown_iff _ _ (fun _ _ hit _ => ⟨hit.1, rfl, rfl⟩), secretHits_eq_nil_iff]
    exact ⟨fun same => ⟨violations.mp same.violations, secrets.mp same.secrets⟩,
      fun agree => ⟨violations.mpr agree.source, secrets.mpr agree.secrets⟩⟩

/-- A project with a forbidden symbol in its configuration. -/
def orderProject : Project :=
  { files := [(["config.json"], { text := "order_send".toList, tree := .ok [] })]
    named := by simp
    listed := []
    staged := []
    history := [] }

/-- The violation of `orderProject` is gone below a directory `tests`. -/
theorem tests_directory_hides_violation :
    ∃ left right,
      performSecurityScan (fun _ _ => none) ["home", "project"] orderProject false = .ok left ∧
      performSecurityScan (fun _ _ => none) ["home", "tests", "project"] orderProject false =
        .ok right ∧
      ¬SameResults ["home", "project"] ["home", "tests", "project"] left right := by
  have counts : (performSecurityScan (fun _ _ => none) ["home", "project"] orderProject false).map
        (fun report => report.activeSourceViolations.length) = .ok 1 ∧
      (performSecurityScan (fun _ _ => none) ["home", "tests", "project"] orderProject false).map
        (fun report => report.activeSourceViolations.length) = .ok 0 := by
    decide +kernel
  obtain ⟨left, leftScan, one⟩ := except_map_eq_ok.mp counts.1
  obtain ⟨right, rightScan, none⟩ := except_map_eq_ok.mp counts.2
  refine ⟨left, right, leftScan, rightScan, fun same => ?_⟩
  have length := same.violations.length_eq
  omega

end SuperAdvisor.Scanning
