import SuperAdvisor.Scanning.SecurityScan

/-!
# The verdict of the security-scan command

The command removes the findings in temporary files from the report, counts the
active and the secret ones that remain, and writes the verdict anew.  Tracked
runtime state is a list of texts, which the count passes over: the verdict is
the scanner's own, without temporary files, exactly if nothing of it is tracked
or something else remains.
-/

namespace SuperAdvisor.Scanning

open Python FileTree

/-! The command. -/

/-- A file of which the command drops the findings. -/
def isTempFile (file : String) : Bool :=
  isSubstring "_tmp" (asciiLower file)

/-- `_is_temp_finding` of a dictionary -/
def isTempFinding (entries : List (Key × Value)) : Bool :=
  ["file", "path", "source"].any (fun name =>
    match getOr entries name .none with
    | .str text => isTempFile text
    | _ => false)

mutual

/-- `_filter_security_scan_node` -/
def filterNode : Value → Value
  | .list items => .list (filterItems items)
  | .dict entries => if isTempFinding entries then .none else .dict (filterEntries entries)
  | value => value

def filterItems : List Value → List Value
  | [] => []
  | item :: items =>
      match filterNode item with
      | .none => filterItems items
      | kept => kept :: filterItems items

def filterEntries : List (Key × Value) → List (Key × Value)
  | [] => []
  | (key, value) :: entries =>
      match filterNode value with
      | .none => filterEntries entries
      | kept => (key, kept) :: filterEntries entries

end

def isActiveEntry (entries : List (Key × Value)) : Bool :=
  (getOr entries "classification" .none).equals (.str "ACTIVE_SOURCE")

mutual

/-- `_count_security_findings` -/
def countFindings : Value → Nat
  | .list items => countItems items
  | .dict entries =>
      (if isActiveEntry entries then 1 else 0) +
        (if (getOr entries "secret_type" .none).truthy then 1 else 0) + countEntries entries
  | _ => 0

def countItems : List Value → Nat
  | [] => 0
  | item :: items => countFindings item + countItems items

def countEntries : List (Key × Value) → Nat
  | [] => 0
  | (_, value) :: entries => countFindings value + countEntries entries

end

/-- How many items of a list are dictionaries that are counted. -/
def countDicts (items : Value) (counted : List (Key × Value) → Bool) : Except Failure Nat :=
  (listOf items).map (fun items => items.countP (fun item =>
    match item with
    | .dict entries => counted entries
    | _ => false))

/-- `summary["secret_violations"]`, where a summary has the key `secret` -/
def countSecrets (filtered summary : List (Key × Value)) :
    Except Failure (List (Key × Value)) :=
  if (lookupEntry summary (.str "secret")).isSome then
    match getOr filtered "secrets" (.dict []) with
    | .dict secrets => do
        let count ← countDicts (getOr secrets "working_tree" (.list [])) (fun _ => true)
        .ok (setEntry summary (.str "secret_violations") (.int count))
    | value => .error (noAttribute value "get")
  else .ok summary

/-- The report that the command prints. -/
def securityScanCommand (report : List (Key × Value)) : Except Failure (List (Key × Value)) :=
  match filterNode (.dict report) with
  | .dict filtered =>
      match getOr filtered "summary" .none with
      | .dict summary => do
          let active ← countDicts (getOr filtered "source_text" (.list [])) isActiveEntry
          let summary := setEntry summary (.str "active_source_violations") (.int active)
          let summary ← countSecrets filtered summary
          let summary := setEntry summary (.str "pass")
            (.bool (decide (countFindings (.dict filtered) = 0)))
          .ok (setEntry filtered (.str "summary") (.dict summary))
      | _ => .ok filtered
  | _ => .ok report

/-- The verdict in a printed report. -/
def passed (printed : List (Key × Value)) : Bool :=
  match getOr printed "summary" .none with
  | .dict summary => (getOr summary "pass" .none).truthy
  | _ => false

def exitCode (strict : Bool) (printed : List (Key × Value)) : Nat :=
  if strict && !passed printed then 1 else 0

/-! The report without temporary files. -/

namespace ScanReport

def withoutTemp (report : ScanReport) : ScanReport :=
  { sourceText := report.sourceText.filter (fun finding => !isTempFile finding.file)
    ast := report.ast.filter (fun finding => !isTempFile finding.file)
    resolvedConstants := report.resolvedConstants.filter (fun finding => !isTempFile finding.file)
    importGraph := report.importGraph.filter (fun finding => !isTempFile finding.file)
    workingTree := report.workingTree.filter (fun finding => !isTempFile finding.file)
    staged := report.staged.filter (fun finding => !isTempFile finding.file)
    history := report.history.filter (fun finding => !isTempFile finding.file)
    tracked := report.tracked }

def secretFindings (report : ScanReport) : List SecretFinding :=
  report.workingTree ++ report.staged ++ report.history

/-- An active finding or a secret. -/
def HasFinding (report : ScanReport) : Prop :=
  report.activeSourceViolations ≠ [] ∨ report.secretFindings ≠ []

/-- No finding lies in a temporary file. -/
def NoTemp (report : ScanReport) : Prop :=
  (∀ finding ∈ report.sourceFindings, isTempFile finding.file = false) ∧
    ∀ finding ∈ report.secretFindings, isTempFile finding.file = false

theorem pass_iff {report : ScanReport} :
    report.pass = true ↔ ¬report.HasFinding ∧ report.tracked = [] := by
  simp [pass, HasFinding, secretFindings, and_assoc]

theorem withoutTemp_of_noTemp {report : ScanReport} (none : report.NoTemp) :
    report.withoutTemp = report := by
  obtain ⟨source, secrets⟩ := none
  simp only [sourceFindings, secretFindings, List.mem_append] at source secrets
  have kept : ∀ {α : Type} (file : α → String) (findings : List α),
      (∀ finding ∈ findings, isTempFile (file finding) = false) →
      findings.filter (fun finding => !isTempFile (file finding)) = findings := by
    intro α file findings clean
    exact List.filter_eq_self.mpr (fun finding member => by simp [clean finding member])
  simp only [withoutTemp]
  congr 1
  all_goals exact kept _ _ (by grind)

end ScanReport

/-! What the filter keeps. -/

/-- A list of findings, filtered item by item. -/
private theorem filterItems_map
    {α : Type} {toValue shown : α → Value} {dropped : α → Bool}
    (each : ∀ item, filterNode (toValue item) = if dropped item then .none else shown item)
    (present : ∀ item, shown item ≠ .none) (items : List α) :
    filterItems (items.map toValue) =
      (items.filter (fun item => !dropped item)).map shown := by
  induction items with
  | nil => rfl
  | cons item items induction =>
      simp only [List.map_cons, filterItems, each item]
      cases drop : dropped item with
      | true => simpa [drop] using induction
      | false =>
          have kept := present item
          simp only [Bool.false_eq_true, if_false, induction, List.filter_cons, drop, Bool.not_false,
            if_true, List.map_cons]

/-- A value under one of the three keys that makes a finding temporary. -/
def isTempText : Option Value → Bool
  | some (.str text) => isTempFile text
  | _ => false

@[simp] theorem isTempText_none : isTempText none = false := rfl

@[simp] theorem isTempText_str (text : String) : isTempText (some (.str text)) = isTempFile text :=
  rfl

theorem isTempFinding_named (fields : List (String × Value)) :
    isTempFinding (named fields) =
      ["file", "path", "source"].any (fun name => isTempText (OrderedDict.get? fields name)) := by
  have each : ∀ name, (match getOr (named fields) name .none with
      | .str text => isTempFile text
      | _ => false) = isTempText (OrderedDict.get? fields name) := by
    intro name
    rw [getOr_named]
    cases OrderedDict.get? fields name with
    | none => rfl
    | some value => cases value <;> rfl
  simp only [isTempFinding, each]

/-- A field that the filter keeps. -/
def keepField (field : String × Value) : Option (String × Value) :=
  match filterNode field.2 with
  | .none => none
  | kept => some (field.1, kept)

theorem filterEntries_named (fields : List (String × Value)) :
    filterEntries (named fields) = named (fields.filterMap keepField) := by
  induction fields with
  | nil => rfl
  | cons field fields induction =>
      obtain ⟨name, value⟩ := field
      simp only [named_cons, filterEntries, List.filterMap_cons, keepField, induction]
      split <;> rfl

theorem filterNode_named (fields : List (String × Value)) :
    filterNode (.dict (named fields)) =
      if isTempFinding (named fields) then .none
      else .dict (named (fields.filterMap keepField)) := by
  rw [filterNode, filterEntries_named]

@[simp] theorem keepField_str (name text : String) :
    keepField (name, .str text) = some (name, .str text) := rfl

@[simp] theorem keepField_int (name : String) (value : Int) :
    keepField (name, .int value) = some (name, .int value) := rfl

@[simp] theorem keepField_bool (name : String) (value : Bool) :
    keepField (name, .bool value) = some (name, .bool value) := rfl

@[simp] theorem keepField_none (name : String) : keepField (name, .none) = none := rfl

@[simp] theorem keepField_list (name : String) (items : List Value) :
    keepField (name, .list items) = some (name, .list (filterItems items)) := rfl

theorem keepField_dict
    (name : String) {entries : List (Key × Value)} (kept : isTempFinding entries = false) :
    keepField (name, .dict entries) = some (name, .dict (filterEntries entries)) := by
  simp [keepField, filterNode, kept]

/-- A dictionary with the fields of a finding is dropped by its file. -/
theorem filterNode_finding
    {fields : List (String × Value)} {file : String}
    (shown : OrderedDict.get? fields "file" = some (.str file))
    (path : OrderedDict.get? fields "path" = none)
    (source : OrderedDict.get? fields "source" = none) :
    filterNode (.dict (named fields)) =
      if isTempFile file then .none else .dict (named (fields.filterMap keepField)) := by
  simp [filterNode_named, isTempFinding_named, shown, path, source]

theorem filterNode_source (finding : ScanFinding) :
    filterNode finding.toValue = if isTempFile finding.file then .none else finding.toValue :=
  filterNode_finding rfl rfl rfl

/-- A secret without the commit that it does not have. -/
def shownSecret (finding : SecretFinding) : Value :=
  .dict (named
    ([("scope", .str finding.scope), ("file", .str finding.file), ("line", .int finding.line),
      ("secret_type", .str finding.secretType),
      ("redacted_fingerprint", .str finding.redactedFingerprint)] ++
      finding.commit.toList.map (fun commit => ("commit", .str commit))))

theorem filterNode_secret (finding : SecretFinding) :
    filterNode finding.toValue =
      if isTempFile finding.file then .none else shownSecret finding := by
  have dropped : filterNode finding.toValue =
      if isTempFile finding.file then .none else _ := filterNode_finding rfl rfl rfl
  rw [dropped, shownSecret]
  cases finding.commit <;> rfl

def shownSource (findings : List ScanFinding) : Value :=
  .list (findings.map ScanFinding.toValue)

def shownSecrets (findings : List SecretFinding) : Value :=
  .list (findings.map shownSecret)

/-- The report after the filter. -/
def filteredDict (report : ScanReport) : List (String × Value) :=
  let kept := report.withoutTemp
  [("version", .str "1.2.15"), ("phase", .str "P2.4"),
    ("summary", .dict (named report.summary)),
    ("source_text", shownSource kept.sourceText),
    ("ast", shownSource kept.ast),
    ("resolved_constants", shownSource kept.resolvedConstants),
    ("import_graph", shownSource kept.importGraph),
    ("secrets", .dict (named
      [("working_tree", shownSecrets kept.workingTree), ("staged", shownSecrets kept.staged),
        ("history", shownSecrets kept.history)])),
    ("runtime_state_tracking",
      .dict (named [("tracked_forbidden_paths", textList report.tracked)]))]

private theorem filterItems_texts (texts : List String) :
    filterItems (texts.map .str) = texts.map .str := by
  induction texts with
  | nil => rfl
  | cons text texts induction => simp [filterItems, filterNode, induction]

theorem filterNode_report (report : ScanReport) :
    filterNode (.dict (named report.toDict)) = .dict (named (filteredDict report)) := by
  have source : ∀ findings : List ScanFinding,
      filterItems (findings.map ScanFinding.toValue) =
        (findings.filter (fun finding => !isTempFile finding.file)).map ScanFinding.toValue :=
    filterItems_map filterNode_source (by simp [ScanFinding.toValue])
  have secrets : ∀ findings : List SecretFinding,
      filterItems (findings.map SecretFinding.toValue) =
        (findings.filter (fun finding => !isTempFile finding.file)).map shownSecret :=
    filterItems_map filterNode_secret (by simp [shownSecret])
  have plain : ∀ fields : List (String × Value), OrderedDict.get? fields "file" = none →
      OrderedDict.get? fields "path" = none → OrderedDict.get? fields "source" = none →
      isTempFinding (named fields) = false := by
    intro fields file path source
    simp [isTempFinding_named, file, path, source]
  have kept : ∀ name (fields : List (String × Value)), isTempFinding (named fields) = false →
      keepField (name, .dict (named fields)) =
        some (name, .dict (named (fields.filterMap keepField))) := by
    intro name fields clean
    rw [keepField_dict name clean, filterEntries_named]
  have summary : report.summary.filterMap keepField = report.summary := rfl
  have hidden : report.secrets.filterMap keepField =
      [("working_tree", shownSecrets report.withoutTemp.workingTree),
        ("staged", shownSecrets report.withoutTemp.staged),
        ("history", shownSecrets report.withoutTemp.history)] := by
    simp only [ScanReport.secrets, List.filterMap_cons, List.filterMap_nil, keepField_list, secrets,
      shownSecrets, ScanReport.withoutTemp]
  have tracked : isTempFinding (named
      [("tracked_forbidden_paths", Value.list (report.tracked.map .str))]) = false :=
    plain _ rfl rfl rfl
  rw [filterNode_named, plain report.toDict rfl rfl rfl, if_neg (by simp)]
  simp only [ScanReport.toDict, List.filterMap_cons, List.filterMap_nil, keepField_str,
    keepField_list, kept "summary" _ (plain report.summary rfl rfl rfl), summary,
    kept "secrets" _ (plain report.secrets rfl rfl rfl), hidden,
    kept "runtime_state_tracking" _ tracked, source, textList, filterItems_texts,
    filteredDict, shownSource, ScanReport.withoutTemp]

/-! What the count finds. -/

private theorem countItems_eq_zero_iff
    {α : Type} {toValue : α → Value} {items : List α} :
    countItems (items.map toValue) = 0 ↔ ∀ item ∈ items, countFindings (toValue item) = 0 := by
  induction items with
  | nil => simp [countItems]
  | cons item items induction => simp [countItems, induction]

theorem countEntries_eq_zero_iff {fields : List (String × Value)} :
    countEntries (named fields) = 0 ↔ ∀ field ∈ fields, countFindings field.2 = 0 := by
  induction fields with
  | nil => simp [countEntries]
  | cons field fields induction =>
      obtain ⟨name, value⟩ := field
      rw [named_cons, countEntries, Nat.add_eq_zero_iff, induction, List.forall_mem_cons]

/-- A dictionary is counted for its class, its type of secret and its values. -/
theorem countFindings_eq_zero_iff
    {fields : List (String × Value)} {classification secretType : Option Value}
    (classified : OrderedDict.get? fields "classification" = classification)
    (typed : OrderedDict.get? fields "secret_type" = secretType) :
    countFindings (.dict (named fields)) = 0 ↔
      classification ≠ some (.str "ACTIVE_SOURCE") ∧
      (secretType.getD .none).truthy = false ∧
      ∀ field ∈ fields, countFindings field.2 = 0 := by
  have active : isActiveEntry (named fields) = false ↔
      classification ≠ some (.str "ACTIVE_SOURCE") := by
    rw [isActiveEntry, getOr_named, classified, ← Bool.not_eq_true, equals_str_iff]
    cases classification <;> simp
  rw [countFindings, getOr_named, typed, ← active, ← countEntries_eq_zero_iff]
  cases isActiveEntry (named fields) <;> cases (secretType.getD .none).truthy <;> simp

theorem countFindings_source {finding : ScanFinding} :
    countFindings finding.toValue = 0 ↔ finding.isActive = false := by
  have classified : finding.classification.text = "ACTIVE_SOURCE" ↔ finding.isActive = true := by
    rw [ScanFinding.isActive]
    cases finding.classification <;> decide
  rw [ScanFinding.toValue,
    @countFindings_eq_zero_iff _ (some (.str finding.classification.text)) none rfl rfl]
  simp [countFindings, classified, Value.truthy]

theorem countFindings_secret {finding : SecretFinding} :
    countFindings (shownSecret finding) = 0 ↔ finding.secretType = "" := by
  obtain ⟨scope, file, line, secretType, fingerprint, commit⟩ := finding
  cases commit <;>
    · rw [shownSecret, @countFindings_eq_zero_iff _ none (some (.str secretType)) rfl rfl]
      simp [countFindings, Value.truthy]

theorem countFindings_shownSource {findings : List ScanFinding} :
    countFindings (shownSource findings) = 0 ↔ findings.filter ScanFinding.isActive = [] := by
  simp [shownSource, countFindings, countItems_eq_zero_iff, countFindings_source,
    List.filter_eq_nil_iff]

theorem countFindings_shownSecrets
    {findings : List SecretFinding} (typed : ∀ finding ∈ findings, finding.secretType ≠ "") :
    countFindings (shownSecrets findings) = 0 ↔ findings = [] := by
  simp only [shownSecrets, countFindings, countItems_eq_zero_iff, countFindings_secret]
  constructor
  · intro blank
    exact List.eq_nil_iff_forall_not_mem.mpr (fun finding member =>
      typed finding member (blank finding member))
  · rintro rfl
    simp

private theorem countItems_texts (texts : List String) : countItems (texts.map .str) = 0 :=
  countItems_eq_zero_iff.mpr (fun _ _ => rfl)

/-- The count of the filtered report is zero if no finding remains; it does not
look at tracked paths. -/
theorem countFindings_report
    {report : ScanReport} (typed : ∀ finding ∈ report.secretFindings, finding.secretType ≠ "") :
    countFindings (.dict (named (filteredDict report))) = 0 ↔ ¬report.withoutTemp.HasFinding := by
  have kept : ∀ finding ∈ report.withoutTemp.secretFindings, finding.secretType ≠ "" := by
    intro finding member
    refine typed finding ?_
    simp only [ScanReport.withoutTemp, ScanReport.secretFindings, List.mem_append,
      List.mem_filter] at member ⊢
    exact member.imp (Or.imp And.left And.left) And.left
  simp only [ScanReport.secretFindings, List.mem_append] at kept
  have summary : countFindings (.dict (named report.summary)) = 0 := by
    rw [@countFindings_eq_zero_iff _ none none rfl rfl]
    simp [ScanReport.summary, countFindings, Value.truthy]
  have tracked : countFindings (.dict (named
      [("tracked_forbidden_paths", textList report.tracked)])) = 0 := by
    rw [@countFindings_eq_zero_iff _ none none rfl rfl]
    simp [countFindings, Value.truthy, textList, countItems_texts]
  have secrets : countFindings (.dict (named
      [("working_tree", shownSecrets report.withoutTemp.workingTree),
        ("staged", shownSecrets report.withoutTemp.staged),
        ("history", shownSecrets report.withoutTemp.history)])) = 0 ↔
      report.withoutTemp.secretFindings = [] := by
    rw [@countFindings_eq_zero_iff _ none none rfl rfl]
    simp [Value.truthy, countFindings_shownSecrets (fun finding member =>
        kept finding (.inl (.inl member))),
      countFindings_shownSecrets (fun finding member => kept finding (.inl (.inr member))),
      countFindings_shownSecrets (fun finding member => kept finding (.inr member)),
      ScanReport.secretFindings]
  have plain : ∀ text, countFindings (.str text) = 0 := fun _ => rfl
  rw [filteredDict, @countFindings_eq_zero_iff _ none none rfl rfl]
  simp [Value.truthy, plain, summary, tracked, secrets, countFindings_shownSource,
    ScanReport.HasFinding, ScanReport.activeSourceViolations, ScanReport.sourceFindings, and_assoc,
    -named_cons]

/-! Every secret has a type. -/

section Secrets

variable {search : String → List Char → Option (List Char)} {root : Path} {project : Project}

theorem lineSecrets_typed
    {scope file : String} {line : Nat} {commit : Option String} {content : List Char}
    {finding : SecretFinding}
    (member : finding ∈ lineSecrets search scope file line commit content) :
    finding.secretType ≠ "" := by
  obtain ⟨pattern, inside, found⟩ := List.mem_filterMap.mp member
  obtain ⟨text, -, rfl⟩ := Option.map_eq_some_iff.mp found
  exact (by decide : ∀ pattern ∈ secretPatterns, pattern.1 ≠ "") pattern inside

theorem scanPathsForSecrets_typed
    {files : Folder SourceFile} {scope : String} {finding : SecretFinding}
    (member : finding ∈ scanPathsForSecrets search root files scope) :
    finding.secretType ≠ "" := by
  obtain ⟨entry, -, inside⟩ := List.mem_flatMap.mp member
  unfold fileSecrets at inside
  split at inside
  next => cases inside
  next =>
    obtain ⟨line, -, here⟩ := List.mem_flatMap.mp inside
    exact lineSecrets_typed here

theorem readHistory_typed
    {state : HistoryPlace × List SecretFinding} {line : List Char}
    (typed : ∀ finding ∈ state.2, finding.secretType ≠ "") :
    ∀ finding ∈ (readHistory search root state line).2, finding.secretType ≠ "" := by
  simp only [readHistory]
  split
  · exact typed
  split
  · exact typed
  split
  · exact typed
  split
  · split
    · exact typed
    · intro finding member
      exact (List.mem_append.mp member).elim (typed finding) lineSecrets_typed
  · exact typed

theorem scanGitHistory_typed
    {finding : SecretFinding} (member : finding ∈ scanGitHistory search root project) :
    finding.secretType ≠ "" := by
  have general : ∀ (lines : List (List Char)) (state : HistoryPlace × List SecretFinding),
      (∀ finding ∈ state.2, finding.secretType ≠ "") →
      ∀ finding ∈ (lines.foldl (readHistory search root) state).2, finding.secretType ≠ "" := by
    intro lines
    induction lines with
    | nil => exact fun _ typed => typed
    | cons line lines induction =>
        exact fun state typed => induction _ (readHistory_typed typed)
  exact general project.history _ (by simp) finding member

theorem performSecurityScan_typed
    {includeHistory : Bool} {report : ScanReport}
    (scanned : performSecurityScan search root project includeHistory = .ok report) :
    (∀ finding ∈ report.secretFindings, finding.secretType ≠ "") ∧
      report.tracked = trackedRuntimeStateViolations project := by
  simp only [performSecurityScan, except_bind_eq_ok] at scanned
  obtain ⟨ast, -, constants, -, graph, -, built⟩ := scanned
  cases built
  refine ⟨?_, rfl⟩
  intro finding member
  simp only [ScanReport.secretFindings, List.mem_append] at member
  rcases member with (working | staged) | history
  · exact scanPathsForSecrets_typed working
  · exact scanPathsForSecrets_typed staged
  · split at history
    · exact scanGitHistory_typed history
    · cases history

end Secrets

/-! The verdict. -/

/-- The command prints a report whose verdict is that nothing is counted. -/
theorem securityScanCommand_returns (report : ScanReport) :
    ∃ printed, securityScanCommand (named report.toDict) = .ok printed ∧
      passed printed = decide (countFindings (.dict (named (filteredDict report))) = 0) := by
  have summary : getOr (named (filteredDict report)) "summary" .none =
      .dict (named report.summary) := rfl
  have source : getOr (named (filteredDict report)) "source_text" (.list []) =
      shownSource report.withoutTemp.sourceText := rfl
  obtain ⟨active, counted⟩ : ∃ active,
      countDicts (shownSource report.withoutTemp.sourceText) isActiveEntry = .ok active :=
    ⟨_, rfl⟩
  obtain ⟨verdict, decided⟩ : ∃ verdict,
      decide (countFindings (.dict (named (filteredDict report))) = 0) = verdict := ⟨_, rfl⟩
  have quiet : countSecrets (named (filteredDict report))
      (setEntry (named report.summary) (.str "active_source_violations") (.int active)) =
      .ok (setEntry (named report.summary) (.str "active_source_violations") (.int active)) := rfl
  refine ⟨setEntry (named (filteredDict report)) (.str "summary") (.dict (setEntry
    (setEntry (named report.summary) (.str "active_source_violations") (.int active))
    (.str "pass") (.bool verdict))), ?_, ?_⟩
  · simp only [securityScanCommand, filterNode_report, summary, source, counted, decided,
      bind, Except.bind, quiet]
  · rw [decided]
    rfl

/-- If the scan returns, the command's verdict is the one of the report without
temporary files exactly if no runtime state is tracked or a finding remains; and
then it is the scanner's own verdict, if no finding is in a temporary file. -/
theorem verdict_agrees_iff
    (search : String → List Char → Option (List Char)) (root : Path) (project : Project)
    (includeHistory : Bool) :
    (∃ failure, performSecurityScan search root project includeHistory = .error failure) ∨
    ∃ report printed, performSecurityScan search root project includeHistory = .ok report ∧
      securityScanCommand (named report.toDict) = .ok printed ∧
      ((passed printed = report.withoutTemp.pass) ↔
        trackedRuntimeStateViolations project = [] ∨ report.withoutTemp.HasFinding) ∧
      (report.NoTemp → ((passed printed = report.pass) ↔
        trackedRuntimeStateViolations project = [] ∨ report.withoutTemp.HasFinding)) := by
  cases scanned : performSecurityScan search root project includeHistory with
  | error failure => exact .inl ⟨failure, rfl⟩
  | ok report =>
  obtain ⟨typed, tracked⟩ := performSecurityScan_typed scanned
  obtain ⟨printed, ran, verdict⟩ := securityScanCommand_returns report
  have agrees : passed printed = report.withoutTemp.pass ↔
      trackedRuntimeStateViolations project = [] ∨ report.withoutTemp.HasFinding := by
    have passes : passed printed = true ↔ ¬report.withoutTemp.HasFinding := by
      rw [verdict, decide_eq_true_iff, countFindings_report typed]
    have kept : report.withoutTemp.tracked = trackedRuntimeStateViolations project := tracked
    rw [Bool.eq_iff_iff, passes, ScanReport.pass_iff, kept]
    by_cases remains : report.withoutTemp.HasFinding <;> simp [remains]
  refine .inr ⟨report, printed, rfl, ran, agrees, fun none => ?_⟩
  rwa [ScanReport.withoutTemp_of_noTemp none] at agrees ⊢

/-- A project without files whose environment file is tracked. -/
def trackedProject : Project :=
  { files := []
    named := by simp
    listed := ["state/.env"]
    staged := []
    history := [] }

/-- The command passes `trackedProject`, and the scanner does not. -/
theorem tracked_state_passes :
    ∃ report printed, performSecurityScan (fun _ _ => none) ["project"] trackedProject false =
        .ok report ∧
      report.NoTemp ∧ securityScanCommand (named report.toDict) = .ok printed ∧
      passed printed = true ∧ report.withoutTemp.pass = false ∧ report.pass = false := by
  have tracked : trackedRuntimeStateViolations trackedProject = ["state\\.env"] := by
    decide +kernel
  obtain ⟨report, scanned, shape⟩ : ∃ report,
      performSecurityScan (fun _ _ => none) ["project"] trackedProject false = .ok report ∧
      report = ⟨[], [], [], [], [], [], [], trackedRuntimeStateViolations trackedProject⟩ :=
    ⟨_, rfl, rfl⟩
  rw [tracked] at shape
  obtain ⟨printed, ran, verdict⟩ := securityScanCommand_returns report
  refine ⟨report, printed, scanned, by simp [shape, ScanReport.NoTemp, ScanReport.sourceFindings,
    ScanReport.secretFindings], ran, ?_, by rw [shape]; rfl, by rw [shape]; rfl⟩
  rw [verdict, decide_eq_true_iff, countFindings_report (by simp [shape, ScanReport.secretFindings])]
  simp [shape, ScanReport.HasFinding, ScanReport.withoutTemp, ScanReport.activeSourceViolations,
    ScanReport.sourceFindings, ScanReport.secretFindings]

end SuperAdvisor.Scanning
