import SuperAdvisor.Settings.Environment

/-!
# Loading what the audit tolerates

The loader runs the parsers of the audit once more, but lets their exceptions
pass.  So a load that is not strict returns exactly if the parser of each
variable accepts its value, whatever else the audit has to say.
-/

namespace SuperAdvisor.Settings

open Python

/-! The results of a loop over named items make a dictionary. -/

section Named

variable {α β ν : Type} {related : α → β → Prop} {left : List α} {right : List β}
  {leftName : α → String} {rightName : β → String}

private theorem names_of_matched (matched : List.Forall₂ related left right)
    (named : ∀ first second, related first second → rightName second = leftName first) :
    right.map rightName = left.map leftName := by
  induction matched with
  | nil => rfl
  | cons here _ induction =>
      rw [List.map_cons, List.map_cons, named _ _ here, induction]

/-- Each item has its own result under its name. -/
theorem exists_get?_of_matched (matched : List.Forall₂ related left right)
    (distinct : (left.map leftName).Nodup) (value : β → ν)
    (named : ∀ first second, related first second → rightName second = leftName first)
    {item : α} (member : item ∈ left) :
    ∃ result, related item result ∧
      OrderedDict.get? (OrderedDict.ofPairs
        (right.map fun result => (rightName result, value result))) (leftName item) =
          some (value result) := by
  obtain ⟨result, inside, here⟩ := exists_of_mem_left matched member
  refine ⟨result, here, ?_⟩
  have keys : OrderedDict.keys (right.map fun result => (rightName result, value result)) =
      left.map leftName := by
    rw [OrderedDict.keys, List.map_map]
    exact names_of_matched matched named
  rw [OrderedDict.ofPairs_of_nodup (by rw [keys]; exact distinct)]
  apply OrderedDict.get?_eq_some_of_mem (by rw [keys]; exact distinct)
  exact List.mem_map.mpr ⟨result, inside, by rw [named _ _ here]⟩

end Named

/-- No variable is specified twice. -/
theorem specNames_nodup (paths : ProjectPaths) :
    ((buildEnvSpecs paths).map EnvVarSpec.name).Nodup := by
  have same : (buildEnvSpecs paths).map EnvVarSpec.name =
      (buildEnvSpecs ⟨"", "", "", "", ""⟩).map EnvVarSpec.name := rfl
  rw [same]
  decide +kernel

section Following

variable (builtins : Builtins) (paths : ProjectPaths) (disk : Disk) (envPath : Option String)

/-- A load that is not strict returns the values of the report, parsed where
they are present; a strict one refuses a report with issues. -/
structure FollowsAudit (report : EnvAuditReport) : Prop where
  lenient : ∃ settings, loadSettings builtins paths disk envPath false = .ok settings ∧
    settings.rawValues = report.values ∧
      ∀ spec ∈ buildEnvSpecs paths,
        OrderedDict.get? report.statuses spec.name = some .present →
          ∃ raw parsed, OrderedDict.get? report.values spec.name = some raw ∧
            spec.parser.parse builtins raw = .ok parsed ∧
              OrderedDict.get? settings.parsedValues spec.name = some parsed
  strict : (∃ message, loadSettings builtins paths disk envPath true =
    .error (.settingsValidation message)) ↔ report.issues ≠ []

/-- The parser of each variable accepts what the file gives it. -/
def Parses (values : EnvValues) : Prop :=
  ∀ spec ∈ buildEnvSpecs paths, ∀ raw, OrderedDict.get? values spec.name = some raw →
    raw ≠ "" → ∃ parsed, spec.parser.parse builtins raw = .ok parsed

def FileParses : Prop :=
  ∀ selected values, readEnvironment builtins paths disk envPath = .ok (selected, values) →
    Parses builtins paths values

end Following

section Loads

variable {builtins : Builtins} {paths : ProjectPaths} {disk : Disk} {envPath : Option String}
  {values : EnvValues} {spec : EnvVarSpec} {report : EnvAuditReport}

theorem auditVariable_name {audit : AuditedVariable}
    (audited : auditVariable builtins paths values spec = .ok audit) :
    audit.name = spec.name := by
  unfold auditVariable at audited
  split at audited
  · cases audited
    rfl
  split at audited
  · cases audited
    rfl
  split at audited <;> cases audited <;> rfl

/-- Only a value that its parser accepts is present. -/
theorem parsed_of_present {audit : AuditedVariable}
    (audited : auditVariable builtins paths values spec = .ok audit)
    (present : audit.status = .present) :
    ∃ raw parsed, OrderedDict.get? values spec.name = some raw ∧ raw ≠ "" ∧
      spec.parser.parse builtins raw = .ok parsed := by
  unfold auditVariable at audited
  split at audited
  · cases audited
    cases present
  next raw found =>
    split at audited
    · cases audited
      cases present
    next nonblank =>
      split at audited
      next checked =>
        obtain ⟨parsed, accepted, -⟩ := except_bind_eq_ok.mp checked
        exact ⟨raw, parsed, found, nonblank, accepted⟩
      · cases audited
        cases present
      · cases audited

/-- The audit of a file is that of its variables. -/
theorem auditEnvironment_eq_ok_iff :
    auditEnvironment builtins paths disk envPath = .ok report ↔
      ∃ selected values, readEnvironment builtins paths disk envPath = .ok (selected, values) ∧
        auditValues builtins paths selected values = .ok report := by
  unfold auditEnvironment
  rw [except_bind_eq_ok]
  constructor
  · rintro ⟨⟨selected, values⟩, read, audited⟩
    exact ⟨selected, values, read, except_mapError_eq_ok.mp audited⟩
  · rintro ⟨selected, values, read, audited⟩
    exact ⟨(selected, values), read, except_mapError_eq_ok.mpr audited⟩

theorem values_of_audit {selected : ResolvedPath}
    (audited : auditValues builtins paths selected values = .ok report) :
    report.values = values := by
  unfold auditValues at audited
  obtain ⟨audits, -, built⟩ := except_bind_eq_ok.mp audited
  cases built
  rfl

/-- A status of the report was given by the audit of the variable. -/
theorem parsed_of_status {selected : ResolvedPath}
    (audited : auditValues builtins paths selected values = .ok report)
    (member : spec ∈ buildEnvSpecs paths)
    (present : OrderedDict.get? report.statuses spec.name = some .present) :
    ∃ raw parsed, OrderedDict.get? values spec.name = some raw ∧ raw ≠ "" ∧
      spec.parser.parse builtins raw = .ok parsed := by
  unfold auditValues at audited
  obtain ⟨audits, each, built⟩ := except_bind_eq_ok.mp audited
  cases built
  obtain ⟨audit, here, found⟩ := exists_get?_of_matched (mapM_eq_ok_iff.mp each)
    (specNames_nodup paths) AuditedVariable.status (fun _ _ => auditVariable_name) member
  rw [found] at present
  exact parsed_of_present here (Option.some.inj present)

theorem loadVariable_name {parsed : String × Setting}
    (loaded : loadVariable builtins values spec = .ok parsed) : parsed.1 = spec.name := by
  unfold loadVariable at loaded
  simp only at loaded
  split at loaded
  · cases loaded
    rfl
  · obtain ⟨setting, -, rfl⟩ := except_map_eq_ok.mp loaded
    rfl

/-- A variable loads exactly if it is blank, missing or accepted. -/
theorem loadVariable_iff :
    (∃ parsed, loadVariable builtins values spec = .ok parsed) ↔
      ∀ raw, OrderedDict.get? values spec.name = some raw → raw ≠ "" →
        ∃ parsed, spec.parser.parse builtins raw = .ok parsed := by
  unfold loadVariable valueOf
  cases found : OrderedDict.get? values spec.name with
  | none => exact iff_of_true ⟨_, rfl⟩ (fun _ impossible => nomatch impossible)
  | some raw =>
      simp only [Option.getD_some, Option.some.injEq, forall_eq']
      by_cases blank : raw = ""
      · exact iff_of_true ⟨_, if_pos blank⟩ (fun nonblank => absurd blank nonblank)
      · rw [if_neg blank]
        constructor
        · rintro ⟨_, loaded⟩ -
          obtain ⟨parsed, accepted, -⟩ := except_map_eq_ok.mp loaded
          exact ⟨parsed, accepted⟩
        · intro accepts
          obtain ⟨parsed, accepted⟩ := accepts blank
          exact ⟨_, except_map_eq_ok.mpr ⟨parsed, accepted, rfl⟩⟩

theorem exists_settingsOf_iff :
    (∃ settings, settingsOf builtins paths report = .ok settings) ↔
      Parses builtins paths report.values := by
  unfold settingsOf
  rw [exists_bind_ok_iff, exists_mapM_iff]
  constructor
  · intro loads spec member
    exact loadVariable_iff.mp (loads spec member)
  · intro parses spec member
    exact loadVariable_iff.mpr (parses spec member)

theorem rawValues_of_settings {settings : AppSettings}
    (loaded : settingsOf builtins paths report = .ok settings) :
    settings.rawValues = report.values := by
  unfold settingsOf at loaded
  obtain ⟨parsed, -, built⟩ := except_bind_eq_ok.mp loaded
  cases built
  rfl

/-- The settings hold what the parser makes of a value. -/
theorem parsedValue_of_settings {settings : AppSettings} {raw : String} {parsed : Setting}
    (loaded : settingsOf builtins paths report = .ok settings)
    (member : spec ∈ buildEnvSpecs paths)
    (found : OrderedDict.get? report.values spec.name = some raw) (nonblank : raw ≠ "")
    (accepted : spec.parser.parse builtins raw = .ok parsed) :
    OrderedDict.get? settings.parsedValues spec.name = some parsed := by
  unfold settingsOf at loaded
  obtain ⟨settled, each, built⟩ := except_bind_eq_ok.mp loaded
  cases built
  obtain ⟨result, here, stored⟩ := exists_get?_of_matched (mapM_eq_ok_iff.mp each)
    (specNames_nodup paths) Prod.snd (fun _ _ => loadVariable_name) member
  have value : loadVariable builtins report.values spec = .ok (spec.name, parsed) := by
    simp only [loadVariable, valueOf, found, Option.getD_some, if_neg nonblank, accepted,
      Except.map]
  rw [value] at here
  cases here
  simpa using stored

theorem loadSettings_lenient
    (audited : auditEnvironment builtins paths disk envPath = .ok report) :
    loadSettings builtins paths disk envPath false =
      (settingsOf builtins paths report).mapError .raised := by
  simp [loadSettings, audited, bind, Except.bind]

/-- A load that is not strict returns exactly if the parsers accept the file. -/
theorem exists_load_iff
    (audited : auditEnvironment builtins paths disk envPath = .ok report) :
    (∃ settings, loadSettings builtins paths disk envPath false = .ok settings) ↔
      FileParses builtins paths disk envPath := by
  obtain ⟨selected, values, read, fromValues⟩ := auditEnvironment_eq_ok_iff.mp audited
  simp only [loadSettings_lenient audited, except_mapError_eq_ok, exists_settingsOf_iff,
    values_of_audit fromValues]
  constructor
  · intro parses otherSelected otherValues readAgain
    rw [read] at readAgain
    cases readAgain
    exact parses
  · intro parses
    exact parses selected values read

/-- A strict load refuses a report exactly if it has issues. -/
theorem strict_load_iff
    (audited : auditEnvironment builtins paths disk envPath = .ok report)
    {settings : AppSettings} (loaded : settingsOf builtins paths report = .ok settings) :
    (∃ message, loadSettings builtins paths disk envPath true =
      .error (.settingsValidation message)) ↔ report.issues ≠ [] := by
  by_cases clean : report.issues = []
  · simp [loadSettings, audited, clean, loaded, bind, Except.bind, Except.mapError]
  · simp [loadSettings, audited, clean, bind, Except.bind]

end Loads

/-- A load follows its audit exactly if the parser of each variable accepts
its value. -/
theorem settings_follow_audit_iff {builtins : Builtins} {paths : ProjectPaths} {disk : Disk}
    {envPath : Option String} {report : EnvAuditReport}
    (audited : auditEnvironment builtins paths disk envPath = .ok report) :
    FollowsAudit builtins paths disk envPath report ↔
      FileParses builtins paths disk envPath := by
  rw [← exists_load_iff audited]
  constructor
  · intro follows
    obtain ⟨settings, loaded, -⟩ := follows.lenient
    exact ⟨settings, loaded⟩
  · rintro ⟨settings, lenientLoad⟩
    have loaded := lenientLoad
    rw [loadSettings_lenient audited, except_mapError_eq_ok] at loaded
    obtain ⟨selected, values, -, fromValues⟩ := auditEnvironment_eq_ok_iff.mp audited
    have sameValues := values_of_audit fromValues
    refine ⟨⟨settings, lenientLoad, rawValues_of_settings loaded, ?_⟩,
      strict_load_iff audited loaded⟩
    intro spec member present
    obtain ⟨raw, parsed, found, nonblank, accepted⟩ := parsed_of_status fromValues member present
    rw [← sameValues] at found
    exact ⟨raw, parsed, found, accepted,
      parsedValue_of_settings loaded member found nonblank accepted⟩

/-- The standard library on ASCII texts without escapes. -/
def asciiBuiltins : Builtins where
  lower := asciiLower
  shown := fun text => "'" ++ text ++ "'"
  int := fun text =>
    if text.toList ≠ [] ∧ text.toList.all Char.isDigit then
      .ok (text.toList.foldl (fun value digit => 10 * value + (digit.toNat - 48 : Nat)) 0)
    else .error ("invalid literal for int() with base 10: '" ++ text ++ "'")
  urlparse := fun text =>
    if "http://".toList <+: text.toList then
      .ok ("http", String.ofList ((text.toList.drop 7).takeWhile (· ≠ '/')))
    else .ok ("", "")
  resolve := fun text =>
    .ok (((text.toList.splitOn '/').filter (· ≠ [])).map String.ofList)

def advisorPaths : ProjectPaths where
  rootDir := "/advisor"
  stateDir := "/advisor/state"
  workspaceDir := "/advisor/workspace"
  runtimeEnvPath := "/advisor/state/.env"
  runtimeConfigPath := "/advisor/state/openclaw.json"

/-- A disk with one environment file. -/
def diskOf (text : String) : Disk where
  isThere := fun path => path == ["advisor", "state", ".env"]
  envFiles := ["/advisor/state/.env"]
  readText := fun _ => .ok text

private theorem exists_audit {disk : Disk}
    (returns : (auditEnvironment asciiBuiltins advisorPaths disk none).toBool = true) :
    ∃ report, auditEnvironment asciiBuiltins advisorPaths disk none = .ok report := by
  cases audited : auditEnvironment asciiBuiltins advisorPaths disk none with
  | error problem => simp [audited, Except.toBool] at returns
  | ok report => exact ⟨report, rfl⟩

theorem goodTimeout_follows :
    ∃ report, auditEnvironment asciiBuiltins advisorPaths
        (diskOf "OPENAI_TIMEOUT_SECONDS=30") none = .ok report ∧
      FollowsAudit asciiBuiltins advisorPaths (diskOf "OPENAI_TIMEOUT_SECONDS=30") none
        report := by
  obtain ⟨report, audited⟩ := @exists_audit (diskOf "OPENAI_TIMEOUT_SECONDS=30")
    (by decide +kernel)
  refine ⟨report, audited, (settings_follow_audit_iff audited).mpr ?_⟩
  apply (exists_load_iff audited).mp
  have returns : (loadSettings asciiBuiltins advisorPaths
      (diskOf "OPENAI_TIMEOUT_SECONDS=30") none false).toBool = true := by decide +kernel
  cases loaded : loadSettings asciiBuiltins advisorPaths
      (diskOf "OPENAI_TIMEOUT_SECONDS=30") none false with
  | error problem => simp [loaded, Except.toBool] at returns
  | ok settings => exact ⟨settings, rfl⟩

/-- The audit reports a timeout that is no number, and the load raises. -/
theorem badTimeout_not_followed :
    ∃ report, auditEnvironment asciiBuiltins advisorPaths
        (diskOf "OPENAI_TIMEOUT_SECONDS=abc") none = .ok report ∧
      ¬ FollowsAudit asciiBuiltins advisorPaths (diskOf "OPENAI_TIMEOUT_SECONDS=abc") none
        report := by
  obtain ⟨report, audited⟩ := @exists_audit (diskOf "OPENAI_TIMEOUT_SECONDS=abc")
    (by decide +kernel)
  refine ⟨report, audited, ?_⟩
  intro follows
  obtain ⟨settings, loaded, -⟩ := follows.lenient
  have raises : (loadSettings asciiBuiltins advisorPaths
      (diskOf "OPENAI_TIMEOUT_SECONDS=abc") none false).toBool = false := by decide +kernel
  simp [loaded, Except.toBool] at raises

end SuperAdvisor.Settings
