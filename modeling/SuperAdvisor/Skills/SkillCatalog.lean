import SuperAdvisor.Settings.DeniedTools
import SuperAdvisor.Skills.InstructionFilter

/-!
# The skill catalogue

Every skill has a folder with a file, whose frontmatter describes the skill and
names the agent that owns it.  The validation reads the file of each skill of the
catalogue, looks for folders that are no skill, and checks the configuration that
is to use the skills.
-/

namespace SuperAdvisor.Skills

open Python Registry Settings Topology

structure SkillIssue where
  skill : String
  path : String
  rule : String
  message : String
  deriving DecidableEq

structure SkillDocument where
  name : String
  description : String
  version : String
  ownerAgent : String
  purpose : String
  allowedInputs : List String
  requiredInputSchema : String
  outputSchema : String
  allowedTools : List String
  deniedTools : List String
  safetyConstraints : List String
  failureBehavior : String
  auditFields : List String
  tests : List String
  promotionStatus : String
  path : String
  body : List Char

structure SkillValidationReport where
  version : String
  phase : String
  valid : Bool
  skillNames : List String
  issues : List SkillIssue
  runtimeIssues : List SkillIssue

def requiredFrontmatterFields : List String :=
  ["name", "description", "version", "owner_agent", "purpose", "allowed_inputs",
    "required_input_schema", "output_schema", "allowed_tools", "denied_tools",
    "safety_constraints", "failure_behavior", "audit_fields", "tests", "promotion_status"]

/-- What reading a file gives: its text, or the exception. -/
abbrev FileText := Except RegistryProblem (List Char)

/-- The directory of the skills as it is listed, with the `SKILL.md` of each
folder that has one.  A directory that does not exist has no folders. -/
structure SkillsDir where
  folders : List (String × Option FileText)
  distinct : (OrderedDict.keys folders).Nodup

/-- `str(paths.skills_dir / folder_name / "SKILL.md")` -/
def skillPath (paths : ProjectPaths) (folderName : String) : String :=
  paths.workspaceDir ++ "/skills/" ++ folderName ++ "/SKILL.md"

/-- `paths.config_template_path` -/
def configTemplatePath (paths : ProjectPaths) : String :=
  paths.rootDir ++ "/config/openclaw.template.json"

/-! The file of a skill. -/

def asStringSequence (value : Value) (fieldName path : String) :
    Except RegistryProblem (List String) :=
  match value with
  | .str text =>
      .ok (((splitLines text.toList).map (fun item => strip (String.ofList item))).filter
        (fun item => item ≠ ""))
  | .list items =>
      if items.all Value.isStr then .ok (items.map Value.text)
      else raiseValue (path ++ " field " ++ fieldName ++ " must be a string list")
  | _ => raiseValue (path ++ " field " ++ fieldName ++ " must be a string list")

/-- The skill that a frontmatter describes. -/
def skillOfMetadata (metadata : List (Key × Value)) (path : String) (body : List Char) :
    Except RegistryProblem SkillDocument :=
  let missing := requiredFrontmatterFields.filter (fun field => hasField metadata field = false)
  let field := fun name => getOr metadata name .none
  let items := fun name => asStringSequence (field name) name path
  if missing ≠ [] then
    raiseValue (path ++ " frontmatter missing fields: " ++ ", ".intercalate missing)
  else if !(["name", "description", "version", "owner_agent", "purpose"].all
      (fun name => Value.isStr (field name))) then
    raiseValue (path ++ " frontmatter must define string name, description, version, " ++
      "owner_agent, and purpose")
  else if !(["required_input_schema", "output_schema", "failure_behavior",
      "promotion_status"].all (fun name => Value.isStr (field name))) then
    raiseValue (path ++ " schema, behavior, and promotion fields must be strings")
  else do
    let allowedInputs ← items "allowed_inputs"
    let allowedTools ← items "allowed_tools"
    let deniedTools ← items "denied_tools"
    let safetyConstraints ← items "safety_constraints"
    let auditFields ← items "audit_fields"
    let tests ← items "tests"
    .ok
      { name := (field "name").text
        description := (field "description").text
        version := (field "version").text
        ownerAgent := (field "owner_agent").text
        purpose := (field "purpose").text
        allowedInputs, allowedTools, deniedTools, safetyConstraints, auditFields, tests
        requiredInputSchema := (field "required_input_schema").text
        outputSchema := (field "output_schema").text
        failureBehavior := (field "failure_behavior").text
        promotionStatus := (field "promotion_status").text
        path, body }

section Parsing

variable (safeLoad : List Char → Except RegistryProblem Value)

def parseSkill (file : FileText) (path : String) : Except RegistryProblem SkillDocument := do
  let text ← file
  let (frontmatterText, body) ← splitFrontmatter text path
  let loaded ← safeLoad frontmatterText
  match loaded with
  | .dict metadata => skillOfMetadata metadata path body
  | _ => raiseValue (path ++ " frontmatter must be a mapping")

end Parsing

def skillDirMap (dir : SkillsDir) : List (String × FileText) :=
  dir.folders.filterMap (fun folder => folder.2.map (fun file => (folder.1, file)))

/-! The checks of one skill. -/

def skillIssueUnless (holds : Bool) (skill path rule message : String) : List SkillIssue :=
  if holds then [] else [{ skill, path, rule, message }]

/-- The agent that the catalogue gives a skill to. -/
def expectedOwner (folderName : String) : Option String :=
  (agentSkillNames.find? (fun entry => folderName ∈ entry.2)).map Prod.fst

/-- `required_denies`, the set as a list. -/
def requiredSkillDenies (ownerAgent : String) : List String :=
  ["group:runtime", "group:web", "group:ui", "group:automation", "group:messaging",
    "group:plugins", "group:memory", "group:sessions", "process", "code_execution", "browser",
    "canvas", "gateway", "message", "subagents"] ++
  (if ownerAgent ≠ "blueprint-coder" then ["write", "edit", "apply_patch", "exec"] else [])

def secretPatterns : List String :=
  ["sk-", "ghp_", "private key"]

def requiredSections : List String :=
  ["## procedure", "## decision tree", "## failure mode"]

/-- `text in body.lower()` -/
def bodyContains (body : List Char) (text : String) : Bool :=
  decide (text.toList <:+: lowerText body)

/-- The check of the owner. -/
def ownerIssues (folderName path ownerAgent : String) : List SkillIssue :=
  match expectedOwner folderName with
  | none => [⟨folderName, path, "owner_mismatch", "skill is not assigned to a blueprint owner"⟩]
  | some owner =>
      skillIssueUnless (ownerAgent = owner) folderName path "owner_mismatch"
        ("owner_agent must be " ++ owner)

def skillIssues (paths : ProjectPaths) (seenNames : List String) (folderName : String)
    (skill : SkillDocument) : List SkillIssue :=
  let path := skillPath paths folderName
  let instructs := fun (list : PhraseList) =>
    hasNonNegatedPhrase (String.ofList skill.body) list.phrases
  skillIssueUnless (skill.name = folderName) folderName path "name_mismatch"
      ("frontmatter name must be " ++ folderName) ++
    skillIssueUnless (skill.version = packageVersion) folderName path "version_mismatch"
      ("frontmatter version must be " ++ packageVersion) ++
    ownerIssues folderName path skill.ownerAgent ++
    skillIssueUnless (skill.name ∉ seenNames) folderName path "duplicate_name"
      "duplicate skill name" ++
    (if skill.ownerAgent ∉ runtimeAgentIds then
      [⟨folderName, path, "owner_mismatch",
        "unknown owner_agent " ++ quotedText skill.ownerAgent⟩]
    else
      skillIssueUnless (skill.allowedTools = agentAllowedTools skill.ownerAgent) folderName path
        "tool_allow_mismatch" "allowed_tools mismatch") ++
    skillIssueUnless ((requiredSkillDenies skill.ownerAgent).all (· ∈ skill.deniedTools))
      folderName path "tool_deny_mismatch"
      "denied_tools must include the full safety denylist" ++
    skillIssueUnless (!instructs .execution) folderName path "execution_instruction"
      "execution instruction detected" ++
    skillIssueUnless (!instructs .marketNumbers) folderName path "market_number_generation"
      "market number guidance detected" ++
    skillIssueUnless (!instructs .scores) folderName path "evidence_score_mutation"
      "score mutation instruction detected" ++
    skillIssueUnless (!secretPatterns.any (bodyContains skill.body)) folderName path
      "secret_pattern" "secret-like content detected" ++
    skillIssueUnless (!skill.safetyConstraints.isEmpty) folderName path "missing_contract"
      "safety_constraints must not be empty" ++
    skillIssueUnless (!skill.tests.isEmpty) folderName path "missing_contract"
      "tests must not be empty" ++
    requiredSections.flatMap (fun requiredSection =>
      skillIssueUnless (bodyContains skill.body requiredSection) folderName path "shallow_skill"
        ("body must contain a '" ++ requiredSection ++ "' section"))

/-! The catalogue. -/

/-- `str` of a `ValueError`; other exceptions are not caught. -/
def caughtValueError : RegistryProblem → Option String
  | .python (.valueError message) => some message
  | _ => none

section Catalog

variable (safeLoad : List Char → Except RegistryProblem Value) (paths : ProjectPaths)
  (catalogPaths : List (String × FileText))

/-- One round of the loop: the skill, if it could be read, and the issues. -/
def checkFolder (seenNames : List String) (folderName : String) :
    Except RegistryProblem (Option SkillDocument × List SkillIssue) :=
  let path := skillPath paths folderName
  match OrderedDict.get? catalogPaths folderName with
  | none => .ok (none, [⟨folderName, path, "missing_file", "Skill file is missing"⟩])
  | some file =>
      match parseSkill safeLoad file path with
      | .ok skill => .ok (some skill, skillIssues paths seenNames folderName skill)
      | .error problem =>
          match caughtValueError problem with
          | some message => .ok (none, [⟨folderName, path, "frontmatter", message⟩])
          | none => .error problem

/-- The loop over the names of the catalogue. -/
def checkFolders : List String → List String →
    Except RegistryProblem (List SkillDocument × List SkillIssue)
  | _, [] => .ok ([], [])
  | seenNames, folderName :: rest => do
      let (skill, issues) ← checkFolder safeLoad paths catalogPaths seenNames folderName
      let (discovered, later) ←
        checkFolders ((skill.map SkillDocument.name).toList ++ seenNames) rest
      .ok (skill.toList ++ discovered, issues ++ later)

end Catalog

def runtimeSkillNames (config : Section) : List String :=
  match getOr config "agents" .none with
  | .dict agents =>
      match getOr agents "defaults" .none with
      | .dict defaults =>
          match getOr defaults "skills" .none with
          | .list skills => if skills.all Value.isStr then skills.map Value.text else []
          | _ => []
      | _ => []
  | _ => []

/-- What ends a validation: an exception from a skill, or from the check of the
configuration. -/
inductive SkillProblem where
  | skill (problem : RegistryProblem)
  | config (problem : ConfigProblem)

/-- The issues of the configuration that is to use the skills. -/
def discoveryIssues (config : Section) (paths : ProjectPaths) :
    Except SkillProblem (List SkillIssue) := do
  let place := configTemplatePath paths
  let configReport ← (validateRenderedConfig (.dict config) paths).mapError .config
  let topologyReport ←
    (validateAgentTopology (some config) paths).mapError (fun failure => .config (.python failure))
  let configIssues := configReport.issues.map (fun issue =>
    ⟨"runtime-discovery", place, "config_validation", issue.path ++ ": " ++ issue.message⟩)
  let topologyIssues := topologyReport.issues.map (fun issue =>
    ⟨"runtime-discovery", place, issue.rule, issue.path ++ ": " ++ issue.message⟩)
  .ok ((if configReport.valid then [] else configIssues) ++
    (if topologyReport.valid then [] else topologyIssues) ++
    skillIssueUnless (runtimeSkillNames config = skillNames) "runtime-discovery" place
      "runtime_skills"
      ("configured runtime skills must equal " ++ (Settings.texts skillNames).text))

/-- `if rendered_config is not None` -/
def runtimeSkillIssues (renderedConfig : Option Section) (paths : ProjectPaths) :
    Except SkillProblem (List SkillIssue) :=
  match renderedConfig with
  | none => .ok []
  | some config => discoveryIssues config paths

def validateSkills (safeLoad : List Char → Except RegistryProblem Value) (dir : SkillsDir)
    (paths : ProjectPaths) (renderedConfig : Option Section) :
    Except SkillProblem SkillValidationReport := do
  let catalogPaths := skillDirMap dir
  let (discovered, issues) ←
    (checkFolders safeLoad paths catalogPaths [] skillNames).mapError .skill
  let runtimeIssues ← runtimeSkillIssues renderedConfig paths
  let orphanSkills := ((OrderedDict.keys catalogPaths).filter (· ∉ skillNames)).insertionSort
    (fun left right => left ≤ right)
  let issues := issues ++ orphanSkills.map (fun orphan =>
    ⟨orphan, skillPath paths orphan, "orphan_skill",
      "skill exists but is not in the blueprint catalog"⟩)
  .ok
    { version := packageVersion
      phase := "P2.4"
      valid := issues.isEmpty && runtimeIssues.isEmpty
      skillNames := discovered.map SkillDocument.name
      issues := issues
      runtimeIssues := runtimeIssues }

/-! What a skill has to be. -/

/-- The text of a frontmatter, and the text behind it. -/
def HasFrontmatter (text frontmatterText body : List Char) : Prop :=
  text = frontmatterMark ++ (frontmatterText ++ frontmatterMark ++ body) ∧
    ¬frontmatterMark <:+: frontmatterText

/-- A list of texts, or their lines in one text. -/
def ListsStrings (items : List String) (value : Value) : Prop :=
  value = Settings.texts items ∨ ∃ text, value = .str text ∧
    items = ((splitLines text.toList).map (fun item => strip (String.ofList item))).filter
      (fun item => item ≠ "")

def IsText (value : Value) : Prop :=
  ∃ text, value = .str text

/-- The frontmatter of a skill of an agent. -/
def skillSchema (folderName owner : String) : Schema :=
  .object
    [("name", .equal (.str folderName)),
      ("description", .leaf IsText),
      ("version", .equal (.str packageVersion)),
      ("owner_agent", .equal (.str owner)),
      ("purpose", .leaf IsText),
      ("allowed_inputs", .leaf (fun value => ∃ items, ListsStrings items value)),
      ("required_input_schema", .leaf IsText),
      ("output_schema", .leaf IsText),
      ("allowed_tools", .leaf (ListsStrings (agentAllowedTools owner))),
      ("denied_tools", .leaf (fun value =>
        ∃ items, ListsStrings items value ∧ requiredSkillDenies owner ⊆ items)),
      ("safety_constraints", .leaf (fun value => ∃ items, ListsStrings items value ∧ items ≠ [])),
      ("failure_behavior", .leaf IsText),
      ("audit_fields", .leaf (fun value => ∃ items, ListsStrings items value)),
      ("tests", .leaf (fun value => ∃ items, ListsStrings items value ∧ items ≠ [])),
      ("promotion_status", .leaf IsText)]

/-- No line gives an instruction unless it negates it, nothing looks like a
secret, and every section is there. -/
def IsSkillBody (body : List Char) : Prop :=
  (∀ (list : PhraseList), ∀ line ∈ splitLines body, SetApart list.phrases (lowerText line) →
      NegatedWithin (lowerText line)) ∧
    (∀ pattern ∈ secretPatterns, ¬pattern.toList <:+: lowerText body) ∧
    ∀ requiredSection ∈ requiredSections, requiredSection.toList <:+: lowerText body

/-- The file of a skill of an agent. -/
def IsSkillFile (safeLoad : List Char → Except RegistryProblem Value)
    (folderName owner : String) (text : List Char) : Prop :=
  ∃ frontmatterText body metadata, HasFrontmatter text frontmatterText body ∧
    safeLoad frontmatterText = .ok metadata ∧ (skillSchema folderName owner).Accepts metadata ∧
    IsSkillBody body

/-! Reading a frontmatter. -/

/-- A mark ends with its only newline, so it overlaps no other mark. -/
private theorem frontmatterMark_prefix_append_iff {text body : List Char} (nonempty : text ≠ []) :
    frontmatterMark <+: text ++ frontmatterMark ++ body ↔ frontmatterMark <+: text := by
  have mark : frontmatterMark = ['-', '-', '-', '\n'] := by decide
  rw [mark]
  rcases text with _ | ⟨_, _ | ⟨_, _ | ⟨_, _ | ⟨_, _⟩⟩⟩⟩
  · exact absurd rfl nonempty
  all_goals simp

theorem splitAtMark_eq_some_iff {text frontmatterText body : List Char} :
    splitAtMark text = some (frontmatterText, body) ↔
      text = frontmatterText ++ frontmatterMark ++ body ∧
        ¬frontmatterMark <:+: frontmatterText := by
  induction text generalizing frontmatterText with
  | nil =>
      refine iff_of_false (by simp [splitAtMark]) ?_
      rintro ⟨same, -⟩
      simpa [frontmatterMark] using congrArg List.length same
  | cons symbol text induction =>
      rw [splitAtMark]
      split
      next begins =>
        obtain ⟨behind, same⟩ := List.isPrefixOf_iff_prefix.mp begins
        rw [← same, List.drop_left]
        constructor
        · intro found
          obtain ⟨rfl, rfl⟩ := Prod.mk.inj (Option.some.inj found)
          exact ⟨rfl, by decide⟩
        · rintro ⟨built, unmarked⟩
          have empty : frontmatterText = [] := by
            by_contra nonempty
            have early := (frontmatterMark_prefix_append_iff nonempty).mp
              (built ▸ List.prefix_append frontmatterMark behind)
            exact unmarked early.isInfix
          subst empty
          rw [List.append_cancel_left built]
      next other =>
        constructor
        · intro found
          obtain ⟨⟨front, rest⟩, here, moved⟩ := Option.map_eq_some_iff.mp found
          obtain ⟨rfl, rfl⟩ := Prod.mk.inj moved
          obtain ⟨rfl, unmarked⟩ := induction.mp here
          refine ⟨rfl, fun inside => ?_⟩
          rcases List.infix_cons_iff.mp inside with early | late
          · have begins : frontmatterMark <+: symbol :: front ++ (frontmatterMark ++ rest) :=
              early.trans (List.prefix_append _ _)
            exact other (List.isPrefixOf_iff_prefix.mpr (by simpa using begins))
          · exact unmarked late
        · rintro ⟨built, unmarked⟩
          cases frontmatterText with
          | nil =>
              exact absurd (List.isPrefixOf_iff_prefix.mpr ⟨body, by simpa using built.symm⟩) other
          | cons first front =>
              obtain ⟨rfl, rest⟩ := List.cons.inj built
              have free : ¬frontmatterMark <:+: front :=
                fun inside => unmarked (inside.trans (List.infix_cons List.infix_rfl))
              rw [induction.mpr ⟨rest, free⟩]
              rfl

theorem splitFrontmatter_eq_ok_iff {text frontmatterText body : List Char} {path : String} :
    splitFrontmatter text path = .ok (frontmatterText, body) ↔
      HasFrontmatter text frontmatterText body := by
  rw [splitFrontmatter, HasFrontmatter]
  split
  next begins =>
    obtain ⟨behind, rfl⟩ := List.isPrefixOf_iff_prefix.mp begins
    rw [List.drop_left, List.append_cancel_left_eq, ← splitAtMark_eq_some_iff]
    cases splitAtMark behind <;> simp [raiseValue]
  next other =>
    refine iff_of_false (by simp [raiseValue]) ?_
    rintro ⟨rfl, -⟩
    exact other (List.isPrefixOf_iff_prefix.mpr (List.prefix_append _ _))

/-! The fields of a frontmatter. -/

private theorem isStr_iff {value : Value} :
    Value.isStr value = true ↔ value = .str value.text := by
  cases value <;> simp [Value.isStr, Value.text]

private theorem all_isStr_iff {values : List Value} :
    values.all Value.isStr = true ↔ values = (values.map Value.text).map .str := by
  induction values with
  | nil => simp
  | cons value values induction =>
      rw [List.all_cons, Bool.and_eq_true, isStr_iff, induction]
      simp

theorem asStringSequence_eq_ok_iff
    {value : Value} {fieldName path : String} {items : List String} :
    asStringSequence value fieldName path = .ok items ↔ ListsStrings items value := by
  cases value with
  | str text => simp [asStringSequence, ListsStrings, Settings.texts, eq_comm]
  | list values =>
      simp only [asStringSequence, ListsStrings, Settings.texts, Value.list.injEq, reduceCtorEq,
        false_and, exists_false, or_false]
      split
      next strings =>
        rw [Except.ok.injEq]
        constructor
        · rintro rfl
          exact all_isStr_iff.mp strings
        · rintro rfl
          rw [List.map_map]
          exact List.map_id items
      next mixed =>
        refine iff_of_false (by simp [raiseValue]) ?_
        rintro rfl
        exact mixed (by simp [Value.isStr])
  | none | bool | int | float | tuple | dict | other =>
      simp [asStringSequence, ListsStrings, Settings.texts, raiseValue]

/-- The fields of a skill as a frontmatter has them. -/
structure Describes (metadata : List (Key × Value)) (skill : SkillDocument) : Prop where
  name : getOr metadata "name" .none = .str skill.name
  description : getOr metadata "description" .none = .str skill.description
  version : getOr metadata "version" .none = .str skill.version
  ownerAgent : getOr metadata "owner_agent" .none = .str skill.ownerAgent
  purpose : getOr metadata "purpose" .none = .str skill.purpose
  allowedInputs : ListsStrings skill.allowedInputs (getOr metadata "allowed_inputs" .none)
  requiredInputSchema :
    getOr metadata "required_input_schema" .none = .str skill.requiredInputSchema
  outputSchema : getOr metadata "output_schema" .none = .str skill.outputSchema
  allowedTools : ListsStrings skill.allowedTools (getOr metadata "allowed_tools" .none)
  deniedTools : ListsStrings skill.deniedTools (getOr metadata "denied_tools" .none)
  safetyConstraints :
    ListsStrings skill.safetyConstraints (getOr metadata "safety_constraints" .none)
  failureBehavior : getOr metadata "failure_behavior" .none = .str skill.failureBehavior
  auditFields : ListsStrings skill.auditFields (getOr metadata "audit_fields" .none)
  tests : ListsStrings skill.tests (getOr metadata "tests" .none)
  promotionStatus : getOr metadata "promotion_status" .none = .str skill.promotionStatus

private theorem hasField_of_str
    {metadata : List (Key × Value)} {name text : String}
    (found : getOr metadata name .none = .str text) : hasField metadata name = true := by
  simp [hasField, lookupEntry_of_getOr found (by simp)]

private theorem hasField_of_listsStrings
    {metadata : List (Key × Value)} {name : String} {items : List String}
    (listed : ListsStrings items (getOr metadata name .none)) : hasField metadata name = true := by
  rcases listed with found | ⟨text, found, -⟩
  · simp [hasField, lookupEntry_of_getOr found (by simp [Settings.texts])]
  · exact hasField_of_str found

theorem skillOfMetadata_eq_ok_iff
    {metadata : List (Key × Value)} {path : String} {body : List Char} {skill : SkillDocument} :
    skillOfMetadata metadata path body = .ok skill ↔
      Describes metadata skill ∧ skill.path = path ∧ skill.body = body := by
  constructor
  · intro parsed
    simp only [skillOfMetadata] at parsed
    split at parsed
    next => cases parsed
    next =>
      split at parsed
      next => cases parsed
      next texts =>
        split at parsed
        next => cases parsed
        next others =>
          simp only [except_bind_eq_ok, asStringSequence_eq_ok_iff, Except.ok.injEq] at parsed
          obtain ⟨inputs, hasInputs, allowed, hasAllowed, denied, hasDenied, constraints,
            hasConstraints, audit, hasAudit, tests, hasTests, rfl⟩ := parsed
          simp only [Bool.not_eq_true, Bool.not_eq_false', List.all_eq_true, List.mem_cons,
            List.not_mem_nil, or_false, forall_eq_or_imp, forall_eq, isStr_iff] at texts others
          obtain ⟨name, description, version, owner, purpose⟩ := texts
          obtain ⟨input, output, failure, promotion⟩ := others
          exact ⟨⟨name, description, version, owner, purpose, hasInputs, input, output, hasAllowed,
            hasDenied, hasConstraints, failure, hasAudit, hasTests, promotion⟩, rfl, rfl⟩
  · rintro ⟨described, rfl, rfl⟩
    have present : requiredFrontmatterFields.filter
        (fun field => hasField metadata field = false) = [] := by
      simp [requiredFrontmatterFields, hasField_of_str described.name,
        hasField_of_str described.description, hasField_of_str described.version,
        hasField_of_str described.ownerAgent, hasField_of_str described.purpose,
        hasField_of_listsStrings described.allowedInputs,
        hasField_of_str described.requiredInputSchema, hasField_of_str described.outputSchema,
        hasField_of_listsStrings described.allowedTools,
        hasField_of_listsStrings described.deniedTools,
        hasField_of_listsStrings described.safetyConstraints,
        hasField_of_str described.failureBehavior,
        hasField_of_listsStrings described.auditFields,
        hasField_of_listsStrings described.tests, hasField_of_str described.promotionStatus]
    simp only [skillOfMetadata, present, ne_eq, not_true_eq_false, if_false, List.all_cons,
      List.all_nil, described.name, described.description, described.version,
      described.ownerAgent, described.purpose, described.requiredInputSchema,
      described.outputSchema, described.failureBehavior, described.promotionStatus,
      Value.isStr, Bool.and_self, Bool.not_true, Bool.false_eq_true, except_bind_eq_ok,
      asStringSequence_eq_ok_iff, Except.ok.injEq]
    exact ⟨_, described.allowedInputs, _, described.allowedTools, _, described.deniedTools, _,
      described.safetyConstraints, _, described.auditFields, _, described.tests, rfl⟩

/-! Skills without issues. -/

/-- A skill that is what the catalogue wants in a folder. -/
structure Fits (folderName owner : String) (skill : SkillDocument) : Prop where
  name : skill.name = folderName
  version : skill.version = packageVersion
  ownerAgent : skill.ownerAgent = owner
  allowedTools : skill.allowedTools = agentAllowedTools owner
  deniedTools : requiredSkillDenies owner ⊆ skill.deniedTools
  safetyConstraints : skill.safetyConstraints ≠ []
  tests : skill.tests ≠ []
  body : IsSkillBody skill.body

@[simp] theorem skillIssueUnless_eq_nil_iff {holds : Bool} {skill path rule message : String} :
    skillIssueUnless holds skill path rule message = [] ↔ holds = true := by
  cases holds <;> simp [skillIssueUnless]

theorem mem_runtimeAgentIds_of_expectedOwner
    {folderName owner : String} (expected : expectedOwner folderName = some owner) :
    owner ∈ runtimeAgentIds := by
  obtain ⟨entry, found, rfl⟩ := Option.map_eq_some_iff.mp expected
  have each : ∀ entry ∈ agentSkillNames, entry.1 ∈ runtimeAgentIds := by
    decide +kernel
  exact each entry (List.mem_of_find?_eq_some found)

private theorem noInstruction_iff {body : List Char} {list : PhraseList} :
    hasNonNegatedPhrase (String.ofList body) list.phrases = false ↔
      ∀ line ∈ splitLines body, SetApart list.phrases (lowerText line) →
        NegatedWithin (lowerText line) := by
  rw [← Bool.not_eq_true, hasNonNegatedPhrase_iff, String.toList_ofList]
  constructor
  · intro none line member apart
    by_contra free
    exact none ⟨line, member, free, apart⟩
  · rintro each ⟨line, member, free, apart⟩
    exact free (each line member apart)

private theorem isSkillBody_iff {body : List Char} :
    IsSkillBody body ↔
      hasNonNegatedPhrase (String.ofList body) PhraseList.execution.phrases = false ∧
        hasNonNegatedPhrase (String.ofList body) PhraseList.marketNumbers.phrases = false ∧
        hasNonNegatedPhrase (String.ofList body) PhraseList.scores.phrases = false ∧
        secretPatterns.any (bodyContains body) = false ∧
        ∀ requiredSection ∈ requiredSections, bodyContains body requiredSection = true := by
  simp only [noInstruction_iff, IsSkillBody, bodyContains, List.any_eq_false, decide_eq_true_eq]
  constructor
  · rintro ⟨lines, secrets, sections⟩
    exact ⟨lines .execution, lines .marketNumbers, lines .scores, secrets, sections⟩
  · rintro ⟨execution, marketNumbers, scores, secrets, sections⟩
    refine ⟨fun list => ?_, secrets, sections⟩
    cases list with
    | execution => exact execution
    | marketNumbers => exact marketNumbers
    | scores => exact scores

private theorem ownerIssues_eq_nil_iff {folderName path ownerAgent : String} :
    ownerIssues folderName path ownerAgent = [] ↔ expectedOwner folderName = some ownerAgent := by
  unfold ownerIssues
  cases expectedOwner folderName with
  | none => simp
  | some owner =>
      rw [skillIssueUnless_eq_nil_iff, decide_eq_true_eq, Option.some.injEq]
      exact eq_comm

theorem skillIssues_eq_nil_iff
    {paths : ProjectPaths} {seenNames : List String} {folderName : String}
    {skill : SkillDocument} :
    skillIssues paths seenNames folderName skill = [] ↔
      folderName ∉ seenNames ∧
        ∃ owner, expectedOwner folderName = some owner ∧ Fits folderName owner skill := by
  simp only [skillIssues, List.append_eq_nil_iff, ownerIssues_eq_nil_iff,
    skillIssueUnless_eq_nil_iff, decide_eq_true_eq, List.all_eq_true, Bool.not_eq_true',
    List.isEmpty_eq_false_iff, List.flatMap_eq_nil_iff]
  constructor
  · rintro ⟨⟨⟨⟨⟨⟨⟨⟨⟨⟨⟨⟨rfl, version⟩, owned⟩, unseen⟩, tools⟩, denied⟩, execution⟩,
      marketNumbers⟩, scores⟩, secrets⟩, constraints⟩, tests⟩, sections⟩
    rw [if_neg (not_not.mpr (mem_runtimeAgentIds_of_expectedOwner owned)),
      skillIssueUnless_eq_nil_iff, decide_eq_true_eq] at tools
    exact ⟨unseen, _, owned,
      { name := rfl
        version := version
        ownerAgent := rfl
        allowedTools := tools
        deniedTools := denied
        safetyConstraints := constraints
        tests := tests
        body := isSkillBody_iff.mpr ⟨execution, marketNumbers, scores, secrets, sections⟩ }⟩
  · rintro ⟨unseen, owner, expected, fits⟩
    obtain ⟨execution, marketNumbers, scores, secrets, sections⟩ := isSkillBody_iff.mp fits.body
    obtain ⟨rfl, version, rfl, tools, denied, constraints, tests, -⟩ := fits
    rw [if_neg (not_not.mpr (mem_runtimeAgentIds_of_expectedOwner expected)),
      skillIssueUnless_eq_nil_iff, decide_eq_true_eq]
    exact ⟨⟨⟨⟨⟨⟨⟨⟨⟨⟨⟨⟨rfl, version⟩, expected⟩, unseen⟩, tools⟩, denied⟩, execution⟩,
      marketNumbers⟩, scores⟩, secrets⟩, constraints⟩, tests⟩, sections⟩

/-- A frontmatter of the schema describes a skill that fits. -/
theorem skillSchema_accepts_iff
    {folderName owner path : String} {metadata : List (Key × Value)} {body : List Char} :
    (skillSchema folderName owner).Accepts (.dict metadata) ∧ IsSkillBody body ↔
      ∃ skill, skillOfMetadata metadata path body = .ok skill ∧ Fits folderName owner skill := by
  simp only [skillOfMetadata_eq_ok_iff, skillSchema, accepts_object, acceptsFields_cons,
    acceptsFields_nil, accepts_leaf, accepts_equal, equals_str_iff, Value.dict.injEq,
    exists_eq_left', and_true]
  constructor
  · rintro ⟨⟨name, ⟨description, described⟩, version, ownerAgent, ⟨purpose, meant⟩,
      ⟨allowedInputs, inputs⟩, ⟨requiredInputSchema, input⟩, ⟨outputSchema, output⟩, allowed,
      ⟨deniedTools, denied, covered⟩, ⟨safetyConstraints, constraints, constrained⟩,
      ⟨failureBehavior, failure⟩, ⟨auditFields, audit⟩, ⟨tests, listed, tested⟩,
      ⟨promotionStatus, promotion⟩⟩, safe⟩
    exact ⟨⟨folderName, description, packageVersion, owner, purpose, allowedInputs,
        requiredInputSchema, outputSchema, agentAllowedTools owner, deniedTools,
        safetyConstraints, failureBehavior, auditFields, tests, promotionStatus, path, body⟩,
      ⟨⟨name, described, version, ownerAgent, meant, inputs, input, output, allowed, denied,
        constraints, failure, audit, listed, promotion⟩, rfl, rfl⟩,
      ⟨rfl, rfl, rfl, rfl, covered, constrained, tested, safe⟩⟩
  · rintro ⟨skill, ⟨described, rfl, rfl⟩, fits⟩
    obtain ⟨rfl, version, rfl, tools, denied, constraints, tests, safe⟩ := fits
    exact ⟨⟨described.name, ⟨_, described.description⟩, version ▸ described.version,
      described.ownerAgent, ⟨_, described.purpose⟩, ⟨_, described.allowedInputs⟩,
      ⟨_, described.requiredInputSchema⟩, ⟨_, described.outputSchema⟩,
      tools ▸ described.allowedTools, ⟨_, described.deniedTools, denied⟩,
      ⟨_, described.safetyConstraints, constraints⟩, ⟨_, described.failureBehavior⟩,
      ⟨_, described.auditFields⟩, ⟨_, described.tests, tests⟩, ⟨_, described.promotionStatus⟩⟩,
      safe⟩

section Files

variable {safeLoad : List Char → Except RegistryProblem Value}

/-- The file of a skill is read as a skill that fits. -/
theorem isSkillFile_iff {folderName owner path : String} {text : List Char} :
    IsSkillFile safeLoad folderName owner text ↔
      ∃ skill, parseSkill safeLoad (.ok text) path = .ok skill ∧ Fits folderName owner skill := by
  constructor
  · rintro ⟨frontmatterText, body, metadata, divided, loaded, accepted, safe⟩
    obtain ⟨entries, rfl, -⟩ := accepts_object.mp accepted
    obtain ⟨skill, described, fits⟩ := (@skillSchema_accepts_iff _ _ path _ _).mp ⟨accepted, safe⟩
    refine ⟨skill, ?_, fits⟩
    simp only [parseSkill, except_bind_eq_ok]
    exact ⟨text, rfl, (frontmatterText, body), splitFrontmatter_eq_ok_iff.mpr divided, _, loaded,
      described⟩
  · rintro ⟨skill, parsed, fits⟩
    simp only [parseSkill, except_bind_eq_ok, Except.ok.injEq, exists_eq_left'] at parsed
    obtain ⟨⟨frontmatterText, body⟩, divided, metadata, loaded, described⟩ := parsed
    cases metadata with
    | dict entries =>
        obtain ⟨accepted, safe⟩ := skillSchema_accepts_iff.mpr ⟨skill, described, fits⟩
        exact ⟨frontmatterText, body, _, splitFrontmatter_eq_ok_iff.mp divided, loaded, accepted,
          safe⟩
    | none | bool | int | float | str | list | tuple | other => cases described

/-- A skill of the catalogue, read from its folder without issues. -/
def Lists (safeLoad : List Char → Except RegistryProblem Value) (paths : ProjectPaths)
    (catalogPaths : List (String × FileText)) (folderName : String) (skill : SkillDocument) :
    Prop :=
  ∃ file owner, OrderedDict.get? catalogPaths folderName = some file ∧
    parseSkill safeLoad file (skillPath paths folderName) = .ok skill ∧
    expectedOwner folderName = some owner ∧ Fits folderName owner skill

variable {paths : ProjectPaths} {catalogPaths : List (String × FileText)}

private theorem name_of_lists
    {folderName : String} {skill : SkillDocument}
    (listed : Lists safeLoad paths catalogPaths folderName skill) : skill.name = folderName := by
  obtain ⟨file, owner, -, -, -, fits⟩ := listed
  exact fits.name

/-- One round of the loop that finds nothing. -/
private theorem checkFolder_eq_nil_iff
    {seenNames : List String} {folderName : String} {found : Option SkillDocument} :
    checkFolder safeLoad paths catalogPaths seenNames folderName = .ok (found, []) ↔
      folderName ∉ seenNames ∧
        ∃ skill, found = some skill ∧ Lists safeLoad paths catalogPaths folderName skill := by
  unfold checkFolder Lists
  cases located : OrderedDict.get? catalogPaths folderName with
  | none => simp
  | some file =>
      cases parsed : parseSkill safeLoad file (skillPath paths folderName) with
      | error problem =>
          cases caught : caughtValueError problem <;> simp [caught, parsed]
      | ok skill =>
          simp only [parsed, Except.ok.injEq, Prod.mk.injEq, skillIssues_eq_nil_iff,
            Option.some.injEq]
          constructor
          · rintro ⟨rfl, unseen, owner, expected, fits⟩
            exact ⟨unseen, skill, rfl, file, owner, rfl, parsed, expected, fits⟩
          · rintro ⟨unseen, other, rfl, _, owner, rfl, again, expected, fits⟩
            obtain rfl := Except.ok.inj (parsed.symm.trans again)
            exact ⟨rfl, unseen, owner, expected, fits⟩

private theorem checkFolders_eq_nil_iff
    {names seenNames : List String} {discovered : List SkillDocument} (distinct : names.Nodup)
    (fresh : ∀ name ∈ names, name ∉ seenNames) :
    checkFolders safeLoad paths catalogPaths seenNames names = .ok (discovered, []) ↔
      List.Forall₂ (Lists safeLoad paths catalogPaths) names discovered := by
  induction names generalizing seenNames discovered with
  | nil => simp [checkFolders, eq_comm]
  | cons name names induction =>
      rw [List.nodup_cons] at distinct
      rw [List.forall_mem_cons] at fresh
      have later : ∀ other ∈ names, other ∉ name :: seenNames := by
        intro other member repeated
        rcases List.mem_cons.mp repeated with rfl | earlier
        · exact distinct.1 member
        · exact fresh.2 other member earlier
      have step := fun others => @induction (name :: seenNames) others distinct.2 later
      simp only [checkFolders, except_bind_eq_ok, Except.ok.injEq, Prod.mk.injEq,
        List.append_eq_nil_iff, List.forall₂_cons_left_iff, ← step]
      constructor
      · rintro ⟨⟨found, issues⟩, checked, ⟨others, rest⟩, looped, rfl, rfl, rfl⟩
        obtain ⟨-, skill, rfl, listed⟩ := checkFolder_eq_nil_iff.mp checked
        have named := name_of_lists listed
        exact ⟨skill, others, listed, by simpa [named] using looped, rfl⟩
      · rintro ⟨skill, others, listed, looped, rfl⟩
        have named := name_of_lists listed
        exact ⟨(some skill, []), checkFolder_eq_nil_iff.mpr ⟨fresh.1, skill, rfl, listed⟩,
          (others, []), by simpa [named] using looped, rfl, rfl, rfl⟩

end Files

/-- The folders of the directory, found by their names. -/
theorem get?_skillDirMap_eq_some_iff {dir : SkillsDir} {folderName : String} {file : FileText} :
    OrderedDict.get? (skillDirMap dir) folderName = some file ↔
      (folderName, some file) ∈ dir.folders := by
  have member_iff : (folderName, file) ∈ skillDirMap dir ↔
      (folderName, some file) ∈ dir.folders := by
    simp [skillDirMap]
  have distinct : (OrderedDict.keys (skillDirMap dir)).Nodup := by
    refine List.pairwise_map.mpr ?_
    refine List.Pairwise.filterMap _ ?_ (List.pairwise_map.mp dir.distinct)
    intro first second different one found other located
    obtain ⟨_, -, rfl⟩ := Option.map_eq_some_iff.mp found
    obtain ⟨_, -, rfl⟩ := Option.map_eq_some_iff.mp located
    exact different
  rw [← member_iff]
  exact ⟨OrderedDict.mem_of_get?, OrderedDict.get?_eq_some_of_mem distinct⟩

/-! The configuration that is to use the skills. -/

private theorem configReport_valid_eq
    {config : Value} {paths : ProjectPaths} {report : ConfigValidationReport}
    (checked : validateRenderedConfig config paths = .ok report) :
    report.valid = report.issues.isEmpty := by
  simp only [validateRenderedConfig, except_bind_eq_ok, Except.ok.injEq] at checked
  obtain ⟨_, -, _, -, _, -, _, -, _, -, _, -, _, -, _, -, rfl⟩ := checked
  rfl

private theorem runtimeSkillNames_of_accepts
    {config : Section} {paths : ProjectPaths} {denies : AgentContract → Value → Prop}
    (accepted : Schema.AcceptsFields (configFields paths denies) config) :
    runtimeSkillNames config = skillNames := by
  simp only [configFields, acceptsFields_cons, accepts_object, accepts_equal] at accepted
  obtain ⟨-, -, -, -, ⟨agents, found, ⟨defaults, default, -, skills, -⟩, -⟩, -⟩ := accepted
  simp only [runtimeSkillNames, found, default, equals_strings_iff.mp skills]
  rw [if_pos (by simp [Value.isStr]), List.map_map]
  exact List.map_id skillNames

/-- The validation repeats both checks of the configuration; what it asks of the
runtime skills is asked by one of them. -/
theorem discoveryIssues_eq_nil_iff {config : Section} {paths : ProjectPaths} :
    discoveryIssues config paths = .ok [] ↔
      (Schema.object (configFields paths deniedOf)).Accepts (.dict config) := by
  simp only [discoveryIssues, except_bind_eq_ok, except_mapError_eq_ok, Except.ok.injEq,
    List.append_eq_nil_iff, skillIssueUnless_eq_nil_iff, decide_eq_true_eq, accepts_object,
    Value.dict.injEq, exists_eq_left']
  constructor
  · rintro ⟨configReport, checked, topologyReport, compared, ⟨nothing, noIssue⟩, -⟩
    have sound : configReport.valid = true := by
      by_contra invalid
      rw [if_neg invalid, List.map_eq_nil_iff] at nothing
      exact invalid (by rw [configReport_valid_eq checked, nothing, List.isEmpty_nil])
    have accepted := (renderedDict_valid_iff config paths).mp ⟨_, checked, sound⟩
    have fits : topologyReport.valid = true := by
      by_contra invalid
      rw [if_neg invalid, List.map_eq_nil_iff] at noIssue
      exact invalid
        (agentTopology_valid_of_issues compared (isRouting_of_acceptsFields accepted) noIssue)
    obtain ⟨skills, agents, -⟩ := (agentTopology_valid_iff config paths).mp ⟨_, compared, fits⟩
    exact acceptsFields_deniedOf_iff.mp ⟨accepted, skills, agents⟩
  · intro accepted
    obtain ⟨required, skills, agents⟩ := acceptsFields_deniedOf_iff.mpr accepted
    obtain ⟨configReport, checked, sound⟩ := (renderedDict_valid_iff config paths).mpr required
    obtain ⟨topologyReport, compared, fits⟩ := (agentTopology_valid_iff config paths).mpr
      ⟨skills, agents, fun _ => isRouting_of_acceptsFields required⟩
    exact ⟨_, checked, _, compared, ⟨if_pos sound, if_pos fits⟩,
      runtimeSkillNames_of_accepts accepted⟩

private theorem runtimeSkillIssues_eq_nil_iff
    {renderedConfig : Option Section} {paths : ProjectPaths} :
    runtimeSkillIssues renderedConfig paths = .ok [] ↔
      ∀ config ∈ renderedConfig,
        (Schema.object (configFields paths deniedOf)).Accepts (.dict config) := by
  cases renderedConfig with
  | none => simp [runtimeSkillIssues]
  | some config => simpa [runtimeSkillIssues] using discoveryIssues_eq_nil_iff

/-! The whole catalogue. -/

theorem nodup_skillNames : skillNames.Nodup := by
  decide +kernel

/-- A skill has one owner, the agent that it is listed for. -/
theorem expectedOwner_eq_some_iff {folderName agentId : String} :
    expectedOwner folderName = some agentId ↔ folderName ∈ agentSkills agentId := by
  have distinct : (OrderedDict.keys agentSkillNames).Nodup := by
    decide +kernel
  have each : ∀ entry ∈ agentSkillNames, ∀ folderName ∈ entry.2,
      expectedOwner folderName = some entry.1 := by
    decide +kernel
  constructor
  · intro expected
    obtain ⟨⟨owner, names⟩, found, rfl⟩ := Option.map_eq_some_iff.mp expected
    have member : folderName ∈ names := by simpa using List.find?_some found
    rw [agentSkills, OrderedDict.get?_eq_some_of_mem distinct (List.mem_of_find?_eq_some found)]
    exact member
  · intro member
    unfold agentSkills at member
    cases found : OrderedDict.get? agentSkillNames agentId with
    | none => simp [found] at member
    | some names => exact each _ (OrderedDict.mem_of_get? found) _ (by simpa [found] using member)

theorem mem_skillNames_iff {folderName : String} :
    folderName ∈ skillNames ↔ ∃ agentId, folderName ∈ agentSkills agentId := by
  rw [skillNames, List.mem_flatMap]
  constructor
  · rintro ⟨agentId, -, member⟩
    exact ⟨agentId, member⟩
  · rintro ⟨agentId, member⟩
    exact ⟨agentId, mem_runtimeAgentIds_of_expectedOwner (expectedOwner_eq_some_iff.mpr member),
      member⟩

section Catalogue

variable {safeLoad : List Char → Except RegistryProblem Value} {dir : SkillsDir}
  {paths : ProjectPaths}

/-- What the directory has to have for one skill. -/
private theorem exists_lists_iff {folderName agentId : String}
    (member : folderName ∈ agentSkills agentId) :
    (∃ skill, Lists safeLoad paths (skillDirMap dir) folderName skill) ↔
      ∃ text, (folderName, some (.ok text)) ∈ dir.folders ∧
        IsSkillFile safeLoad folderName agentId text := by
  have expected := expectedOwner_eq_some_iff.mpr member
  simp only [Lists, get?_skillDirMap_eq_some_iff, expected, Option.some.injEq]
  constructor
  · rintro ⟨skill, file, _, found, parsed, rfl, fits⟩
    cases file with
    | error problem => cases parsed
    | ok text => exact ⟨text, found, isSkillFile_iff.mpr ⟨skill, parsed, fits⟩⟩
  · rintro ⟨text, found, isFile⟩
    obtain ⟨skill, parsed, fits⟩ := isSkillFile_iff.mp isFile
    exact ⟨skill, .ok text, _, found, parsed, rfl, fits⟩

private theorem exists_checkFolders_iff :
    (∃ discovered, checkFolders safeLoad paths (skillDirMap dir) [] skillNames =
        .ok (discovered, [])) ↔
      ∀ agentId, ∀ folderName ∈ agentSkills agentId, ∃ text,
        (folderName, some (.ok text)) ∈ dir.folders ∧
          IsSkillFile safeLoad folderName agentId text := by
  simp only [checkFolders_eq_nil_iff nodup_skillNames (fun _ _ => List.not_mem_nil)]
  constructor
  · rintro ⟨discovered, matched⟩ agentId folderName member
    obtain ⟨skill, -, listed⟩ :=
      exists_of_mem_left matched (mem_skillNames_iff.mpr ⟨agentId, member⟩)
    exact (exists_lists_iff member).mp ⟨skill, listed⟩
  · intro each
    refine exists_forall₂ (fun folderName known => ?_)
    obtain ⟨agentId, member⟩ := mem_skillNames_iff.mp known
    exact (exists_lists_iff member).mpr (each agentId folderName member)

private theorem no_orphan_iff :
    ((OrderedDict.keys (skillDirMap dir)).filter (· ∉ skillNames)).insertionSort
        (fun left right => left ≤ right) = [] ↔
      ∀ folderName file, (folderName, some file) ∈ dir.folders → folderName ∈ skillNames := by
  rw [← List.length_eq_zero_iff, List.length_insertionSort, List.length_eq_zero_iff,
    List.filter_eq_nil_iff]
  simp only [OrderedDict.keys, skillDirMap, List.mem_map, List.mem_filterMap,
    Option.map_eq_some_iff, decide_not, Bool.not_eq_true', decide_eq_false_iff_not, not_not]
  constructor
  · intro each folderName file member
    exact each folderName ⟨_, ⟨_, member, file, rfl, rfl⟩, rfl⟩
  · rintro each _ ⟨_, ⟨⟨folderName, _⟩, member, file, rfl, rfl⟩, rfl⟩
    exact each folderName file member

end Catalogue

/-- A valid report names the skills of the catalogue. -/
theorem skillNames_of_valid
    {safeLoad : List Char → Except RegistryProblem Value} {dir : SkillsDir}
    {paths : ProjectPaths} {renderedConfig : Option Section} {report : SkillValidationReport}
    (checked : validateSkills safeLoad dir paths renderedConfig = .ok report)
    (valid : report.valid = true) : report.skillNames = skillNames := by
  simp only [validateSkills, except_bind_eq_ok, except_mapError_eq_ok, Except.ok.injEq] at checked
  obtain ⟨⟨discovered, issues⟩, checked, runtimeIssues, -, rfl⟩ := checked
  simp only [Bool.and_eq_true, List.isEmpty_iff, List.append_eq_nil_iff] at valid
  obtain ⟨⟨rfl, -⟩, -⟩ := valid
  have matched := (checkFolders_eq_nil_iff nodup_skillNames (fun _ _ => List.not_mem_nil)).mp
    checked
  have same : List.Forall₂ (· = ·) skillNames (discovered.map SkillDocument.name) :=
    List.forall₂_map_right_iff.mpr (matched.imp (fun _ _ listed => (name_of_lists listed).symm))
  rw [List.forall₂_eq_eq_eq] at same
  exact same.symm

/-- The validation finds nothing exactly in a catalogue where every skill of every
agent has its file, no other folder has one, and the configuration is one that the
checks of the configuration accept. -/
theorem skills_valid_iff
    (safeLoad : List Char → Except RegistryProblem Value) (dir : SkillsDir)
    (paths : ProjectPaths) (renderedConfig : Option Section) :
    (∃ report, validateSkills safeLoad dir paths renderedConfig = .ok report ∧
        report.valid = true) ↔
      (∀ agentId, ∀ folderName ∈ agentSkills agentId, ∃ text,
        (folderName, some (.ok text)) ∈ dir.folders ∧
          IsSkillFile safeLoad folderName agentId text) ∧
      (∀ folderName file, (folderName, some file) ∈ dir.folders → folderName ∈ skillNames) ∧
      ∀ config ∈ renderedConfig, (Schema.object (configFields paths deniedOf)).Accepts
        (.dict config) := by
  rw [← @exists_checkFolders_iff _ _ paths, ← no_orphan_iff, ← runtimeSkillIssues_eq_nil_iff]
  simp only [validateSkills, except_bind_eq_ok, except_mapError_eq_ok, Except.ok.injEq]
  constructor
  · rintro ⟨_, ⟨⟨discovered, issues⟩, checked, runtimeIssues, configured, rfl⟩, valid⟩
    simp only [Bool.and_eq_true, List.isEmpty_iff, List.append_eq_nil_iff, List.map_eq_nil_iff]
      at valid
    obtain ⟨⟨rfl, orphans⟩, rfl⟩ := valid
    exact ⟨⟨discovered, checked⟩, orphans, configured⟩
  · rintro ⟨⟨discovered, checked⟩, orphans, configured⟩
    exact ⟨_, ⟨(discovered, []), checked, [], configured, rfl⟩, by simpa using orphans⟩

end SuperAdvisor.Skills
