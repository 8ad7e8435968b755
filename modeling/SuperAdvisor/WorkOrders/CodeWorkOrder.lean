import SuperAdvisor.Foundation.ShownText

/-!
# Code work orders

A work order is decoded by coercing each of its nine fields before the rules
are checked.  The coercions let values of other kinds through, and `list`
raises an exception of its own.
-/

namespace SuperAdvisor.WorkOrders

open Python

inductive WorkOrderFailure where
  | codeWorkOrder (message : String)
  | python (failure : Failure)
  deriving DecidableEq

/-- The nine fields, in the order of the class. -/
inductive Field where
  | baselineCommit
  | scope
  | intent
  | description
  | acceptanceCriteria
  | humanReleaseGateRequired
  | initiatedBy
  | taskId
  | worktreePath
  deriving DecidableEq

def Field.name : Field → String
  | .baselineCommit => "baseline_commit"
  | .scope => "scope"
  | .intent => "intent"
  | .description => "description"
  | .acceptanceCriteria => "acceptance_criteria"
  | .humanReleaseGateRequired => "human_release_gate_required"
  | .initiatedBy => "initiated_by"
  | .taskId => "task_id"
  | .worktreePath => "worktree_path"

def Field.all : List Field :=
  [.baselineCommit, .scope, .intent, .description, .acceptanceCriteria,
    .humanReleaseGateRequired, .initiatedBy, .taskId, .worktreePath]

theorem Field.mem_all (field : Field) : field ∈ Field.all := by
  cases field <;> decide

/-- The arguments of the constructor; the entries of the lists have any type. -/
structure WorkOrderFields where
  baselineCommit : String
  scope : List Value
  intent : String
  description : String
  acceptanceCriteria : List Value
  humanReleaseGateRequired : Bool
  initiatedBy : String
  taskId : String
  worktreePath : String

/-- The message of a rule that fails. -/
def ruleError (failed : Prop) [Decidable failed] (message : String) : List String :=
  if failed then [message] else []

theorem ruleError_eq_nil_iff {failed : Prop} [Decidable failed] {message : String} :
    ruleError failed message = [] ↔ ¬failed := by
  unfold ruleError
  split <;> simp [*]

namespace WorkOrderFields

variable (fields : WorkOrderFields)

/-- The errors `__post_init__` collects. -/
def errors : List String :=
  ruleError (fields.baselineCommit = "" ∨ fields.baselineCommit.length < 7)
      "baseline_commit must be a non-empty git SHA (min 7 chars)" ++
    ruleError (fields.scope = []) "scope must contain at least one file path or module name" ++
    ruleError (fields.intent ≠ "APPLY_IMPROVEMENT")
      ("intent must be 'APPLY_IMPROVEMENT', got " ++ quotedText fields.intent) ++
    ruleError (strip fields.description = "") "description must be a non-empty string" ++
    ruleError (fields.acceptanceCriteria = [])
      "acceptance_criteria must contain at least one criterion" ++
    ruleError (fields.humanReleaseGateRequired = false)
      "human_release_gate_required must be True" ++
    ruleError (fields.initiatedBy ≠ "super-advisor")
      ("initiated_by must be 'super-advisor', got " ++ quotedText fields.initiatedBy) ++
    ruleError (strip fields.taskId = "") "task_id must be a non-empty string" ++
    ruleError (strip fields.worktreePath = "") "worktree_path must be a non-empty absolute path"

def toDict : List (String × Value) :=
  [("baseline_commit", .str fields.baselineCommit),
    ("scope", .list fields.scope),
    ("intent", .str fields.intent),
    ("description", .str fields.description),
    ("acceptance_criteria", .list fields.acceptanceCriteria),
    ("human_release_gate_required", .bool fields.humanReleaseGateRequired),
    ("initiated_by", .str fields.initiatedBy),
    ("task_id", .str fields.taskId),
    ("worktree_path", .str fields.worktreePath)]

end WorkOrderFields

/-- A work order that has passed the rules. -/
structure CodeWorkOrder extends WorkOrderFields where
  checked : toWorkOrderFields.errors = []

/-- The constructor, with the check behind it. -/
def CodeWorkOrder.construct (fields : WorkOrderFields) : Except WorkOrderFailure CodeWorkOrder :=
  if checked : fields.errors = [] then .ok ⟨fields, checked⟩
  else .error (.codeWorkOrder ("; ".intercalate fields.errors))

/-- `data[field]`, of a field that is present. -/
def item (data : List (String × Value)) (field : Field) : Value :=
  (OrderedDict.get? data field.name).getD .none

/-- The arguments from the items; only `list` may raise. -/
def coerce (value : Field → Value) : Except Failure WorkOrderFields := do
  let scope ← listOf (value .scope)
  let acceptanceCriteria ← listOf (value .acceptanceCriteria)
  return {
    baselineCommit := (value .baselineCommit).text
    scope := scope
    intent := (value .intent).text
    description := (value .description).text
    acceptanceCriteria := acceptanceCriteria
    humanReleaseGateRequired := (value .humanReleaseGateRequired).truthy
    initiatedBy := (value .initiatedBy).text
    taskId := (value .taskId).text
    worktreePath := (value .worktreePath).text }

def missing (data : List (String × Value)) : List String :=
  (Field.all.map Field.name).filter (fun name => !OrderedDict.contains data name)

def CodeWorkOrder.fromDict (data : List (String × Value)) :
    Except WorkOrderFailure CodeWorkOrder :=
  if missing data ≠ [] then
    .error (.codeWorkOrder
      ("CodeWorkOrder missing required fields: " ++ ", ".intercalate (missing data)))
  else
    match coerce (item data) with
    | .error failure => .error (.python failure)
    | .ok fields => CodeWorkOrder.construct fields

/-! What the decoder is to accept. -/

def IsText (accepts : String → Prop) (value : Value) : Prop :=
  ∃ text, value = .str text ∧ accepts text

/-- A non-empty list of strings. -/
def IsTexts (value : Value) : Prop :=
  ∃ texts : List String, texts ≠ [] ∧ value = .list (texts.map Value.str)

/-- All nine fields have their types and meet the rules. -/
structure WellFormed (data : List (String × Value)) : Prop where
  present : ∀ field : Field, OrderedDict.contains data field.name = true
  baselineCommit : IsText (fun text => 7 ≤ text.length) (item data .baselineCommit)
  scope : IsTexts (item data .scope)
  intent : item data .intent = .str "APPLY_IMPROVEMENT"
  description : IsText (fun text => strip text ≠ "") (item data .description)
  acceptanceCriteria : IsTexts (item data .acceptanceCriteria)
  humanReleaseGateRequired : item data .humanReleaseGateRequired = .bool true
  initiatedBy : item data .initiatedBy = .str "super-advisor"
  taskId : IsText (fun text => strip text ≠ "") (item data .taskId)
  worktreePath : IsText (fun text => text.toList.head? = some '/') (item data .worktreePath)

/-- Exactly a well-formed object is accepted, and comes back from `toDict`; any
other one raises the error of the class. -/
structure DecodesAsStated (data : List (String × Value)) : Prop where
  accepted : WellFormed data → ∃ order, CodeWorkOrder.fromDict data = .ok order
  refused : ¬WellFormed data →
    ∃ message, CodeWorkOrder.fromDict data = .error (.codeWorkOrder message)
  kept : ∀ order, CodeWorkOrder.fromDict data = .ok order →
    order.toDict = Field.all.map (fun field => (field.name, item data field))

/-- A value that `list` takes. -/
def Iterable : Value → Prop
  | .str _ | .list _ | .tuple _ | .dict _ => True
  | _ => False

/-- A rule that the items fail whatever kind of value they are. -/
def FailsRule (value : Field → Value) : Prop :=
  (value .baselineCommit).text.length < 7 ∨
    (value .scope).truthy = false ∨
    value .intent ≠ .str "APPLY_IMPROVEMENT" ∨
    IsText (fun text => strip text = "") (value .description) ∨
    (value .acceptanceCriteria).truthy = false ∨
    (value .humanReleaseGateRequired).truthy = false ∨
    value .initiatedBy ≠ .str "super-advisor" ∨
    IsText (fun text => strip text = "") (value .taskId) ∨
    IsText (fun text => strip text = "") (value .worktreePath)

/-! The decoder by cases. -/

section Cases

variable {data : List (String × Value)}

theorem missing_eq_nil_iff :
    missing data = [] ↔ ∀ field : Field, OrderedDict.contains data field.name = true := by
  simp only [missing, List.filter_eq_nil_iff, List.forall_mem_map, Bool.not_eq_true,
    Bool.not_eq_false']
  exact ⟨fun each field => each field field.mem_all, fun each field _ => each field⟩

theorem iterable_iff (value : Value) :
    Iterable value ↔ ∃ items, listOf value = .ok items := by
  cases value <;> simp [Iterable, listOf]

theorem coerce_eq_ok_iff {value : Field → Value} {fields : WorkOrderFields} :
    coerce value = .ok fields ↔
      ∃ scope criteria, listOf (value .scope) = .ok scope ∧
        listOf (value .acceptanceCriteria) = .ok criteria ∧
        fields = {
          baselineCommit := (value .baselineCommit).text
          scope := scope
          intent := (value .intent).text
          description := (value .description).text
          acceptanceCriteria := criteria
          humanReleaseGateRequired := (value .humanReleaseGateRequired).truthy
          initiatedBy := (value .initiatedBy).text
          taskId := (value .taskId).text
          worktreePath := (value .worktreePath).text } := by
  unfold coerce
  cases listed : listOf (value .scope) with
  | error failure => simp [bind, Except.bind]
  | ok scope =>
      cases others : listOf (value .acceptanceCriteria) with
      | error failure => simp [bind, Except.bind]
      | ok criteria =>
          simp only [bind, Except.bind, pure, Except.pure, Except.ok.injEq]
          constructor
          · rintro rfl
            exact ⟨scope, criteria, rfl, rfl, rfl⟩
          · rintro ⟨_, _, rfl, rfl, rfl⟩
            rfl

private theorem eq_nil_iff_of_listOf
    {value : Value} {items : List Value} (listed : listOf value = .ok items) :
    items = [] ↔ value.truthy = false := by
  rcases listOf_cases value with ⟨others, same, empty⟩ | ⟨message, raised⟩
  · rw [listed] at same
    rw [Except.ok.inj same, empty]
  · rw [listed] at raised
    cases raised

/-- The coerced items fail a rule exactly if the items do. -/
theorem errors_coerce_iff
    {value : Field → Value} {fields : WorkOrderFields} (coerced : coerce value = .ok fields) :
    fields.errors ≠ [] ↔ FailsRule value := by
  obtain ⟨scope, criteria, listed, others, rfl⟩ := coerce_eq_ok_iff.mp coerced
  have intent : (value .intent).text = "APPLY_IMPROVEMENT" ↔ _ :=
    @text_eq_iff _ _ 'A' rfl rfl
  have initiatedBy : (value .initiatedBy).text = "super-advisor" ↔ _ :=
    @text_eq_iff _ _ 's' rfl rfl
  have short : ∀ text : String, text = "" ∨ text.length < 7 ↔ text.length < 7 := by
    intro text
    refine ⟨?_, Or.inr⟩
    rintro (rfl | shorter)
    · decide
    · exact shorter
  simp only [WorkOrderFields.errors, ne_eq, List.append_eq_nil_iff, ruleError_eq_nil_iff,
    eq_nil_iff_of_listOf listed, eq_nil_iff_of_listOf others, intent, initiatedBy,
    strip_text_eq_empty_iff, short, FailsRule, IsText, not_and_or, not_not, or_assoc]

/-- A well-formed object is coerced to its own fields. -/
theorem coerce_of_wellFormed (wellFormed : WellFormed data) :
    ∃ fields, coerce (item data) = .ok fields ∧ fields.errors = [] ∧
      fields.toDict = Field.all.map (fun field => (field.name, item data field)) := by
  obtain ⟨-, ⟨baselineCommit, baselineItem, long⟩, ⟨scope, someScope, scopeItem⟩, intent,
    ⟨description, descriptionItem, described⟩, ⟨criteria, someCriteria, criteriaItem⟩, gate, initiatedBy,
    ⟨taskId, taskItem, named⟩, ⟨worktreePath, pathItem, absolute⟩⟩ := wellFormed
  have solid : strip worktreePath ≠ "" := by
    intro blank
    have space := (strip_eq_empty_iff worktreePath).mp blank '/' (List.mem_of_head? absolute)
    exact absurd space (by decide)
  have coerced := coerce_eq_ok_iff.mpr
    ⟨_, _, congrArg listOf scopeItem, congrArg listOf criteriaItem, rfl⟩
  refine ⟨_, coerced, ?_, ?_⟩
  · by_contra errors
    have fails := (errors_coerce_iff coerced).mp errors
    simp [FailsRule, IsText, baselineItem, scopeItem, intent, descriptionItem, criteriaItem, gate,
      initiatedBy, taskItem, pathItem, Value.text, Value.truthy, someScope, someCriteria, described, named,
      solid] at fails
    omega
  · simp [WorkOrderFields.toDict, Field.all, Field.name, baselineItem, scopeItem, intent,
      descriptionItem, criteriaItem, gate, initiatedBy, taskItem, pathItem, Value.text,
      Value.truthy]

theorem fromDict_of_missing
    {field : Field} (absent : OrderedDict.contains data field.name = false) :
    ∃ message, CodeWorkOrder.fromDict data = .error (.codeWorkOrder message) := by
  have some : missing data ≠ [] := by
    intro none
    rw [missing_eq_nil_iff.mp none field] at absent
    cases absent
  exact ⟨_, if_pos some⟩

theorem fromDict_of_present
    (present : ∀ field : Field, OrderedDict.contains data field.name = true) :
    CodeWorkOrder.fromDict data =
      match coerce (item data) with
      | .error failure => .error (.python failure)
      | .ok fields => CodeWorkOrder.construct fields :=
  if_neg (not_not_intro (missing_eq_nil_iff.mpr present))

/-- Once coerced, an object is accepted if no rule fails. -/
theorem decodesAsStated_of_coerced
    (present : ∀ field : Field, OrderedDict.contains data field.name = true)
    {fields : WorkOrderFields} (coerced : coerce (item data) = .ok fields) :
    DecodesAsStated data ↔ WellFormed data ∨ FailsRule (item data) := by
  have decoded := fromDict_of_present present
  rw [coerced] at decoded
  rw [← errors_coerce_iff coerced]
  by_cases checked : fields.errors = []
  · have accepted : CodeWorkOrder.fromDict data = .ok ⟨fields, checked⟩ := by
      simpa [CodeWorkOrder.construct, checked] using decoded
    constructor
    · intro stated
      by_contra neither
      obtain ⟨message, refused⟩ := stated.refused (fun holds => neither (.inl holds))
      rw [accepted] at refused
      cases refused
    · rintro (wellFormed | errors)
      · obtain ⟨others, again, -, kept⟩ := coerce_of_wellFormed wellFormed
        rw [coerced] at again
        obtain rfl := Except.ok.inj again
        refine ⟨fun _ => ⟨_, accepted⟩, fun refused => absurd wellFormed refused, ?_⟩
        intro order same
        rw [accepted] at same
        exact Except.ok.inj same ▸ kept
      · exact absurd checked errors
  · have refused : CodeWorkOrder.fromDict data =
        .error (.codeWorkOrder ("; ".intercalate fields.errors)) := by
      simpa [CodeWorkOrder.construct, checked] using decoded
    refine iff_of_true ⟨fun wellFormed => ?_, fun _ => ⟨_, refused⟩, fun order same => ?_⟩
      (.inr checked)
    · obtain ⟨others, again, sound, -⟩ := coerce_of_wellFormed wellFormed
      rw [coerced] at again
      exact absurd (Except.ok.inj again ▸ sound) checked
    · rw [refused] at same
      cases same

end Cases

/-- The scope is one string, the gate the text of a refusal. -/
def looseOrder : List (String × Value) :=
  [("baseline_commit", .str "3d1f0a7"), ("scope", .str "src"),
    ("intent", .str "APPLY_IMPROVEMENT"), ("description", .str "fix"),
    ("acceptance_criteria", .list [.str "tests pass"]),
    ("human_release_gate_required", .str "no"), ("initiated_by", .str "super-advisor"),
    ("task_id", .str "task-1"), ("worktree_path", .str "worktree")]

end SuperAdvisor.WorkOrders
