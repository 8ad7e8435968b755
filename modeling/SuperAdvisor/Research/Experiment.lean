import SuperAdvisor.Foundation.TypedFields

/-!
# The experiment store

An experiment is one file of indented JSON, named by its id.  Creating one
writes a new record; a transition loads the record, checks the move and writes
the record back.
-/

namespace SuperAdvisor.Research

open Python

def terminalStates : List String :=
  ["REJECTED", "RELEASED", "ROLLED_BACK"]

def allowedTransitions : List (String × List String) :=
  [("OBSERVATION", ["HYPOTHESIS", "REJECTED"]),
    ("HYPOTHESIS", ["EXPERIMENT_DESIGNED", "REJECTED"]),
    ("EXPERIMENT_DESIGNED", ["DATA_VALIDATED", "REJECTED"]),
    ("DATA_VALIDATED", ["BACKTEST_RUNNING", "REJECTED"]),
    ("BACKTEST_RUNNING", ["RESULT_REVIEW", "REJECTED"]),
    ("RESULT_REVIEW", ["REJECTED", "NEEDS_MORE_DATA", "APPROVED_CANDIDATE"]),
    ("NEEDS_MORE_DATA", ["DATA_VALIDATED", "REJECTED"]),
    ("APPROVED_CANDIDATE", ["ISOLATED_PATCH", "REJECTED"]),
    ("ISOLATED_PATCH", ["REGRESSION_TEST", "REJECTED"]),
    ("REGRESSION_TEST", ["SECURITY_REVIEW", "REJECTED"]),
    ("SECURITY_REVIEW", ["RELEASE_PROPOSAL", "REJECTED"]),
    ("RELEASE_PROPOSAL", ["HUMAN_RELEASE_GATE", "REJECTED"]),
    ("HUMAN_RELEASE_GATE", ["RELEASED", "REJECTED"]),
    ("RELEASED", ["ROLLED_BACK"]),
    ("REJECTED", []),
    ("ROLLED_BACK", [])]

/-- `ALLOWED_TRANSITIONS.get(state, frozenset())` -/
def allowedFrom (state : String) : List String :=
  (OrderedDict.get? allowedTransitions state).getD []

structure ExperimentTransition where
  fromState : String
  toState : String
  transitionedAtUtc : String
  agent : String
  reason : String
  reviewer : Option String
  evidenceIds : List String
  deriving DecidableEq

structure Experiment where
  experimentId : String
  correlationId : String
  hypothesis : String
  proposerAgent : String
  ownerAgent : String
  state : String
  createdAtUtc : String
  updatedAtUtc : String
  inputDataRange : TextDict
  datasetHash : String
  formulaVersion : String
  evidenceIds : List String
  transitions : List ExperimentTransition
  result : Option (List (Key × Value))
  failureReason : Option String
  reviewer : Option String
  rollbackReference : Option String
  integrityHash : String

def ExperimentTransition.toDict (transition : ExperimentTransition) : List (String × Value) :=
  [("from_state", .str transition.fromState),
    ("to_state", .str transition.toState),
    ("transitioned_at_utc", .str transition.transitionedAtUtc),
    ("agent", .str transition.agent),
    ("reason", .str transition.reason),
    ("reviewer", optionalText transition.reviewer),
    ("evidence_ids", textList transition.evidenceIds)]

def Experiment.toDict (experiment : Experiment) : List (String × Value) :=
  [("experiment_id", .str experiment.experimentId),
    ("correlation_id", .str experiment.correlationId),
    ("hypothesis", .str experiment.hypothesis),
    ("proposer_agent", .str experiment.proposerAgent),
    ("owner_agent", .str experiment.ownerAgent),
    ("state", .str experiment.state),
    ("created_at_utc", .str experiment.createdAtUtc),
    ("updated_at_utc", .str experiment.updatedAtUtc),
    ("input_data_range", experiment.inputDataRange.value),
    ("dataset_hash", .str experiment.datasetHash),
    ("formula_version", .str experiment.formulaVersion),
    ("evidence_ids", textList experiment.evidenceIds),
    ("transitions", .list (experiment.transitions.map (fun transition =>
      .dict (named transition.toDict)))),
    ("result", optionalDict experiment.result),
    ("failure_reason", optionalText experiment.failureReason),
    ("reviewer", optionalText experiment.reviewer),
    ("rollback_reference", optionalText experiment.rollbackReference)]

/-! Reading a record back. -/

/-- `ExperimentTransition(**data)` -/
def ExperimentTransition.ofDict (value : Value) :
    Except RecordProblem ExperimentTransition := do
  let data ← typedDict "transitions" value
  if !data.all (fun entry => decide (entry.1 ∈
      ["from_state", "to_state", "transitioned_at_utc", "agent", "reason", "reviewer",
        "evidence_ids"].map Key.str)) then
    .error .badArguments
  else
    let fromState ← readArgument data "from_state" >>= typedText "from_state"
    let toState ← readArgument data "to_state" >>= typedText "to_state"
    let transitionedAtUtc ←
      readArgument data "transitioned_at_utc" >>= typedText "transitioned_at_utc"
    let agent ← readArgument data "agent" >>= typedText "agent"
    let reason ← readArgument data "reason" >>= typedText "reason"
    let reviewer ← readArgument data "reviewer" >>= typedOptional "reviewer"
    let evidenceIds ← readArgument data "evidence_ids" >>= typedTexts "evidence_ids"
    .ok
      { fromState := fromState
        toState := toState
        transitionedAtUtc := transitionedAtUtc
        agent := agent
        reason := reason
        reviewer := reviewer
        evidenceIds := evidenceIds }

/-- `load`, once the file is read. -/
def Experiment.ofText (text : List Char) : Except RecordProblem Experiment := do
  let value ← match loads text with
    | some value => .ok value
    | none => .error .undecodable
  let data ← typedDict "data" value
  let items ← typedList "transitions" (getOr data "transitions" (.list []))
  let transitions ← items.mapM ExperimentTransition.ofDict
  let experimentId ← readItem data "experiment_id" >>= typedText "experiment_id"
  let correlationId ← readItem data "correlation_id" >>= typedText "correlation_id"
  let hypothesis ← readItem data "hypothesis" >>= typedText "hypothesis"
  let proposerAgent ← readItem data "proposer_agent" >>= typedText "proposer_agent"
  let ownerAgent ← readItem data "owner_agent" >>= typedText "owner_agent"
  let state ← readItem data "state" >>= typedText "state"
  let createdAtUtc ← readItem data "created_at_utc" >>= typedText "created_at_utc"
  let updatedAtUtc ← readItem data "updated_at_utc" >>= typedText "updated_at_utc"
  let inputDataRange ← typedTextDict "input_data_range" (getOr data "input_data_range" (.dict []))
  let datasetHash ← typedText "dataset_hash" (getOr data "dataset_hash" (.str ""))
  let formulaVersion ← typedText "formula_version" (getOr data "formula_version" (.str ""))
  let evidenceIds ← typedTexts "evidence_ids" (getOr data "evidence_ids" (.list []))
  let result ← typedOptionalDict "result" (getOr data "result" .none)
  let failureReason ← typedOptional "failure_reason" (getOr data "failure_reason" .none)
  let reviewer ← typedOptional "reviewer" (getOr data "reviewer" .none)
  let rollbackReference ←
    typedOptional "rollback_reference" (getOr data "rollback_reference" .none)
  let integrityHash ← typedText "integrity_hash" (getOr data "integrity_hash" (.str ""))
  .ok
    { experimentId := experimentId
      correlationId := correlationId
      hypothesis := hypothesis
      proposerAgent := proposerAgent
      ownerAgent := ownerAgent
      state := state
      createdAtUtc := createdAtUtc
      updatedAtUtc := updatedAtUtc
      inputDataRange := inputDataRange
      datasetHash := datasetHash
      formulaVersion := formulaVersion
      evidenceIds := evidenceIds
      transitions := transitions
      result := result
      failureReason := failureReason
      reviewer := reviewer
      rollbackReference := rollbackReference
      integrityHash := integrityHash }

/-! The store. -/

/-- The digest of a text, and the file that the path of an id names: none if it
cannot be opened. -/
structure ExperimentLibrary where
  sha256Hex : List Char → String
  fileOf : (experimentId : String) → Option String

/-- The files of the directory and their texts. -/
abbrev ExperimentStore := List (String × List Char)

def fingerprintOptions : DumpOptions :=
  { sortKeys := true
    allowNan := true
    spaced := true }

def recordOptions : DumpOptions :=
  { sortKeys := false
    allowNan := true
    spaced := true }

section Store

variable (library : ExperimentLibrary)

/-- `_fingerprint` -/
def recordFingerprint (data : List (String × Value)) : Except RecordProblem String := do
  let payload ← (dumps fingerprintOptions (.dict (named data))).mapError .json
  .ok (String.ofList ((library.sha256Hex payload).toList.take 16))

/-- Operations on the directory that may raise. -/
abbrev ExperimentM := EStateM RecordProblem ExperimentStore

namespace ExperimentStore

/-- `_write`: the text is complete before the file is opened. -/
def write (experiment : Experiment) : ExperimentM Unit := do
  let payload := experiment.toDict
  let hash ← ofExcept (recordFingerprint library payload)
  let text ← ofExcept ((dumpsIndented recordOptions
    (.dict (named (payload ++ [("integrity_hash", .str hash)])))).mapError .json)
  match library.fileOf experiment.experimentId with
  | none => throw .fileNotFound
  | some file => modify (fun store => OrderedDict.set store file (text ++ ['\n']))

/-- What `load` reads in a directory. -/
def load (store : ExperimentStore) (experimentId : String) :
    Except RecordProblem Experiment :=
  match (library.fileOf experimentId).bind (OrderedDict.get? store) with
  | none => .error .fileNotFound
  | some text => Experiment.ofText text

/-- The arguments of `create`. -/
structure Creation where
  experimentId : String
  correlationId : String
  hypothesis : String
  proposerAgent : String
  ownerAgent : String
  evidenceIds : List String
  inputDataRange : Option TextDict
  datasetHash : String
  formulaVersion : String

def Creation.experiment (creation : Creation) (now : String) : Experiment :=
  { experimentId := creation.experimentId
    correlationId := creation.correlationId
    hypothesis := creation.hypothesis
    proposerAgent := creation.proposerAgent
    ownerAgent := creation.ownerAgent
    state := "OBSERVATION"
    createdAtUtc := now
    updatedAtUtc := now
    inputDataRange := creation.inputDataRange.getD .empty
    datasetHash := creation.datasetHash
    formulaVersion := creation.formulaVersion
    evidenceIds := creation.evidenceIds
    transitions := []
    result := none
    failureReason := none
    reviewer := none
    rollbackReference := none
    integrityHash := "" }

def create (creation : Creation) (now : String) : ExperimentM Experiment := do
  let experiment := creation.experiment now
  write library experiment
  pure experiment

/-- The arguments of `transition`. -/
structure Move where
  experimentId : String
  toState : String
  agent : String
  reason : String
  reviewer : Option String
  evidenceIds : Option (List String)
  result : Option (List (Key × Value))
  failureReason : Option String
  rollbackReference : Option String

/-- The checks of `transition`. -/
def checkMove (experiment : Experiment) (move : Move) : Except RecordProblem Unit :=
  if experiment.state ∈ terminalStates then
    .error (.valueError ("experiment " ++ quotedText move.experimentId ++
      " is in terminal state " ++ quotedText experiment.state))
  else if move.toState ∉ allowedFrom experiment.state then
    .error (.valueError ("invalid transition " ++ quotedText experiment.state ++ " → " ++
      quotedText move.toState ++ " for experiment " ++ quotedText move.experimentId))
  else if move.toState ∈ ["RELEASED", "HUMAN_RELEASE_GATE"] ∧
      move.reviewer = some experiment.proposerAgent then
    .error (.valueError ("agent " ++ quotedText experiment.proposerAgent ++
      " cannot approve their own experiment " ++ quotedText move.experimentId))
  else .ok ()

def moved (experiment : Experiment) (move : Move) (now : String) : Experiment :=
  { experiment with
    state := move.toState
    updatedAtUtc := now
    transitions := experiment.transitions ++
      [{ fromState := experiment.state
         toState := move.toState
         transitionedAtUtc := now
         agent := move.agent
         reason := move.reason
         reviewer := move.reviewer
         evidenceIds := move.evidenceIds.getD [] }]
    result := move.result.or experiment.result
    failureReason := move.failureReason.or experiment.failureReason
    reviewer := move.reviewer.or experiment.reviewer
    rollbackReference := move.rollbackReference.or experiment.rollbackReference }

def transition (move : Move) (now : String) : ExperimentM Experiment := do
  let store ← get
  let experiment ← ofExcept (load library store move.experimentId)
  ofExcept (checkMove experiment move)
  let changed := moved experiment move now
  write library changed
  pure changed

/-! A call of the store. -/

inductive Call where
  | create (creation : Creation) (now : String)
  | transition (move : Move) (now : String)

def Call.perform : Call → ExperimentM Experiment
  | .create creation now => ExperimentStore.create library creation now
  | .transition move now => ExperimentStore.transition library move now

def step (store : ExperimentStore) (call : Call) :
    Except RecordProblem Experiment × ExperimentStore :=
  match (call.perform library).run store with
  | .ok experiment after => (.ok experiment, after)
  | .error problem after => (.error problem, after)

end ExperimentStore

end Store

end SuperAdvisor.Research
