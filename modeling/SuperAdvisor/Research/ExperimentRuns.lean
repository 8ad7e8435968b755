import SuperAdvisor.Foundation.Machine
import SuperAdvisor.Foundation.Raising
import SuperAdvisor.Foundation.RecordFiles
import SuperAdvisor.Foundation.Walks
import SuperAdvisor.Research.ExperimentRecords

/-!
# Histories of experiments

A call of the store raises and leaves the files as they were, or writes the
record it returns.  So every stored record is what some call has made of a
record read before, and its transitions are a walk in the table of allowed
transitions.
-/

namespace SuperAdvisor.Research

open Python Machine Raising Walks

variable {library : ExperimentLibrary}

namespace ExperimentStore

/-! One call. -/

theorem write_cases (library : ExperimentLibrary) (experiment : Experiment)
    (store : ExperimentStore) :
    (∃ problem, (write library experiment).run store = .error problem store) ∨
    ∃ file text hash, (write library experiment).run store =
        .ok ⟨⟩ (OrderedDict.set store file text) ∧
      library.fileOf experiment.experimentId = some file ∧
      Experiment.ofText text = .ok (experiment.stored hash) := by
  cases hashed : recordFingerprint library experiment.toDict with
  | error problem => exact .inl ⟨problem, by simp [write, run_ofExcept, hashed]⟩
  | ok hash =>
  cases dumped : dumpsIndented recordOptions
      (.dict (named (experiment.toDict ++ [("integrity_hash", .str hash)]))) with
  | error problem =>
      exact .inl ⟨.json problem, by
        simp [write, run_ofExcept, hashed, dumped, Except.mapError, -named_cons]⟩
  | ok text =>
  cases opened : library.fileOf experiment.experimentId with
  | none =>
      refine .inl ⟨.fileNotFound, ?_⟩
      simp [write, run_ofExcept, hashed, dumped, opened, Except.mapError, -named_cons]
  | some file =>
      refine .inr ⟨file, text ++ ['\n'], hash, ?_, rfl, ofText_written dumped⟩
      simp [write, run_ofExcept, hashed, dumped, opened, Except.mapError, -named_cons]

/-- A record without a result is written if its file can be opened. -/
theorem write_returns
    {experiment : Experiment} {file : String}
    (opened : library.fileOf experiment.experimentId = some file)
    (plain : experiment.result = none) (store : ExperimentStore) :
    ∃ text hash, (write library experiment).run store =
        .ok ⟨⟩ (OrderedDict.set store file text) ∧
      Experiment.ofText text = .ok (experiment.stored hash) := by
  obtain ⟨hash, hashed⟩ := exists_fingerprint library plain
  obtain ⟨text, dumped⟩ := exists_payload plain hash
  refine ⟨text ++ ['\n'], hash, ?_, ofText_written dumped⟩
  simp [write, run_ofExcept, hashed, dumped, opened, Except.mapError, -named_cons]

/-- What a call makes of the store it meets. -/
def Makes (library : ExperimentLibrary) (store : ExperimentStore) : Call → Experiment → Prop
  | .create creation now, experiment => experiment = creation.experiment now
  | .transition move now, experiment =>
      ∃ read, load library store move.experimentId = .ok read ∧ checkMove read move = .ok () ∧
        experiment = moved read move now

/-- A call raises and leaves the files alone, or writes the record it returns. -/
theorem step_cases (library : ExperimentLibrary) (store : ExperimentStore) (call : Call) :
    (∃ problem, step library store call = (.error problem, store)) ∨
    ∃ experiment file text hash,
      step library store call = (.ok experiment, OrderedDict.set store file text) ∧
      Makes library store call experiment ∧
      library.fileOf experiment.experimentId = some file ∧
      Experiment.ofText text = .ok (experiment.stored hash) := by
  cases call with
  | create creation now =>
      rcases write_cases library (creation.experiment now) store with
        ⟨problem, ran⟩ | ⟨file, text, hash, ran, opened, read⟩
      · exact .inl ⟨problem, by simp [step, Call.perform, create, ran, -bind_pure_comp]⟩
      · refine .inr ⟨_, file, text, hash, ?_, rfl, opened, read⟩
        simp [step, Call.perform, create, ran, -bind_pure_comp]
  | transition move now =>
      cases found : load library store move.experimentId with
      | error problem =>
          exact .inl ⟨problem, by simp [step, Call.perform, transition, run_ofExcept, found]⟩
      | ok experiment =>
      cases checked : checkMove experiment move with
      | error problem =>
          exact .inl ⟨problem, by
            simp [step, Call.perform, transition, run_ofExcept, found, checked]⟩
      | ok =>
      rcases write_cases library (moved experiment move now) store with
        ⟨problem, ran⟩ | ⟨file, text, hash, ran, opened, read⟩
      · exact .inl ⟨problem, by
          simp [step, Call.perform, transition, run_ofExcept, found, checked, ran,
          -bind_pure_comp]⟩
      · refine .inr ⟨_, file, text, hash, ?_, ⟨experiment, found, checked, rfl⟩, opened, read⟩
        simp [step, Call.perform, transition, run_ofExcept, found, checked, ran,
          -bind_pure_comp]

/-- A call that makes a record without a result writes it. -/
theorem step_returns
    {store : ExperimentStore} {call : Call} {experiment : Experiment} {file : String}
    (makes : Makes library store call experiment)
    (opened : library.fileOf experiment.experimentId = some file)
    (plain : experiment.result = none) :
    ∃ text hash, step library store call = (.ok experiment, OrderedDict.set store file text) ∧
      Experiment.ofText text = .ok (experiment.stored hash) := by
  obtain ⟨text, hash, ran, read⟩ := write_returns opened plain store
  refine ⟨text, hash, ?_, read⟩
  cases call with
  | create creation now =>
      obtain rfl : experiment = creation.experiment now := makes
      simp [step, Call.perform, create, ran, -bind_pure_comp]
  | transition move now =>
      obtain ⟨before, found, checked, rfl⟩ := makes
      simp [step, Call.perform, transition, run_ofExcept, found, checked, ran, -bind_pure_comp]

/-! Whole runs. -/

/-- Every stored record is good. -/
def Holds (library : ExperimentLibrary) (good : Experiment → Prop) : ExperimentStore → Prop :=
  RecordFiles.Holds Experiment.ofText (fun experiment => library.fileOf experiment.experimentId)
    good

theorem Holds.of_load
    {good : Experiment → Prop} {store : ExperimentStore} (holds : Holds library good store)
    {experimentId : String} {experiment : Experiment}
    (found : load library store experimentId = .ok experiment) :
    library.fileOf experiment.experimentId = library.fileOf experimentId ∧ good experiment := by
  unfold load at found
  split at found
  next => cases found
  next text bound =>
    obtain ⟨file, opened, stored⟩ := Option.bind_eq_some_iff.mp bound
    obtain ⟨own, fine⟩ := RecordFiles.Holds.of_get holds stored found
    exact ⟨own.trans opened.symm, fine⟩

/-- What new records have and guarded moves keep, every stored record has. -/
theorem holds_final
    {good : Experiment → Prop} {guard : Call → Prop}
    (created : ∀ (creation : Creation) now hash, good ((creation.experiment now).stored hash))
    (kept : ∀ experiment move now hash, guard (.transition move now) → good experiment →
      checkMove experiment move = .ok () → good ((moved experiment move now).stored hash))
    (calls : List Call) (guarded : ∀ call ∈ calls, guard call) :
    Holds library good (final (step library) [] calls) := by
  refine @trace_invariant_of_guard _ _ _ (step library) (fun _ store => Holds library good store)
    guard ?_ [] [] RecordFiles.holds_nil calls guarded
  intro _ store call guarded holds
  rcases step_cases library store call with
    ⟨problem, ran⟩ | ⟨experiment, file, text, hash, ran, makes, opened, read⟩
  · simpa [ran] using holds
  have fine : good (experiment.stored hash) := by
    cases call with
    | create creation now =>
        obtain rfl : experiment = creation.experiment now := makes
        exact created creation now hash
    | transition move now =>
        obtain ⟨before, found, checked, rfl⟩ := makes
        exact kept before move now hash guarded (holds.of_load found).2 checked
  rw [ran]
  exact RecordFiles.Holds.set holds read opened fine

theorem checkMove_eq_ok {experiment : Experiment} {move : Move} :
    checkMove experiment move = .ok () ↔
      experiment.state ∉ terminalStates ∧ move.toState ∈ allowedFrom experiment.state ∧
        ¬(move.toState ∈ ["RELEASED", "HUMAN_RELEASE_GATE"] ∧
          move.reviewer = some experiment.proposerAgent) := by
  unfold checkMove
  split
  next ended => simp [ended]
  next active =>
  split
  next refused => simp [refused]
  next allowed =>
  split
  next own => simp [own]
  next other => simpa using ⟨active, by simpa using allowed, by simpa using other⟩

end ExperimentStore

/-! The walk of an experiment. -/

def Allowed (before after : String) : Prop :=
  after ∈ allowedFrom before

def ExperimentTransition.move (transition : ExperimentTransition) : String × String :=
  (transition.fromState, transition.toState)

/-- The transitions lead from the first state to the current one. -/
def Experiment.Walked (experiment : Experiment) : Prop :=
  IsWalk Allowed "OBSERVATION" (experiment.transitions.map ExperimentTransition.move)
    experiment.state

/-- The states that end in a release. -/
def releaseRoute : List String :=
  ["DATA_VALIDATED", "BACKTEST_RUNNING", "RESULT_REVIEW", "APPROVED_CANDIDATE",
    "ISOLATED_PATCH", "REGRESSION_TEST", "SECURITY_REVIEW", "RELEASE_PROPOSAL",
    "HUMAN_RELEASE_GATE", "RELEASED"]

theorem forced_of_table
    {before after : String}
    (only : ∀ entry ∈ allowedTransitions, after ∈ entry.2 → entry.1 = before) :
    Forced Allowed before after := by
  intro state allowed
  unfold Allowed allowedFrom at allowed
  cases found : OrderedDict.get? allowedTransitions state with
  | none => simp [found] at allowed
  | some targets =>
      exact only (state, targets) (OrderedDict.mem_of_get? found) (by simpa [found] using allowed)

theorem forced_releaseRoute : releaseRoute.IsChain (Forced Allowed) := by
  have table : releaseRoute.IsChain (fun before after =>
      ∀ entry ∈ allowedTransitions, after ∈ entry.2 → entry.1 = before) := by
    decide
  exact table.imp (fun _ _ only => forced_of_table only)

theorem Experiment.Walked.release
    {experiment : Experiment} (walked : experiment.Walked)
    (released : experiment.state = "RELEASED") :
    releaseRoute <:+ experiment.transitions.map ExperimentTransition.toState := by
  have suffix := suffix_of_forced forced_releaseRoute (by decide) walked (by rw [released]; rfl)
  simpa [ExperimentTransition.move, Function.comp_def] using suffix

theorem walked_moved
    {experiment : Experiment} {move : ExperimentStore.Move} (now hash : String)
    (walked : experiment.Walked) (checked : ExperimentStore.checkMove experiment move = .ok ()) :
    ((ExperimentStore.moved experiment move now).stored hash).Walked := by
  have allowed := (ExperimentStore.checkMove_eq_ok.mp checked).2.1
  unfold Experiment.Walked
  simp only [Experiment.stored, ExperimentStore.moved, List.map_append, List.map_cons,
    List.map_nil]
  exact isWalk_concat_iff.mpr ⟨walked, allowed, rfl⟩

theorem walked_final (library : ExperimentLibrary) (calls : List ExperimentStore.Call) :
    ExperimentStore.Holds library Experiment.Walked
      (final (ExperimentStore.step library) [] calls) :=
  @ExperimentStore.holds_final library Experiment.Walked (fun _ => True)
    (fun _ _ _ => isWalk_nil_iff.mpr rfl)
    (fun _ _ now hash _ walked checked => walked_moved now hash walked checked)
    calls (fun _ _ => trivial)

/-! What a load reads. -/

theorem load_of_fileOf
    {store : ExperimentStore} {experimentId file : String}
    (opened : library.fileOf experimentId = some file) :
    ExperimentStore.load library store experimentId =
      match OrderedDict.get? store file with
      | none => .error .fileNotFound
      | some text => Experiment.ofText text := by
  cases stored : OrderedDict.get? store file <;> simp [ExperimentStore.load, opened, stored]

/-- A load finds what a call has just written. -/
theorem load_written
    {store : ExperimentStore} {experimentId file : String} {text : List Char}
    (opened : library.fileOf experimentId = some file) :
    ExperimentStore.load library (OrderedDict.set store file text) experimentId =
      Experiment.ofText text := by
  rw [load_of_fileOf opened, OrderedDict.get?_set_self]

/-- A new record is written if its file can be opened. -/
theorem load_created
    (store : ExperimentStore) {creation : ExperimentStore.Creation} {file : String} (now : String)
    (opened : library.fileOf creation.experimentId = some file) :
    ∃ hash, ExperimentStore.load library
        (ExperimentStore.step library store (.create creation now)).2 creation.experimentId =
      .ok ((creation.experiment now).stored hash) := by
  obtain ⟨text, hash, ran, read⟩ := @ExperimentStore.step_returns library store
    (.create creation now) (creation.experiment now) file rfl opened rfl
  exact ⟨hash, by rw [ran, load_written opened, read]⟩

/-- The call event has written the record. -/
def writes (library : ExperimentLibrary) (file : String)
    (event : Event ExperimentStore ExperimentStore.Call (Except RecordProblem Experiment)) :
    Option Experiment :=
  match event.reply with
  | .ok experiment =>
      if library.fileOf experiment.experimentId = some file then some experiment else none
  | .error _ => none

/-- The record that the last successful call on a file has written. -/
def lastWritten (library : ExperimentLibrary)
    (past : List (Event ExperimentStore ExperimentStore.Call
      (Except RecordProblem Experiment))) (file : String) : Option Experiment :=
  past.reverse.findSome? (writes library file)

/-- A record and what a load gives back: the digest is left out of the
comparison, and a result may have other than JSON values. -/
structure Experiment.ReadBack (written loaded : Experiment) : Prop where
  fields : loaded = { written with result := loaded.result, integrityHash := loaded.integrityHash }
  result : (∀ entries, written.result = some entries → (Value.dict entries).IsJson) →
    loaded.result = written.result

theorem readBack_stored (experiment : Experiment) (hash : String) :
    experiment.ReadBack (experiment.stored hash) := by
  refine ⟨rfl, fun plain => ?_⟩
  cases found : experiment.result with
  | none => simp [Experiment.stored, found]
  | some entries =>
      have same := reload_of_isJson plain_recordOptions (plain entries found)
      simp [Experiment.stored, found, reloadEntries, same]

/-- A load gives back the record last written. -/
def LoadsLast (library : ExperimentLibrary)
    (past : List (Event ExperimentStore ExperimentStore.Call
      (Except RecordProblem Experiment))) (store : ExperimentStore) : Prop :=
  ∀ experimentId file, library.fileOf experimentId = some file →
    match lastWritten library past file with
    | none => ExperimentStore.load library store experimentId = .error .fileNotFound
    | some written => ∃ loaded,
        ExperimentStore.load library store experimentId = .ok loaded ∧ written.ReadBack loaded

theorem lastWritten_concat
    (past : List (Event ExperimentStore ExperimentStore.Call
      (Except RecordProblem Experiment))) (event) (file : String) :
    lastWritten library (past ++ [event]) file =
      (writes library file event).or (lastWritten library past file) := by
  cases written : writes library file event <;> simp [lastWritten, written]

theorem loadsLast_step
    (past : List (Event ExperimentStore ExperimentStore.Call
      (Except RecordProblem Experiment))) (store : ExperimentStore)
    (call : ExperimentStore.Call) (loads : LoadsLast library past store) :
    LoadsLast library (past ++ [eventOf (ExperimentStore.step library) store call])
      (ExperimentStore.step library store call).2 := by
  intro experimentId file opened
  have before := loads experimentId file opened
  rw [lastWritten_concat]
  rcases ExperimentStore.step_cases library store call with
    ⟨problem, ran⟩ | ⟨experiment, target, text, hash, ran, -, own, read⟩
  · simpa [writes, eventOf, ran] using before
  · rw [load_of_fileOf opened] at before ⊢
    by_cases same : target = file
    · subst same
      simpa [writes, eventOf, ran, own, OrderedDict.get?_set_self, read] using
        readBack_stored experiment hash
    · simpa [writes, eventOf, ran, own, same,
        OrderedDict.get?_set_of_ne _ _ (Ne.symm same)] using before

end SuperAdvisor.Research
