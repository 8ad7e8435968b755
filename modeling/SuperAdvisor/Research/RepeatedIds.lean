import SuperAdvisor.Research.IndependentReview

/-!
# Records that are only appended to

A transition extends the record it has read.  A creation does not look for an
earlier record: it writes over the one of a repeated id.  So the records of a
run only grow exactly if no creation meets a record that it would change.
-/

namespace SuperAdvisor.Research

open Python Machine Walks ExperimentStore

variable {library : ExperimentLibrary}

/-- A later record of the same experiment. -/
structure Experiment.Extends (later earlier : Experiment) : Prop where
  transitions : earlier.transitions <+: later.transitions
  proposer : later.proposerAgent = earlier.proposerAgent
  hypothesis : later.hypothesis = earlier.hypothesis
  correlation : later.correlationId = earlier.correlationId
  evidence : later.evidenceIds = earlier.evidenceIds
  ended : earlier.state ∈ terminalStates → later.state = earlier.state

theorem Experiment.Extends.refl (experiment : Experiment) : experiment.Extends experiment :=
  ⟨List.prefix_refl _, rfl, rfl, rfl, rfl, fun _ => rfl⟩

theorem Experiment.Extends.trans
    {first second third : Experiment} (later : third.Extends second)
    (earlier : second.Extends first) : third.Extends first :=
  { transitions := earlier.transitions.trans later.transitions
    proposer := later.proposer.trans earlier.proposer
    hypothesis := later.hypothesis.trans earlier.hypothesis
    correlation := later.correlation.trans earlier.correlation
    evidence := later.evidence.trans earlier.evidence
    ended := fun ended =>
      (later.ended ((earlier.ended ended).symm ▸ ended)).trans (earlier.ended ended) }

/-- Every record is still there, and only extended. -/
def AppendOnly (library : ExperimentLibrary) (before after : ExperimentStore) : Prop :=
  ∀ experimentId earlier, load library before experimentId = .ok earlier →
    ∃ later, load library after experimentId = .ok later ∧ later.Extends earlier

theorem AppendOnly.refl (store : ExperimentStore) : AppendOnly library store store :=
  fun _ experiment found => ⟨experiment, found, .refl experiment⟩

theorem AppendOnly.trans
    {first second third : ExperimentStore} (early : AppendOnly library first second)
    (late : AppendOnly library second third) : AppendOnly library first third := by
  intro experimentId experiment found
  obtain ⟨next, reached, extended⟩ := early experimentId experiment found
  obtain ⟨last, ends, further⟩ := late experimentId next reached
  exact ⟨last, ends, further.trans extended⟩

/-- A creation meets no record, or one that it does not change: without any
transition and with the same fields. -/
def SparesRecord (library : ExperimentLibrary) (store : ExperimentStore) : Call → Prop
  | .create creation _ =>
      ∀ experiment, load library store creation.experimentId = .ok experiment →
        experiment.transitions = [] ∧ creation.proposerAgent = experiment.proposerAgent ∧
          creation.hypothesis = experiment.hypothesis ∧
          creation.correlationId = experiment.correlationId ∧
          creation.evidenceIds = experiment.evidenceIds
  | .transition _ _ => True

theorem load_congr
    {store : ExperimentStore} {first second : String}
    (same : library.fileOf first = library.fileOf second) :
    load library store first = load library store second := by
  rw [load, load, same]

theorem fileOf_of_load
    {store : ExperimentStore} {experimentId : String} {experiment : Experiment}
    (found : load library store experimentId = .ok experiment) :
    ∃ file, library.fileOf experimentId = some file := by
  cases opened : library.fileOf experimentId with
  | none => simp [load, opened] at found
  | some file => exact ⟨file, rfl⟩

theorem extends_moved
    {experiment : Experiment} {move : Move} (now hash : String)
    (checked : checkMove experiment move = .ok ()) :
    ((moved experiment move now).stored hash).Extends experiment :=
  { transitions := List.prefix_append _ _
    proposer := rfl
    hypothesis := rfl
    correlation := rfl
    evidence := rfl
    ended := fun ended => absurd ended (checkMove_eq_ok.mp checked).1 }

/-- Without a transition an experiment is in its first state. -/
theorem extends_created
    {experiment : Experiment} (walked : experiment.Walked) {creation : Creation} (now hash : String)
    (fresh : experiment.transitions = [])
    (proposer : creation.proposerAgent = experiment.proposerAgent)
    (hypothesis : creation.hypothesis = experiment.hypothesis)
    (correlation : creation.correlationId = experiment.correlationId)
    (evidence : creation.evidenceIds = experiment.evidenceIds) :
    ((creation.experiment now).stored hash).Extends experiment := by
  have first : experiment.state = "OBSERVATION" := by
    unfold Experiment.Walked at walked
    rw [fresh] at walked
    exact isWalk_nil_iff.mp walked
  refine ⟨?_, proposer, hypothesis, correlation, evidence, fun ended => ?_⟩
  · rw [fresh]
    exact List.nil_prefix
  · rw [first] at ended
    exact absurd ended (by decide)

theorem appendOnly_step_iff
    {store : ExperimentStore} (walked : Holds library Experiment.Walked store) (call : Call) :
    AppendOnly library store (step library store call).2 ↔ SparesRecord library store call := by
  constructor
  · intro grows
    cases call with
    | transition move now => trivial
    | create creation now =>
        intro experiment found
        obtain ⟨file, opened⟩ := fileOf_of_load found
        obtain ⟨hash, created⟩ := load_created store now opened
        obtain ⟨later, reached, extended⟩ := grows _ experiment found
        obtain rfl : (creation.experiment now).stored hash = later := by
          simpa [created] using reached
        exact ⟨List.prefix_nil.mp extended.transitions, extended.proposer, extended.hypothesis,
          extended.correlation, extended.evidence⟩
  · intro spares
    rcases step_cases library store call with
      ⟨problem, ran⟩ | ⟨written, target, text, hash, ran, makes, own, read⟩
    · rw [ran]
      exact .refl store
    intro experimentId earlier found
    obtain ⟨file, opened⟩ := fileOf_of_load found
    rw [ran]
    by_cases same : file = target
    · subst same
      refine ⟨written.stored hash, by rw [load_written opened, read], ?_⟩
      cases call with
      | create creation now =>
          obtain rfl : written = creation.experiment now := makes
          have known : load library store creation.experimentId = .ok earlier :=
            (load_congr (own.trans opened.symm)).trans found
          obtain ⟨fresh, proposer, hypothesis, correlation, evidence⟩ := spares earlier known
          exact extends_created (walked.of_load found).2 now hash fresh proposer hypothesis
            correlation evidence
      | transition move now =>
          obtain ⟨before, loaded, checked, rfl⟩ := makes
          have same : library.fileOf move.experimentId = library.fileOf experimentId :=
            ((walked.of_load loaded).1.symm.trans own).trans opened.symm
          obtain rfl : before = earlier := by
            simpa [load_congr same, found] using loaded.symm
          exact extends_moved now hash checked
    · refine ⟨earlier, ?_, .refl earlier⟩
      rw [load_of_fileOf opened, OrderedDict.get?_set_of_ne _ _ same, ← load_of_fileOf opened]
      exact found

/-- The records of a run only grow, from any of its states to any later one,
exactly if every creation of the run spares the record it meets. -/
theorem records_append_only_iff (library : ExperimentLibrary) (calls : List Call) :
    (∀ early middle late, calls = early ++ middle ++ late →
      AppendOnly library (final (step library) [] early)
        (final (step library) [] (early ++ middle))) ↔
    (∀ early call late, calls = early ++ call :: late →
      SparesRecord library (final (step library) [] early) call) := by
  have walked := walked_final library
  constructor
  · intro grows early call late shape
    have here := grows early [call] late (by simp [shape])
    rw [final_append] at here
    exact (appendOnly_step_iff (walked early) call).mp here
  · intro spares early middle
    induction middle using List.reverseRecOn with
    | nil =>
        intro late shape
        rw [List.append_nil]
        exact .refl _
    | append_singleton middle call induction =>
        intro late shape
        have before := induction (call :: late) (by simp [shape])
        have here := (appendOnly_step_iff (walked (early ++ middle)) call).mpr
          (spares (early ++ middle) call late (by simp [shape]))
        rw [← List.append_assoc, final_append (step library) [] (early ++ middle)]
        exact before.trans here

/-- A creation takes back how an experiment has ended. -/
theorem not_appendOnly_create
    {store : ExperimentStore} {creation : Creation} {experiment : Experiment} (now : String)
    (found : load library store creation.experimentId = .ok experiment)
    (ended : experiment.state ∈ terminalStates) :
    ¬AppendOnly library store (step library store (.create creation now)).2 := by
  intro grows
  obtain ⟨file, opened⟩ := fileOf_of_load found
  obtain ⟨hash, created⟩ := load_created store now opened
  obtain ⟨later, reached, extended⟩ := grows _ experiment found
  obtain rfl : (creation.experiment now).stored hash = later := by
    simpa [created] using reached
  have kept : "OBSERVATION" = experiment.state := extended.ended ended
  rw [← kept] at ended
  exact absurd ended (by decide)

/-- A creation and a rejection. -/
def rejectedCalls : List Call :=
  [.create spreadCreation researchTime, walkTo "exp-1" researchTime "REJECTED"]

theorem load_rejected :
    ∃ experiment, load researchLibrary (final (step researchLibrary) [] rejectedCalls)
        spreadCreation.experimentId = .ok experiment ∧ experiment.state = "REJECTED" := by
  have opened : researchLibrary.fileOf "exp-1" = some "exp-1.json" := by decide
  obtain ⟨hash, created⟩ := @load_created researchLibrary [] spreadCreation _ researchTime opened
  obtain ⟨last, reached, ends, -⟩ := load_walked researchTime opened ["REJECTED"] created
    opened rfl (fun _ member => by cases member) (by
      show List.IsChain _ ("OBSERVATION" :: ["REJECTED"])
      decide)
  refine ⟨last, ?_, ends⟩
  rw [rejectedCalls, final]
  exact reached

/-- A second creation with the same id takes the rejection back. -/
theorem rejection_overwritten :
    ¬∀ early middle late,
      rejectedCalls ++ [.create spreadCreation researchTime] = early ++ middle ++ late →
        AppendOnly researchLibrary (final (step researchLibrary) [] early)
          (final (step researchLibrary) [] (early ++ middle)) := by
  intro grows
  obtain ⟨experiment, found, rejected⟩ := load_rejected
  have here := grows rejectedCalls [.create spreadCreation researchTime] [] (by simp)
  rw [final_append, final, final] at here
  exact not_appendOnly_create researchTime found (by rw [rejected]; decide) here

end SuperAdvisor.Research
