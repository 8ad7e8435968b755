import SuperAdvisor.Foundation.Sha256
import SuperAdvisor.Research.ExperimentRuns

/-!
# Reviewers of a release

The gate and the release refuse the proposer as reviewer, but they do not ask
for a reviewer.  An experiment is released on independent reviews if every call
that moves one there names somebody; without names any allowed route can be
walked to its end.
-/

namespace SuperAdvisor.Research

open Python Machine Walks ExperimentStore

variable {library : ExperimentLibrary}

def approvalStates : List String :=
  ["RELEASED", "HUMAN_RELEASE_GATE"]

/-- Somebody else than the proposer has reviewed a move into the state. -/
def Experiment.Reviewed (experiment : Experiment) (state : String) : Prop :=
  ∃ transition ∈ experiment.transitions, transition.toState = state ∧
    ∃ reviewer, transition.reviewer = some reviewer ∧ reviewer ≠ experiment.proposerAgent

def Experiment.IndependentlyReleased (experiment : Experiment) : Prop :=
  experiment.state = "RELEASED" →
    experiment.Reviewed "HUMAN_RELEASE_GATE" ∧ experiment.Reviewed "RELEASED"

/-- The call names a reviewer where it asks for an approval. -/
def NamesReviewer : Call → Prop
  | .create _ _ => True
  | .transition move _ => move.toState ∈ approvalStates → move.reviewer ≠ none

instance (call : Call) : Decidable (NamesReviewer call) := by
  cases call <;> unfold NamesReviewer <;> infer_instance

/-- Every approval so far has a reviewer of its own. -/
def Experiment.ApprovalsReviewed (experiment : Experiment) : Prop :=
  ∀ transition ∈ experiment.transitions, transition.toState ∈ approvalStates →
    ∃ reviewer, transition.reviewer = some reviewer ∧ reviewer ≠ experiment.proposerAgent

theorem approvalsReviewed_moved
    {experiment : Experiment} {move : Move} {now : String} (hash : String)
    (named : NamesReviewer (.transition move now)) (reviewed : experiment.ApprovalsReviewed)
    (checked : checkMove experiment move = .ok ()) :
    ((moved experiment move now).stored hash).ApprovalsReviewed := by
  have refused := (checkMove_eq_ok.mp checked).2.2
  intro transition member approval
  rcases List.mem_append.mp member with early | here
  · exact reviewed transition early approval
  · obtain rfl := List.mem_singleton.mp here
    cases found : move.reviewer with
    | none => exact absurd found (named approval)
    | some reviewer =>
        refine ⟨reviewer, rfl, fun same => refused ⟨approval, ?_⟩⟩
        rw [found]
        exact congrArg some same

/-- A walk visits what its route ends with. -/
theorem Experiment.reviewed_of_mem
    {experiment : Experiment} {state : String} (reviewed : experiment.ApprovalsReviewed)
    (approval : state ∈ approvalStates)
    (visited : state ∈ experiment.transitions.map ExperimentTransition.toState) :
    experiment.Reviewed state := by
  obtain ⟨transition, member, rfl⟩ := List.mem_map.mp visited
  exact ⟨transition, member, rfl, reviewed transition member approval⟩

/-- If every call that asks for an approval names a reviewer, then whatever is
released has been reviewed at the gate and at the release by somebody else than
its proposer. -/
theorem releases_reviewed
    (library : ExperimentLibrary) (calls : List Call)
    (named : ∀ call ∈ calls, NamesReviewer call) :
    Holds library Experiment.IndependentlyReleased (final (step library) [] calls) := by
  have reviewed : Holds library
      (fun experiment => experiment.Walked ∧ experiment.ApprovalsReviewed)
      (final (step library) [] calls) := by
    refine holds_final ?_ ?_ calls named
    · intro creation now hash
      exact ⟨isWalk_nil_iff.mpr rfl, fun transition member => by cases member⟩
    · intro experiment move now hash named ⟨walked, approvals⟩ checked
      exact ⟨walked_moved now hash walked checked,
        approvalsReviewed_moved hash named approvals checked⟩
  refine RecordFiles.Holds.mono reviewed ?_
  intro experiment ⟨walked, approvals⟩ released
  have visited := (walked.release released).subset
  exact ⟨Experiment.reviewed_of_mem approvals (by decide) (visited (by decide)),
    Experiment.reviewed_of_mem approvals (by decide) (visited (by decide))⟩

/-! An experiment of the optimization agent. -/

def researchLibrary : ExperimentLibrary :=
  { sha256Hex := sha256Hex
    fileOf := fun experimentId =>
      if '/' ∈ experimentId.toList then none else some (experimentId ++ ".json") }

def spreadCreation : Creation :=
  { experimentId := "exp-1"
    correlationId := "corr-1"
    hypothesis := "tighter stops reduce losses"
    proposerAgent := "optimization-agent"
    ownerAgent := "optimization-agent"
    evidenceIds := ["ev-1"]
    inputDataRange := none
    datasetHash := ""
    formulaVersion := "" }

def researchTime : String := "2026-01-05T12:00:00Z"

/-- The states of an experiment that is released at the first attempt. -/
def directRoute : List String :=
  ["HYPOTHESIS", "EXPERIMENT_DESIGNED"] ++ releaseRoute

/-! Releases that nobody has reviewed. -/

/-- A move without a reviewer. -/
def unreviewedMove (experimentId state : String) : Move :=
  { experimentId := experimentId
    toState := state
    agent := "optimization-agent"
    reason := "next step"
    reviewer := none
    evidenceIds := none
    result := none
    failureReason := none
    rollbackReference := none }

def walkTo (experimentId now state : String) : Call :=
  .transition (unreviewedMove experimentId state) now

/-- The calls of a release that the risk manager reviews. -/
def reviewedCalls : List Call :=
  .create spreadCreation researchTime :: directRoute.map (fun state =>
    .transition { unreviewedMove "exp-1" state with reviewer := some "risk-manager" }
      researchTime)

theorem releases_reviewed_by_risk_manager :
    (∀ call ∈ reviewedCalls, NamesReviewer call) ∧
      Holds researchLibrary Experiment.IndependentlyReleased
        (final (step researchLibrary) [] reviewedCalls) :=
  have named : ∀ call ∈ reviewedCalls, NamesReviewer call := by decide
  ⟨named, releases_reviewed researchLibrary reviewedCalls named⟩

/-- Any allowed route can be walked without naming a reviewer. -/
theorem load_walked
    {experimentId file : String} (now : String)
    (opened : library.fileOf experimentId = some file) (route : List String)
    {store : ExperimentStore} {experiment : Experiment}
    (found : load library store experimentId = .ok experiment)
    (own : library.fileOf experiment.experimentId = some file)
    (plain : experiment.result = none)
    (unreviewed : ∀ transition ∈ experiment.transitions, transition.reviewer = none)
    (legal : (experiment.state :: route).IsChain
      (fun before after => before ∉ terminalStates ∧ after ∈ allowedFrom before)) :
    ∃ last, load library (final (step library) store (route.map (walkTo experimentId now)))
        experimentId = .ok last ∧
      last.state = (experiment.state :: route).getLast (by simp) ∧
      ∀ transition ∈ last.transitions, transition.reviewer = none := by
  induction route generalizing store experiment with
  | nil => exact ⟨experiment, found, rfl, unreviewed⟩
  | cons state route induction =>
      obtain ⟨⟨active, allowed⟩, rest⟩ := List.isChain_cons_cons.mp legal
      let move := unreviewedMove experimentId state
      have checked : checkMove experiment move = .ok () :=
        checkMove_eq_ok.mpr ⟨active, allowed, fun refused => by cases refused.2⟩
      obtain ⟨text, hash, ran, read⟩ := @step_returns library store
        (walkTo experimentId now state) (moved experiment move now) file
        ⟨experiment, found, checked, rfl⟩ own (by simpa [moved, move, unreviewedMove] using plain)
      have next : load library (step library store (walkTo experimentId now state)).2
          experimentId = .ok ((moved experiment move now).stored hash) := by
        rw [ran, load_written opened, read]
      obtain ⟨last, reached, ends, nobody⟩ := induction next own
        (by simp [Experiment.stored, moved, move, unreviewedMove, plain])
        (by
          intro transition member
          rcases List.mem_append.mp member with early | here
          · exact unreviewed transition early
          · obtain rfl := List.mem_singleton.mp here
            rfl)
        rest
      exact ⟨last, reached, by simpa [Experiment.stored, moved, move, unreviewedMove] using ends,
        nobody⟩

def unreviewedCalls : List Call :=
  .create spreadCreation researchTime :: directRoute.map (walkTo "exp-1" researchTime)

/-- An experiment is released though no move of it has a reviewer. -/
theorem release_without_reviewer :
    ∃ experiment, load researchLibrary (final (step researchLibrary) [] unreviewedCalls) "exp-1" =
        .ok experiment ∧
      experiment.state = "RELEASED" ∧ ¬experiment.IndependentlyReleased := by
  have opened : researchLibrary.fileOf "exp-1" = some "exp-1.json" := by decide
  obtain ⟨hash, created⟩ := @load_created researchLibrary [] spreadCreation _ researchTime opened
  obtain ⟨last, reached, ends, nobody⟩ := load_walked researchTime opened directRoute created
    opened rfl (fun _ member => by cases member) (by
      show List.IsChain _ ("OBSERVATION" :: directRoute)
      decide)
  have released : last.state = "RELEASED" := ends
  rw [unreviewedCalls, final]
  refine ⟨last, reached, released, fun independent => ?_⟩
  obtain ⟨transition, member, -, reviewer, named, -⟩ := (independent released).2
  rw [nobody transition member] at named
  cases named

end SuperAdvisor.Research
