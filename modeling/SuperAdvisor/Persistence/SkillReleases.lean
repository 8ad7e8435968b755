import SuperAdvisor.Foundation.Machine
import SuperAdvisor.Foundation.Sha256
import SuperAdvisor.Persistence.SkillRecords

/-!
# Releases of skill candidates

Test results and reviewers are optional arguments: a transition asks for
neither.  In a run whose calls give them, and whose releases give results that
keep the order of their keys, every released candidate was tested and approved
on record, and its digest is valid.
-/

namespace SuperAdvisor.SkillStore

open Python Machine

variable {library : SkillLibrary}

abbrev SkillEvent := Event SkillStore Call (Except RecordProblem SkillCandidate)

/-- The call has written the candidate in the state. -/
def Recorded (event : SkillEvent) (candidateId state : String) (record : SkillCandidate) : Prop :=
  event.reply = .ok record ∧ record.candidateId = candidateId ∧ record.state = state

/-- A recorded test with a result. -/
def Tested (event : SkillEvent) (candidateId : String) : Prop :=
  ∃ record, Recorded event candidateId "TESTED" record ∧ record.testResult ≠ none

/-- A recorded approval by somebody else than the proposer. -/
def Approved (event : SkillEvent) (candidate : SkillCandidate) : Prop :=
  ∃ record reviewer, Recorded event candidate.candidateId "APPROVED" record ∧
    record.reviewer = some reviewer ∧ reviewer ≠ candidate.proposerAgent

/-- The candidate has passed its test and then its approval. -/
def Passed (past : List SkillEvent) (candidate : SkillCandidate) : Prop :=
  ∃ tested approved, [tested, approved].Sublist past ∧ Tested tested candidate.candidateId ∧
    Approved approved candidate

/-- The call gives the evidence of the state it moves to. -/
def Disciplined (library : SkillLibrary) (event : SkillEvent) : Prop :=
  match event.call with
  | .create _ => True
  | .transition move =>
      (move.state = "TESTED" → dictOr move.testResult none ≠ none) ∧
      (move.state = "APPROVED" → ∀ current,
        load library event.before move.candidateId = .ok current →
          ∃ reviewer, textOr move.reviewer current.reviewer = some reviewer ∧
            reviewer ≠ current.proposerAgent) ∧
      (move.state = "RELEASED" → ∀ entries, move.testResult = some entries →
        (Value.dict entries).KeyOrderStable)

/-- What the history and the record say about a stored candidate. -/
structure Accounted (library : SkillLibrary) (past : List SkillEvent)
    (candidate : SkillCandidate) : Prop where
  stable : candidate.Stable
  tested : candidate.state = "TESTED" → ∃ event ∈ past, Tested event candidate.candidateId
  passed : candidate.state ∈ ["APPROVED", "RELEASED"] → Passed past candidate
  valid : candidate.state = "RELEASED" →
    contentHash library candidate = .ok candidate.integrityHash

theorem Accounted.later
    {past : List SkillEvent} {candidate : SkillCandidate}
    (accounted : Accounted library past candidate) (event : SkillEvent) :
    Accounted library (past ++ [event]) candidate := by
  refine ⟨accounted.stable, fun tested => ?_, fun passed => ?_, accounted.valid⟩
  · obtain ⟨test, member, recorded⟩ := accounted.tested tested
    exact ⟨test, by simp [member], recorded⟩
  · obtain ⟨test, approval, order, recorded⟩ := accounted.passed passed
    exact ⟨test, approval, order.trans (List.sublist_append_left _ _), recorded⟩

/-- Where a state is reached from. -/
theorem checkMove_eq_ok {current : SkillCandidate} {move : Move}
    (checked : checkMove current move = .ok ()) :
    (current.state, move.state) ∈ [("CANDIDATE", "TESTED"), ("CANDIDATE", "REJECTED"),
      ("TESTED", "APPROVED"), ("TESTED", "REJECTED"), ("APPROVED", "RELEASED"),
      ("APPROVED", "REJECTED"), ("RELEASED", "ROLLED_BACK")] := by
  unfold checkMove at checked
  split at checked
  next allowed found =>
    split at checked
    next member =>
      have table : ∀ entry ∈ skillTransitions, ∀ state ∈ entry.2,
          (entry.1, state) ∈ [("CANDIDATE", "TESTED"), ("CANDIDATE", "REJECTED"),
            ("TESTED", "APPROVED"), ("TESTED", "REJECTED"), ("APPROVED", "RELEASED"),
            ("APPROVED", "REJECTED"), ("RELEASED", "ROLLED_BACK")] := by decide
      exact table (current.state, allowed) (OrderedDict.mem_of_get? found) move.state member
    next => cases checked
  next => cases checked

theorem dictOr_of_given
    {given current : Option (List (Key × Value))} (present : dictOr given none ≠ none) :
    dictOr given current ≠ none := by
  unfold dictOr at present ⊢
  split
  next => simp
  next empty => simp at present

theorem stable_moved
    {current : SkillCandidate} {move : Move} (stable : current.Stable)
    (given : ∀ entries, move.testResult = some entries → (Value.dict entries).KeyOrderStable) :
    (moved current move).Stable := by
  refine ⟨stable.evidence, fun entries found => ?_⟩
  simp only [moved, dictOr] at found
  split at found
  next entry others shape =>
    cases found
    exact given _ shape
  next => exact stable.testResult entries found

/-- A moved candidate is accounted for by the event that moves it. -/
theorem accounted_moved
    {past : List SkillEvent} {event : SkillEvent} {move : Move} {current : SkillCandidate}
    {hash file : String} {text : List Char}
    (called : event.call = .transition move)
    (replied : event.reply = .ok ((moved current move).withHash hash))
    (disciplined : Disciplined library event) (accounted : Accounted library past current)
    (found : load library event.before move.candidateId = .ok current)
    (checked : checkMove current move = .ok ())
    (written : Written library (moved current move) hash file text) :
    Accounted library (past ++ [event]) ((moved current move).withHash hash).stored := by
  have edge := checkMove_eq_ok checked
  unfold Disciplined at disciplined
  simp only [called] at disciplined
  obtain ⟨tests, approvals, releases⟩ := disciplined
  have recorded : ∀ state, move.state = state →
      Recorded event current.candidateId state ((moved current move).withHash hash) :=
    fun state same => ⟨replied, rfl, same⟩
  refine ⟨written.stable, fun tested => ?_, fun passed => ?_, fun released => ?_⟩
  · have state : move.state = "TESTED" := tested
    exact ⟨event, by simp, _, recorded _ state, dictOr_of_given (tests state)⟩
  · have member : move.state ∈ ["APPROVED", "RELEASED"] := passed
    have states : move.state = "APPROVED" ∨ move.state = "RELEASED" := by simpa using member
    rcases states with state | state
    · have before : current.state = "TESTED" := by
        rw [state] at edge
        simpa using edge
      obtain ⟨test, member, result⟩ := accounted.tested before
      obtain ⟨reviewer, given, other⟩ := approvals state current found
      exact ⟨test, event, (List.singleton_sublist.mpr member).append (List.Sublist.refl [event]),
        result, _, reviewer, recorded _ state, given, other⟩
    · have before : current.state = "APPROVED" := by
        rw [state] at edge
        simpa using edge
      obtain ⟨test, approval, order, result, approved⟩ := accounted.passed (by simp [before])
      exact ⟨test, approval, order.trans (List.sublist_append_left _ _), result, approved⟩
  · exact written.valid (stable_moved accounted.stable (releases released))

theorem accounts_step
    (past : List SkillEvent) (store : SkillStore) (call : Call)
    (disciplined : Disciplined library (eventOf (step library) store call))
    (accounts : Holds library (Accounted library past) store) :
    Holds library (Accounted library (past ++ [eventOf (step library) store call]))
      (step library store call).2 := by
  have later : Holds library
      (Accounted library (past ++ [eventOf (step library) store call])) store :=
    RecordFiles.Holds.mono accounts (fun _ accounted => accounted.later _)
  rcases step_cases library store call with
    ⟨problem, ran⟩ | ⟨candidate, hash, file, text, ran, makes, written⟩
  · have same : (step library store call).2 = store := by rw [ran]
    rw [same]
    exact later
  · have next : (step library store call).2 = OrderedDict.set store file text := by rw [ran]
    have replied : (eventOf (step library) store call).reply = .ok (candidate.withHash hash) := by
      simp only [eventOf, ran]
    rw [next]
    refine RecordFiles.Holds.set later written.read written.opened ?_
    cases call with
    | create proposal =>
        obtain rfl : candidate = proposal.candidate store := makes
        refine ⟨written.stable, fun tested => ?_, fun passed => ?_, fun released => ?_⟩
        · exact absurd (show "CANDIDATE" = "TESTED" from tested) (by decide)
        · exact absurd (show "CANDIDATE" ∈ ["APPROVED", "RELEASED"] from passed) (by decide)
        · exact absurd (show "CANDIDATE" = "RELEASED" from released) (by decide)
    | transition move =>
        obtain ⟨current, found, checked, rfl⟩ := makes
        exact accounted_moved rfl replied disciplined (accounts.of_load found).2 found checked
          written

/-- If every call gives the evidence of the state it moves to, then every
released candidate has passed its test and its approval, and its digest is
valid. -/
theorem releases_disciplined
    (library : SkillLibrary) (calls : List Call)
    (disciplined : ∀ event ∈ trace (step library) [] calls, Disciplined library event) :
    ∀ candidateId candidate,
      load library (final (step library) [] calls) candidateId = .ok candidate →
      candidate.state = "RELEASED" →
        Passed (trace (step library) [] calls) candidate ∧
        ∃ validation, validate library (final (step library) [] calls) candidateId =
          .ok validation ∧ validation.valid = true := by
  intro candidateId candidate found released
  have initial : Holds library (Accounted library []) [] := RecordFiles.holds_nil
  have accounts := trace_invariant_of_events (step library)
    (fun past store => Holds library (Accounted library past) store)
    (Disciplined library) accounts_step initial calls disciplined
  have accounted : Accounted library (trace (step library) [] calls) candidate :=
    (Holds.of_load accounts found).2
  refine ⟨accounted.passed (by simp [released]),
    { candidateId := candidateId
      state := candidate.state
      valid := true
      candidate := candidate }, ?_, rfl⟩
  simp [validate, found, accounted.valid released, ok_bind]

/-! What all candidates of a run have in common. -/

/-- What every call makes of such candidates, every stored and every returned
candidate has. -/
theorem holds_of_makes
    {good : SkillCandidate → Prop} {guard : Call → Prop}
    (made : ∀ store call candidate hash, guard call →
      (∀ candidateId current, load library store candidateId = .ok current → good current) →
      Makes library store call candidate →
      good (candidate.withHash hash) ∧ good (candidate.withHash hash).stored)
    (calls : List Call) (guarded : ∀ call ∈ calls, guard call) :
    (∀ candidateId candidate,
      load library (final (step library) [] calls) candidateId = .ok candidate →
        good candidate) ∧
    ∀ event ∈ trace (step library) [] calls, ∀ record, event.reply = .ok record →
      good record := by
  have run := run_of_guard (step library) (Holds library good) (fun event => guard event.call)
    (fun event => ∀ record, event.reply = .ok record → good record) ?_ RecordFiles.holds_nil calls
    ?_
  · exact ⟨fun _ _ found => (run.1.of_load found).2, run.2⟩
  · intro store call holds guarded
    rcases step_cases library store call with
      ⟨problem, ran⟩ | ⟨candidate, hash, file, text, ran, makes, written⟩
    · simp only [eventOf, ran]
      exact ⟨holds, fun _ raised => by cases raised⟩
    · obtain ⟨returned, stored⟩ := made store call candidate hash guarded
        (fun _ _ found => (holds.of_load found).2) makes
      simp only [eventOf, ran]
      refine ⟨RecordFiles.Holds.set holds written.read written.opened stored, ?_⟩
      intro record same
      cases same
      exact returned
  · intro event member
    obtain ⟨early, call, later, rfl, rfl⟩ := (mem_trace_iff _).mp member
    exact guarded call (by simp)

/-! A candidate of the skill author. -/

def skillLibrary : SkillLibrary :=
  { sha256Hex := sha256Hex
    fileOf := fun candidateId =>
      if '/' ∈ candidateId.toList then none else some (candidateId ++ ".json") }

def riskProposal : Proposal :=
  { skillId := "risk-check"
    proposerAgent := "skill-author"
    evidence := []
    createdAt := "2026-01-05T12:00:00Z"
    updatedAt := "2026-01-05T12:00:00Z" }

/-- A move without any evidence. -/
def bareMove (state : String) : Move :=
  { candidateId := "skill-1"
    state := state
    reviewer := none
    testResult := none
    releaseVersion := none
    rollbackReference := none
    now := "2026-01-05T13:00:00Z" }

/-- A release with a test result and a review by the risk manager. -/
def disciplinedCalls : List Call :=
  [.create riskProposal,
    .transition { bareMove "TESTED" with testResult := some [(.str "passed", .bool true)] },
    .transition { bareMove "APPROVED" with reviewer := some "risk-manager" },
    .transition { bareMove "RELEASED" with releaseVersion := some "1.0.1" }]

/-- The proposer of a candidate is the one of its creation. -/
theorem proposer_of_created
    {proposer : String} {calls : List Call}
    (proposed : ∀ proposal, .create proposal ∈ calls → proposal.proposerAgent = proposer)
    {candidateId : String} {candidate : SkillCandidate}
    (found : load library (final (step library) [] calls) candidateId = .ok candidate) :
    candidate.proposerAgent = proposer := by
  refine (@holds_of_makes library (fun candidate => candidate.proposerAgent = proposer)
    (fun call => call ∈ calls) ?_ calls (fun _ member => member)).1 candidateId candidate found
  intro store call made hash member same makes
  cases call with
  | create proposal =>
      obtain rfl : made = proposal.candidate store := makes
      exact ⟨proposed proposal member, proposed proposal member⟩
  | transition move =>
      obtain ⟨current, loaded, -, rfl⟩ := makes
      exact ⟨same _ current loaded, same _ current loaded⟩

theorem releases_disciplined_reviewed :
    (∀ event ∈ trace (step skillLibrary) [] disciplinedCalls, Disciplined skillLibrary event) ∧
    ∀ candidateId candidate,
      load skillLibrary (final (step skillLibrary) [] disciplinedCalls) candidateId =
        .ok candidate →
      candidate.state = "RELEASED" →
        Passed (trace (step skillLibrary) [] disciplinedCalls) candidate ∧
        ∃ validation, validate skillLibrary (final (step skillLibrary) [] disciplinedCalls)
          candidateId = .ok validation ∧ validation.valid = true := by
  have disciplined : ∀ event ∈ trace (step skillLibrary) [] disciplinedCalls,
      Disciplined skillLibrary event := by
    intro event member
    obtain ⟨early, call, later, shape, rfl⟩ := (mem_trace_iff _).mp member
    have proposed : ∀ proposal, .create proposal ∈ early →
        proposal.proposerAgent = "skill-author" := by
      intro proposal inside
      have listed : Call.create proposal ∈ disciplinedCalls := by simp [shape, inside]
      obtain rfl : proposal = riskProposal := by simpa [disciplinedCalls] using listed
      rfl
    have listed : call ∈ disciplinedCalls := by simp [shape]
    simp only [disciplinedCalls, List.mem_cons, List.not_mem_nil, or_false] at listed
    rcases listed with rfl | rfl | rfl | rfl
    · trivial
    · exact ⟨fun _ => by simp [dictOr], fun state => absurd state (by decide),
        fun state => absurd state (by decide)⟩
    · refine ⟨fun state => absurd state (by decide), fun _ current found => ?_,
        fun state => absurd state (by decide)⟩
      refine ⟨"risk-manager", by simp [textOr], ?_⟩
      rw [proposer_of_created proposed found]
      decide
    · exact ⟨fun state => absurd state (by decide), fun state => absurd state (by decide),
        fun _ entries given => by cases given⟩
  exact ⟨disciplined, releases_disciplined skillLibrary disciplinedCalls disciplined⟩

/-! A release without any evidence. -/

/-- Any allowed route can be walked without evidence. -/
theorem load_walked
    {candidateId file : String} (opened : library.fileOf candidateId = some file)
    (moves : List Move) (same : ∀ move ∈ moves, move.candidateId = candidateId)
    (untested : ∀ move ∈ moves, move.testResult = none)
    {store : SkillStore} {candidate : SkillCandidate}
    (found : load library store candidateId = .ok candidate)
    (own : library.fileOf candidate.candidateId = some file)
    (bare : candidate.evidence = []) (fresh : candidate.testResult = none)
    (legal : (candidate.state :: moves.map Move.state).IsChain (fun before after =>
      ∃ allowed, OrderedDict.get? skillTransitions before = some allowed ∧ after ∈ allowed)) :
    ∃ last, load library (final (step library) store (moves.map .transition)) candidateId =
        .ok last ∧
      last.state = (candidate.state :: moves.map Move.state).getLast (by simp) := by
  induction moves generalizing store candidate with
  | nil => exact ⟨candidate, found, rfl⟩
  | cons move moves induction =>
      obtain ⟨⟨allowed, listed, member⟩, rest⟩ := List.isChain_cons_cons.mp legal
      have checked : checkMove candidate move = .ok () := by simp [checkMove, listed, member]
      have here : load library store move.candidateId = .ok candidate := by
        rw [same move List.mem_cons_self]
        exact found
      have nothing : (moved candidate move).testResult = none := by
        simp [moved, dictOr, untested move List.mem_cons_self, fresh]
      have makes : Makes library store (.transition move) (moved candidate move) :=
        ⟨candidate, here, checked, rfl⟩
      obtain ⟨hash, text, ran, written⟩ := step_returns makes own bare nothing
      have next : load library (step library store (.transition move)).2 candidateId =
          .ok ((moved candidate move).withHash hash).stored := by
        rw [ran]
        exact load_written written opened
      exact induction (fun other inside => same other (by simp [inside]))
        (fun other inside => untested other (by simp [inside])) next own
        (by simp [SkillCandidate.stored, SkillCandidate.withHash, moved, bare, reloadEntries_nil])
        (by simp [SkillCandidate.stored, SkillCandidate.withHash, nothing]) rest

def bareCalls : List Call :=
  .create riskProposal :: (["TESTED", "APPROVED", "RELEASED"].map bareMove).map .transition

theorem load_bare :
    ∃ candidate, load skillLibrary (final (step skillLibrary) [] bareCalls) "skill-1" =
        .ok candidate ∧ candidate.state = "RELEASED" := by
  have opened : skillLibrary.fileOf "skill-1" = some "skill-1.json" := by decide
  have legal : ["CANDIDATE", "TESTED", "APPROVED", "RELEASED"].IsChain (fun before after =>
      ∃ allowed, OrderedDict.get? skillTransitions before = some allowed ∧ after ∈ allowed) := by
    simp [skillTransitions, OrderedDict.get?]
  have makes : Makes skillLibrary [] (.create riskProposal) (riskProposal.candidate []) := rfl
  obtain ⟨hash, text, ran, written⟩ := step_returns makes opened rfl rfl
  have created : load skillLibrary (step skillLibrary [] (.create riskProposal)).2 "skill-1" =
      .ok ((riskProposal.candidate []).withHash hash).stored := by
    rw [ran]
    exact load_written written opened
  obtain ⟨last, reached, ends⟩ := load_walked opened
    (["TESTED", "APPROVED", "RELEASED"].map bareMove) (by decide)
    (by simp [bareMove]) created opened
    (by simp [SkillCandidate.stored, SkillCandidate.withHash, Proposal.candidate, riskProposal,
      reloadEntries_nil]) rfl legal
  refine ⟨last, ?_, ends⟩
  rw [bareCalls, final]
  exact reached

/-- A candidate is released without a test result and without a reviewer. -/
theorem release_without_evidence :
    ∃ candidate, load skillLibrary (final (step skillLibrary) [] bareCalls) "skill-1" =
        .ok candidate ∧ candidate.state = "RELEASED" ∧
      ¬Passed (trace (step skillLibrary) [] bareCalls) candidate := by
  obtain ⟨candidate, found, released⟩ := load_bare
  refine ⟨candidate, found, released, ?_⟩
  rintro ⟨tested, approved, order, -, record, reviewer, recorded, named, -⟩
  have nobody : record.reviewer = none := by
    refine (@holds_of_makes skillLibrary (fun candidate => candidate.reviewer = none)
      (fun call => call ∈ bareCalls) ?_ bareCalls (fun _ member => member)).2 approved
        (order.subset (by simp)) record recorded.1
    intro store call made hash member unreviewed makes
    cases call with
    | create proposal =>
        obtain rfl : made = proposal.candidate store := makes
        exact ⟨rfl, rfl⟩
    | transition move =>
        obtain ⟨current, loaded, -, rfl⟩ := makes
        obtain ⟨state, -, rfl⟩ : ∃ state, state ∈ ["TESTED", "APPROVED", "RELEASED"] ∧
            bareMove state = move := by
          simpa [bareCalls, eq_comm] using member
        have kept : (moved current (bareMove state)).reviewer = none := by
          simp [moved, textOr, bareMove, unreviewed _ current loaded]
        exact ⟨kept, kept⟩
  rw [nobody] at named
  cases named

end SuperAdvisor.SkillStore
