import SuperAdvisor.Scheduler.RowEffect

/-!
# The dead-letter table

`fail` writes two tables: it gives the job up and archives it.  It checks no
state, so failing a job that was given up archives the job twice or takes it
back with its archive row left behind.  A run keeps the tables consistent
exactly when no `fail` of it meets a dead letter.
-/

namespace SuperAdvisor.Scheduler

open Python

variable {Worker Time : Type}

/-- The archive rows of a job. -/
def lettersOf (system : System Worker Time) (jobId : String) : List (DeadLetter Time) :=
  system.store.deadLetters.filter (fun letter => decide (letter.jobId = jobId))

/-- Exactly the jobs that were given up have an archive row, one each, with
the payload and the error of the job. -/
def DeadLettersConsistent (system : System Worker Time) : Prop :=
  ∀ jobId,
    (∀ row, rowOf system jobId = some row → row.state = .deadLetter →
      ∃ letter, lettersOf system jobId = [letter] ∧
        letter.payload.load = row.payload.load ∧ letter.finalError = row.error) ∧
    ((∀ row, rowOf system jobId = some row → row.state ≠ .deadLetter) →
      lettersOf system jobId = [])

/-- The event is no `fail` of a job that was given up. -/
def FailSparesDeadLetters (event : QueueEvent Worker Time) : Prop :=
  ∀ jobId error row, event.call.call = .fail jobId error →
    rowOf event.before jobId = some row → row.state ≠ .deadLetter

section Abandoning

variable [LinearOrder Time] [HAdd Time Int Time]

/-- The event gives the job up. -/
def AbandonsJob (event : QueueEvent Worker Time) (jobId : String) : Prop :=
  ∃ error row, event.call.call = .fail jobId error ∧ rowOf event.before jobId = some row ∧
    exhausted (queueOf event) row = true

variable [DecidableEq Worker]

/-- Every event but a `fail` that gives up leaves the archive alone. -/
theorem deadLetters_step (system : System Worker Time) (invocation : Invocation Worker Time) :
    ((∀ jobId, ¬AbandonsJob (queueEvent system invocation) jobId) ∧
      (step system invocation).2.store.deadLetters = system.store.deadLetters) ∨
    ∃ jobId error row letter, invocation.call = .fail jobId error ∧
      rowOf system jobId = some row ∧
      exhausted (system.queues invocation.worker) row = true ∧ letter.jobId = jobId ∧
      letter.payload.load = row.payload.load ∧ letter.finalError = some error ∧
      (step system invocation).2.store.deadLetters = system.store.deadLetters ++ [letter] := by
  obtain ⟨worker, now, call⟩ := invocation
  have quiet : (∀ jobId error, call ≠ .fail jobId error) →
      ∀ jobId, ¬AbandonsJob (queueEvent system ⟨worker, now, call⟩) jobId := by
    rintro noFail jobId ⟨error, row, called, -, -⟩
    exact noFail jobId error called
  cases call with
  | fail target error =>
      have stored := congrArg Store.deadLetters
        (step_fail_store now system worker target error)
      cases failing : system.store.jobs.find? target with
      | none =>
          refine .inl ⟨?_, by simpa [fail, failing] using stored⟩
          rintro jobId ⟨other, row, called, found, -⟩
          obtain ⟨rfl, -⟩ : target = jobId ∧ error = other := by
            simpa [Machine.eventOf] using called
          exact Option.some_ne_none _ (found.symm.trans failing)
      | some row =>
          obtain ⟨payload, dumped, same⟩ := row.payload.dump_load
          by_cases spent : exhausted (system.queues worker) row = true
          · refine .inr ⟨target, error, row, ⟨nextDeadLetterId system.store.deadLetters, target,
              row.jobType, payload, some error, now⟩, rfl, failing, spent, rfl, same, rfl, ?_⟩
            simpa [fail, failing, spent, rowToJob, dumped, updateOne] using stored
          · refine .inl ⟨?_, by simpa [fail, failing, spent, updateOne] using stored⟩
            rintro jobId ⟨other, otherRow, called, found, otherSpent⟩
            obtain ⟨rfl, -⟩ : target = jobId ∧ error = other := by
              simpa [Machine.eventOf] using called
            obtain rfl : otherRow = row := Option.some.inj (found.symm.trans failing)
            exact spent otherSpent
  | enqueue request =>
      refine .inl ⟨quiet (by simp), ?_⟩
      cases made : enqueue system.store request now with
      | error problem => simp [step, made]
      | ok result => simpa [step, made] using enqueue_deadLetters now made
  | leaseNext jobType tie =>
      refine .inl ⟨quiet (by simp), ?_⟩
      simp only [step, leaseNext]
      split <;> rfl
  | renewLease target => exact .inl ⟨quiet (by simp), rfl⟩
  | checkpoint target data =>
      refine .inl ⟨quiet (by simp), ?_⟩
      cases dumped : JsonColumn.dump data with
      | error problem => simp [step, checkpoint, dumped]
      | ok column => simp [step, checkpoint, dumped, updateOne]
  | complete target =>
      have stored := congrArg Store.deadLetters
        (complete_store now (system.queues worker) system.store target)
      exact .inl ⟨quiet (by simp), stored⟩
  | cancel target => exact .inl ⟨quiet (by simp), rfl⟩
  | resumeInProgress => exact .inl ⟨quiet (by simp), rfl⟩
  | resetCircuit jobType => exact .inl ⟨quiet (by simp), rfl⟩
  | isCircuitOpen jobType => exact .inl ⟨quiet (by simp), rfl⟩
  | get jobId => exact .inl ⟨quiet (by simp), rfl⟩
  | reopen leaseSeconds => exact .inl ⟨quiet (by simp), rfl⟩

/-- The archive rows of a job after an event. -/
theorem lettersOf_step
    (system : System Worker Time) (invocation : Invocation Worker Time) (jobId : String) :
    (¬AbandonsJob (queueEvent system invocation) jobId ∧
      lettersOf (step system invocation).2 jobId = lettersOf system jobId) ∨
    ∃ error row letter, invocation.call = .fail jobId error ∧ rowOf system jobId = some row ∧
      exhausted (system.queues invocation.worker) row = true ∧
      letter.payload.load = row.payload.load ∧ letter.finalError = some error ∧
      lettersOf (step system invocation).2 jobId = lettersOf system jobId ++ [letter] := by
  rcases deadLetters_step system invocation with
    ⟨quiet, same⟩ | ⟨target, error, row, letter, called, found, spent, named, payload, final, grown⟩
  · exact .inl ⟨quiet jobId, by rw [lettersOf, same]; rfl⟩
  · by_cases wanted : target = jobId
    · subst wanted
      refine .inr ⟨error, row, letter, called, found, spent, payload, final, ?_⟩
      simp [lettersOf, grown, named]
    · refine .inl ⟨?_, by simp [lettersOf, grown, named, wanted]⟩
      rintro ⟨other, otherRow, otherCalled, -, -⟩
      have same : Call.fail target error = Call.fail jobId other := called.symm.trans otherCalled
      cases same
      exact wanted rfl

omit [DecidableEq Worker] in
/-- An event that spares dead letters and does not give the job up keeps
whether the job is a dead letter, and changes no dead letter. -/
theorem RowEffect.keeps_deadLetter
    {event : QueueEvent Worker Time} {jobId : String} {row after : JobRow Time}
    (effect : RowEffect event jobId row after) (spared : FailSparesDeadLetters event)
    (found : rowOf event.before jobId = some row) (kept : ¬AbandonsJob event jobId) :
    (after.state = .deadLetter → row.state = .deadLetter) ∧
      (row.state = .deadLetter → after = row) := by
  have unexpired : row.state = .deadLetter → afterSweep event.call.now row = row := by
    intro dead
    exact if_neg (by simp [isExpiredLease, isLeased, dead])
  cases effect with
  | untouched _ => exact ⟨id, fun _ => rfl⟩
  | swept _ _ =>
      refine ⟨?_, unexpired⟩
      unfold afterSweep
      split
      · simp [requeue]
      · exact id
  | leased _ queued =>
      refine ⟨by simp [leaseRow], ?_⟩
      intro dead
      rw [unexpired dead, dead] at queued
      cases queued
  | renewed _ held => exact ⟨id, fun dead => by simp [dead] at held⟩
  | checkpointed data column called dumped held answered =>
      exact ⟨id, fun dead => by simp [dead] at held⟩
  | completed _ held => exact ⟨by simp [completeRow], fun dead => by simp [dead] at held⟩
  | abandoned error called spent => exact absurd ⟨error, row, called, found, spent⟩ kept
  | retried error called _ =>
      exact ⟨by simp [retryRow], fun dead => absurd dead (spared jobId error row called found)⟩
  | cancelled _ cancellable =>
      exact ⟨by simp [cancelRow], fun dead => by simp [isCancellable, dead] at cancellable⟩

theorem deadLettersConsistent_step
    {system : System Worker Time} {invocation : Invocation Worker Time}
    (consistent : DeadLettersConsistent system)
    (spared : FailSparesDeadLetters (queueEvent system invocation)) :
    DeadLettersConsistent (step system invocation).2 := by
  intro jobId
  obtain ⟨archived, clear⟩ := consistent jobId
  rcases lettersOf_step system invocation jobId with
    ⟨kept, same⟩ | ⟨error, row, letter, called, found, spent, payload, final, grown⟩
  · rw [same]
    cases found : rowOf system jobId with
    | none =>
        refine ⟨?_, fun _ => clear (by simp [found])⟩
        intro row view dead
        rcases (rowOf_step_of_none invocation found).2 with
          absent | ⟨request, column, -, -, inserted⟩
        · simp [absent] at view
        · obtain rfl : newRow request column invocation.now = row :=
            Option.some.inj (inserted.symm.trans view)
          simp [newRow] at dead
    | some row =>
        obtain ⟨after, view, effect⟩ := rowOf_step invocation found
        obtain ⟨back, unchanged⟩ := effect.keeps_deadLetter spared found kept
        refine ⟨?_, ?_⟩
        · intro other otherView dead
          obtain rfl : after = other := Option.some.inj (view.symm.trans otherView)
          rw [unchanged (back dead)]
          exact archived row found (back dead)
        · intro alive
          refine clear ?_
          intro other otherFound dead
          obtain rfl : row = other := Option.some.inj (found.symm.trans otherFound)
          exact alive after view (unchanged dead ▸ dead)
  · obtain ⟨worker, now, call⟩ := invocation
    obtain rfl : call = .fail jobId error := called
    have empty : lettersOf system jobId = [] := by
      refine clear ?_
      intro other otherFound
      exact spared jobId error other rfl otherFound
    have view := rowOf_fail worker now system found error
    rw [if_pos spent] at view
    refine ⟨?_, fun alive => absurd rfl (alive _ view)⟩
    intro other otherView dead
    obtain rfl : deadLetterRow error now row = other :=
      Option.some.inj (view.symm.trans otherView)
    exact ⟨letter, by simp [grown, empty], payload, final⟩

/-- A `fail` of a dead letter leaves the tables inconsistent. -/
theorem failSparesDeadLetters_of_consistent
    {system : System Worker Time} {invocation : Invocation Worker Time}
    (before : DeadLettersConsistent system)
    (after : DeadLettersConsistent (step system invocation).2) :
    FailSparesDeadLetters (queueEvent system invocation) := by
  intro jobId error row called found dead
  obtain ⟨worker, now, call⟩ := invocation
  obtain rfl : call = .fail jobId error := called
  obtain ⟨letter, archived, -⟩ := (before jobId).1 row found dead
  have view := rowOf_fail worker now system found error
  by_cases spent : exhausted (system.queues worker) row = true
  · rw [if_pos spent] at view
    obtain ⟨only, single, -⟩ := (after jobId).1 _ view rfl
    rcases lettersOf_step system ⟨worker, now, .fail jobId error⟩ jobId with
      ⟨kept, -⟩ | ⟨-, -, second, -, -, -, -, -, grown⟩
    · exact kept ⟨error, row, rfl, found, spent⟩
    · simp [grown, archived] at single
  · rw [if_neg spent] at view
    have clear := (after jobId).2 (by
      intro other otherView
      obtain rfl : retryRow error now row = other :=
        Option.some.inj (view.symm.trans otherView)
      simp [retryRow])
    rcases lettersOf_step system ⟨worker, now, .fail jobId error⟩ jobId with
      ⟨-, same⟩ | ⟨-, other, -, -, otherFound, otherSpent, -⟩
    · simp [same, archived] at clear
    · obtain rfl : row = other := Option.some.inj (found.symm.trans otherFound)
      exact spent otherSpent

theorem deadLettersConsistent_iff
    (leaseSeconds : Worker → Int) (calls : List (Invocation Worker Time)) :
    (∀ early later, calls = early ++ later → DeadLettersConsistent
        (Machine.final step (System.initial leaseSeconds : System Worker Time) early)) ↔
      ∀ event ∈ Machine.trace step (System.initial leaseSeconds) calls,
        FailSparesDeadLetters event := by
  constructor
  · intro consistent event member
    obtain ⟨early, call, later, shape, rfl⟩ := (Machine.mem_trace_iff step).mp member
    have before := consistent early (call :: later) shape
    have after := consistent (early ++ [call]) later (by simp [shape])
    rw [Machine.final_append] at after
    exact failSparesDeadLetters_of_consistent before after
  · rintro spared early later rfl
    have initial : DeadLettersConsistent (System.initial leaseSeconds : System Worker Time) := by
      intro jobId
      refine ⟨?_, fun _ => rfl⟩
      intro row found
      simp [rowOf, System.initial, JobTable.empty, JobTable.find?] at found
    refine (Machine.run_of_guard step DeadLettersConsistent FailSparesDeadLetters
      (fun _ => True) ?_ initial early ?_).1
    · exact fun system call consistent guard =>
        ⟨deadLettersConsistent_step consistent guard, trivial⟩
    · exact fun event member => spared event (by simp [Machine.trace_append, member])

end Abandoning

/-- A job that is reported as failed twice after its last attempt. -/
def failedTwice : List (Invocation Unit Int) :=
  [⟨(), 0, .enqueue { jobId := "j", jobType := "t", payload := .dict [], maxAttempts := 1 }⟩,
    ⟨(), 1, .leaseNext none 0⟩,
    ⟨(), 2, .fail "j" "first"⟩,
    ⟨(), 3, .fail "j" "second"⟩]

theorem failedTwice_archived_twice :
    ¬DeadLettersConsistent (Machine.final step (System.initial (fun _ => 300)) failedTwice) := by
  intro consistent
  have dead : (rowOf (Machine.final step (System.initial (fun _ => 300)) failedTwice) "j").map
      JobRow.state = some .deadLetter := by
    decide +kernel
  have twice : (lettersOf (Machine.final step (System.initial (fun _ => 300)) failedTwice)
      "j").length = 2 := by
    decide +kernel
  obtain ⟨row, found, state⟩ := Option.map_eq_some_iff.mp dead
  obtain ⟨letter, single, -⟩ := (consistent "j").1 row found state
  simp [single] at twice

end SuperAdvisor.Scheduler
