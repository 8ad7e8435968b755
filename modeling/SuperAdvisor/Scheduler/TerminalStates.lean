import SuperAdvisor.Scheduler.RowEffect

/-!
# Terminal job states

`complete` and `cancel` check the state they leave; `fail` checks none.  A run
keeps every finished job finished exactly when each of its `fail` calls that
reaches a finished job finds a dead letter and gives it up once more.
-/

namespace SuperAdvisor.Scheduler

variable {Worker Time : Type}

def JobState.IsTerminal : JobState → Prop
  | .completed | .cancelled | .deadLetter => True
  | .queued | .leased | .failed => False

section Spared

variable [LinearOrder Time] [HAdd Time Int Time]

/-- The event is no `fail` that takes a finished job out of its state. -/
def FailSparesTerminal (event : QueueEvent Worker Time) : Prop :=
  ∀ jobId error row, event.call.call = .fail jobId error →
    rowOf event.before jobId = some row → row.state.IsTerminal →
      row.state = .deadLetter ∧ exhausted (queueOf event) row = true

omit [HAdd Time Int Time] in
theorem afterSweep_of_terminal
    {row : JobRow Time} (terminal : row.state.IsTerminal) (now : Time) :
    afterSweep now row = row := by
  have notLeased : isLeased row = false := by
    cases shape : row.state <;> simp_all [isLeased, JobState.IsTerminal]
  simp [afterSweep, isExpiredLease, notLeased]

/-- What an event does to the row of a finished job. -/
theorem RowEffect.keeps_terminal
    {event : QueueEvent Worker Time} {jobId : String} {row after : JobRow Time}
    (effect : RowEffect event jobId row after) (spared : FailSparesTerminal event)
    (found : rowOf event.before jobId = some row) (terminal : row.state.IsTerminal) :
    after.state = row.state ∧ ¬LeasesJob event jobId := by
  cases effect with
  | untouched idle => exact ⟨rfl, idle.1⟩
  | swept sweep idle =>
      exact ⟨by rw [afterSweep_of_terminal terminal], idle⟩
  | leased leases queued =>
      rw [afterSweep_of_terminal terminal] at queued
      simp [queued, JobState.IsTerminal] at terminal
  | renewed renews held => simp [held, JobState.IsTerminal] at terminal
  | checkpointed data column called dumped held =>
      simp [held, JobState.IsTerminal] at terminal
  | completed called held => simp [held, JobState.IsTerminal] at terminal
  | abandoned error called spent =>
      have archived := (spared jobId error row called found terminal).1
      exact ⟨archived.symm, not_leasesJob_of_call (by simp [called])⟩
  | retried error called left =>
      have spent := (spared jobId error row called found terminal).2
      simp [left] at spent
  | cancelled called cancellable =>
      cases shape : row.state <;>
        simp [isCancellable, JobState.IsTerminal, shape] at cancellable terminal

end Spared

variable [LinearOrder Time] [HAdd Time Int Time] [DecidableEq Worker]

/-- Once a job is finished, no later call of the run changes its state and no
later `lease_next` returns it. -/
def TerminalAbsorbing
    (start : System Worker Time) (calls : List (Invocation Worker Time)) : Prop :=
  ∀ early later rest, calls = early ++ (later ++ rest) → ∀ jobId row,
    rowOf (Machine.final step start early) jobId = some row → row.state.IsTerminal →
      (∃ after, rowOf (Machine.final step start (early ++ later)) jobId = some after ∧
        after.state = row.state) ∧
      ∀ event ∈ Machine.trace step (Machine.final step start early) later,
        ¬LeasesJob event jobId

theorem terminal_run
    {system : System Worker Time} {calls : List (Invocation Worker Time)}
    (spared : ∀ event ∈ Machine.trace step system calls, FailSparesTerminal event)
    {jobId : String} {row : JobRow Time} (found : rowOf system jobId = some row)
    (terminal : row.state.IsTerminal) :
    (∃ after, rowOf (Machine.final step system calls) jobId = some after ∧
        after.state = row.state) ∧
      ∀ event ∈ Machine.trace step system calls, ¬LeasesJob event jobId := by
  refine Machine.run_of_guard step
    (fun state => ∃ after, rowOf state jobId = some after ∧ after.state = row.state)
    FailSparesTerminal (fun event => ¬LeasesJob event jobId) ?_
    ⟨row, found, rfl⟩ calls spared
  rintro state call ⟨current, currentFound, currentState⟩ sparing
  obtain ⟨next, view, effect⟩ := rowOf_step call currentFound
  obtain ⟨same, idle⟩ :=
    effect.keeps_terminal sparing currentFound (currentState ▸ terminal)
  exact ⟨⟨next, view, same.trans currentState⟩, idle⟩

/-- A `fail` that takes a finished job out of its state is a change of state. -/
theorem failSparesTerminal_of_unchanged
    {system : System Worker Time} {invocation : Invocation Worker Time}
    (unchanged : ∀ jobId row, rowOf system jobId = some row → row.state.IsTerminal →
      ∃ after, rowOf (step system invocation).2 jobId = some after ∧
        after.state = row.state) :
    FailSparesTerminal (queueEvent system invocation) := by
  intro jobId error row called found terminal
  obtain ⟨worker, now, call⟩ := invocation
  obtain rfl : call = .fail jobId error := called
  obtain ⟨after, view, same⟩ := unchanged jobId row found terminal
  have written := rowOf_fail worker now system found error
  have equal := Option.some.inj (view.symm.trans written)
  by_cases spent : exhausted (system.queues worker) row = true
  · refine ⟨?_, spent⟩
    rw [← same, equal, if_pos spent]
    rfl
  · rw [if_neg spent] at equal
    have state : row.state = .queued := by
      rw [← same, equal]
      rfl
    simp [state, JobState.IsTerminal] at terminal

/-- Finished jobs stay finished exactly in the runs whose `fail` calls spare
them. -/
theorem terminalAbsorbing_iff
    (leaseSeconds : Worker → Int) (calls : List (Invocation Worker Time)) :
    TerminalAbsorbing (System.initial leaseSeconds) calls ↔
      ∀ event ∈ Machine.trace step (System.initial leaseSeconds) calls,
        FailSparesTerminal event := by
  constructor
  · intro absorbing event member
    obtain ⟨early, call, later, shape, rfl⟩ := (Machine.mem_trace_iff step).mp member
    refine failSparesTerminal_of_unchanged ?_
    intro jobId row found terminal
    obtain ⟨view, -⟩ := absorbing early [call] later (by simp [shape]) jobId row
      found terminal
    rwa [Machine.final_append] at view
  · rintro spared early later rest rfl jobId row found terminal
    rw [Machine.final_append]
    refine terminal_run (fun event member => spared event ?_) found terminal
    simp [Machine.trace_append, member]

/-- A worker whose report of success is followed by a report of failure. -/
def doubleReport : List (Invocation Unit Int) :=
  [⟨(), 0, .enqueue
      { jobId := "j", jobType := "t", payload := .dict [] }⟩,
    ⟨(), 1, .leaseNext none 0⟩,
    ⟨(), 2, .complete "j"⟩,
    ⟨(), 3, .fail "j" "late"⟩,
    ⟨(), 4, .leaseNext none 0⟩]

theorem doubleReport_revives_completed :
    ¬TerminalAbsorbing (System.initial (fun _ => 300)) doubleReport := by
  intro absorbing
  have completed : (rowOf (Machine.final step (System.initial (fun _ => 300))
      (doubleReport.take 3)) "j").map JobRow.state = some .completed := by
    decide +kernel
  have revived : (rowOf (Machine.final step (System.initial (fun _ => 300))
      (doubleReport.take 3 ++ [⟨(), 3, .fail "j" "late"⟩])) "j").map JobRow.state =
        some .queued := by
    decide +kernel
  obtain ⟨row, found, state⟩ := Option.map_eq_some_iff.mp completed
  obtain ⟨⟨after, view, same⟩, -⟩ := absorbing (doubleReport.take 3)
    [⟨(), 3, .fail "j" "late"⟩] [⟨(), 4, .leaseNext none 0⟩] rfl "j" row found
    (by simp [state, JobState.IsTerminal])
  rw [view, Option.map_some, same, state] at revived
  cases revived

end SuperAdvisor.Scheduler
