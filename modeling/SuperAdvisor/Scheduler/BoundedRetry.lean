import SuperAdvisor.Scheduler.Leases

/-!
# Bounded retry

`fail` compares the attempts of a job with its maximum; the sweeps that requeue
expired leases do not.  The number of leases stays within the maximum in every
run whose sweeps never meet the expired lease of a job that has no attempt
left.
-/

namespace SuperAdvisor.Scheduler

variable {Worker Time : Type}

/-- A queued job has an attempt left, and no job has used too many. -/
structure RetryBounded (row : JobRow Time) : Prop where
  within : row.attempt ≤ row.maxAttempts
  left : row.state = .queued → row.attempt < row.maxAttempts

section Sweeps

variable [LinearOrder Time]

/-- A sweep finds no expired lease of the job without an attempt left. -/
def SweepSparesExhausted (event : QueueEvent Worker Time) (jobId : String) : Prop :=
  event.call.call.IsSweep → ∀ row ∈ rowOf event.before jobId,
    isExpiredLease event.call.now row = true → row.attempt < row.maxAttempts

instance (event : QueueEvent Worker Time) (jobId : String) :
    Decidable (SweepSparesExhausted event jobId) :=
  inferInstanceAs (Decidable (_ → _))

theorem RetryBounded.afterSweep
    {row : JobRow Time} (bounded : RetryBounded row) {now : Time}
    (spared : isExpiredLease now row = true → row.attempt < row.maxAttempts) :
    RetryBounded (afterSweep now row) ∧
      (afterSweep now row).maxAttempts = row.maxAttempts := by
  unfold Scheduler.afterSweep
  split
  next expired =>
    exact ⟨⟨bounded.within, fun _ => spared expired⟩, rfl⟩
  next => exact ⟨bounded, rfl⟩

variable [HAdd Time Int Time]

theorem RowEffect.keeps_retryBounded
    {event : QueueEvent Worker Time} {jobId : String} {row after : JobRow Time}
    (effect : RowEffect event jobId row after) (found : rowOf event.before jobId = some row)
    (spared : SweepSparesExhausted event jobId) (bounded : RetryBounded row) :
    RetryBounded after ∧ after.maxAttempts = row.maxAttempts := by
  cases effect with
  | untouched idle => exact ⟨bounded, rfl⟩
  | swept sweep idle => exact bounded.afterSweep (spared sweep row found)
  | leased leases queued =>
      have sweep : event.call.call.IsSweep := by
        obtain ⟨jobType, tie, job, called, -, -⟩ := leases
        simp [called, Call.IsSweep]
      obtain ⟨sweptBounded, sameMax⟩ := bounded.afterSweep (spared sweep row found)
      have room := sweptBounded.left queued
      refine ⟨⟨?_, ?_⟩, sameMax⟩
      · simp only [leaseRow]
        omega
      · intro absurdState
        simp [leaseRow] at absurdState
  | renewed renews held =>
      exact ⟨⟨bounded.within, fun queued => bounded.left queued⟩, rfl⟩
  | checkpointed data column called dumped held =>
      exact ⟨⟨bounded.within, fun queued => bounded.left queued⟩, rfl⟩
  | completed called held =>
      exact ⟨⟨bounded.within, fun queued => by simp [completeRow] at queued⟩, rfl⟩
  | abandoned error called spent =>
      exact ⟨⟨bounded.within, fun queued => by simp [deadLetterRow] at queued⟩, rfl⟩
  | retried error called left =>
      refine ⟨⟨bounded.within, fun _ => ?_⟩, rfl⟩
      simp only [exhausted, Bool.or_eq_false_iff, decide_eq_false_iff_not] at left
      simpa [retryRow] using left.1
  | cancelled called cancellable =>
      exact ⟨⟨bounded.within, fun queued => by simp [cancelRow] at queued⟩, rfl⟩

end Sweeps

variable [LinearOrder Time] [HAdd Time Int Time] [DecidableEq Worker]

theorem retryBounded_run
    {system : System Worker Time} (calls : List (Invocation Worker Time))
    {jobId : String}
    (spared : ∀ event ∈ Machine.trace step system calls, SweepSparesExhausted event jobId)
    {row : JobRow Time} (found : rowOf system jobId = some row)
    (bounded : RetryBounded row) :
    ∃ after, rowOf (Machine.final step system calls) jobId = some after ∧
      RetryBounded after ∧ after.maxAttempts = row.maxAttempts := by
  refine (Machine.run_of_guard step
    (fun state => ∃ after, rowOf state jobId = some after ∧
      RetryBounded after ∧ after.maxAttempts = row.maxAttempts)
    (fun event => SweepSparesExhausted event jobId) (fun _ => True) ?_
    ⟨row, found, bounded, rfl⟩ calls spared).1
  rintro state call ⟨current, currentFound, currentBounded, currentMax⟩ sparing
  obtain ⟨next, view, effect⟩ := rowOf_step call currentFound
  obtain ⟨nextBounded, sameMax⟩ :=
    effect.keeps_retryBounded currentFound sparing currentBounded
  exact ⟨⟨next, view, nextBounded, sameMax.trans currentMax⟩, trivial⟩

/-- A job enqueued with at least one attempt is leased at most as often as it
may be attempted, and its counter stays within the maximum. -/
def BoundedRetry (start : System Worker Time)
    (calls : List (Invocation Worker Time)) (jobId : String) : Prop :=
  ∀ event ∈ Machine.trace step start calls, ∀ request job,
    event.call.call = .enqueue request → event.reply = .job (some job) →
      request.jobId = jobId → 1 ≤ request.maxAttempts →
        leaseCount (Machine.trace step start calls) jobId ≤ request.maxAttempts ∧
          ∀ row, rowOf (Machine.final step start calls) jobId = some row →
            row.attempt ≤ request.maxAttempts

theorem boundedRetry_of_spared
    (leaseSeconds : Worker → Int) (calls : List (Invocation Worker Time))
    (jobId : String)
    (spared : ∀ event ∈ Machine.trace step (System.initial leaseSeconds) calls,
      SweepSparesExhausted event jobId) :
    BoundedRetry (System.initial leaseSeconds) calls jobId := by
  intro event member request job called accepted named positive
  obtain ⟨early, ⟨worker, now, call⟩, later, rfl, rfl⟩ :=
    (Machine.mem_trace_iff step).mp member
  obtain rfl : call = .enqueue request := called
  obtain ⟨payload, inserted⟩ := rowOf_of_enqueued worker now accepted
  rw [named] at inserted
  have fresh : RetryBounded (newRow request payload now) :=
    ⟨by simp only [newRow]; omega, fun _ => by simp only [newRow]; omega⟩
  obtain ⟨after, view, bounded, sameMax⟩ := retryBounded_run later
    (fun event member => spared event (by simp [Machine.trace_append, Machine.trace, member]))
    inserted fresh
  have final : Machine.final step (System.initial leaseSeconds)
      (early ++ ⟨worker, now, .enqueue request⟩ :: later) =
        Machine.final step (step (Machine.final step (System.initial leaseSeconds) early)
          ⟨worker, now, .enqueue request⟩).2 later := by
    rw [Machine.final_append]
    rfl
  have sameRequest : after.maxAttempts = request.maxAttempts := sameMax
  have within := bounded.within
  rw [sameRequest] at within
  rw [← final] at view
  have counted := ((leasesAccounted_run leaseSeconds _ jobId).1 after view).counted
  refine ⟨counted ▸ within, ?_⟩
  intro row found
  obtain rfl : after = row := Option.some.inj (view.symm.trans found)
  exact within

/-- A job with a number of attempts. -/
def attemptsRequest (maxAttempts : Int) : EnqueueRequest :=
  { jobId := "j"
    jobType := "t"
    payload := .dict []
    maxAttempts := maxAttempts }

/-- A job that may be attempted once, whose worker dies. -/
def crashedWorker : List (Invocation Unit Int) :=
  [⟨(), 0, .enqueue (attemptsRequest 1)⟩,
    ⟨(), 1, .leaseNext none 0⟩,
    ⟨(), 302, .leaseNext none 0⟩]

theorem crashedWorker_leased_twice :
    (crashedWorker.map Invocation.now).Pairwise (· ≤ ·) ∧
      ¬BoundedRetry (System.initial (fun _ => 300)) crashedWorker "j" := by
  refine ⟨by decide, ?_⟩
  intro bounded
  have twice : leaseCount (Machine.trace step (System.initial (fun _ => 300))
      crashedWorker) "j" = 2 := by
    decide +kernel
  have accepted : ∃ job, (step (System.initial (fun _ => 300))
      (⟨(), 0, .enqueue (attemptsRequest 1)⟩ : Invocation Unit Int)).1 =
        .job (some job) :=
    ⟨_, rfl⟩
  obtain ⟨job, answered⟩ := accepted
  have once := (bounded _ List.mem_cons_self _ job rfl answered rfl (by decide)).1
  rw [twice] at once
  exact absurd once (by decide)

/-- A worker that reports its failure in time. -/
def reportedFailure : List (Invocation Unit Int) :=
  [⟨(), 0, .enqueue (attemptsRequest 2)⟩,
    ⟨(), 1, .leaseNext none 0⟩,
    ⟨(), 2, .fail "j" "broken"⟩,
    ⟨(), 3, .leaseNext none 0⟩]

theorem reportedFailure_bounded :
    BoundedRetry (System.initial (fun _ => 300)) reportedFailure "j" :=
  boundedRetry_of_spared _ _ _ (by decide +kernel)

end SuperAdvisor.Scheduler
