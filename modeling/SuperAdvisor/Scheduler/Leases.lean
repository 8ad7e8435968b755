import Mathlib.Algebra.Order.Group.Int
import SuperAdvisor.Scheduler.RowEffect

/-!
# Leases and attempts

In every run a job has an expiry exactly while it is leased, its attempt
counter counts the calls of `lease_next` that returned it, and a second lease
needs a `fail` or a sweep later than the expiry last written for the job.
-/

namespace SuperAdvisor.Scheduler

variable {Worker Time : Type}

/-- The test for `LeasesJob`. -/
def leasesJob (event : QueueEvent Worker Time) (jobId : String) : Bool :=
  match event.call.call, event.reply with
  | .leaseNext _ _, .job (some job) => decide (job.jobId = jobId)
  | _, _ => false

/-- The test for `RenewsLease`. -/
def renewsLease (event : QueueEvent Worker Time) (jobId : String) : Bool :=
  match event.call.call, event.reply with
  | .renewLease target, .flag true => decide (target = jobId)
  | _, _ => false

theorem leasesJob_iff {event : QueueEvent Worker Time} {jobId : String} :
    leasesJob event jobId = true ↔ LeasesJob event jobId := by
  constructor
  · intro leases
    unfold leasesJob at leases
    split at leases
    next jobType tie job called answered =>
      exact ⟨jobType, tie, job, called, answered, by simpa using leases⟩
    next => cases leases
  · rintro ⟨jobType, tie, job, called, answered, same⟩
    simp [leasesJob, called, answered, same]

theorem renewsLease_iff {event : QueueEvent Worker Time} {jobId : String} :
    renewsLease event jobId = true ↔ RenewsLease event jobId := by
  constructor
  · intro renews
    unfold renewsLease at renews
    split at renews
    next target called answered =>
      exact ⟨by simpa [called] using renews, answered⟩
    next => cases renews
  · rintro ⟨called, answered⟩
    simp [renewsLease, called, answered]

instance (event : QueueEvent Worker Time) (jobId : String) :
    Decidable (LeasesJob event jobId) :=
  decidable_of_iff _ leasesJob_iff

instance (event : QueueEvent Worker Time) (jobId : String) :
    Decidable (RenewsLease event jobId) :=
  decidable_of_iff _ renewsLease_iff

/-- How often `lease_next` returned the job. -/
def leaseCount (events : List (QueueEvent Worker Time)) (jobId : String) : Nat :=
  events.countP (fun event => decide (LeasesJob event jobId))

theorem leaseCount_append
    (past later : List (QueueEvent Worker Time)) (jobId : String) :
    leaseCount (past ++ later) jobId = leaseCount past jobId + leaseCount later jobId :=
  List.countP_append

theorem leaseCount_singleton (event : QueueEvent Worker Time) (jobId : String) :
    leaseCount [event] jobId = if LeasesJob event jobId then 1 else 0 := by
  by_cases leases : LeasesJob event jobId <;> simp [leaseCount, leases]

section Expiry

variable [HAdd Time Int Time]

/-- The expiry that `lease_next` or `renew_lease` writes for the job. -/
def writtenLease (event : QueueEvent Worker Time) (jobId : String) : Option Time :=
  if LeasesJob event jobId ∨ RenewsLease event jobId then
    some (event.call.now + (queueOf event).leaseSeconds)
  else none

/-- The expiry last written for the job. -/
def lastLeaseWritten (events : List (QueueEvent Worker Time)) (jobId : String) :
    Option Time :=
  events.foldl (fun last event => (writtenLease event jobId).or last) none

theorem lastLeaseWritten_snoc
    (past : List (QueueEvent Worker Time)) (event : QueueEvent Worker Time)
    (jobId : String) :
    lastLeaseWritten (past ++ [event]) jobId =
      (writtenLease event jobId).or (lastLeaseWritten past jobId) := by
  simp [lastLeaseWritten, List.foldl_append]

theorem writtenLease_of_idle
    {event : QueueEvent Worker Time} {jobId : String} (idle : Idle event jobId) :
    writtenLease event jobId = none := by
  simp [writtenLease, idle.1, idle.2]

/-- The row of a job agrees with what happened to the job. -/
structure RowAccounted (past : List (QueueEvent Worker Time)) (jobId : String)
    (row : JobRow Time) : Prop where
  expiry : row.leaseExpires.isSome = true ↔ row.state = .leased
  counted : row.attempt = leaseCount past jobId
  written : row.state = .leased → row.leaseExpires = lastLeaseWritten past jobId

variable {past : List (QueueEvent Worker Time)} {event : QueueEvent Worker Time}
  {jobId : String} {row after : JobRow Time}

theorem RowAccounted.snoc_idle
    (accounted : RowAccounted past jobId row) (idle : Idle event jobId) :
    RowAccounted (past ++ [event]) jobId row := by
  refine ⟨accounted.expiry, ?_, ?_⟩
  · simp [leaseCount_append, leaseCount_singleton, idle.1, accounted.counted]
  · intro held
    simpa [lastLeaseWritten_snoc, writtenLease_of_idle idle] using
      accounted.written held

/-- A row that gives its lease up stays accounted for. -/
theorem RowAccounted.release
    (accounted : RowAccounted past jobId row) (released : after.state ≠ .leased)
    (cleared : after.leaseExpires = none) (same : after.attempt = row.attempt) :
    RowAccounted past jobId after :=
  ⟨by simp [cleared, released], by rw [same, accounted.counted],
    fun held => absurd held released⟩

variable [LinearOrder Time]

theorem RowAccounted.afterSweep
    (accounted : RowAccounted past jobId row) (now : Time) :
    RowAccounted past jobId (afterSweep now row) := by
  unfold Scheduler.afterSweep
  split
  · exact accounted.release (by simp [requeue]) rfl rfl
  · exact accounted

omit [LinearOrder Time] [HAdd Time Int Time] in
theorem Call.IsSweep.not_renewsLease
    (sweep : event.call.call.IsSweep) : ¬RenewsLease event jobId := by
  rintro ⟨called, -⟩
  simp [called, Call.IsSweep] at sweep

theorem RowAccounted.effect
    (accounted : RowAccounted past jobId row) (effect : RowEffect event jobId row after) :
    RowAccounted (past ++ [event]) jobId after := by
  cases effect with
  | untouched idle => exact accounted.snoc_idle idle
  | swept sweep idle =>
      exact (accounted.afterSweep event.call.now).snoc_idle
        ⟨idle, sweep.not_renewsLease⟩
  | leased leases queued =>
      refine ⟨by simp [leaseRow], ?_, ?_⟩
      · have counted := (accounted.afterSweep event.call.now).counted
        simp [leaseRow, leaseCount_append, leaseCount_singleton, leases, counted]
      · simp [leaseRow, lastLeaseWritten_snoc, writtenLease, leases]
  | renewed renews held =>
      have idle : ¬LeasesJob event jobId :=
        not_leasesJob_of_call (by simp [renews.1])
      refine ⟨by simp [renewRow, held], ?_, ?_⟩
      · simp [renewRow, leaseCount_append, leaseCount_singleton, idle, accounted.counted]
      · simp [renewRow, lastLeaseWritten_snoc, writtenLease, renews]
  | checkpointed data column called dumped held =>
      have idle : Idle event jobId := idle_of_call (by simp [called]) (by simp [called])
      have kept := accounted.snoc_idle idle
      exact ⟨kept.expiry, kept.counted, kept.written⟩
  | completed called held =>
      exact (accounted.snoc_idle
        (idle_of_call (by simp [called]) (by simp [called]))).release
          (by simp [completeRow]) rfl rfl
  | abandoned error called spent =>
      exact (accounted.snoc_idle
        (idle_of_call (by simp [called]) (by simp [called]))).release
          (by simp [deadLetterRow]) rfl rfl
  | retried error called left =>
      exact (accounted.snoc_idle
        (idle_of_call (by simp [called]) (by simp [called]))).release
          (by simp [retryRow]) rfl rfl
  | cancelled called cancellable =>
      exact (accounted.snoc_idle
        (idle_of_call (by simp [called]) (by simp [called]))).release
          (by simp [cancelRow]) rfl rfl

theorem RowEffect.of_leases
    (effect : RowEffect event jobId row after) (leases : LeasesJob event jobId) :
    (Scheduler.afterSweep event.call.now row).state = .queued ∧ after.state = .leased := by
  cases effect with
  | untouched idle => exact absurd leases idle.1
  | swept sweep idle => exact absurd leases idle
  | leased _ queued => exact ⟨queued, rfl⟩
  | renewed renews held =>
      exact absurd leases (not_leasesJob_of_call (by simp [renews.1]))
  | checkpointed data column called dumped held =>
      exact absurd leases (not_leasesJob_of_call (by simp [called]))
  | completed called held =>
      exact absurd leases (not_leasesJob_of_call (by simp [called]))
  | abandoned error called spent =>
      exact absurd leases (not_leasesJob_of_call (by simp [called]))
  | retried error called left =>
      exact absurd leases (not_leasesJob_of_call (by simp [called]))
  | cancelled called cancellable =>
      exact absurd leases (not_leasesJob_of_call (by simp [called]))

def FailsJob (event : QueueEvent Worker Time) (jobId : String) : Prop :=
  ∃ error, event.call.call = .fail jobId error

/-- A sweep later than the expiry last written for the job. -/
def ExpirySweep (past : List (QueueEvent Worker Time))
    (event : QueueEvent Worker Time) (jobId : String) : Prop :=
  event.call.call.IsSweep ∧
    ∃ expires, lastLeaseWritten past jobId = some expires ∧ expires < event.call.now

/-- Between two leases the job failed, or a sweep found its lease expired. -/
def ReleasedBetween (past middle : List (QueueEvent Worker Time))
    (second : QueueEvent Worker Time) (jobId : String) : Prop :=
  (∃ event ∈ middle, FailsJob event jobId) ∨
    ∃ upTo sweep rest, middle ++ [second] = upTo ++ sweep :: rest ∧
      ExpirySweep (past ++ upTo) sweep jobId

theorem afterSweep_of_no_expiry
    (accounted : RowAccounted past jobId row) (sweep : event.call.call.IsSweep)
    (noSweep : ¬ExpirySweep past event jobId) :
    Scheduler.afterSweep event.call.now row = row := by
  refine if_neg ?_
  intro expired
  simp only [isExpiredLease, isLeased, Bool.and_eq_true, decide_eq_true_eq] at expired
  obtain ⟨held, late⟩ := expired
  cases shape : row.leaseExpires with
  | none => simp [shape] at late
  | some expires =>
      refine noSweep ⟨sweep, expires, ?_, by simpa [shape] using late⟩
      rw [← accounted.written held, shape]

/-- Without a failure and without an expiry a job does not come back. -/
theorem RowEffect.keeps_unqueued
    (effect : RowEffect event jobId row after) (accounted : RowAccounted past jobId row)
    (unqueued : row.state ≠ .queued) (noFail : ¬FailsJob event jobId)
    (noSweep : ¬ExpirySweep past event jobId) :
    after.state ≠ .queued ∧ ¬LeasesJob event jobId := by
  have idle : ¬LeasesJob event jobId := by
    intro leases
    have queued := (effect.of_leases leases).1
    obtain ⟨jobType, tie, job, called, -, -⟩ := leases
    have sweep : event.call.call.IsSweep := by simp [called, Call.IsSweep]
    rw [afterSweep_of_no_expiry accounted sweep noSweep] at queued
    exact unqueued queued
  refine ⟨?_, idle⟩
  cases effect with
  | untouched _ => exact unqueued
  | swept sweep _ => rwa [afterSweep_of_no_expiry accounted sweep noSweep]
  | leased leases _ => exact absurd leases idle
  | renewed renews held => exact unqueued
  | checkpointed data column called dumped held => exact unqueued
  | completed called held => simp [completeRow]
  | abandoned error called spent => exact absurd ⟨error, called⟩ noFail
  | retried error called left => exact absurd ⟨error, called⟩ noFail
  | cancelled called cancellable => simp [cancelRow]

end Expiry

variable [LinearOrder Time] [HAdd Time Int Time] [DecidableEq Worker]

/-- Every row agrees with the history of its job. -/
def LeasesAccounted (past : List (QueueEvent Worker Time))
    (system : System Worker Time) : Prop :=
  ∀ jobId, (∀ row, rowOf system jobId = some row → RowAccounted past jobId row) ∧
    (rowOf system jobId = none → leaseCount past jobId = 0)

omit [LinearOrder Time] [DecidableEq Worker] in
theorem leasesAccounted_initial (leaseSeconds : Worker → Int) :
    LeasesAccounted [] (System.initial leaseSeconds : System Worker Time) := by
  intro jobId
  refine ⟨?_, fun _ => rfl⟩
  intro row found
  simp [rowOf, System.initial, JobTable.empty, JobTable.find?] at found

theorem leasesAccounted_step
    (past : List (QueueEvent Worker Time)) (system : System Worker Time)
    (invocation : Invocation Worker Time) (accounted : LeasesAccounted past system) :
    LeasesAccounted (past ++ [queueEvent system invocation])
      (step system invocation).2 := by
  intro jobId
  cases found : rowOf system jobId with
  | some row =>
      obtain ⟨after, view, effect⟩ := rowOf_step invocation found
      have kept := ((accounted jobId).1 row found).effect effect
      rw [view]
      exact ⟨fun _ same => Option.some.inj same ▸ kept, fun absent => nomatch absent⟩
  | none =>
      obtain ⟨idle, created⟩ := rowOf_step_of_none invocation found
      have zero : leaseCount (past ++ [queueEvent system invocation]) jobId = 0 := by
        simp [leaseCount_append, leaseCount_singleton, idle, (accounted jobId).2 found]
      refine ⟨?_, fun _ => zero⟩
      intro row view
      rcases created with absent | ⟨request, payload, called, same, inserted⟩
      · simp [absent] at view
      · obtain rfl : newRow request payload invocation.now = row :=
          Option.some.inj (inserted.symm.trans view)
        exact ⟨by simp [newRow], by simp [newRow, zero], by simp [newRow]⟩

theorem leasesAccounted_run
    (leaseSeconds : Worker → Int) (calls : List (Invocation Worker Time)) :
    LeasesAccounted (Machine.trace step (System.initial leaseSeconds) calls)
      (Machine.final step (System.initial leaseSeconds) calls) :=
  Machine.trace_invariant step LeasesAccounted leasesAccounted_step
    (leasesAccounted_initial leaseSeconds) calls

/-- A job that is not queued is leased again only after a release. -/
theorem releasedBetween_of_unqueued
    {past : List (QueueEvent Worker Time)} {system : System Worker Time}
    (accounted : LeasesAccounted past system) {jobId : String} {row : JobRow Time}
    (found : rowOf system jobId = some row) (unqueued : row.state ≠ .queued)
    (calls : List (Invocation Worker Time)) (second : Invocation Worker Time)
    (leases : LeasesJob (queueEvent (Machine.final step system calls) second) jobId) :
    ReleasedBetween past (Machine.trace step system calls)
      (queueEvent (Machine.final step system calls) second) jobId := by
  induction calls generalizing past system row with
  | nil =>
      simp only [Machine.final, Machine.trace] at leases ⊢
      obtain ⟨after, view, effect⟩ := rowOf_step second found
      have noFail : ¬FailsJob (queueEvent system second) jobId := by
        rintro ⟨error, called⟩
        exact not_leasesJob_of_call (by simp [called]) leases
      by_contra kept
      have noSweep : ¬ExpirySweep past (queueEvent system second) jobId := by
        intro sweep
        exact kept (.inr ⟨[], _, [], rfl, by simpa using sweep⟩)
      exact (effect.keeps_unqueued ((accounted jobId).1 row found) unqueued noFail
        noSweep).2 leases
  | cons call calls induction =>
      obtain ⟨after, view, effect⟩ := rowOf_step call found
      by_cases fails : FailsJob (queueEvent system call) jobId
      · exact .inl ⟨_, by simp [Machine.trace], fails⟩
      · by_cases sweep : ExpirySweep past (queueEvent system call) jobId
        · exact .inr ⟨[], _, _, rfl, by simpa using sweep⟩
        · have kept := (effect.keeps_unqueued ((accounted jobId).1 row found) unqueued
            fails sweep).1
          rcases induction (leasesAccounted_step past system call accounted) view kept
              leases with ⟨event, member, failed⟩ | ⟨upTo, sweeping, rest, shape, expired⟩
          · exact .inl ⟨event, by simp [Machine.trace, member], failed⟩
          · refine .inr ⟨queueEvent system call :: upTo, sweeping, rest, ?_, ?_⟩
            · simpa [Machine.trace, Machine.final] using shape
            · simpa using expired

/-- A lease is exclusive: an expiry exactly while leased, every lease counted,
and a release between any two leases of one job. -/
theorem lease_exclusive
    (leaseSeconds : Worker → Int) (calls : List (Invocation Worker Time))
    (jobId : String) :
    (∀ row, rowOf (Machine.final step (System.initial leaseSeconds) calls) jobId =
        some row →
      (row.leaseExpires.isSome = true ↔ row.state = .leased) ∧
        row.attempt =
          leaseCount (Machine.trace step (System.initial leaseSeconds) calls) jobId) ∧
      ∀ early first middle second late,
        Machine.trace step (System.initial leaseSeconds) calls =
          early ++ first :: (middle ++ second :: late) →
        LeasesJob first jobId → LeasesJob second jobId →
          ReleasedBetween (early ++ [first]) middle second jobId := by
  refine ⟨?_, ?_⟩
  · intro row found
    have accounted := (leasesAccounted_run leaseSeconds calls jobId).1 row found
    exact ⟨accounted.expiry, accounted.counted⟩
  · intro early first middle second late shape firstLeases secondLeases
    obtain ⟨earlyCalls, rest, rfl, rfl, restTrace⟩ := Machine.trace_eq_append step shape
    cases rest with
    | nil => cases restTrace
    | cons firstCall rest =>
        obtain ⟨rfl, laterTrace⟩ := List.cons.inj restTrace
        obtain ⟨middleCalls, tail, rfl, rfl, tailTrace⟩ :=
          Machine.trace_eq_append step laterTrace
        cases tail with
        | nil => cases tailTrace
        | cons secondCall tail =>
            obtain ⟨rfl, -⟩ := List.cons.inj tailTrace
            have accounted := leasesAccounted_run leaseSeconds earlyCalls
            have next := leasesAccounted_step _ _ firstCall accounted
            cases found : rowOf (Machine.final step (System.initial leaseSeconds)
                earlyCalls) jobId with
            | none =>
                exact absurd firstLeases (rowOf_step_of_none firstCall found).1
            | some row =>
                obtain ⟨after, view, effect⟩ := rowOf_step firstCall found
                have held := (effect.of_leases firstLeases).2
                exact releasedBetween_of_unqueued next view (by simp [held])
                  middleCalls secondCall secondLeases

end SuperAdvisor.Scheduler
