import SuperAdvisor.Scheduler.Leases

/-!
# Calls of stale workers

The queue knows the jobs that are leased and not the workers that lease them.
A late call of a worker whose lease was swept does nothing to a job that is not
leased, and acts on a job that is leased again as the same call of the new
holder would.
-/

namespace SuperAdvisor.Scheduler

open Python

variable {Worker Time : Type}

/-- The calls a worker makes for a job it has leased. -/
def Call.ActsFor (jobId : String) : Call → Prop
  | .renewLease target => target = jobId
  | .checkpoint target _ => target = jobId
  | .complete target => target = jobId
  | .fail target _ => target = jobId
  | _ => False

/-- `fail` is the one of them that checks no state. -/
def Call.IsFail : Call → Prop
  | .fail _ _ => True
  | _ => False

/-- The columns of a row that a stale worker must leave alone. -/
structure SameLease (before after : JobRow Time) : Prop where
  state : after.state = before.state
  checkpoint : after.checkpoint = before.checkpoint
  error : after.error = before.error
  leaseExpires : after.leaseExpires = before.leaseExpires

section Acting

variable [HAdd Time Int Time]

/-- What a call for a leased job writes, given the caller's queue object. -/
def actedRow (queue : PersistentJobQueue) (now : Time) (call : Call) (row : JobRow Time) :
    JobRow Time :=
  match call with
  | .renewLease _ => renewRow (now + queue.leaseSeconds) now row
  | .checkpoint _ data =>
      match JsonColumn.dump data with
      | .ok column => checkpointRow column now row
      | .error _ => row
  | .complete _ => completeRow now row
  | .fail _ error =>
      if exhausted queue row then deadLetterRow error now row else retryRow error now row
  | _ => row

end Acting

variable [LinearOrder Time] [HAdd Time Int Time] [DecidableEq Worker]

/-- A call for a leased job acts on the lease, whoever makes it. -/
theorem rowOf_step_of_leased
    {system : System Worker Time} {invocation : Invocation Worker Time} {jobId : String}
    {row : JobRow Time} (found : rowOf system jobId = some row) (held : row.state = .leased)
    (acts : invocation.call.ActsFor jobId) :
    rowOf (step system invocation).2 jobId =
      some (actedRow (system.queues invocation.worker) invocation.now invocation.call row) := by
  obtain ⟨worker, now, call⟩ := invocation
  have accepted : isLeased row = true := by simp [isLeased, held]
  cases call with
  | renewLease target =>
      obtain rfl : target = jobId := acts
      exact (updateOne_accepted isLeased _ _ found accepted).2
  | checkpoint target data =>
      obtain rfl : target = jobId := acts
      cases dumped : JsonColumn.dump data with
      | error problem => simpa [step, checkpoint, dumped, actedRow] using found
      | ok column =>
          simpa [step, checkpoint, dumped, actedRow, rowOf] using
            (updateOne_accepted isLeased (checkpointRow column now) (fun _ => ⟨rfl, rfl⟩)
              found accepted).2
  | complete target =>
      obtain rfl : target = jobId := acts
      exact (congrArg (JobTable.find? · target) (congrArg Store.jobs
        (complete_store now (system.queues worker) system.store target))).trans
          (updateOne_accepted isLeased _ _ found accepted).2
  | fail target error =>
      obtain rfl : target = jobId := acts
      exact rowOf_fail worker now system found error
  | _ => exact acts.elim

/-- A call other than `fail` for a job that is not leased changes nothing of
the job and reports no success. -/
theorem rowOf_step_of_unleased
    {system : System Worker Time} {invocation : Invocation Worker Time} {jobId : String}
    {row : JobRow Time} (found : rowOf system jobId = some row) (free : row.state ≠ .leased)
    (acts : invocation.call.ActsFor jobId) (notFail : ¬invocation.call.IsFail) :
    rowOf (step system invocation).2 jobId = some row ∧
      (step system invocation).1 ≠ .flag true := by
  obtain ⟨worker, now, call⟩ := invocation
  have refused : ¬(jobId = jobId ∧ isLeased row = true) := by simp [isLeased, free]
  have untouched : system.store.jobs.touches jobId isLeased = false := by
    refine Bool.eq_false_iff.mpr ?_
    intro touched
    obtain ⟨held, heldFound, accepted⟩ := JobTable.touches_iff.mp touched
    have same : held = row := Option.some.inj (heldFound.symm.trans found)
    exact refused ⟨rfl, same ▸ accepted⟩
  cases call with
  | renewLease target =>
      obtain rfl : target = jobId := acts
      refine ⟨updateOne_refused isLeased _ _ target found refused, ?_⟩
      simp [step, renewLease, updateOne, untouched]
  | checkpoint target data =>
      obtain rfl : target = jobId := acts
      cases dumped : JsonColumn.dump data with
      | error problem =>
          exact ⟨by simpa [step, checkpoint, dumped] using found,
            by simp [step, checkpoint, dumped]⟩
      | ok column =>
          refine ⟨?_, by simp [step, checkpoint, dumped, updateOne, untouched]⟩
          simpa [step, checkpoint, dumped, rowOf] using
            updateOne_refused isLeased (checkpointRow column now) (fun _ => ⟨rfl, rfl⟩) target
              found refused
  | complete target =>
      obtain rfl : target = jobId := acts
      refine ⟨?_, by simp [step, complete, updateOne, untouched]⟩
      exact (congrArg (JobTable.find? · target) (congrArg Store.jobs
        (complete_store now (system.queues worker) system.store target))).trans
          (updateOne_refused isLeased _ _ target found refused)
  | fail target error => exact (notFail trivial).elim
  | _ => exact acts.elim

/-- The lease of `first` expired and was swept before `second` took the job for
another worker, who still holds it when `late` comes. -/
structure StaleCall (gap held : List (QueueEvent Worker Time))
    (first second late : QueueEvent Worker Time) (jobId : String) : Prop where
  leased : LeasesJob first jobId
  swept : ∃ sweep ∈ gap ++ [second], sweep.call.call.IsSweep ∧
    ∃ row, rowOf sweep.before jobId = some row ∧ isExpiredLease sweep.call.now row = true
  leasedAgain : LeasesJob second jobId
  otherWorker : second.call.worker ≠ first.call.worker
  stillHeld : ∀ event ∈ held, ¬LeasesJob event jobId ∧
    ∃ row, rowOf event.after jobId = some row ∧ row.state = .leased
  sameWorker : late.call.worker = first.call.worker
  acts : late.call.call.ActsFor jobId

/-- No stale worker changes a new lease in the run. -/
def StaleCallsHarmless (leaseSeconds : Worker → Int)
    (calls : List (Invocation Worker Time)) : Prop :=
  ∀ early first gap second held late rest jobId,
    Machine.trace step (System.initial leaseSeconds) calls =
      early ++ first :: (gap ++ second :: (held ++ late :: rest)) →
    StaleCall gap held first second late jobId →
    ∀ before after, rowOf late.before jobId = some before →
      rowOf late.after jobId = some after → SameLease before after

/-- Late calls act on the lease there is, as a call of its holder would: they
write what the caller's queue object makes of the row of a leased job, only
`fail` changes a job that is not leased, and no other job is changed. -/
theorem late_calls_act_on_the_lease
    (leaseSeconds : Worker → Int) (calls : List (Invocation Worker Time))
    (late : Invocation Worker Time) (jobId : String) (acts : late.call.ActsFor jobId) :
    (∀ row, rowOf (Machine.final step (System.initial leaseSeconds) calls) jobId = some row →
      (row.state = .leased →
        rowOf (step (Machine.final step (System.initial leaseSeconds) calls) late).2 jobId =
          some (actedRow
            ((Machine.final step (System.initial leaseSeconds) calls).queues late.worker)
            late.now late.call row)) ∧
      (row.state ≠ .leased → ¬late.call.IsFail →
        rowOf (step (Machine.final step (System.initial leaseSeconds) calls) late).2 jobId =
          some row ∧
        (step (Machine.final step (System.initial leaseSeconds) calls) late).1 ≠ .flag true)) ∧
      ∀ other, other ≠ jobId →
        rowOf (step (Machine.final step (System.initial leaseSeconds) calls) late).2 other =
          rowOf (Machine.final step (System.initial leaseSeconds) calls) other := by
  refine ⟨?_, ?_⟩
  · intro row found
    exact ⟨fun held => rowOf_step_of_leased found held acts,
      fun free notFail => rowOf_step_of_unleased found free acts notFail⟩
  · intro other different
    obtain ⟨worker, now, call⟩ := late
    have elsewhere : ¬AddressesJob (queueEvent
        (Machine.final step (System.initial leaseSeconds) calls) ⟨worker, now, call⟩) other := by
      intro addresses
      cases call with
      | renewLease target => exact different (addresses.symm.trans acts)
      | checkpoint target data => exact different (addresses.symm.trans acts)
      | complete target => exact different (addresses.symm.trans acts)
      | fail target error => exact different (addresses.symm.trans acts)
      | _ => exact acts
    rcases rowOf_step_of_not_addressed ⟨worker, now, call⟩ elsewhere with
      same | ⟨row, -, sweep, -⟩
    · exact same
    · cases call with
      | leaseNext _ _ => exact acts.elim
      | resumeInProgress => exact acts.elim
      | _ => exact sweep.elim

/-- Worker `true` sleeps through its lease, worker `false` takes the job over,
then worker `true` reports success. -/
def takenOver : List (Invocation Bool Int) :=
  [⟨true, 0, .enqueue { jobId := "j", jobType := "t", payload := .dict [] }⟩,
    ⟨true, 1, .leaseNext none 0⟩,
    ⟨false, 302, .leaseNext none 0⟩,
    ⟨true, 303, .complete "j"⟩]

theorem takenOver_lease_still_answers :
    rowOf (Machine.final step (System.initial (fun _ => 300)) takenOver) "j" =
      (rowOf (Machine.final step (System.initial (fun _ => 300)) (takenOver.take 3)) "j").map
        (completeRow 303) := by
  have late := (late_calls_act_on_the_lease (fun _ => 300) (takenOver.take 3)
    ⟨true, 303, .complete "j"⟩ "j" rfl).1
  have held : (rowOf (Machine.final step (System.initial (fun _ => 300))
      (takenOver.take 3)) "j").map JobRow.state = some .leased := by
    decide +kernel
  obtain ⟨row, found, state⟩ := Option.map_eq_some_iff.mp held
  rw [found]
  exact (late row found).1 state

/-- The system after the first calls of that run. -/
def takenOverAfter (count : Nat) : System Bool Int :=
  Machine.final step (System.initial (fun _ => 300)) (takenOver.take count)

theorem takenOver_stale :
    StaleCall [] [] (queueEvent (takenOverAfter 1) ⟨true, 1, .leaseNext none 0⟩)
      (queueEvent (takenOverAfter 2) ⟨false, 302, .leaseNext none 0⟩)
      (queueEvent (takenOverAfter 3) ⟨true, 303, .complete "j"⟩) "j" := by
  have expired : (rowOf (takenOverAfter 2) "j").map (isExpiredLease 302) = some true := by
    decide +kernel
  obtain ⟨row, found, late⟩ := Option.map_eq_some_iff.mp expired
  constructor
  · decide +kernel
  · exact ⟨_, List.mem_singleton.mpr rfl, trivial, row, found, late⟩
  · decide +kernel
  · simp [Machine.eventOf]
  · simp
  · rfl
  · rfl

/-- The late report completes the job under the lease of the other worker. -/
theorem takenOver_completed_by_stale_worker :
    ¬StaleCallsHarmless (fun _ => 300) takenOver := by
  intro harmless
  have held : (rowOf (takenOverAfter 3) "j").map JobRow.state = some .leased := by
    decide +kernel
  have finished : (rowOf (takenOverAfter 4) "j").map JobRow.state = some .completed := by
    decide +kernel
  obtain ⟨before, beforeFound, leased⟩ := Option.map_eq_some_iff.mp held
  obtain ⟨after, afterFound, completed⟩ := Option.map_eq_some_iff.mp finished
  have same := (harmless [queueEvent (takenOverAfter 0) ⟨true, 0, .enqueue
    { jobId := "j", jobType := "t", payload := .dict [] }⟩] _ [] _ [] _ [] "j" rfl
    takenOver_stale before after beforeFound afterFound).state
  rw [leased, completed] at same
  cases same

end SuperAdvisor.Scheduler
