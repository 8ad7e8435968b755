import SuperAdvisor.Scheduler.JobQueue

/-!
# What one invocation does to one row

Every invocation is seen through the row of one job.  `rowOf_step` says that
the row after the invocation is one of the effects of `RowEffect`, with the
guard under which the source performs it; `rowOf_step_of_none` says how a row
comes into being.
-/

namespace SuperAdvisor.Scheduler

open Python

variable {Worker Time : Type}

namespace JobTable

theorem find?_jobId
    {table : JobTable Time} {jobId : String} {row : JobRow Time}
    (found : table.find? jobId = some row) : row.jobId = jobId := by
  simpa using List.find?_some found

theorem mem_of_find?
    {table : JobTable Time} {jobId : String} {row : JobRow Time}
    (found : table.find? jobId = some row) : row ∈ table.rows :=
  List.mem_of_find?_eq_some found

theorem find?_of_mem
    {table : JobTable Time} {row : JobRow Time} (member : row ∈ table.rows) :
    table.find? row.jobId = some row := by
  obtain ⟨rows, distinct, unique⟩ := table
  simp only [find?] at member ⊢
  clear unique
  induction rows with
  | nil => cases member
  | cons first rows induction =>
      have parts : first.jobId ∉ rows.map JobRow.jobId ∧
          (rows.map JobRow.jobId).Nodup := by
        simpa only [List.map_cons, List.nodup_cons] using distinct
      rcases List.mem_cons.mp member with same | later
      · subst same
        simp
      · have different : first.jobId ≠ row.jobId := by
          intro equal
          exact parts.1 (List.mem_map.mpr ⟨row, later, equal.symm⟩)
        simpa [different] using induction parts.2 later

@[simp] theorem find?_update
    (table : JobTable Time) (accepts : JobRow Time → Bool)
    (change : JobRow Time → JobRow Time) (keeps : KeepsKeys change)
    (jobId : String) :
    (table.update accepts change keeps).find? jobId =
      (table.find? jobId).map (fun row => if accepts row then change row else row) := by
  obtain ⟨rows, distinct, unique⟩ := table
  simp only [find?, update]
  clear distinct unique
  induction rows with
  | nil => rfl
  | cons row rows induction =>
      have sameId : (if accepts row then change row else row).jobId = row.jobId := by
        split
        · exact (keeps row).1
        · rfl
      by_cases wanted : row.jobId = jobId
      · simp [sameId, wanted]
      · simp [sameId, wanted, induction]

theorem find?_insert
    {table grown : JobTable Time} {row : JobRow Time}
    (inserted : table.insert row = .ok grown) (jobId : String) :
    grown.find? jobId = (table.find? jobId).or
      (if row.jobId = jobId then some row else none) := by
  unfold insert at inserted
  split at inserted
  · cases inserted
    simp only [find?, List.find?_append, List.find?_cons, List.find?_nil]
    by_cases wanted : row.jobId = jobId <;> simp [wanted]
  · cases inserted

/-- A row that was inserted is new and is found. -/
theorem find?_of_insert
    {table grown : JobTable Time} {row : JobRow Time}
    (inserted : table.insert row = .ok grown) :
    grown.find? row.jobId = some row := by
  have fresh : table.find? row.jobId = none := by
    unfold insert at inserted
    split at inserted
    next free =>
      refine List.find?_eq_none.mpr ?_
      intro other member same
      exact free.1 (List.mem_map.mpr ⟨other, member, by simpa using same⟩)
    next => cases inserted
  simpa [fresh] using find?_insert inserted row.jobId

/-- Updating one job touches at most its row. -/
theorem touches_iff
    {table : JobTable Time} {jobId : String} {accepts : JobRow Time → Bool} :
    table.touches jobId accepts = true ↔
      ∃ row, table.find? jobId = some row ∧ accepts row = true := by
  simp only [touches, List.any_eq_true, Bool.and_eq_true, decide_eq_true_eq]
  constructor
  · rintro ⟨row, member, same, accepted⟩
    exact ⟨row, same ▸ find?_of_mem member, accepted⟩
  · rintro ⟨row, found, accepted⟩
    exact ⟨row, mem_of_find? found, find?_jobId found, accepted⟩

end JobTable

/-- A column holds what its document loads as. -/
theorem JsonColumn.load_ofDocument (document : JsonText.Document) :
    (JsonColumn.ofDocument document).load = Python.ofDocument document.loaded := by
  simp [JsonColumn.load, JsonColumn.ofDocument, loads, JsonText.parse_render]

mutual

private theorem dumped_unsorted (document : JsonText.Document) :
    Dumped jobDumpOptions document := by
  match document with
  | .null => exact trivial
  | .bool _ => exact trivial
  | .int _ => exact trivial
  | .float _ => simp [Dumped, floatAllowed, jobDumpOptions]
  | .string _ => exact trivial
  | .array items => exact dumpedItems_unsorted items
  | .object fields => exact ⟨by simp [jobDumpOptions], dumpedFields_unsorted fields⟩

private theorem dumpedItems_unsorted (items : List JsonText.Document) :
    DumpedItems jobDumpOptions items := by
  match items with
  | [] => exact trivial
  | item :: items => exact ⟨dumped_unsorted item, dumpedItems_unsorted items⟩

private theorem dumpedFields_unsorted (fields : List (String × JsonText.Document)) :
    DumpedFields jobDumpOptions fields := by
  match fields with
  | [] => exact trivial
  | (_, value) :: fields =>
      exact ⟨dumped_unsorted value, dumpedFields_unsorted fields⟩

end

/-- What a column holds can be dumped again, and the copy holds the same. -/
theorem JsonColumn.dump_load (column : JsonColumn) :
    ∃ copy, JsonColumn.dump column.load = .ok copy ∧ copy.load = column.load := by
  obtain ⟨document, shape⟩ := column.printed
  have loaded : column.load = Python.ofDocument document.loaded := by
    simp [JsonColumn.load, loads, shape, JsonText.parse_render]
  refine ⟨JsonColumn.ofDocument document.loaded, ?_, ?_⟩
  · rw [loaded, JsonColumn.dump,
      toDocument_ofDocument document.loaded (dumped_unsorted document.loaded)]
    rfl
  · have again := document.loaded.loaded_of_distinctKeys document.distinctKeys_loaded
    rw [JsonColumn.load_ofDocument, again, loaded]

variable [LinearOrder Time]

theorem nextQueued_sound
    {table : JobTable Time} {jobType : Option String} {tie : Nat}
    {row : JobRow Time} (next : nextQueued table jobType tie = some row) :
    row ∈ table.rows ∧ row.state = .queued := by
  have member := List.mem_of_getElem? next
  simp only [candidates, List.mem_filter, Bool.and_eq_true,
    decide_eq_true_eq] at member
  exact ⟨member.1.1, member.1.2.1⟩

/-- The row a sweep leaves behind. -/
def afterSweep (now : Time) (row : JobRow Time) : JobRow Time :=
  if isExpiredLease now row then requeue now row else row

theorem find?_resetExpired (store : Store Time) (now : Time) (jobId : String) :
    (resetExpired store now).jobs.find? jobId =
      (store.jobs.find? jobId).map (afterSweep now) := by
  unfold resetExpired
  rw [JobTable.find?_update]
  rfl

variable [HAdd Time Int Time]

def Call.IsSweep : Call → Prop
  | .leaseNext _ _ => True
  | .resumeInProgress => True
  | _ => False

instance : DecidablePred Call.IsSweep
  | .leaseNext _ _ | .resumeInProgress => .isTrue trivial
  | .enqueue _ | .renewLease _ | .checkpoint _ _ | .complete _ | .fail _ _
  | .cancel _ | .resetCircuit _ | .isCircuitOpen _ | .get _ | .reopen _ => .isFalse id

/-- `lease_next` answered this event with the job. -/
def LeasesJob (event : QueueEvent Worker Time) (jobId : String) : Prop :=
  ∃ jobType tie job, event.call.call = .leaseNext jobType tie ∧
    event.reply = .job (some job) ∧ job.jobId = jobId

/-- `renew_lease` extended the lease of the job. -/
def RenewsLease (event : QueueEvent Worker Time) (jobId : String) : Prop :=
  event.call.call = .renewLease jobId ∧ event.reply = .flag true

/-- The event neither hands out the job nor extends its lease. -/
def Idle (event : QueueEvent Worker Time) (jobId : String) : Prop :=
  ¬LeasesJob event jobId ∧ ¬RenewsLease event jobId

/-- The queue that answers an event. -/
def queueOf (event : QueueEvent Worker Time) : PersistentJobQueue :=
  event.before.queues event.call.worker

/-- Everything an event can do to the row of a job. -/
inductive RowEffect (event : QueueEvent Worker Time) (jobId : String) :
    JobRow Time → JobRow Time → Prop where
  | untouched (row : JobRow Time) :
      Idle event jobId →
      RowEffect event jobId row row
  | swept (row : JobRow Time) :
      event.call.call.IsSweep →
      ¬LeasesJob event jobId →
      RowEffect event jobId row (afterSweep event.call.now row)
  | leased (row : JobRow Time) :
      LeasesJob event jobId →
      (afterSweep event.call.now row).state = .queued →
      RowEffect event jobId row
        (leaseRow (event.call.now + (queueOf event).leaseSeconds) event.call.now
          (afterSweep event.call.now row))
  | renewed (row : JobRow Time) :
      RenewsLease event jobId →
      row.state = .leased →
      RowEffect event jobId row
        (renewRow (event.call.now + (queueOf event).leaseSeconds) event.call.now row)
  | checkpointed (row : JobRow Time) (data : Value) (column : JsonColumn) :
      event.call.call = .checkpoint jobId data →
      JsonColumn.dump data = .ok column →
      row.state = .leased →
      event.reply = .flag true →
      RowEffect event jobId row (checkpointRow column event.call.now row)
  | completed (row : JobRow Time) :
      event.call.call = .complete jobId →
      row.state = .leased →
      RowEffect event jobId row (completeRow event.call.now row)
  | abandoned (row : JobRow Time) (error : String) :
      event.call.call = .fail jobId error →
      exhausted (queueOf event) row = true →
      RowEffect event jobId row (deadLetterRow error event.call.now row)
  | retried (row : JobRow Time) (error : String) :
      event.call.call = .fail jobId error →
      exhausted (queueOf event) row = false →
      RowEffect event jobId row (retryRow error event.call.now row)
  | cancelled (row : JobRow Time) :
      event.call.call = .cancel jobId →
      isCancellable row = true →
      RowEffect event jobId row (cancelRow event.call.now row)

omit [LinearOrder Time] [HAdd Time Int Time] in
theorem not_leasesJob_of_call
    {event : QueueEvent Worker Time} {jobId : String}
    (other : ∀ jobType tie, event.call.call ≠ .leaseNext jobType tie) :
    ¬LeasesJob event jobId := by
  rintro ⟨jobType, tie, -, called, -⟩
  exact other jobType tie called

omit [LinearOrder Time] [HAdd Time Int Time] in
theorem idle_of_call
    {event : QueueEvent Worker Time} {jobId : String}
    (notLease : ∀ jobType tie, event.call.call ≠ .leaseNext jobType tie)
    (notRenew : event.call.call ≠ .renewLease jobId) : Idle event jobId :=
  ⟨not_leasesJob_of_call notLease, fun renews => notRenew renews.1⟩

variable [DecidableEq Worker]

/-- The event of a system answering an invocation. -/
abbrev queueEvent (system : System Worker Time)
    (invocation : Invocation Worker Time) : QueueEvent Worker Time :=
  Machine.eventOf step system invocation

section UpdateOne

variable {store : Store Time} {jobId : String} {row : JobRow Time}
  (accepts : JobRow Time → Bool) (change : JobRow Time → JobRow Time)

omit [LinearOrder Time] [HAdd Time Int Time] in
theorem updateOne_accepted
    (keeps : JobTable.KeepsKeys change) (found : store.jobs.find? jobId = some row)
    (accepted : accepts row = true) :
    (updateOne store jobId accepts change keeps).1 = true ∧
      (updateOne store jobId accepts change keeps).2.jobs.find? jobId =
        some (change row) := by
  have sameId := JobTable.find?_jobId found
  refine ⟨JobTable.touches_iff.mpr ⟨row, found, accepted⟩, ?_⟩
  simp [updateOne, found, sameId, accepted]

omit [LinearOrder Time] [HAdd Time Int Time] in
theorem updateOne_refused
    (keeps : JobTable.KeepsKeys change) (target : String)
    (found : store.jobs.find? jobId = some row)
    (refused : ¬(target = jobId ∧ accepts row = true)) :
    (updateOne store target accepts change keeps).2.jobs.find? jobId = some row := by
  have sameId := JobTable.find?_jobId found
  have rejected : ¬(row.jobId = target ∧ accepts row = true) := by
    rintro ⟨same, accepted⟩
    exact refused ⟨by rw [← sameId, same], accepted⟩
  simp only [updateOne, JobTable.find?_update, found, Option.map_some,
    Bool.and_eq_true, decide_eq_true_eq, if_neg rejected]

end UpdateOne

section Effects

variable {system : System Worker Time} (worker : Worker) (now : Time)
  {jobId : String} {row : JobRow Time}

/-- The row after an invocation is one of the effects. -/
def HasEffect (system : System Worker Time) (invocation : Invocation Worker Time)
    (jobId : String) (row : JobRow Time) : Prop :=
  ∃ after, rowOf (step system invocation).2 jobId = some after ∧
    RowEffect (queueEvent system invocation) jobId row after

/-- An invocation that updates one job under a guard either changes the row
of that job or leaves the row untouched. -/
private theorem hasEffect_of_updateOne
    (found : rowOf system jobId = some row)
    {invocation : Invocation Worker Time} (target : String)
    (accepts : JobRow Time → Bool) (change : JobRow Time → JobRow Time)
    (keeps : JobTable.KeepsKeys change)
    (stored : (step system invocation).2.store.jobs =
      (updateOne system.store target accepts change keeps).2.jobs)
    (idle : ¬(target = jobId ∧ accepts row = true) →
      Idle (queueEvent system invocation) jobId)
    (effect : target = jobId → accepts row = true →
      (updateOne system.store target accepts change keeps).1 = true →
        RowEffect (queueEvent system invocation) jobId row (change row)) :
    HasEffect system invocation jobId row := by
  by_cases acts : target = jobId ∧ accepts row = true
  · obtain ⟨rfl, accepted⟩ := acts
    obtain ⟨answered, view⟩ := updateOne_accepted accepts change keeps found accepted
    exact ⟨change row, by rw [rowOf, stored, view], effect rfl accepted answered⟩
  · exact ⟨row, by rw [rowOf, stored,
        updateOne_refused accepts change keeps target found acts],
      .untouched row (idle acts)⟩

omit [LinearOrder Time] [HAdd Time Int Time] [DecidableEq Worker] in
/-- `enqueue` writes the `jobs` table only. -/
theorem enqueue_deadLetters
    {store : Store Time} {request : EnqueueRequest} {result : Option (Job Time) × Store Time}
    (made : enqueue store request now = .ok result) :
    result.2.deadLetters = store.deadLetters := by
  unfold enqueue at made
  split at made
  · cases made
    rfl
  · split at made
    · cases made
    · split at made
      · cases made
      · cases made
        rfl

/-- `enqueue` adds a row for a job that had none. -/
private theorem rowOf_enqueue
    (system : System Worker Time) (jobId : String) (request : EnqueueRequest) :
    rowOf (step system ⟨worker, now, .enqueue request⟩).2 jobId = rowOf system jobId ∨
      ∃ payload, rowOf (step system ⟨worker, now, .enqueue request⟩).2 jobId =
        (rowOf system jobId).or
          (if request.jobId = jobId then some (newRow request payload now) else none) := by
  simp only [step, enqueue]
  by_cases taken : keyExists system.store.jobs request.idempotencyKey = true
  · exact .inl (by simp [taken, rowOf])
  · cases dumped : JsonColumn.dump request.payload with
    | error problem => exact .inl (by simp [taken, rowOf])
    | ok payload =>
        cases inserted : system.store.jobs.insert (newRow request payload now) with
        | error problem => exact .inl (by simp [taken, inserted, rowOf])
        | ok jobs =>
            refine .inr ⟨payload, ?_⟩
            simp only [if_neg taken, inserted]
            exact JobTable.find?_insert inserted jobId

/-- An accepted `enqueue` leaves the new row behind. -/
theorem rowOf_of_enqueued
    {request : EnqueueRequest} {job : Job Time}
    (accepted : (step system ⟨worker, now, .enqueue request⟩).1 = .job (some job)) :
    ∃ payload, rowOf (step system ⟨worker, now, .enqueue request⟩).2 request.jobId =
      some (newRow request payload now) := by
  simp only [step, enqueue] at accepted ⊢
  by_cases taken : keyExists system.store.jobs request.idempotencyKey = true
  · simp [taken] at accepted
  · cases dumped : JsonColumn.dump request.payload with
    | error problem => simp [taken, dumped] at accepted
    | ok payload =>
        cases inserted : system.store.jobs.insert (newRow request payload now) with
        | error problem => simp [taken, dumped, inserted] at accepted
        | ok jobs =>
            refine ⟨payload, ?_⟩
            simp only [if_neg taken, inserted]
            exact JobTable.find?_of_insert inserted

private theorem hasEffect_enqueue
    (found : rowOf system jobId = some row) (request : EnqueueRequest) :
    HasEffect system ⟨worker, now, .enqueue request⟩ jobId row := by
  have idle : Idle (queueEvent system ⟨worker, now, .enqueue request⟩) jobId :=
    idle_of_call (by simp [Machine.eventOf]) (by simp [Machine.eventOf])
  refine ⟨row, ?_, .untouched row idle⟩
  rcases rowOf_enqueue worker now system jobId request with
    same | ⟨payload, grown⟩
  · exact same.trans found
  · simpa [found] using grown

omit [HAdd Time Int Time] [DecidableEq Worker] in
private theorem find?_swept
    (found : rowOf system jobId = some row) :
    (resetExpired system.store now).jobs.find? jobId = some (afterSweep now row) := by
  rw [find?_resetExpired, show system.store.jobs.find? jobId = some row from found]
  rfl

private theorem hasEffect_leaseNext
    (found : rowOf system jobId = some row) (jobType : Option String) (tie : Nat) :
    HasEffect system ⟨worker, now, .leaseNext jobType tie⟩ jobId row := by
  have swept := find?_swept now found
  cases next : nextQueued (resetExpired system.store now).jobs jobType tie with
  | none =>
      refine ⟨afterSweep now row, ?_, .swept row trivial ?_⟩
      · simpa [step, leaseNext, next, rowOf] using swept
      · rintro ⟨-, -, job, -, answered, -⟩
        simp [Machine.eventOf, step, leaseNext, next] at answered
  | some chosen =>
      obtain ⟨member, queued⟩ := nextQueued_sound next
      have chosenFound := JobTable.find?_of_mem member
      let change := leaseRow (now + (system.queues worker).leaseSeconds) now
      by_cases same : chosen.jobId = jobId
      · have equal : chosen = afterSweep now row := by
          rw [same] at chosenFound
          exact Option.some.inj (chosenFound.symm.trans swept)
        obtain ⟨-, view⟩ := updateOne_accepted anyRow change (fun _ => ⟨rfl, rfl⟩)
          chosenFound rfl
        simp only [same] at view
        refine ⟨change (afterSweep now row), ?_, .leased row ?_ (equal ▸ queued)⟩
        · simp only [step, leaseNext, next, rowOf, same, ← equal]
          exact view
        · refine ⟨jobType, tie, rowToJob (change chosen), rfl, ?_, same⟩
          simp only [Machine.eventOf, step, leaseNext, next, get, same]
          rw [view]
          rfl
      · have view := updateOne_refused anyRow change (fun _ => ⟨rfl, rfl⟩)
          chosen.jobId swept (fun acts => same acts.1)
        refine ⟨afterSweep now row, ?_, .swept row trivial ?_⟩
        · simpa [step, leaseNext, next, rowOf] using view
        · rintro ⟨-, -, job, -, answered, named⟩
          simp only [Machine.eventOf, step, leaseNext, next, get, Reply.job.injEq,
            Option.map_eq_some_iff] at answered
          obtain ⟨leased, leasedFound, built⟩ := answered
          have leasedId := JobTable.find?_jobId leasedFound
          exact same (by rw [← leasedId, ← named, ← built]; rfl)

private theorem hasEffect_renewLease
    (found : rowOf system jobId = some row) (target : String) :
    HasEffect system ⟨worker, now, .renewLease target⟩ jobId row := by
  refine hasEffect_of_updateOne found target isLeased
    (renewRow (now + (system.queues worker).leaseSeconds) now)
    (fun _ => ⟨rfl, rfl⟩) rfl ?_ ?_
  · intro refused
    refine ⟨not_leasesJob_of_call (by simp [Machine.eventOf]), ?_⟩
    rintro ⟨called, answered⟩
    have same : target = jobId := by simpa [Machine.eventOf] using called
    subst same
    have touched : system.store.jobs.touches target isLeased = true := by
      simpa [Machine.eventOf, step, renewLease, updateOne] using answered
    obtain ⟨held, heldFound, accepted⟩ := JobTable.touches_iff.mp touched
    have equal := Option.some.inj (heldFound.symm.trans found)
    exact refused ⟨rfl, equal ▸ accepted⟩
  · intro same held answered
    subst same
    refine .renewed row ⟨rfl, ?_⟩ (by simpa [isLeased] using held)
    simp [Machine.eventOf, step, renewLease, answered]

private theorem hasEffect_checkpoint
    (found : rowOf system jobId = some row) (target : String) (data : Value) :
    HasEffect system ⟨worker, now, .checkpoint target data⟩ jobId row := by
  have idle : Idle (queueEvent system ⟨worker, now, .checkpoint target data⟩) jobId :=
    idle_of_call (by simp [Machine.eventOf]) (by simp [Machine.eventOf])
  cases dumped : JsonColumn.dump data with
  | error problem =>
      refine ⟨row, ?_, .untouched row idle⟩
      simpa [step, checkpoint, dumped] using found
  | ok column =>
      refine hasEffect_of_updateOne found target isLeased (checkpointRow column now)
        (fun _ => ⟨rfl, rfl⟩) (by simp [step, checkpoint, dumped]) (fun _ => idle) ?_
      intro same held answered
      subst same
      refine .checkpointed row data column rfl dumped (by simpa [isLeased] using held) ?_
      simp [Machine.eventOf, step, checkpoint, dumped, answered]

omit [LinearOrder Time] [HAdd Time Int Time] [DecidableEq Worker] in
theorem complete_store
    (queue : PersistentJobQueue) (store : Store Time) (target : String) :
    (complete queue store target now).2.2 =
      (updateOne store target isLeased (completeRow now) (fun _ => ⟨rfl, rfl⟩)).2 := by
  simp only [complete]
  split
  · split <;> rfl
  · rfl

private theorem hasEffect_complete
    (found : rowOf system jobId = some row) (target : String) :
    HasEffect system ⟨worker, now, .complete target⟩ jobId row := by
  refine hasEffect_of_updateOne found target isLeased (completeRow now)
    (fun _ => ⟨rfl, rfl⟩) ?_
    (fun _ => idle_of_call (by simp [Machine.eventOf]) (by simp [Machine.eventOf])) ?_
  · exact congrArg Store.jobs
      (complete_store now (system.queues worker) system.store target)
  · intro same held _
    subst same
    exact .completed row rfl (by simpa [isLeased] using held)

private theorem hasEffect_cancel
    (found : rowOf system jobId = some row) (target : String) :
    HasEffect system ⟨worker, now, .cancel target⟩ jobId row := by
  refine hasEffect_of_updateOne found target isCancellable (cancelRow now)
    (fun _ => ⟨rfl, rfl⟩) rfl
    (fun _ => idle_of_call (by simp [Machine.eventOf]) (by simp [Machine.eventOf])) ?_
  intro same cancellable _
  subst same
  exact .cancelled row rfl cancellable

private theorem hasEffect_resumeInProgress
    (found : rowOf system jobId = some row) :
    HasEffect system ⟨worker, now, .resumeInProgress⟩ jobId row :=
  ⟨afterSweep now row, find?_swept now found, .swept row trivial
    (not_leasesJob_of_call (by simp [Machine.eventOf]))⟩

omit [LinearOrder Time] [HAdd Time Int Time] in
/-- What `fail` does to the table. -/
private theorem fail_jobs
    (queue : PersistentJobQueue) {store : Store Time} {target : String}
    (error : String) {failing : JobRow Time}
    (found : store.jobs.find? target = some failing) :
    (fail queue store target error now).2.2.jobs =
      if exhausted queue failing then
        (updateOne store target anyRow (deadLetterRow error now)
          (fun _ => ⟨rfl, rfl⟩)).2.jobs
      else
        (updateOne store target anyRow (retryRow error now)
          (fun _ => ⟨rfl, rfl⟩)).2.jobs := by
  obtain ⟨payload, dumped, -⟩ := failing.payload.dump_load
  simp only [fail, found, rowToJob, dumped]
  split <;> rfl

theorem step_fail_store
    (system : System Worker Time) (worker : Worker) (target error : String) :
    (step system ⟨worker, now, .fail target error⟩).2.store =
      (fail (system.queues worker) system.store target error now).2.2 := by
  simp only [step]
  split <;> rfl

/-- `fail` rewrites the row of its job whatever the state of the row. -/
theorem rowOf_fail
    (system : System Worker Time) (found : rowOf system jobId = some row)
    (error : String) :
    rowOf (step system ⟨worker, now, .fail jobId error⟩).2 jobId =
      some (if exhausted (system.queues worker) row then deadLetterRow error now row
        else retryRow error now row) := by
  have stored := congrArg Store.jobs
    (step_fail_store now system worker jobId error)
  rw [fail_jobs now (system.queues worker) error found] at stored
  rw [rowOf, stored]
  split
  · exact (updateOne_accepted anyRow (deadLetterRow error now) _ found rfl).2
  · exact (updateOne_accepted anyRow (retryRow error now) _ found rfl).2

private theorem hasEffect_fail
    (found : rowOf system jobId = some row) (target error : String) :
    HasEffect system ⟨worker, now, .fail target error⟩ jobId row := by
  have idle : Idle (queueEvent system ⟨worker, now, .fail target error⟩) jobId :=
    idle_of_call (by simp [Machine.eventOf]) (by simp [Machine.eventOf])
  have stored := congrArg Store.jobs
    (step_fail_store now system worker target error)
  cases failing : system.store.jobs.find? target with
  | none =>
      refine ⟨row, ?_, .untouched row idle⟩
      rw [rowOf, stored]
      simpa [fail, failing, rowOf] using found
  | some failingRow =>
      rw [fail_jobs now (system.queues worker) error failing] at stored
      by_cases spent : exhausted (system.queues worker) failingRow = true
      · rw [if_pos spent] at stored
        refine hasEffect_of_updateOne found target anyRow _ _ stored (fun _ => idle) ?_
        intro same _ _
        subst same
        have equal := Option.some.inj (failing.symm.trans found)
        exact .abandoned row error rfl (equal ▸ spent)
      · rw [if_neg spent] at stored
        refine hasEffect_of_updateOne found target anyRow _ _ stored (fun _ => idle) ?_
        intro same _ _
        subst same
        have equal := Option.some.inj (failing.symm.trans found)
        exact .retried row error rfl (equal ▸ Bool.eq_false_iff.mpr spent)

/-- The row of an existing job after any invocation. -/
theorem rowOf_step
    (invocation : Invocation Worker Time) (found : rowOf system jobId = some row) :
    HasEffect system invocation jobId row := by
  obtain ⟨worker, now, call⟩ := invocation
  cases call with
  | enqueue request => exact hasEffect_enqueue worker now found request
  | leaseNext jobType tie => exact hasEffect_leaseNext worker now found jobType tie
  | renewLease target => exact hasEffect_renewLease worker now found target
  | checkpoint target data => exact hasEffect_checkpoint worker now found target data
  | complete target => exact hasEffect_complete worker now found target
  | fail target error => exact hasEffect_fail worker now found target error
  | cancel target => exact hasEffect_cancel worker now found target
  | resumeInProgress => exact hasEffect_resumeInProgress worker now found
  | resetCircuit _ =>
      exact ⟨row, found, .untouched row
        (idle_of_call (by simp [Machine.eventOf]) (by simp [Machine.eventOf]))⟩
  | isCircuitOpen _ =>
      exact ⟨row, found, .untouched row
        (idle_of_call (by simp [Machine.eventOf]) (by simp [Machine.eventOf]))⟩
  | get _ =>
      exact ⟨row, found, .untouched row
        (idle_of_call (by simp [Machine.eventOf]) (by simp [Machine.eventOf]))⟩
  | reopen _ =>
      exact ⟨row, found, .untouched row
        (idle_of_call (by simp [Machine.eventOf]) (by simp [Machine.eventOf]))⟩

omit [LinearOrder Time] [HAdd Time Int Time] [DecidableEq Worker] in
private theorem updateOne_absent
    {store : Store Time} (absent : store.jobs.find? jobId = none) (target : String)
    (accepts : JobRow Time → Bool) (change : JobRow Time → JobRow Time)
    (keeps : JobTable.KeepsKeys change) :
    (updateOne store target accepts change keeps).2.jobs.find? jobId = none := by
  simp [updateOne, absent]

private theorem leaseNext_of_none
    (absent : rowOf system jobId = none) (jobType : Option String) (tie : Nat) :
    rowOf (step system ⟨worker, now, .leaseNext jobType tie⟩).2 jobId = none ∧
      ¬LeasesJob (queueEvent system ⟨worker, now, .leaseNext jobType tie⟩) jobId := by
  have swept : (resetExpired system.store now).jobs.find? jobId = none := by
    rw [find?_resetExpired, show system.store.jobs.find? jobId = none from absent]
    rfl
  cases next : nextQueued (resetExpired system.store now).jobs jobType tie with
  | none =>
      refine ⟨by simpa [step, leaseNext, next, rowOf] using swept, ?_⟩
      rintro ⟨-, -, job, -, answered, -⟩
      simp [Machine.eventOf, step, leaseNext, next] at answered
  | some chosen =>
      have kept := updateOne_absent swept chosen.jobId anyRow
        (leaseRow (now + (system.queues worker).leaseSeconds) now)
        (fun _ => ⟨rfl, rfl⟩)
      refine ⟨by simpa [step, leaseNext, next, rowOf] using kept, ?_⟩
      rintro ⟨-, -, job, -, answered, named⟩
      simp only [Machine.eventOf, step, leaseNext, next, get, Reply.job.injEq,
        Option.map_eq_some_iff] at answered
      obtain ⟨leased, leasedFound, built⟩ := answered
      have leasedId := JobTable.find?_jobId leasedFound
      have same : chosen.jobId = jobId := by
        rw [← leasedId, ← named, ← built]
        rfl
      rw [same] at leasedFound
      exact Option.some_ne_none _ (leasedFound.symm.trans (same ▸ kept))

/-- A job comes into being by `enqueue` alone. -/
theorem rowOf_step_of_none
    (invocation : Invocation Worker Time) (absent : rowOf system jobId = none) :
    ¬LeasesJob (queueEvent system invocation) jobId ∧
      (rowOf (step system invocation).2 jobId = none ∨
        ∃ request payload, invocation.call = .enqueue request ∧
          request.jobId = jobId ∧
          rowOf (step system invocation).2 jobId =
            some (newRow request payload invocation.now)) := by
  obtain ⟨worker, now, call⟩ := invocation
  cases call with
  | enqueue request =>
      refine ⟨not_leasesJob_of_call (by simp [Machine.eventOf]), ?_⟩
      rcases rowOf_enqueue worker now system jobId request with
        same | ⟨payload, grown⟩
      · exact .inl (same.trans absent)
      · by_cases same : request.jobId = jobId
        · exact .inr ⟨request, payload, rfl, same, by simpa [absent, same] using grown⟩
        · exact .inl (by simpa [absent, same] using grown)
  | leaseNext jobType tie =>
      obtain ⟨stillNone, idle⟩ :=
        leaseNext_of_none worker now absent jobType tie
      exact ⟨idle, .inl stillNone⟩
  | renewLease target =>
      exact ⟨not_leasesJob_of_call (by simp [Machine.eventOf]),
        .inl (updateOne_absent absent _ _ _ _)⟩
  | checkpoint target data =>
      refine ⟨not_leasesJob_of_call (by simp [Machine.eventOf]), .inl ?_⟩
      cases dumped : JsonColumn.dump data with
      | error problem => simpa [step, checkpoint, dumped] using absent
      | ok column =>
          have kept := updateOne_absent absent target isLeased
            (checkpointRow column now) (fun _ => ⟨rfl, rfl⟩)
          simpa [step, checkpoint, dumped, rowOf] using kept
  | complete target =>
      refine ⟨not_leasesJob_of_call (by simp [Machine.eventOf]), .inl ?_⟩
      have stored := congrArg Store.jobs
        (complete_store now (system.queues worker) system.store target)
      have kept := updateOne_absent absent target isLeased (completeRow now)
        (fun _ => ⟨rfl, rfl⟩)
      exact (congrArg (JobTable.find? · jobId) stored).trans kept
  | fail target error =>
      refine ⟨not_leasesJob_of_call (by simp [Machine.eventOf]), .inl ?_⟩
      have stored := congrArg Store.jobs
        (step_fail_store now system worker target error)
      cases failing : system.store.jobs.find? target with
      | none =>
          rw [rowOf, stored]
          simpa [fail, failing, rowOf] using absent
      | some failingRow =>
          rw [fail_jobs now (system.queues worker) error failing] at stored
          rw [rowOf, stored]
          split <;> exact updateOne_absent absent _ _ _ _
  | cancel target =>
      exact ⟨not_leasesJob_of_call (by simp [Machine.eventOf]),
        .inl (updateOne_absent absent _ _ _ _)⟩
  | resumeInProgress =>
      refine ⟨not_leasesJob_of_call (by simp [Machine.eventOf]), .inl ?_⟩
      have swept := find?_resetExpired system.store now jobId
      rw [show system.store.jobs.find? jobId = none from absent] at swept
      exact swept
  | resetCircuit _ =>
      exact ⟨not_leasesJob_of_call (by simp [Machine.eventOf]), .inl absent⟩
  | isCircuitOpen _ =>
      exact ⟨not_leasesJob_of_call (by simp [Machine.eventOf]), .inl absent⟩
  | get _ =>
      exact ⟨not_leasesJob_of_call (by simp [Machine.eventOf]), .inl absent⟩
  | reopen _ =>
      exact ⟨not_leasesJob_of_call (by simp [Machine.eventOf]), .inl absent⟩

/-- The job an event is about; `lease_next` is about the job it hands out. -/
def AddressesJob (event : QueueEvent Worker Time) (jobId : String) : Prop :=
  match event.call.call with
  | .enqueue request => request.jobId = jobId
  | .leaseNext _ _ => LeasesJob event jobId
  | .renewLease target => target = jobId
  | .checkpoint target _ => target = jobId
  | .complete target => target = jobId
  | .fail target _ => target = jobId
  | .cancel target => target = jobId
  | .get target => target = jobId
  | _ => False

/-- An event about another job leaves the row alone or requeues its expired
lease. -/
theorem rowOf_step_of_not_addressed
    (invocation : Invocation Worker Time)
    (other : ¬AddressesJob (queueEvent system invocation) jobId) :
    rowOf (step system invocation).2 jobId = rowOf system jobId ∨
      ∃ row, rowOf system jobId = some row ∧ invocation.call.IsSweep ∧
        isExpiredLease invocation.now row = true ∧
        rowOf (step system invocation).2 jobId = some (requeue invocation.now row) := by
  cases found : rowOf system jobId with
  | none =>
      rcases (rowOf_step_of_none invocation found).2 with
        stillNone | ⟨request, payload, called, same, -⟩
      · exact .inl stillNone
      · exact absurd (by simpa [AddressesJob, Machine.eventOf, called] using same) other
  | some row =>
      obtain ⟨after, view, effect⟩ := rowOf_step invocation found
      rw [view]
      have calls : ∀ call, (queueEvent system invocation).call.call = call →
          invocation.call = call := fun _ same => same
      cases effect with
      | untouched _ => exact .inl rfl
      | swept sweep _ =>
          by_cases expired : isExpiredLease invocation.now row = true
          · exact .inr ⟨row, rfl, sweep, expired, by simp [afterSweep, Machine.eventOf, expired]⟩
          · exact .inl (by simp [afterSweep, Machine.eventOf, expired])
      | leased leases _ =>
          obtain ⟨jobType, tie, job, called, -, -⟩ := id leases
          exact absurd (by simpa [AddressesJob, Machine.eventOf, calls _ called] using leases) other
      | renewed renews _ =>
          exact absurd (by simp [AddressesJob, Machine.eventOf, calls _ renews.1]) other
      | checkpointed data column called dumped held answered =>
          exact absurd (by simp [AddressesJob, Machine.eventOf, calls _ called]) other
      | completed called _ =>
          exact absurd (by simp [AddressesJob, Machine.eventOf, calls _ called]) other
      | abandoned error called _ =>
          exact absurd (by simp [AddressesJob, Machine.eventOf, calls _ called]) other
      | retried error called _ =>
          exact absurd (by simp [AddressesJob, Machine.eventOf, calls _ called]) other
      | cancelled called _ =>
          exact absurd (by simp [AddressesJob, Machine.eventOf, calls _ called]) other

end Effects

end SuperAdvisor.Scheduler
