import SuperAdvisor.Foundation.JsonValues
import SuperAdvisor.Scheduler.Leases

/-!
# Progress across retries and restarts

Every job handed out carries the data of the last checkpoint that was saved
for it and the values it was enqueued with, whatever failed, expired or was
restarted in between.
-/

namespace SuperAdvisor.Scheduler

open Python JsonText

variable {Worker Time : Type}

/-- The request an event accepted for the job, and its clock reading. -/
def acceptedEnqueue (jobId : String) (event : QueueEvent Worker Time) :
    Option (EnqueueRequest × Time) :=
  match event.call.call, event.reply with
  | .enqueue request, .job (some _) =>
      if request.jobId = jobId then some (request, event.call.now) else none
  | _, _ => none

/-- The request the job was created by. -/
def enqueuedAs (past : List (QueueEvent Worker Time)) (jobId : String) :
    Option (EnqueueRequest × Time) :=
  past.findSome? (acceptedEnqueue jobId)

/-- The data an event saved for the job. -/
def savedCheckpoint (jobId : String) (event : QueueEvent Worker Time) : Option Value :=
  match event.call.call, event.reply with
  | .checkpoint target data, .flag true => if target = jobId then some data else none
  | _, _ => none

def lastSaved (past : List (QueueEvent Worker Time)) (jobId : String) : Option Value :=
  past.foldl (fun last event => (savedCheckpoint jobId event).or last) none

/-- The data of the last saved checkpoint, or the empty object. -/
def lastCheckpoint (past : List (QueueEvent Worker Time)) (jobId : String) : Value :=
  (lastSaved past jobId).getD (.dict [])

/-- The job has its last checkpoint and the values of its request. -/
structure CarriesProgress (past : List (QueueEvent Worker Time)) (job : Job Time)
    (request : EnqueueRequest) (created : Time) : Prop where
  enqueued : enqueuedAs past job.jobId = some (request, created)
  checkpoint : job.checkpoint = lastCheckpoint past job.jobId
  payload : job.payload = request.payload
  jobType : job.jobType = request.jobType
  priority : job.priority = request.priority
  idempotencyKey : job.idempotencyKey = request.idempotencyKey
  maxAttempts : job.maxAttempts = request.maxAttempts
  correlationId : job.correlationId = request.correlationId
  parentJobId : job.parentJobId = request.parentJobId
  createdAt : job.createdAt = created

/-- The payload or the checkpoint of the call is a JSON value. -/
def Call.CarriesJson : Call → Prop
  | .enqueue request => request.payload.IsJson
  | .checkpoint _ data => data.IsJson
  | _ => True

private theorem jobDumpOptions_plain : jobDumpOptions.Plain :=
  ⟨rfl, rfl⟩

/-- A column holds the JSON value it was dumped from. -/
theorem JsonColumn.load_of_dump
    {value : Value} (json : value.IsJson) {column : JsonColumn}
    (dumped : JsonColumn.dump value = .ok column) : column.load = value := by
  obtain ⟨document, converted, distinct, same⟩ :=
    exists_document jobDumpOptions_plain value json
  rw [JsonColumn.dump, converted] at dumped
  cases dumped
  rw [JsonColumn.load_ofDocument, document.loaded_of_distinctKeys distinct, same]

theorem JsonColumn.load_empty : JsonColumn.empty.load = .dict [] := by
  rw [JsonColumn.empty, JsonColumn.load_ofDocument]
  rfl

theorem lastSaved_snoc
    (past : List (QueueEvent Worker Time)) (event : QueueEvent Worker Time) (jobId : String) :
    lastSaved (past ++ [event]) jobId = (savedCheckpoint jobId event).or (lastSaved past jobId) := by
  simp [lastSaved, List.foldl_append]

theorem enqueuedAs_snoc
    (past : List (QueueEvent Worker Time)) (event : QueueEvent Worker Time) (jobId : String) :
    enqueuedAs (past ++ [event]) jobId =
      (enqueuedAs past jobId).or (acceptedEnqueue jobId event) := by
  cases before : past.findSome? (acceptedEnqueue jobId) <;>
    cases now : acceptedEnqueue jobId event <;>
      simp [enqueuedAs, List.findSome?_append, before, now]

theorem savedCheckpoint_eq_some
    {jobId : String} {event : QueueEvent Worker Time} {data : Value}
    (saved : savedCheckpoint jobId event = some data) :
    event.call.call = .checkpoint jobId data ∧ event.reply = .flag true := by
  unfold savedCheckpoint at saved
  split at saved
  next target given called answered =>
    split at saved
    next same =>
      cases saved
      exact ⟨same ▸ called, answered⟩
    next => cases saved
  next => cases saved

variable [LinearOrder Time] [HAdd Time Int Time] [DecidableEq Worker]

/-- A saved checkpoint was written into the row of a leased job. -/
theorem rowOf_of_saved
    {system : System Worker Time} {invocation : Invocation Worker Time} {jobId : String}
    {data : Value} (saved : savedCheckpoint jobId (queueEvent system invocation) = some data) :
    ∃ row column, rowOf system jobId = some row ∧ JsonColumn.dump data = .ok column ∧
      invocation.call = .checkpoint jobId data ∧
      rowOf (step system invocation).2 jobId = some (checkpointRow column invocation.now row) := by
  obtain ⟨worker, now, call⟩ := invocation
  obtain ⟨called, answered⟩ := savedCheckpoint_eq_some saved
  obtain rfl : call = .checkpoint jobId data := called
  cases dumped : JsonColumn.dump data with
  | error problem => simp [Machine.eventOf, step, checkpoint, dumped] at answered
  | ok column =>
      have touched : system.store.jobs.touches jobId isLeased = true := by
        simpa [Machine.eventOf, step, checkpoint, dumped, updateOne] using answered
      obtain ⟨row, found, accepted⟩ := JobTable.touches_iff.mp touched
      have written := (updateOne_accepted isLeased (checkpointRow column now)
        (fun _ => ⟨rfl, rfl⟩) found accepted).2
      refine ⟨row, column, found, rfl, rfl, ?_⟩
      simpa [step, checkpoint, dumped, rowOf] using written

omit [DecidableEq Worker] in
/-- What an event that saves no checkpoint leaves of a row. -/
theorem RowEffect.keeps_progress
    {event : QueueEvent Worker Time} {jobId : String} {row after : JobRow Time}
    (effect : RowEffect event jobId row after) (unsaved : savedCheckpoint jobId event = none) :
    after = { row with
      state := after.state
      attempt := after.attempt
      updatedAt := after.updatedAt
      leaseExpires := after.leaseExpires
      error := after.error } := by
  cases effect with
  | untouched _ => rfl
  | swept _ _ => unfold afterSweep; split <;> rfl
  | leased _ _ => unfold afterSweep; split <;> rfl
  | renewed _ _ => rfl
  | checkpointed data column called _ _ answered =>
      simp [savedCheckpoint, called, answered] at unsaved
  | completed _ _ => rfl
  | abandoned _ _ _ => rfl
  | retried _ _ _ => rfl
  | cancelled _ _ => rfl

/-- An `enqueue` that creates a row answers with the job. -/
theorem enqueue_created
    {system : System Worker Time} {worker : Worker} {now : Time} {request : EnqueueRequest}
    {row : JobRow Time} (absent : rowOf system request.jobId = none)
    (view : rowOf (step system ⟨worker, now, .enqueue request⟩).2 request.jobId = some row) :
    ∃ payload, JsonColumn.dump request.payload = .ok payload ∧ row = newRow request payload now ∧
      (step system ⟨worker, now, .enqueue request⟩).1 = .job (some (rowToJob row)) := by
  simp only [step, enqueue] at view ⊢
  by_cases taken : keyExists system.store.jobs request.idempotencyKey = true
  · simp [taken, rowOf, show system.store.jobs.find? request.jobId = none from absent] at view
  · cases dumped : JsonColumn.dump request.payload with
    | error problem =>
        simp [taken, dumped, rowOf,
          show system.store.jobs.find? request.jobId = none from absent] at view
    | ok payload =>
        cases inserted : system.store.jobs.insert (newRow request payload now) with
        | error problem =>
            simp [taken, dumped, inserted, rowOf,
              show system.store.jobs.find? request.jobId = none from absent] at view
        | ok jobs =>
            have grown : jobs.find? request.jobId = some (newRow request payload now) :=
              JobTable.find?_of_insert inserted
            obtain rfl : newRow request payload now = row := by
              simpa [taken, dumped, inserted, rowOf, grown] using view
            refine ⟨payload, rfl, rfl, ?_⟩
            simp [taken, inserted, get, grown]

/-- Every row carries the progress of its job, and a job without a row has no
history. -/
def ProgressKept (past : List (QueueEvent Worker Time)) (system : System Worker Time) : Prop :=
  ∀ jobId,
    (∀ row, rowOf system jobId = some row →
      ∃ request created, CarriesProgress past (rowToJob row) request created) ∧
    (rowOf system jobId = none →
      enqueuedAs past jobId = none ∧ lastSaved past jobId = none)

private theorem carriesProgress_snoc
    {past : List (QueueEvent Worker Time)} {system : System Worker Time}
    {invocation : Invocation Worker Time} (json : invocation.call.CarriesJson) {jobId : String}
    {row after : JobRow Time} (found : rowOf system jobId = some row)
    (view : rowOf (step system invocation).2 jobId = some after)
    (effect : RowEffect (queueEvent system invocation) jobId row after)
    {request : EnqueueRequest} {created : Time}
    (carries : CarriesProgress past (rowToJob row) request created) :
    CarriesProgress (past ++ [queueEvent system invocation]) (rowToJob after) request created := by
  have named : row.jobId = jobId := JobTable.find?_jobId found
  have enqueued : enqueuedAs past jobId = some (request, created) := named ▸ carries.enqueued
  have saved : row.checkpoint.load = lastCheckpoint past jobId := named ▸ carries.checkpoint
  have stillEnqueued : enqueuedAs (past ++ [queueEvent system invocation]) jobId =
      some (request, created) := by
    rw [enqueuedAs_snoc, enqueued]
    rfl
  cases unsaved : savedCheckpoint jobId (queueEvent system invocation) with
  | none =>
      have shape := effect.keeps_progress unsaved
      rw [shape]
      refine ⟨named.symm ▸ stillEnqueued, ?_, carries.payload, carries.jobType, carries.priority,
        carries.idempotencyKey, carries.maxAttempts, carries.correlationId, carries.parentJobId,
        carries.createdAt⟩
      simp only [rowToJob, named, lastCheckpoint, lastSaved_snoc, unsaved, Option.none_or]
      exact saved
  | some data =>
      obtain ⟨held, column, heldFound, dumped, called, written⟩ := rowOf_of_saved unsaved
      obtain rfl : row = held := Option.some.inj (found.symm.trans heldFound)
      obtain rfl : after = checkpointRow column invocation.now row :=
        Option.some.inj (view.symm.trans written)
      have isJson : data.IsJson := by simpa [called, Call.CarriesJson] using json
      refine ⟨by simpa [rowToJob, checkpointRow, named] using stillEnqueued, ?_, carries.payload, carries.jobType, carries.priority,
        carries.idempotencyKey, carries.maxAttempts, carries.correlationId, carries.parentJobId,
        carries.createdAt⟩
      simp only [rowToJob, checkpointRow, named, lastCheckpoint, lastSaved_snoc, unsaved,
        Option.some_or, Option.getD_some]
      exact JsonColumn.load_of_dump isJson dumped

private theorem carriesProgress_created
    {past : List (QueueEvent Worker Time)} {system : System Worker Time} {worker : Worker}
    {now : Time} {request : EnqueueRequest} (json : request.payload.IsJson)
    (absent : rowOf system request.jobId = none)
    (fresh : enqueuedAs past request.jobId = none ∧ lastSaved past request.jobId = none)
    {row : JobRow Time}
    (view : rowOf (step system ⟨worker, now, .enqueue request⟩).2 request.jobId = some row) :
    CarriesProgress (past ++ [queueEvent system ⟨worker, now, .enqueue request⟩]) (rowToJob row)
      request now := by
  obtain ⟨payload, dumped, rfl, answered⟩ := enqueue_created absent view
  have accepted : acceptedEnqueue request.jobId
      (queueEvent system ⟨worker, now, .enqueue request⟩) = some (request, now) := by
    simp [acceptedEnqueue, Machine.eventOf, answered]
  constructor
  · simp [rowToJob, newRow, enqueuedAs_snoc, fresh.1, accepted]
  · simp [rowToJob, newRow, lastCheckpoint, lastSaved_snoc, fresh.2, savedCheckpoint,
      Machine.eventOf, JsonColumn.load_empty]
  · exact JsonColumn.load_of_dump json dumped
  all_goals rfl

theorem progressKept_step
    {past : List (QueueEvent Worker Time)} {system : System Worker Time}
    {invocation : Invocation Worker Time} (kept : ProgressKept past system)
    (json : invocation.call.CarriesJson) :
    ProgressKept (past ++ [queueEvent system invocation]) (step system invocation).2 := by
  intro jobId
  cases found : rowOf system jobId with
  | some row =>
      obtain ⟨request, created, carries⟩ := (kept jobId).1 row found
      obtain ⟨after, view, effect⟩ := rowOf_step invocation found
      rw [view]
      refine ⟨?_, fun absent => nomatch absent⟩
      intro other same
      obtain rfl : after = other := Option.some.inj same
      exact ⟨request, created, carriesProgress_snoc json found view effect carries⟩
  | none =>
      have fresh := (kept jobId).2 found
      obtain ⟨worker, now, call⟩ := invocation
      refine ⟨?_, ?_⟩
      · intro row view
        rcases (rowOf_step_of_none ⟨worker, now, call⟩ found).2 with
          absent | ⟨request, payload, called, same, -⟩
        · simp [absent] at view
        · obtain rfl : call = .enqueue request := called
          subst same
          exact ⟨request, now, carriesProgress_created json found fresh view⟩
      · intro absent
        have unsaved : savedCheckpoint jobId (queueEvent system ⟨worker, now, call⟩) = none := by
          cases saved : savedCheckpoint jobId (queueEvent system ⟨worker, now, call⟩) with
          | none => rfl
          | some data =>
              obtain ⟨row, -, present, -⟩ := rowOf_of_saved saved
              simp [found] at present
        have refused : acceptedEnqueue jobId (queueEvent system ⟨worker, now, call⟩) = none := by
          unfold acceptedEnqueue
          split
          next request job called answered =>
            refine if_neg ?_
            rintro rfl
            obtain rfl : call = .enqueue request := called
            obtain ⟨payload, present⟩ := rowOf_of_enqueued worker now answered
            exact Option.some_ne_none _ (present.symm.trans absent)
          next => rfl
        exact ⟨by rw [enqueuedAs_snoc, fresh.1, refused]; rfl,
          by rw [lastSaved_snoc, fresh.2, unsaved]; rfl⟩

omit [LinearOrder Time] [HAdd Time Int Time] [DecidableEq Worker] in
theorem progressKept_initial (leaseSeconds : Worker → Int) :
    ProgressKept [] (System.initial leaseSeconds : System Worker Time) := by
  intro jobId
  refine ⟨?_, fun _ => ⟨rfl, rfl⟩⟩
  intro row found
  simp [rowOf, System.initial, JobTable.empty, JobTable.find?] at found

theorem progressKept_run
    (leaseSeconds : Worker → Int) (calls : List (Invocation Worker Time))
    (json : ∀ invocation ∈ calls, invocation.call.CarriesJson) :
    ProgressKept (Machine.trace step (System.initial leaseSeconds) calls)
      (Machine.final step (System.initial leaseSeconds) calls) :=
  Machine.trace_invariant_of_guard step ProgressKept
    (fun invocation => invocation.call.CarriesJson)
    (fun _ _ _ isJson kept => progressKept_step kept isJson) (progressKept_initial leaseSeconds)
    calls json

/-- The calls of the queue that hand out a job. -/
def Call.HandsOut : Call → Prop
  | .leaseNext _ _ => True
  | .get _ => True
  | _ => False

/-- A job that is handed out is the row the call leaves behind. -/
theorem rowOf_of_handedOut
    {system : System Worker Time} {invocation : Invocation Worker Time} {job : Job Time}
    (handsOut : invocation.call.HandsOut)
    (answered : (step system invocation).1 = .job (some job)) :
    ∃ row, rowOf (step system invocation).2 job.jobId = some row ∧ job = rowToJob row := by
  have fromGet : ∀ {store : Store Time} {jobId : String}, get store jobId = some job →
      ∃ row, store.jobs.find? job.jobId = some row ∧ job = rowToJob row := by
    intro store jobId found
    obtain ⟨row, rowFound, rfl⟩ := Option.map_eq_some_iff.mp found
    have named : (rowToJob row).jobId = jobId := JobTable.find?_jobId rowFound
    exact ⟨row, by rw [named, rowFound], rfl⟩
  obtain ⟨worker, now, call⟩ := invocation
  cases call with
  | leaseNext jobType tie =>
      cases next : nextQueued (resetExpired system.store now).jobs jobType tie with
      | none => simp [step, leaseNext, next] at answered
      | some chosen =>
          simp only [step, leaseNext, next, Reply.job.injEq] at answered
          simpa [step, leaseNext, next, rowOf] using fromGet answered
  | get jobId =>
      simp only [step, Reply.job.injEq] at answered
      exact fromGet answered
  | _ => exact handsOut.elim

theorem savedProgress_survives
    (leaseSeconds : Worker → Int) (calls : List (Invocation Worker Time))
    (json : ∀ invocation ∈ calls, invocation.call.CarriesJson) :
    (∀ past event later,
      Machine.trace step (System.initial leaseSeconds) calls = past ++ event :: later →
        ∀ job, event.call.call.HandsOut → event.reply = .job (some job) →
          ∃ request created, CarriesProgress (past ++ [event]) job request created) ∧
      ∀ event ∈ Machine.trace step (System.initial leaseSeconds) calls, ∀ jobId,
        ¬AddressesJob event jobId →
          rowOf event.after jobId = rowOf event.before jobId ∨
            ∃ row, rowOf event.before jobId = some row ∧ event.call.call.IsSweep ∧
              isExpiredLease event.call.now row = true ∧
              rowOf event.after jobId = some (requeue event.call.now row) := by
  refine ⟨?_, ?_⟩
  · intro past event later shape job handsOut answered
    obtain ⟨early, rest, rfl, rfl, restTrace⟩ := Machine.trace_eq_append step shape
    cases rest with
    | nil => cases restTrace
    | cons call rest =>
        obtain ⟨rfl, -⟩ := List.cons.inj restTrace
        have kept := progressKept_run leaseSeconds (early ++ [call])
          (fun invocation member => json invocation (by
            rcases List.mem_append.mp member with earlier | last
            · exact List.mem_append_left _ earlier
            · rw [List.mem_singleton.mp last]
              exact List.mem_append_right _ List.mem_cons_self))
        rw [Machine.trace_append, Machine.final_append] at kept
        obtain ⟨row, found, rfl⟩ := rowOf_of_handedOut handsOut answered
        exact (kept _).1 row found
  · intro event member jobId other
    obtain ⟨early, call, later, shape, rfl⟩ := (Machine.mem_trace_iff step).mp member
    exact rowOf_step_of_not_addressed call other

/-- A job that saves a checkpoint, loses its worker and is taken over by a
queue on the same database that was opened later. -/
def interrupted : List (Invocation Bool Int) :=
  [⟨true, 0, .enqueue
      { jobId := "j", jobType := "t", payload := .dict [(.str "n", .int 1)] }⟩,
    ⟨true, 1, .leaseNext none 0⟩,
    ⟨true, 2, .checkpoint "j" (.dict [(.str "step", .int 7)])⟩,
    ⟨false, 302, .reopen 300⟩,
    ⟨false, 303, .leaseNext none 0⟩]

theorem interrupted_carriesJson :
    ∀ invocation ∈ interrupted, invocation.call.CarriesJson := by
  simp [interrupted, Call.CarriesJson, Value.IsJson, Value.IsJsonEntries, Key.isStr]

/-- The system before the last call of that run. -/
def beforeTakeover : System Bool Int :=
  Machine.final step (System.initial (fun _ => 300)) (interrupted.take 4)

theorem interrupted_resumes_from_checkpoint :
    ∃ job request created,
      (step beforeTakeover ⟨false, 303, .leaseNext none 0⟩).1 = .job (some job) ∧
      CarriesProgress (Machine.trace step (System.initial (fun _ => 300)) interrupted) job
        request created := by
  have leases : LeasesJob (queueEvent beforeTakeover ⟨false, 303, .leaseNext none 0⟩) "j" := by
    decide +kernel
  obtain ⟨jobType, tie, job, called, answered, -⟩ := leases
  obtain ⟨request, created, carries⟩ := (savedProgress_survives (fun _ => 300) interrupted
    interrupted_carriesJson).1
      (Machine.trace step (System.initial (fun _ => 300)) (interrupted.take 4))
      (queueEvent beforeTakeover ⟨false, 303, .leaseNext none 0⟩) []
      (Machine.trace_append step _ (interrupted.take 4) (interrupted.drop 4)) job trivial answered
  exact ⟨job, request, created, answered, carries⟩

end SuperAdvisor.Scheduler
