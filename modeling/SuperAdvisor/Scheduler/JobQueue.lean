import Mathlib.Order.Defs.LinearOrder
import SuperAdvisor.Foundation.Machine
import SuperAdvisor.Foundation.PythonJson

/-!
# The persistent job queue

The `jobs` and `dead_letters` tables and the operations of
`PersistentJobQueue`.  A table carries the constraints of its schema: job ids
are different, and so are the idempotency keys that are not null.  A clock
reading is a value of an arbitrary linear order to which a number of seconds
can be added.

The system is one database and, for every worker, the in-memory part of its
`PersistentJobQueue`.  A run is any list of invocations: a worker, the clock
reading of the call and the call itself.  `RowEffect` lists everything one
invocation can do to the row of one job; the invariants of the queue are read
off it.
-/

namespace SuperAdvisor.Scheduler

open Python JsonText

inductive JobState where
  | queued
  | leased
  | completed
  | failed
  | deadLetter
  | cancelled
  deriving DecidableEq, Repr

def jobDumpOptions : DumpOptions :=
  { sortKeys := false, allowNan := true, spaced := true }

/-- A text column written by `json.dumps`. -/
structure JsonColumn where
  text : List Char
  printed : ∃ document, text = render jobDumpOptions.spaced document

theorem JsonColumn.loads_isSome (column : JsonColumn) :
    (loads column.text).isSome = true := by
  obtain ⟨document, shape⟩ := column.printed
  simp [loads, shape, parse_render]

def JsonColumn.load (column : JsonColumn) : Value :=
  (loads column.text).get column.loads_isSome

def JsonColumn.ofDocument (document : Document) : JsonColumn :=
  { text := render jobDumpOptions.spaced document
    printed := ⟨document, rfl⟩ }

/-- `json.dumps` into a column. -/
def JsonColumn.dump (value : Value) : Except JsonError JsonColumn :=
  (value.toDocument jobDumpOptions).map JsonColumn.ofDocument

/-- The column default `'{}'`. -/
def JsonColumn.empty : JsonColumn :=
  JsonColumn.ofDocument (.object [])

variable {Time : Type}

/-- A row of the `jobs` table. -/
structure JobRow (Time : Type) where
  jobId : String
  idempotencyKey : Option String
  jobType : String
  state : JobState
  priority : Int
  payload : JsonColumn
  checkpoint : JsonColumn
  attempt : Int
  maxAttempts : Int
  createdAt : Time
  updatedAt : Time
  leaseExpires : Option Time
  correlationId : Option String
  parentJobId : Option String
  error : Option String

/-- The `jobs` table with its `PRIMARY KEY` and `UNIQUE` constraints. -/
structure JobTable (Time : Type) where
  rows : List (JobRow Time)
  primaryKey : (rows.map JobRow.jobId).Nodup
  uniqueKey : (rows.filterMap JobRow.idempotencyKey).Nodup

structure DeadLetter (Time : Type) where
  id : Nat
  jobId : String
  jobType : String
  payload : JsonColumn
  finalError : Option String
  archivedAt : Time

structure Store (Time : Type) where
  jobs : JobTable Time
  deadLetters : List (DeadLetter Time)

structure Job (Time : Type) where
  jobId : String
  idempotencyKey : Option String
  jobType : String
  state : JobState
  priority : Int
  payload : Value
  checkpoint : Value
  attempt : Int
  maxAttempts : Int
  createdAt : Time
  updatedAt : Time
  leaseExpires : Option Time
  correlationId : Option String
  parentJobId : Option String
  error : Option String

/-- The in-memory part of one `PersistentJobQueue`. -/
structure PersistentJobQueue where
  leaseSeconds : Int
  circuitFailures : List (String × Nat)

def circuitThreshold : Nat := 5

inductive QueueError where
  | integrityError
  | json (problem : JsonError)
  deriving DecidableEq

namespace JobTable

def empty : JobTable Time :=
  { rows := []
    primaryKey := List.nodup_nil
    uniqueKey := List.nodup_nil }

/-- A change of a row that leaves its keys alone. -/
abbrev KeepsKeys (change : JobRow Time → JobRow Time) : Prop :=
  ∀ row, (change row).jobId = row.jobId ∧
    (change row).idempotencyKey = row.idempotencyKey

theorem map_keys
    {change : JobRow Time → JobRow Time} (keeps : KeepsKeys change)
    (accepts : JobRow Time → Bool) (rows : List (JobRow Time)) :
    (rows.map (fun row => if accepts row then change row else row)).map JobRow.jobId =
        rows.map JobRow.jobId ∧
      (rows.map (fun row => if accepts row then change row else row)).filterMap
          JobRow.idempotencyKey =
        rows.filterMap JobRow.idempotencyKey := by
  induction rows with
  | nil => simp
  | cons row rows induction =>
      have sameId : (if accepts row then change row else row).jobId = row.jobId := by
        split
        · exact (keeps row).1
        · rfl
      have sameKey : (if accepts row then change row else row).idempotencyKey =
          row.idempotencyKey := by
        split
        · exact (keeps row).2
        · rfl
      simp only [List.map_cons, List.filterMap_cons, sameId, sameKey, induction.1,
        induction.2, and_self]

/-- `UPDATE jobs SET ... WHERE ...`. -/
def update (table : JobTable Time) (accepts : JobRow Time → Bool)
    (change : JobRow Time → JobRow Time) (keeps : KeepsKeys change) :
    JobTable Time :=
  { rows := table.rows.map (fun row => if accepts row then change row else row)
    primaryKey := by
      rw [(map_keys keeps accepts table.rows).1]
      exact table.primaryKey
    uniqueKey := by
      rw [(map_keys keeps accepts table.rows).2]
      exact table.uniqueKey }

/-- `INSERT INTO jobs`, refused when it would break a constraint. -/
def insert (table : JobTable Time) (row : JobRow Time) :
    Except QueueError (JobTable Time) :=
  if fresh : row.jobId ∉ table.rows.map JobRow.jobId ∧
      ∀ key ∈ row.idempotencyKey, key ∉ table.rows.filterMap JobRow.idempotencyKey then
    .ok
      { rows := table.rows ++ [row]
        primaryKey := by
          simpa [List.nodup_append, table.primaryKey] using fresh.1
        uniqueKey := by
          cases given : row.idempotencyKey with
          | none => simpa [given] using table.uniqueKey
          | some key =>
              have unused := fresh.2 key (by simp [given])
              simp only [List.filterMap_append, List.filterMap_cons, given,
                List.filterMap_nil, List.nodup_append, table.uniqueKey, true_and]
              refine ⟨List.nodup_singleton _, ?_⟩
              intro stored member other same equal
              rw [List.mem_singleton.mp same] at equal
              exact unused (equal ▸ member) }
  else .error .integrityError

/-- `SELECT * FROM jobs WHERE job_id = ?`. -/
def find? (table : JobTable Time) (jobId : String) : Option (JobRow Time) :=
  table.rows.find? (fun row => decide (row.jobId = jobId))

/-- The `rowcount` of an update that addresses one job. -/
def touches (table : JobTable Time) (jobId : String)
    (accepts : JobRow Time → Bool) : Bool :=
  table.rows.any (fun row => decide (row.jobId = jobId) && accepts row)

end JobTable

def rowToJob (row : JobRow Time) : Job Time :=
  { jobId := row.jobId
    idempotencyKey := row.idempotencyKey
    jobType := row.jobType
    state := row.state
    priority := row.priority
    payload := row.payload.load
    checkpoint := row.checkpoint.load
    attempt := row.attempt
    maxAttempts := row.maxAttempts
    createdAt := row.createdAt
    updatedAt := row.updatedAt
    leaseExpires := row.leaseExpires
    correlationId := row.correlationId
    parentJobId := row.parentJobId
    error := row.error }

/-- The arguments of `enqueue`. -/
structure EnqueueRequest where
  jobId : String
  jobType : String
  payload : Value
  idempotencyKey : Option String := none
  priority : Int := 100
  maxAttempts : Int := 3
  correlationId : Option String := none
  parentJobId : Option String := none

def get (store : Store Time) (jobId : String) : Option (Job Time) :=
  (store.jobs.find? jobId).map rowToJob

/-- The row `enqueue` inserts. -/
def newRow (request : EnqueueRequest) (payload : JsonColumn) (now : Time) :
    JobRow Time :=
  { jobId := request.jobId
    idempotencyKey := request.idempotencyKey
    jobType := request.jobType
    state := .queued
    priority := request.priority
    payload := payload
    checkpoint := .empty
    attempt := 0
    maxAttempts := request.maxAttempts
    createdAt := now
    updatedAt := now
    leaseExpires := none
    correlationId := request.correlationId
    parentJobId := request.parentJobId
    error := none }

/-- The `SELECT` of `enqueue`: an empty key is not looked up. -/
def keyExists (table : JobTable Time) (key : Option String) : Bool :=
  match key with
  | none => false
  | some key =>
      decide (key ≠ "") &&
        table.rows.any (fun row => decide (row.idempotencyKey = some key))

def enqueue (store : Store Time) (request : EnqueueRequest) (now : Time) :
    Except QueueError (Option (Job Time) × Store Time) :=
  if keyExists store.jobs request.idempotencyKey then .ok (none, store)
  else
    match JsonColumn.dump request.payload with
    | .error problem => .error (.json problem)
    | .ok payload =>
        match store.jobs.insert (newRow request payload now) with
        | .error problem => .error problem
        | .ok jobs =>
            let store := { store with jobs := jobs }
            .ok (get store request.jobId, store)

/-! Row changes of the `UPDATE` statements. -/

def requeue (now : Time) (row : JobRow Time) : JobRow Time :=
  { row with state := .queued, leaseExpires := none, updatedAt := now }

def leaseRow (expires now : Time) (row : JobRow Time) : JobRow Time :=
  { row with
    state := .leased
    leaseExpires := some expires
    updatedAt := now
    attempt := row.attempt + 1 }

def renewRow (expires now : Time) (row : JobRow Time) : JobRow Time :=
  { row with leaseExpires := some expires, updatedAt := now }

def checkpointRow (column : JsonColumn) (now : Time) (row : JobRow Time) :
    JobRow Time :=
  { row with checkpoint := column, updatedAt := now }

def completeRow (now : Time) (row : JobRow Time) : JobRow Time :=
  { row with state := .completed, leaseExpires := none, updatedAt := now }

def deadLetterRow (error : String) (now : Time) (row : JobRow Time) : JobRow Time :=
  { row with
    state := .deadLetter, leaseExpires := none
    updatedAt := now, error := some error }

def retryRow (error : String) (now : Time) (row : JobRow Time) : JobRow Time :=
  { row with
    state := .queued, leaseExpires := none
    updatedAt := now, error := some error }

def cancelRow (now : Time) (row : JobRow Time) : JobRow Time :=
  { row with state := .cancelled, leaseExpires := none, updatedAt := now }

/-- An update `WHERE job_id = ? AND ...`, with its `rowcount > 0`. -/
def updateOne (store : Store Time) (jobId : String)
    (accepts : JobRow Time → Bool) (change : JobRow Time → JobRow Time)
    (keeps : JobTable.KeepsKeys change) : Bool × Store Time :=
  (store.jobs.touches jobId accepts,
    { store with
      jobs := store.jobs.update
        (fun row => decide (row.jobId = jobId) && accepts row) change keeps })

def anyRow (_ : JobRow Time) : Bool := true

def isLeased (row : JobRow Time) : Bool :=
  decide (row.state = .leased)

def isCancellable (row : JobRow Time) : Bool :=
  decide (row.state = .queued) || decide (row.state = .leased)

section Leasing

variable [LinearOrder Time] [HAdd Time Int Time]

def isExpiredLease (now : Time) (row : JobRow Time) : Bool :=
  isLeased row &&
    match row.leaseExpires with
    | none => false
    | some expires => decide (expires < now)

/-- Reset expired leases. -/
def resetExpired (store : Store Time) (now : Time) : Store Time :=
  { store with
    jobs := store.jobs.update (isExpiredLease now) (requeue now)
      (fun _ => ⟨rfl, rfl⟩) }

/-- `ORDER BY priority ASC, created_at ASC`. -/
def ordersBefore (left right : JobRow Time) : Bool :=
  decide (left.priority < right.priority) ||
    (decide (left.priority = right.priority) &&
      decide (left.createdAt < right.createdAt))

/-- An empty job type filters nothing. -/
def matchesType (jobType : Option String) (row : JobRow Time) : Bool :=
  match jobType with
  | none => true
  | some wanted => decide (wanted = "") || decide (row.jobType = wanted)

def candidates (table : JobTable Time) (jobType : Option String) :
    List (JobRow Time) :=
  table.rows.filter
    (fun row => decide (row.state = .queued) && matchesType jobType row)

/-- The selected row.  SQL leaves the order of tied rows open: `tie` picks
among them. -/
def nextQueued (table : JobTable Time) (jobType : Option String) (tie : Nat) :
    Option (JobRow Time) :=
  let queued := candidates table jobType
  let tied := queued.filter
    (fun row => !queued.any (fun other => ordersBefore other row))
  tied[tie % tied.length]?

def leaseNext (queue : PersistentJobQueue) (store : Store Time)
    (jobType : Option String) (now : Time) (tie : Nat) :
    Option (Job Time) × Store Time :=
  let swept := resetExpired store now
  match nextQueued swept.jobs jobType tie with
  | none => (none, swept)
  | some row =>
      let leased := (updateOne swept row.jobId anyRow
        (leaseRow (now + queue.leaseSeconds) now) (fun _ => ⟨rfl, rfl⟩)).2
      (get leased row.jobId, leased)

def renewLease (queue : PersistentJobQueue) (store : Store Time)
    (jobId : String) (now : Time) : Bool × Store Time :=
  updateOne store jobId isLeased (renewRow (now + queue.leaseSeconds) now)
    (fun _ => ⟨rfl, rfl⟩)

def checkpoint (store : Store Time) (jobId : String) (data : Value) (now : Time) :
    Except QueueError (Bool × Store Time) :=
  match JsonColumn.dump data with
  | .error problem => .error (.json problem)
  | .ok column =>
      .ok (updateOne store jobId isLeased (checkpointRow column now)
        (fun _ => ⟨rfl, rfl⟩))

def complete (queue : PersistentJobQueue) (store : Store Time)
    (jobId : String) (now : Time) : Bool × PersistentJobQueue × Store Time :=
  let (found, store) := updateOne store jobId isLeased (completeRow now)
    (fun _ => ⟨rfl, rfl⟩)
  if found then
    match store.jobs.find? jobId with
    | some row =>
        (true, { queue with
          circuitFailures := OrderedDict.erase queue.circuitFailures row.jobType }, store)
    | none => (true, queue, store)
  else (false, queue, store)

def isCircuitOpen (queue : PersistentJobQueue) (jobType : String) : Bool :=
  decide (circuitThreshold ≤
    (OrderedDict.get? queue.circuitFailures jobType).getD 0)

def resetCircuit (queue : PersistentJobQueue) (jobType : String) :
    PersistentJobQueue :=
  { queue with circuitFailures := OrderedDict.erase queue.circuitFailures jobType }

/-- Count a failure of a job type. -/
def countFailure (queue : PersistentJobQueue) (jobType : String) :
    PersistentJobQueue :=
  { queue with
    circuitFailures := OrderedDict.set queue.circuitFailures jobType
      ((OrderedDict.get? queue.circuitFailures jobType).getD 0 + 1) }

/-- The branch of `fail` that gives the job up. -/
def exhausted (queue : PersistentJobQueue) (row : JobRow Time) : Bool :=
  decide (row.maxAttempts ≤ row.attempt) ||
    isCircuitOpen (countFailure queue row.jobType) row.jobType

def nextDeadLetterId (letters : List (DeadLetter Time)) : Nat :=
  (letters.map DeadLetter.id).foldl max 0 + 1

def fail (queue : PersistentJobQueue) (store : Store Time)
    (jobId error : String) (now : Time) :
    Except QueueError (Option (Job Time)) × PersistentJobQueue × Store Time :=
  match store.jobs.find? jobId with
  | none => (.ok none, queue, store)
  | some row =>
      let counted := countFailure queue row.jobType
      if exhausted queue row then
        let updated := (updateOne store jobId anyRow (deadLetterRow error now)
          (fun _ => ⟨rfl, rfl⟩)).2
        match JsonColumn.dump (rowToJob row).payload with
        | .error problem => (.error (.json problem), counted, store)
        | .ok payload =>
            let letter : DeadLetter Time :=
              { id := nextDeadLetterId store.deadLetters
                jobId := jobId
                jobType := row.jobType
                payload := payload
                finalError := some error
                archivedAt := now }
            let archived :=
              { updated with deadLetters := updated.deadLetters ++ [letter] }
            (.ok (get archived jobId), counted, archived)
      else
        let updated := (updateOne store jobId anyRow (retryRow error now)
          (fun _ => ⟨rfl, rfl⟩)).2
        (.ok (get updated jobId), counted, updated)

def cancel (store : Store Time) (jobId : String) (now : Time) :
    Bool × Store Time :=
  updateOne store jobId isCancellable (cancelRow now) (fun _ => ⟨rfl, rfl⟩)

/-- The sweep of `resume_in_progress` has no null check, and a null expiry
compares to nothing, so it is the sweep of `lease_next`. -/
def resumeInProgress (store : Store Time) (now : Time) :
    List (Job Time) × Store Time :=
  let swept := resetExpired store now
  let resumable := (swept.jobs.rows.filter isCancellable).insertionSort
    (fun left right => left.priority ≤ right.priority)
  (resumable.map rowToJob, swept)

end Leasing

section System

inductive Call where
  | enqueue (request : EnqueueRequest)
  | leaseNext (jobType : Option String) (tie : Nat)
  | renewLease (jobId : String)
  | checkpoint (jobId : String) (data : Value)
  | complete (jobId : String)
  | fail (jobId error : String)
  | cancel (jobId : String)
  | resumeInProgress
  | resetCircuit (jobType : String)
  | isCircuitOpen (jobType : String)
  | get (jobId : String)
  | reopen (leaseSeconds : Int)

inductive Reply (Time : Type) where
  | job (job : Option (Job Time))
  | flag (value : Bool)
  | jobs (jobs : List (Job Time))
  | done
  | raised (problem : QueueError)

structure Invocation (Worker Time : Type) where
  worker : Worker
  now : Time
  call : Call

structure System (Worker Time : Type) where
  store : Store Time
  queues : Worker → PersistentJobQueue

variable {Worker Time : Type} [DecidableEq Worker]

/-- Replace the in-memory part of one worker's queue. -/
def System.setQueue (system : System Worker Time) (worker : Worker)
    (queue : PersistentJobQueue) : Worker → PersistentJobQueue :=
  fun other => if other = worker then queue else system.queues other

variable [LinearOrder Time] [HAdd Time Int Time]

def step (system : System Worker Time) (invocation : Invocation Worker Time) :
    Reply Time × System Worker Time :=
  let queue := system.queues invocation.worker
  let now := invocation.now
  match invocation.call with
  | .enqueue request =>
      match enqueue system.store request now with
      | .ok (job, store) => (.job job, { system with store := store })
      | .error problem => (.raised problem, system)
  | .leaseNext jobType tie =>
      let (job, store) := leaseNext queue system.store jobType now tie
      (.job job, { system with store := store })
  | .renewLease jobId =>
      let (renewed, store) := renewLease queue system.store jobId now
      (.flag renewed, { system with store := store })
  | .checkpoint jobId data =>
      match checkpoint system.store jobId data now with
      | .ok (saved, store) => (.flag saved, { system with store := store })
      | .error problem => (.raised problem, system)
  | .complete jobId =>
      let (completed, queue, store) := complete queue system.store jobId now
      (.flag completed,
        { store := store, queues := system.setQueue invocation.worker queue })
  | .fail jobId error =>
      let (result, queue, store) := fail queue system.store jobId error now
      let system :=
        { store := store, queues := system.setQueue invocation.worker queue }
      match result with
      | .ok job => (.job job, system)
      | .error problem => (.raised problem, system)
  | .cancel jobId =>
      let (cancelled, store) := cancel system.store jobId now
      (.flag cancelled, { system with store := store })
  | .resumeInProgress =>
      let (jobs, store) := resumeInProgress system.store now
      (.jobs jobs, { system with store := store })
  | .resetCircuit jobType =>
      (.done, { system with
        queues := system.setQueue invocation.worker (resetCircuit queue jobType) })
  | .isCircuitOpen jobType => (.flag (isCircuitOpen queue jobType), system)
  | .get jobId => (.job (get system.store jobId), system)
  | .reopen leaseSeconds =>
      (.done, { system with
        queues := system.setQueue invocation.worker
          { leaseSeconds := leaseSeconds, circuitFailures := [] } })

/-- A fresh database and freshly constructed queues. -/
def System.initial (leaseSeconds : Worker → Int) : System Worker Time :=
  { store := { jobs := .empty, deadLetters := [] }
    queues := fun worker =>
      { leaseSeconds := leaseSeconds worker, circuitFailures := [] } }

abbrev QueueEvent (Worker Time : Type) :=
  Machine.Event (System Worker Time) (Invocation Worker Time) (Reply Time)

def rowOf (system : System Worker Time) (jobId : String) : Option (JobRow Time) :=
  system.store.jobs.find? jobId

end System

end SuperAdvisor.Scheduler
