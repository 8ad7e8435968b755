import SuperAdvisor.Foundation.Raising
import SuperAdvisor.Scheduler.RowEffect

/-!
# Calls with a failing statement

`complete` and `fail`, one SQL statement at a time.  A statement that fails has
no effect and raises; the connection wrapper then rolls the transaction back.
The failure counters live in the queue object and are not rolled back, and
`fail` reads its job back on a second connection when the first has committed.
-/

namespace SuperAdvisor.Scheduler

open Python Raising

inductive Statement where
  | connect
  | journalMode
  | foreignKeys
  | selectJob
  | selectJobType
  | updateJobs
  | insertDeadLetter
  | commit
  deriving DecidableEq

/-- The connection that changes the tables, and the one of `get` behind it. -/
inductive Connection where
  | writing
  | reading
  deriving DecidableEq

/-- The statement that fails. -/
structure Fault where
  connection : Connection
  statement : Statement
  deriving DecidableEq

inductive CallProblem where
  | sqlite
  | json (problem : JsonError)

/-- The committed tables, the tables as the open transaction sees them, and the
queue object. -/
structure CallState (Time : Type) where
  stored : Store Time
  working : Store Time
  queue : PersistentJobQueue

abbrev QueueCall (Time : Type) := EStateM CallProblem (CallState Time)

variable {Time α : Type}

def CallState.idle (queue : PersistentJobQueue) (store : Store Time) : CallState Time :=
  { stored := store
    working := store
    queue := queue }

def CallState.rollback (state : CallState Time) : CallState Time :=
  { state with working := state.stored }

def CallState.commit (state : CallState Time) : CallState Time :=
  { state with stored := state.working }

theorem CallState.rollback_idle (queue : PersistentJobQueue) (store : Store Time) :
    (CallState.idle queue store).rollback = CallState.idle queue store := rfl

section Statements

variable (fault : Option Fault) (connection : Connection)

def execute (statement : Statement) (effect : CallState Time → CallState Time) :
    QueueCall Time Unit :=
  if fault = some ⟨connection, statement⟩ then throw .sqlite else modify effect

def query (statement : Statement) (read : Store Time → α) : QueueCall Time α := do
  execute fault connection statement id
  let state ← getThe (CallState Time)
  pure (read state.working)

/-- `_conn`: the body runs in a transaction that is committed when it returns
and rolled back when it or the commit raises. -/
def withConn (body : QueueCall Time α) : QueueCall Time α := do
  execute fault connection .connect CallState.rollback
  execute fault connection .journalMode id
  execute fault connection .foreignKeys id
  tryCatch
    (do
      let value ← body
      execute fault connection .commit CallState.commit
      pure value)
    (fun problem => do
      modify CallState.rollback
      throw problem)

/-- An update `WHERE job_id = ? AND ...`, with its `rowcount > 0`. -/
def executeUpdate (jobId : String) (accepts : JobRow Time → Bool)
    (change : JobRow Time → JobRow Time) (keeps : JobTable.KeepsKeys change) :
    QueueCall Time Bool := do
  let state ← getThe (CallState Time)
  let (touched, working) := updateOne state.working jobId accepts change keeps
  execute fault connection .updateJobs (fun state => { state with working := working })
  pure touched

end Statements

def getCall (fault : Option Fault) (jobId : String) : QueueCall Time (Option (Job Time)) :=
  withConn fault .reading
    (query fault .reading .selectJob (fun store => Scheduler.get store jobId))

/-- A completed job closes the circuit of its type. -/
def closeCircuit (fault : Option Fault) (jobId : String) (found : Bool) :
    QueueCall Time Unit := do
  if found then
    let row ← query fault .writing .selectJobType (fun store => store.jobs.find? jobId)
    match row with
    | some row => modify (fun state => { state with queue := resetCircuit state.queue row.jobType })
    | none => pure ()

theorem keepsKeys_completeRow (now : Time) : JobTable.KeepsKeys (completeRow now) :=
  fun _ => ⟨rfl, rfl⟩

theorem keepsKeys_deadLetterRow (error : String) (now : Time) :
    JobTable.KeepsKeys (deadLetterRow error now) :=
  fun _ => ⟨rfl, rfl⟩

theorem keepsKeys_retryRow (error : String) (now : Time) :
    JobTable.KeepsKeys (retryRow error now) :=
  fun _ => ⟨rfl, rfl⟩

/-- The statements of `complete`. -/
def completeStatements (fault : Option Fault) (jobId : String) (now : Time) :
    QueueCall Time Bool := do
  let found ← executeUpdate fault .writing jobId isLeased (completeRow now)
    (keepsKeys_completeRow now)
  closeCircuit fault jobId found
  pure found

def completeCall (fault : Option Fault) (jobId : String) (now : Time) : QueueCall Time Bool :=
  withConn fault .writing (completeStatements fault jobId now)

/-- The letter that `fail` archives. -/
def deadLetter (store : Store Time) (jobId jobType : String) (payload : JsonColumn)
    (error : String) (now : Time) : DeadLetter Time :=
  { id := nextDeadLetterId store.deadLetters
    jobId := jobId
    jobType := jobType
    payload := payload
    finalError := some error
    archivedAt := now }

/-- The part of `fail` behind its `SELECT`. -/
def failRow (fault : Option Fault) (row : JobRow Time) (jobId error : String) (now : Time) :
    QueueCall Time Unit := do
  modify (fun state => { state with queue := countFailure state.queue row.jobType })
  let state ← getThe (CallState Time)
  let circuitOpen := isCircuitOpen state.queue row.jobType
  if decide (row.maxAttempts ≤ row.attempt) || circuitOpen then
    let _ ← executeUpdate fault .writing jobId anyRow (deadLetterRow error now)
      (keepsKeys_deadLetterRow error now)
    match JsonColumn.dump (rowToJob row).payload with
    | .error problem => throw (.json problem)
    | .ok payload =>
        execute fault .writing .insertDeadLetter (fun state =>
          { state with
            working :=
              { state.working with
                deadLetters := state.working.deadLetters ++
                  [deadLetter state.working jobId row.jobType payload error now] } })
  else
    let _ ← executeUpdate fault .writing jobId anyRow (retryRow error now)
      (keepsKeys_retryRow error now)

/-- The statements of `fail`; its reply says whether there is such a job. -/
def failStatements (fault : Option Fault) (jobId error : String) (now : Time) :
    QueueCall Time Bool := do
  let row ← query fault .writing .selectJob (fun store => store.jobs.find? jobId)
  match row with
  | none => pure false
  | some row =>
      failRow fault row jobId error now
      pure true

def failCall (fault : Option Fault) (jobId error : String) (now : Time) :
    QueueCall Time (Option (Job Time)) := do
  let found ← withConn fault .writing (failStatements fault jobId error now)
  if found then getCall fault jobId else pure none

/-- A call that raises leaves the tables and the counters as they were. -/
def AllOrNothing (call : QueueCall Time α) (queue : PersistentJobQueue) (store : Store Time) :
    Prop :=
  ∀ problem after, call.run (.idle queue store) = .error problem after →
    after.stored = store ∧ after.queue = queue

section Running

variable {fault : Option Fault} {connection : Connection} {state : CallState Time}

@[simp] theorem run_execute (statement : Statement) (effect : CallState Time → CallState Time) :
    (execute fault connection statement effect).run state =
      if fault = some ⟨connection, statement⟩ then .error .sqlite state
      else .ok () (effect state) := by
  unfold execute
  split <;> rfl

@[simp] theorem run_query (statement : Statement) (read : Store Time → α) :
    (query fault connection statement read).run state =
      if fault = some ⟨connection, statement⟩ then .error .sqlite state
      else .ok (read state.working) state := by
  unfold query
  rw [EStateM.run_bind, run_execute]
  by_cases strikes : fault = some ⟨connection, statement⟩
  · rw [if_pos strikes, if_pos strikes]
  · rw [if_neg strikes, if_neg strikes]
    rfl

@[simp] theorem run_executeUpdate
    (jobId : String) (accepts : JobRow Time → Bool) (change : JobRow Time → JobRow Time)
    (keeps : JobTable.KeepsKeys change) :
    (executeUpdate fault connection jobId accepts change keeps).run state =
      if fault = some ⟨connection, .updateJobs⟩ then .error .sqlite state
      else
        .ok (state.working.jobs.touches jobId accepts)
          { state with working := (updateOne state.working jobId accepts change keeps).2 } := by
  have shape : (executeUpdate fault connection jobId accepts change keeps).run state =
      (do
        execute fault connection .updateJobs (fun other => { other with
          working := (updateOne state.working jobId accepts change keeps).2 })
        pure (state.working.jobs.touches jobId accepts) : QueueCall Time Bool).run state := rfl
  rw [shape, EStateM.run_bind, run_execute]
  by_cases strikes : fault = some ⟨connection, .updateJobs⟩
  · rw [if_pos strikes, if_pos strikes]
  · rw [if_neg strikes, if_neg strikes]
    rfl

/-- The statements before the body of a transaction. -/
def openingStatements : List Statement := [.connect, .journalMode, .foreignKeys]

/-- The wrapper: a body that raises is rolled back, one that returns is
committed. -/
theorem run_withConn
    (opens : ∀ statement ∈ openingStatements, fault ≠ some ⟨connection, statement⟩)
    (body : QueueCall Time α) :
    (withConn fault connection body).run state =
      match body.run state.rollback with
      | .ok value after =>
          if fault = some ⟨connection, .commit⟩ then .error .sqlite after.rollback
          else .ok value after.commit
      | .error problem after => .error problem after.rollback := by
  have connects := opens .connect (by simp [openingStatements])
  have journal := opens .journalMode (by simp [openingStatements])
  have keys := opens .foreignKeys (by simp [openingStatements])
  unfold withConn
  simp only [EStateM.run_bind, run_execute, if_neg connects, if_neg journal, if_neg keys, id,
    run_tryCatch]
  cases ran : body.run state.rollback with
  | error problem after => rfl
  | ok value after =>
      by_cases strikes : fault = some ⟨connection, .commit⟩
      · simp only [if_pos strikes]
        rfl
      · simp only [if_neg strikes]
        rfl

theorem run_withConn_of_opens
    {statement : Statement} (opening : statement ∈ openingStatements)
    (strikes : fault = some ⟨connection, statement⟩) (body : QueueCall Time α) :
    ∃ after, (withConn fault connection body).run state = .error .sqlite after ∧
      after.stored = state.stored ∧ after.queue = state.queue := by
  unfold withConn
  simp only [openingStatements, List.mem_cons, List.not_mem_nil, or_false] at opening
  rcases opening with rfl | rfl | rfl
  · exact ⟨state, by simp [strikes], rfl, rfl⟩
  · exact ⟨state.rollback, by simp [strikes], rfl, rfl⟩
  · exact ⟨state.rollback, by simp [strikes], rfl, rfl⟩

/-- The statements of a second connection. -/
def readStatements : List Statement := openingStatements ++ [.selectJob, .commit]

theorem run_getCall
    (spared : ∀ statement ∈ readStatements, fault ≠ some ⟨.reading, statement⟩)
    (jobId : String) :
    (getCall fault jobId).run state = .ok (Scheduler.get state.stored jobId) state.rollback := by
  have selects := spared .selectJob (by simp [readStatements])
  have commits := spared .commit (by simp [readStatements])
  unfold getCall
  rw [run_withConn (fun statement member => spared statement (by simp [readStatements, member]))]
  simp only [run_query, if_neg selects, if_neg commits]
  rfl

theorem run_getCall_raises
    {statement : Statement} (member : statement ∈ readStatements)
    (strikes : fault = some ⟨.reading, statement⟩) (jobId : String) :
    ∃ problem after, (getCall fault jobId).run state = .error problem after ∧
      after.stored = state.stored ∧ after.queue = state.queue := by
  unfold getCall
  rcases List.mem_append.mp member with opening | behind
  · exact ⟨_, run_withConn_of_opens opening strikes _⟩
  · have spared : ∀ other ∈ openingStatements, fault ≠ some ⟨.reading, other⟩ := by
      rintro other inside rfl
      obtain rfl : other = statement := by simpa using strikes
      simp only [openingStatements, List.mem_cons, List.not_mem_nil, or_false] at inside behind
      rcases inside with rfl | rfl | rfl <;> simp at behind
    rcases List.mem_pair.mp behind with rfl | rfl
    · exact ⟨.sqlite, state.rollback.rollback,
        by rw [run_withConn spared, run_query, if_pos strikes], rfl, rfl⟩
    · have selects : fault ≠ some ⟨.reading, .selectJob⟩ := by simp [strikes]
      refine ⟨.sqlite, state.rollback.rollback, ?_, rfl, rfl⟩
      rw [run_withConn spared, run_query, if_neg selects]
      simp only [if_pos strikes]

theorem complete_of_leased
    {store : Store Time} {jobId : String} {row : JobRow Time}
    (found : store.jobs.find? jobId = some row) (leased : isLeased row = true)
    (queue : PersistentJobQueue) (now : Time) :
    complete queue store jobId now =
      (true, resetCircuit queue row.jobType,
        (updateOne store jobId isLeased (completeRow now) (fun _ => ⟨rfl, rfl⟩)).2) := by
  obtain ⟨touched, view⟩ :=
    updateOne_accepted isLeased (completeRow now) (fun _ => ⟨rfl, rfl⟩) found leased
  simp only [complete, touched, view, if_true]
  rfl

theorem complete_of_untouched
    {store : Store Time} {jobId : String} (untouched : ¬store.jobs.touches jobId isLeased = true)
    (queue : PersistentJobQueue) (now : Time) :
    complete queue store jobId now =
      (false, queue,
        (updateOne store jobId isLeased (completeRow now) (fun _ => ⟨rfl, rfl⟩)).2) := by
  have nothing : (updateOne store jobId isLeased (completeRow now) (fun _ => ⟨rfl, rfl⟩)).1 =
      false := by
    simpa [updateOne] using untouched
  simp [complete, nothing]

theorem run_closing
    {jobId : String} {row : JobRow Time} (found : state.working.jobs.find? jobId = some row) :
    (do
      closeCircuit fault jobId true
      pure true : QueueCall Time Bool).run state =
      if fault = some ⟨.writing, .selectJobType⟩ then .error .sqlite state
      else .ok true { state with queue := resetCircuit state.queue row.jobType } := by
  simp only [closeCircuit, if_true, EStateM.run_bind, run_query, found]
  by_cases selects : fault = some ⟨.writing, .selectJobType⟩
  · simp only [if_pos selects]
  · simp only [if_neg selects]
    rfl

/-- The statements of `complete` do what `complete` does, or one of them fails. -/
theorem run_completeStatements
    (queue : PersistentJobQueue) (store : Store Time) (jobId : String) (now : Time) :
    (completeStatements fault jobId now).run (.idle queue store) =
      if fault = some ⟨.writing, .updateJobs⟩ then .error .sqlite (.idle queue store)
      else if store.jobs.touches jobId isLeased = true ∧
          fault = some ⟨.writing, .selectJobType⟩ then
        .error .sqlite
          { CallState.idle queue store with working := (complete queue store jobId now).2.2 }
      else
        .ok (complete queue store jobId now).1
          { stored := store
            working := (complete queue store jobId now).2.2
            queue := (complete queue store jobId now).2.1 } := by
  unfold completeStatements
  rw [EStateM.run_bind, run_executeUpdate]
  by_cases updates : fault = some ⟨.writing, .updateJobs⟩
  · rw [if_pos updates, if_pos updates]
  · rw [if_neg updates, if_neg updates]
    by_cases touched : store.jobs.touches jobId isLeased = true
    · obtain ⟨row, found, leased⟩ := JobTable.touches_iff.mp touched
      have view := (updateOne_accepted isLeased (completeRow now) (fun _ => ⟨rfl, rfl⟩)
        found leased).2
      rw [complete_of_leased found leased]
      simp only [CallState.idle, touched, true_and]
      exact @run_closing Time fault _ jobId (completeRow now row) view
    · rw [complete_of_untouched touched, if_neg (fun both => touched both.1)]
      simp only [Bool.not_eq_true] at touched
      simp only [CallState.idle, touched]
      rfl

/-- `fail` behind its `SELECT` does what `fail` does, or one of its statements
fails when the failure has been counted. -/
theorem run_failRow
    {queue : PersistentJobQueue} {store : Store Time} {jobId : String} {row : JobRow Time}
    (found : store.jobs.find? jobId = some row) (error : String) (now : Time) :
    (failRow fault row jobId error now).run (.idle queue store) =
      if fault = some ⟨.writing, .updateJobs⟩ then
        .error .sqlite (.idle (countFailure queue row.jobType) store)
      else if exhausted queue row = true ∧ fault = some ⟨.writing, .insertDeadLetter⟩ then
        .error .sqlite
          { CallState.idle (countFailure queue row.jobType) store with
            working := (updateOne store jobId anyRow (deadLetterRow error now)
              (fun _ => ⟨rfl, rfl⟩)).2 }
      else
        .ok ()
          { CallState.idle (countFailure queue row.jobType) store with
            working := (fail queue store jobId error now).2.2 } := by
  have shape : (failRow fault row jobId error now).run (.idle queue store) =
      (if exhausted queue row then do
          let _ ← executeUpdate fault .writing jobId anyRow (deadLetterRow error now)
            (fun _ => ⟨rfl, rfl⟩)
          match JsonColumn.dump (rowToJob row).payload with
          | .error problem => throw (.json problem)
          | .ok payload =>
              execute fault .writing .insertDeadLetter (fun state =>
                { state with
                  working :=
                    { state.working with
                      deadLetters := state.working.deadLetters ++
                        [deadLetter state.working jobId row.jobType payload error now] } })
        else do
          let _ ← executeUpdate fault .writing jobId anyRow (retryRow error now)
            (fun _ => ⟨rfl, rfl⟩)
          pure () : QueueCall Time Unit).run (.idle (countFailure queue row.jobType) store) := rfl
  obtain ⟨payload, dumped, -⟩ := row.payload.dump_load
  have dumps : JsonColumn.dump (rowToJob row).payload = .ok payload := dumped
  rw [shape]
  cases spent : exhausted queue row with
  | true =>
      simp only [if_true, EStateM.run_bind, run_executeUpdate, dumps, true_and]
      by_cases updates : fault = some ⟨.writing, .updateJobs⟩
      · simp only [if_pos updates]
      · simp only [if_neg updates, run_execute]
        by_cases inserts : fault = some ⟨.writing, .insertDeadLetter⟩
        · simp only [if_pos inserts]
          rfl
        · simp only [if_neg inserts, fail, found, spent, if_true, dumps]
          rfl
  | false =>
      simp only [Bool.false_eq_true, if_false, EStateM.run_bind, run_executeUpdate, false_and]
      by_cases updates : fault = some ⟨.writing, .updateJobs⟩
      · simp only [if_pos updates]
      · simp only [if_neg updates, fail, found, spent, Bool.false_eq_true, if_false]
        rfl

end Running

section Atomicity

variable {fault : Option Fault} {queue : PersistentJobQueue} {store : Store Time}
  {call : QueueCall Time α}

theorem allOrNothing_iff_of_error
    {problem : CallProblem} {after : CallState Time}
    (raised : call.run (.idle queue store) = .error problem after) :
    AllOrNothing call queue store ↔ after.stored = store ∧ after.queue = queue := by
  constructor
  · intro atomic
    exact atomic problem after raised
  · intro same other state raised'
    rw [raised] at raised'
    cases raised'
    exact same

theorem allOrNothing_of_ok
    {value : α} {after : CallState Time}
    (returned : call.run (.idle queue store) = .ok value after) :
    AllOrNothing call queue store := by
  intro problem state raised
  rw [returned] at raised
  cases raised

theorem countFailure_ne (queue : PersistentJobQueue) (jobType : String) :
    countFailure queue jobType ≠ queue := by
  intro same
  have counted := congrArg
    (fun queue => OrderedDict.get? (PersistentJobQueue.circuitFailures queue) jobType) same
  simp only [countFailure, OrderedDict.get?_set_self] at counted
  rw [← counted] at counted
  simp at counted

theorem resetCircuit_eq_iff (queue : PersistentJobQueue) (jobType : String) :
    resetCircuit queue jobType = queue ↔
      jobType ∉ OrderedDict.keys queue.circuitFailures := by
  obtain ⟨leaseSeconds, circuitFailures⟩ := queue
  simp only [resetCircuit, PersistentJobQueue.mk.injEq, true_and, OrderedDict.erase,
    List.filter_eq_self, OrderedDict.keys, List.mem_map, not_exists, not_and]
  simp

/-- Without a failing statement the call is `complete`. -/
theorem run_completeCall_none (jobId : String) (now : Time) :
    (completeCall none jobId now).run (.idle queue store) =
      .ok (complete queue store jobId now).1
        (.idle (complete queue store jobId now).2.1 (complete queue store jobId now).2.2) := by
  unfold completeCall
  rw [run_withConn (by simp), CallState.rollback_idle, run_completeStatements]
  simp [CallState.commit, CallState.idle]

theorem complete_queue_eq_iff (jobId : String) (now : Time) :
    (complete queue store jobId now).2.1 = queue ↔
      ∀ row, store.jobs.find? jobId = some row → isLeased row = true →
        row.jobType ∉ OrderedDict.keys queue.circuitFailures := by
  by_cases touched : store.jobs.touches jobId isLeased = true
  · obtain ⟨row, found, leased⟩ := JobTable.touches_iff.mp touched
    rw [complete_of_leased found leased]
    simp [resetCircuit_eq_iff, found, leased]
  · rw [complete_of_untouched touched]
    refine ⟨fun _ row found leased => ?_, fun _ => rfl⟩
    exact absurd (JobTable.touches_iff.mpr ⟨row, found, leased⟩) touched

/-- `complete` raises with a changed queue object exactly if the commit of a
leased job fails whose type has failures. -/
theorem allOrNothing_completeCall_iff (jobId : String) (now : Time) :
    AllOrNothing (completeCall fault jobId now) queue store ↔
      (fault = some ⟨.writing, .commit⟩ →
        ∀ row, store.jobs.find? jobId = some row → isLeased row = true →
          row.jobType ∉ OrderedDict.keys queue.circuitFailures) := by
  by_cases opens : ∃ statement ∈ openingStatements, fault = some ⟨.writing, statement⟩
  · obtain ⟨statement, opening, strikes⟩ := opens
    obtain ⟨after, raised, stored, queued⟩ := @run_withConn_of_opens Time Bool fault .writing
      (.idle queue store) statement opening strikes (completeStatements fault jobId now)
    rw [completeCall, allOrNothing_iff_of_error raised]
    refine iff_of_true ⟨stored, queued⟩ (fun commits => ?_)
    obtain rfl : statement = .commit := by simpa [strikes] using commits
    simp [openingStatements] at opening
  · simp only [not_exists, not_and] at opens
    have ran := @run_withConn Time Bool fault .writing (.idle queue store) opens
      (completeStatements fault jobId now)
    rw [CallState.rollback_idle, run_completeStatements] at ran
    by_cases updates : fault = some ⟨.writing, .updateJobs⟩
    · rw [if_pos updates] at ran
      rw [completeCall, allOrNothing_iff_of_error ran]
      exact iff_of_true ⟨rfl, rfl⟩ (fun commits => by simp [updates] at commits)
    · rw [if_neg updates] at ran
      by_cases selects : store.jobs.touches jobId isLeased = true ∧
          fault = some ⟨.writing, .selectJobType⟩
      · rw [if_pos selects] at ran
        rw [completeCall, allOrNothing_iff_of_error ran]
        exact iff_of_true ⟨rfl, rfl⟩ (fun commits => by simp [selects.2] at commits)
      · rw [if_neg selects] at ran
        by_cases commits : fault = some ⟨.writing, .commit⟩
        · simp only [if_pos commits] at ran
          rw [completeCall, allOrNothing_iff_of_error ran]
          simp only [commits, forall_const]
          exact (and_iff_right rfl).trans (complete_queue_eq_iff jobId now)
        · simp only [if_neg commits] at ran
          exact iff_of_true (allOrNothing_of_ok ran) (fun struck => absurd struck commits)

/-- The statements of `fail` when it has counted the failure. -/
def statementsBehindCount (queue : PersistentJobQueue) (row : JobRow Time) : List Fault :=
  ⟨.writing, .updateJobs⟩ ::
    ((if exhausted queue row then [⟨.writing, .insertDeadLetter⟩] else []) ++
      ⟨.writing, .commit⟩ :: readStatements.map (Fault.mk .reading))

theorem run_failStatements_of_row
    {jobId : String} {row : JobRow Time} (selects : fault ≠ some ⟨.writing, .selectJob⟩)
    (found : store.jobs.find? jobId = some row) (error : String) (now : Time) :
    (failStatements fault jobId error now).run (.idle queue store) =
      if fault = some ⟨.writing, .updateJobs⟩ then
        .error .sqlite (.idle (countFailure queue row.jobType) store)
      else if exhausted queue row = true ∧ fault = some ⟨.writing, .insertDeadLetter⟩ then
        .error .sqlite
          { CallState.idle (countFailure queue row.jobType) store with
            working := (updateOne store jobId anyRow (deadLetterRow error now)
              (fun _ => ⟨rfl, rfl⟩)).2 }
      else
        .ok true
          { CallState.idle (countFailure queue row.jobType) store with
            working := (fail queue store jobId error now).2.2 } := by
  unfold failStatements
  rw [EStateM.run_bind, run_query, if_neg selects]
  simp only [show (CallState.idle queue store).working = store from rfl, found,
    EStateM.run_bind, run_failRow found]
  by_cases updates : fault = some ⟨.writing, .updateJobs⟩
  · simp only [if_pos updates]
  · simp only [if_neg updates]
    by_cases inserts : exhausted queue row = true ∧ fault = some ⟨.writing, .insertDeadLetter⟩
    · simp only [if_pos inserts]
    · simp only [if_neg inserts]
      rfl

theorem run_failCall_of_error
    {jobId error : String} {now : Time} {start : CallState Time} {problem : CallProblem}
    {after : CallState Time}
    (ran : (withConn fault .writing (failStatements fault jobId error now)).run start =
      .error problem after) :
    (failCall fault jobId error now).run start = .error problem after := by
  rw [failCall, EStateM.run_bind, ran]

theorem run_failCall_of_found
    {jobId error : String} {now : Time} {start after : CallState Time}
    (ran : (withConn fault .writing (failStatements fault jobId error now)).run start =
      .ok true after) :
    (failCall fault jobId error now).run start = (getCall fault jobId).run after := by
  rw [failCall, EStateM.run_bind, ran]
  rfl

/-- `fail` of an existing job raises with a changed queue object exactly if a
statement fails when the failure has been counted. -/
theorem allOrNothing_failCall_of_row
    {jobId : String} {row : JobRow Time}
    (spared : ∀ statement ∈ openingStatements, fault ≠ some ⟨.writing, statement⟩)
    (selects : fault ≠ some ⟨.writing, .selectJob⟩)
    (found : store.jobs.find? jobId = some row) (error : String) (now : Time) :
    AllOrNothing (failCall fault jobId error now) queue store ↔
      ∀ failing ∈ statementsBehindCount queue row, fault ≠ some failing := by
  have ran := @run_withConn Time Bool fault .writing (.idle queue store) spared
    (failStatements fault jobId error now)
  rw [CallState.rollback_idle, run_failStatements_of_row selects found] at ran
  -- A call that raises from here on has counted the failure.
  have counted : ∀ {problem after} (failing : Fault),
      (failCall fault jobId error now).run (.idle queue store) = .error problem after →
      after.queue = countFailure queue row.jobType → fault = some failing →
      failing ∈ statementsBehindCount queue row →
        (AllOrNothing (failCall fault jobId error now) queue store ↔
          ∀ failing ∈ statementsBehindCount queue row, fault ≠ some failing) := by
    intro problem after failing raised queued strikes member
    rw [allOrNothing_iff_of_error raised]
    refine iff_of_false (fun same => ?_) (fun spares => spares failing member strikes)
    exact countFailure_ne queue row.jobType (queued.symm.trans same.2)
  by_cases updates : fault = some ⟨.writing, .updateJobs⟩
  · rw [if_pos updates] at ran
    exact counted _ (run_failCall_of_error ran) rfl updates (by simp [statementsBehindCount])
  · rw [if_neg updates] at ran
    by_cases inserts : exhausted queue row = true ∧ fault = some ⟨.writing, .insertDeadLetter⟩
    · rw [if_pos inserts] at ran
      exact counted _ (run_failCall_of_error ran) rfl inserts.2
        (by simp [statementsBehindCount, inserts.1])
    · rw [if_neg inserts] at ran
      by_cases commits : fault = some ⟨.writing, .commit⟩
      · simp only [if_pos commits] at ran
        exact counted _ (run_failCall_of_error ran) rfl commits (by simp [statementsBehindCount])
      · simp only [if_neg commits] at ran
        by_cases reads : ∃ statement ∈ readStatements, fault = some ⟨.reading, statement⟩
        · obtain ⟨statement, member, strikes⟩ := reads
          obtain ⟨problem, after, raised, -, queued⟩ :=
            run_getCall_raises member strikes jobId
          rw [← run_failCall_of_found ran] at raised
          exact counted _ raised queued strikes (by simp [statementsBehindCount, member])
        · simp only [not_exists, not_and] at reads
          have returned := (run_failCall_of_found ran).trans (run_getCall reads jobId)
          refine iff_of_true (allOrNothing_of_ok returned) ?_
          intro failing member strikes
          simp only [statementsBehindCount, List.mem_cons, List.mem_append, List.mem_map]
            at member
          rcases member with rfl | inserting | rfl | ⟨statement, member, rfl⟩
          · exact updates strikes
          · split at inserting
            next spent =>
              obtain rfl := List.mem_singleton.mp inserting
              exact inserts ⟨spent, strikes⟩
            · cases inserting
          · exact commits strikes
          · exact reads statement member strikes

/-- Every kind of failure behind the counting is one of the statements listed. -/
theorem fault_ne_of_early
    {statement : Statement} (early : statement = .selectJob ∨ statement ∈ openingStatements)
    (row : JobRow Time) :
    ∀ failing ∈ statementsBehindCount queue row, Fault.mk .writing statement ≠ failing := by
  intro failing member same
  subst same
  simp only [statementsBehindCount, List.mem_cons, List.mem_append, List.mem_map] at member
  rcases early with rfl | opening
  · simp at member
  · simp only [openingStatements, List.mem_cons, List.not_mem_nil, or_false] at opening
    rcases opening with rfl | rfl | rfl <;> simp at member

/-- `fail` raises with a changed queue object exactly if the job exists and a
statement fails when the failure has been counted. -/
theorem allOrNothing_failCall_iff (jobId error : String) (now : Time) :
    AllOrNothing (failCall fault jobId error now) queue store ↔
      ∀ row, store.jobs.find? jobId = some row →
        ∀ failing ∈ statementsBehindCount queue row, fault ≠ some failing := by
  by_cases opens : ∃ statement ∈ openingStatements, fault = some ⟨.writing, statement⟩
  · obtain ⟨statement, opening, strikes⟩ := opens
    obtain ⟨after, raised, stored, queued⟩ := @run_withConn_of_opens Time Bool fault .writing
      (.idle queue store) statement opening strikes (failStatements fault jobId error now)
    rw [allOrNothing_iff_of_error (run_failCall_of_error raised)]
    refine iff_of_true ⟨stored, queued⟩ (fun row _ failing member struck => ?_)
    exact fault_ne_of_early (.inr opening) row failing member
      (Option.some.inj (strikes.symm.trans struck))
  · simp only [not_exists, not_and] at opens
    by_cases selects : fault = some ⟨.writing, .selectJob⟩
    · have ran := @run_withConn Time Bool fault .writing (.idle queue store) opens
        (failStatements fault jobId error now)
      rw [failStatements, EStateM.run_bind, run_query, if_pos selects] at ran
      rw [allOrNothing_iff_of_error (run_failCall_of_error ran)]
      refine iff_of_true ⟨rfl, rfl⟩ (fun row _ failing member struck => ?_)
      exact fault_ne_of_early (.inl rfl) row failing member
        (Option.some.inj (selects.symm.trans struck))
    · cases found : store.jobs.find? jobId with
      | some row => simpa using allOrNothing_failCall_of_row opens selects found error now
      | none =>
          refine iff_of_true ?_ (fun row absent => by cases absent)
          have body : (failStatements fault jobId error now).run (.idle queue store) =
              .ok false (.idle queue store) := by
            rw [failStatements, EStateM.run_bind, run_query, if_neg selects]
            simp only [show (CallState.idle queue store).working = store from rfl, found]
            rfl
          have ran := @run_withConn Time Bool fault .writing (.idle queue store) opens
            (failStatements fault jobId error now)
          rw [CallState.rollback_idle, body] at ran
          by_cases commits : fault = some ⟨.writing, .commit⟩
          · simp only [if_pos commits] at ran
            exact (allOrNothing_iff_of_error (run_failCall_of_error ran)).mpr ⟨rfl, rfl⟩
          · simp only [if_neg commits] at ran
            refine @allOrNothing_of_ok Time _ queue store _ none (.idle queue store) ?_
            rw [failCall, EStateM.run_bind, ran]
            rfl

/-- Without a failing statement the call is `fail`. -/
theorem run_failCall_none (jobId error : String) (now : Time) :
    ∃ job, (fail queue store jobId error now).1 = .ok job ∧
      (failCall none jobId error now).run (.idle queue store) =
        .ok job
          (.idle (fail queue store jobId error now).2.1 (fail queue store jobId error now).2.2) := by
  cases found : store.jobs.find? jobId with
  | none =>
      refine ⟨none, by simp [fail, found], ?_⟩
      rw [failCall, EStateM.run_bind, run_withConn (by simp), CallState.rollback_idle,
        failStatements, EStateM.run_bind, run_query]
      simp only [fail, found]
      simp [found, CallState.commit, CallState.idle]
  | some row =>
      obtain ⟨payload, dumped, -⟩ := row.payload.dump_load
      have dumps : JsonColumn.dump (rowToJob row).payload = .ok payload := dumped
      have answered : (fail queue store jobId error now).1 =
          .ok (Scheduler.get (fail queue store jobId error now).2.2 jobId) := by
        cases spent : exhausted queue row <;> simp [fail, found, spent, dumps]
      have counted : (fail queue store jobId error now).2.1 = countFailure queue row.jobType := by
        cases spent : exhausted queue row <;> simp [fail, found, spent, dumps]
      refine ⟨_, answered, ?_⟩
      have ran := @run_withConn Time Bool none .writing (.idle queue store) (by simp)
        (failStatements none jobId error now)
      rw [CallState.rollback_idle, run_failStatements_of_row (by simp) found] at ran
      simp only [reduceCtorEq, if_false, and_false] at ran
      rw [run_failCall_of_found ran, run_getCall (by simp), counted]
      rfl

/-- When a statement of `complete` or `fail` raises, the tables and the counters
are as before exactly if the counters had not been changed. -/
theorem failed_statement_allOrNothing_iff
    (fault : Option Fault) (queue : PersistentJobQueue) (store : Store Time)
    (jobId error : String) (now : Time) :
    (AllOrNothing (completeCall fault jobId now) queue store ↔
      (fault = some ⟨.writing, .commit⟩ →
        ∀ row, store.jobs.find? jobId = some row → isLeased row = true →
          row.jobType ∉ OrderedDict.keys queue.circuitFailures)) ∧
      (AllOrNothing (failCall fault jobId error now) queue store ↔
        ∀ row, store.jobs.find? jobId = some row →
          ∀ failing ∈ statementsBehindCount queue row, fault ≠ some failing) :=
  ⟨allOrNothing_completeCall_iff jobId now, allOrNothing_failCall_iff jobId error now⟩

end Atomicity

/-- A job that has failed once and is leased again. -/
def retriedSystem : System Unit Int :=
  Machine.final step (System.initial (fun _ => 300))
    [⟨(), 0, .enqueue { jobId := "j", jobType := "t", payload := .dict [] }⟩,
      ⟨(), 1, .leaseNext none 0⟩, ⟨(), 2, .fail "j" "boom"⟩, ⟨(), 3, .leaseNext none 0⟩]

theorem retriedSystem_not_allOrNothing :
    ¬AllOrNothing (completeCall (some ⟨.writing, .commit⟩) "j" 4)
        (retriedSystem.queues ()) retriedSystem.store ∧
      ¬AllOrNothing (failCall (some ⟨.writing, .updateJobs⟩) "j" "boom" 4)
        (retriedSystem.queues ()) retriedSystem.store := by
  have leased : (rowOf retriedSystem "j").map (fun row => (row.jobType, isLeased row)) =
      some ("t", true) := by
    decide +kernel
  have counted : OrderedDict.keys (retriedSystem.queues ()).circuitFailures = ["t"] := by
    decide +kernel
  obtain ⟨row, found, shape⟩ := Option.map_eq_some_iff.mp leased
  obtain ⟨jobType, held⟩ := Prod.mk.inj shape
  constructor
  · rw [allOrNothing_completeCall_iff]
    intro spares
    exact spares rfl row found held (by rw [counted, jobType]; exact List.mem_singleton.mpr rfl)
  · rw [allOrNothing_failCall_iff]
    intro spares
    exact spares row found ⟨.writing, .updateJobs⟩ (by simp [statementsBehindCount]) rfl

end SuperAdvisor.Scheduler
