import Mathlib.Data.Prod.Lex
import Mathlib.Data.List.Sort
import SuperAdvisor.Scheduler.RowEffect

/-!
# Leases in priority order

A call of `lease_next` hands out a waiting job with the least priority and time
of creation.  While nothing else changes which jobs wait, repeated calls hand out
all of them once, in this order.
-/

namespace SuperAdvisor.Scheduler

open Machine

variable {Time : Type} {jobType : Option String}

section Waiting

/-- The job is queued and has the wanted type, if one is wanted. -/
def Waits (jobType : Option String) (row : JobRow Time) : Prop :=
  row.state = .queued ∧ ∀ wanted ∈ jobType, wanted ≠ "" → row.jobType = wanted

theorem mem_candidates {table : JobTable Time} {row : JobRow Time} :
    row ∈ candidates table jobType ↔ row ∈ table.rows ∧ Waits jobType row := by
  have fits : matchesType jobType row = true ↔
      ∀ wanted ∈ jobType, wanted ≠ "" → row.jobType = wanted := by
    cases jobType with
    | none => simp [matchesType]
    | some wanted => simp [matchesType, or_iff_not_imp_left]
  rw [candidates, List.mem_filter, Bool.and_eq_true, decide_eq_true_eq, fits]
  rfl

/-- A change of rows that are not queued keeps the candidates. -/
theorem candidates_update
    {table : JobTable Time} {accepts : JobRow Time → Bool} {change : JobRow Time → JobRow Time}
    (keeps : JobTable.KeepsKeys change)
    (busy : ∀ row, accepts row = true → row.state ≠ .queued ∧ (change row).state ≠ .queued) :
    candidates (table.update accepts change keeps) jobType = candidates table jobType := by
  simp only [candidates, JobTable.update]
  induction table.rows with
  | nil => rfl
  | cons row rows induction =>
      rw [List.map_cons, List.filter_cons, List.filter_cons, induction]
      by_cases accepted : accepts row = true
      · simp [accepted, (busy row accepted).1, (busy row accepted).2]
      · simp [accepted]

/-- The candidates without the row that is leased. -/
theorem candidates_leased
    (store : Store Time) (jobId : String) (expires now : Time) :
    candidates (updateOne store jobId anyRow (leaseRow expires now)
        (fun _ => ⟨rfl, rfl⟩)).2.jobs jobType =
      (candidates store.jobs jobType).filter (fun row => row.jobId ≠ jobId) := by
  simp only [candidates, updateOne, JobTable.update]
  induction store.jobs.rows with
  | nil => rfl
  | cons row rows induction =>
      rw [List.map_cons, List.filter_cons, List.filter_cons, induction]
      by_cases addressed : row.jobId = jobId
      · by_cases waits : (decide (row.state = .queued) && matchesType jobType row) = true
        · simp [addressed, anyRow, leaseRow, waits]
        · simp [addressed, anyRow, leaseRow, waits]
      · by_cases waits : (decide (row.state = .queued) && matchesType jobType row) = true
        · simp [addressed, waits]
        · simp [addressed, waits]

/-- A candidate and the candidates with other ids. -/
theorem candidates_perm
    {table : JobTable Time} {row : JobRow Time} (member : row ∈ candidates table jobType) :
    (candidates table jobType).Perm
      (row :: (candidates table jobType).filter (fun other => other.jobId ≠ row.jobId)) := by
  have ids : ((candidates table jobType).map JobRow.jobId).Nodup :=
    table.primaryKey.sublist (List.filter_sublist.map JobRow.jobId)
  have distinct : (candidates table jobType).Nodup := List.Nodup.of_map _ ids
  refine (List.perm_ext_iff_of_nodup distinct
    (List.nodup_cons.mpr ⟨by simp, distinct.filter _⟩)).mpr (fun other => ?_)
  rw [List.mem_cons, List.mem_filter, decide_eq_true_eq]
  constructor
  · intro inside
    by_cases same : other.jobId = row.jobId
    · exact .inl (List.inj_on_of_nodup_map ids inside member same)
    · exact .inr ⟨inside, same⟩
  · rintro (rfl | ⟨inside, -⟩)
    · exact member
    · exact inside

end Waiting

section Order

variable [LinearOrder Time]

/-- The pair by which waiting jobs are ordered. -/
def rank (row : JobRow Time) : Int ×ₗ Time :=
  toLex (row.priority, row.createdAt)

/-- The job is leased, and the lease ended before now. -/
def LeaseExpired (now : Time) (row : JobRow Time) : Prop :=
  row.state = .leased ∧ ∃ expires ∈ row.leaseExpires, expires < now

theorem isExpiredLease_iff {now : Time} {row : JobRow Time} :
    isExpiredLease now row = true ↔ LeaseExpired now row := by
  unfold isExpiredLease LeaseExpired isLeased
  cases row.leaseExpires <;> simp

theorem ordersBefore_iff {left right : JobRow Time} :
    ordersBefore left right = true ↔ rank left < rank right := by
  rw [rank, rank, Prod.Lex.toLex_lt_toLex]
  simp [ordersBefore]

/-- The rows in the order of their ranks. -/
def inOrder (rows : List (JobRow Time)) : List (JobRow Time) :=
  rows.insertionSort (fun left right => rank left ≤ rank right)

theorem inOrder_perm (rows : List (JobRow Time)) : (inOrder rows).Perm rows :=
  List.perm_insertionSort _ rows

theorem inOrder_pairwise (rows : List (JobRow Time)) :
    (inOrder rows).Pairwise (fun left right => rank left ≤ rank right) := by
  have total : Std.Total (fun left right : JobRow Time => rank left ≤ rank right) :=
    ⟨fun left right => le_total (rank left) (rank right)⟩
  have transitive : IsTrans (JobRow Time) (fun left right => rank left ≤ rank right) :=
    ⟨fun _ _ _ first second => le_trans first second⟩
  exact List.pairwise_insertionSort _ rows

/-- A list that is not empty has a row of the least rank. -/
theorem exists_least {rows : List (JobRow Time)} (some : rows ≠ []) :
    ∃ least ∈ rows, ∀ other ∈ rows, rank least ≤ rank other := by
  have sorted := inOrder_pairwise rows
  have same := inOrder_perm rows
  cases shape : inOrder rows with
  | nil =>
      rw [shape] at same
      exact absurd (List.nil_perm.mp same) some
  | cons least rest =>
      rw [shape] at sorted same
      refine ⟨least, same.mem_iff.mp (by simp), fun other member => ?_⟩
      rcases List.mem_cons.mp (same.mem_iff.mpr member) with rfl | later
      · exact le_refl _
      · exact (List.pairwise_cons.mp sorted).1 other later

theorem nextQueued_cases (table : JobTable Time) (jobType : Option String) (tie : Nat) :
    (nextQueued table jobType tie = none ∧ candidates table jobType = []) ∨
      ∃ row ∈ candidates table jobType, nextQueued table jobType tie = some row ∧
        ∀ other ∈ candidates table jobType, rank row ≤ rank other := by
  generalize shape : (candidates table jobType).filter (fun row =>
    !(candidates table jobType).any (fun other => ordersBefore other row)) = tied
  have least : ∀ row, row ∈ tied ↔ row ∈ candidates table jobType ∧
      ∀ other ∈ candidates table jobType, rank row ≤ rank other := by
    intro row
    rw [← shape, List.mem_filter, Bool.not_eq_true', List.any_eq_false]
    simp only [ordersBefore_iff, not_lt]
  have next : nextQueued table jobType tie = tied[tie % tied.length]? := by
    rw [nextQueued, shape]
  by_cases none : candidates table jobType = []
  · left
    have empty : tied = [] := by
      rw [← shape, none]
      rfl
    exact ⟨by rw [next, empty]; rfl, none⟩
  · right
    obtain ⟨first, member, minimal⟩ := exists_least none
    have positive : 0 < tied.length :=
      List.length_pos_of_mem ((least first).mpr ⟨member, minimal⟩)
    have inside : tie % tied.length < tied.length := Nat.mod_lt _ positive
    obtain ⟨chosen, chosenLeast⟩ := (least _).mp (List.getElem_mem inside)
    exact ⟨_, chosen, by rw [next, List.getElem?_eq_getElem inside], chosenLeast⟩

theorem rows_resetExpired (store : Store Time) (now : Time) :
    (resetExpired store now).jobs.rows = store.jobs.rows.map (afterSweep now) := rfl

theorem afterSweep_of_expired {now : Time} {row : JobRow Time} (expired : LeaseExpired now row) :
    afterSweep now row = requeue now row :=
  if_pos (isExpiredLease_iff.mpr expired)

theorem afterSweep_of_not_expired
    {now : Time} {row : JobRow Time} (current : ¬ LeaseExpired now row) :
    afterSweep now row = row :=
  if_neg (fun expired => current (isExpiredLease_iff.mp expired))

theorem resetExpired_of_current
    {store : Store Time} {now : Time} (current : ∀ row ∈ store.jobs.rows, ¬ LeaseExpired now row) :
    resetExpired store now = store := by
  have rows : (resetExpired store now).jobs.rows = store.jobs.rows := by
    rw [rows_resetExpired]
    exact (List.map_congr_left (fun row member =>
      afterSweep_of_not_expired (current row member))).trans (List.map_id _)
  obtain ⟨⟨stored, _, _⟩, letters⟩ := store
  simp only [resetExpired, JobTable.update] at rows ⊢
  simp only [rows]

end Order

section Lease

variable [LinearOrder Time] [HAdd Time Int Time]

/-- What a call of `lease_next` replies and leaves behind once the expired
leases are reset. -/
structure LeasesNext (queue : PersistentJobQueue) (swept : Store Time)
    (jobType : Option String) (now : Time) (result : Option (Job Time) × Store Time) : Prop where
  idle : result.1 = none ↔ ∀ row ∈ swept.jobs.rows, ¬ Waits jobType row
  unchanged : result.1 = none → result.2 = swept
  leased : ∀ job, result.1 = some job → ∃ row ∈ swept.jobs.rows,
    Waits jobType row ∧
      (∀ other ∈ swept.jobs.rows, Waits jobType other → ¬ rank other < rank row) ∧
      job = rowToJob (leaseRow (now + queue.leaseSeconds) now row) ∧
      result.2.jobs.rows = swept.jobs.rows.map (fun other =>
        if other.jobId = row.jobId then leaseRow (now + queue.leaseSeconds) now other else other)

/-- The two results of a call: nothing waits, or a waiting job of the least rank
is leased. -/
theorem leaseNext_cases
    (queue : PersistentJobQueue) (store : Store Time) (jobType : Option String) (now : Time)
    (tie : Nat) :
    (candidates (resetExpired store now).jobs jobType = [] ∧
      leaseNext queue store jobType now tie = (none, resetExpired store now)) ∨
    ∃ row ∈ candidates (resetExpired store now).jobs jobType,
      (∀ other ∈ candidates (resetExpired store now).jobs jobType, rank row ≤ rank other) ∧
      (leaseNext queue store jobType now tie).1 =
        some (rowToJob (leaseRow (now + queue.leaseSeconds) now row)) ∧
      (leaseNext queue store jobType now tie).2 =
        (updateOne (resetExpired store now) row.jobId anyRow
          (leaseRow (now + queue.leaseSeconds) now) (fun _ => ⟨rfl, rfl⟩)).2 := by
  rcases nextQueued_cases (resetExpired store now).jobs jobType tie with
    ⟨next, empty⟩ | ⟨row, member, next, least⟩
  · left
    exact ⟨empty, by simp only [leaseNext, next]⟩
  · right
    have stored := JobTable.find?_of_mem (mem_candidates.mp member).1
    have written := (updateOne_accepted anyRow (leaseRow (now + queue.leaseSeconds) now)
      (fun _ => ⟨rfl, rfl⟩) stored rfl).2
    refine ⟨row, member, least, ?_, by simp only [leaseNext, next]⟩
    simp only [leaseNext, next, get]
    rw [written]
    rfl

theorem leasesNext_leaseNext
    (queue : PersistentJobQueue) (store : Store Time) (jobType : Option String) (now : Time)
    (tie : Nat) :
    LeasesNext queue (resetExpired store now) jobType now
      (leaseNext queue store jobType now tie) := by
  rcases leaseNext_cases queue store jobType now tie with
    ⟨empty, result⟩ | ⟨row, member, least, replied, after⟩
  · have none : ∀ row ∈ (resetExpired store now).jobs.rows, ¬ Waits jobType row := by
      intro row inside waits
      have member := mem_candidates.mpr ⟨inside, waits⟩
      rw [empty] at member
      cases member
    rw [result]
    constructor
    · exact iff_of_true rfl none
    · exact fun _ => rfl
    · rintro job ⟨⟩
  · obtain ⟨inside, waits⟩ := mem_candidates.mp member
    constructor
    · rw [replied]
      exact iff_of_false (by simp) (fun none => none row inside waits)
    · rw [replied]
      rintro ⟨⟩
    · intro job same
      obtain rfl := Option.some.inj (replied.symm.trans same)
      refine ⟨row, inside, waits, fun other otherIn otherWaits => ?_, rfl, ?_⟩
      · exact not_lt.mpr (least other (mem_candidates.mpr ⟨otherIn, otherWaits⟩))
      · rw [after]
        simp [updateOne, JobTable.update, anyRow]

end Lease

section Drain

variable [LinearOrder Time]

/-- The replies are the waiting jobs once each, in the order of their ranks, and
then nothing. -/
def Drains (waiting : List (JobRow Time)) (replies : List (Option String)) : Prop :=
  ∃ order : List (JobRow Time), order.Perm waiting ∧ order.Pairwise (fun early late => rank early ≤ rank late) ∧
    replies <+: order.map (fun row => some row.jobId) ++ List.replicate replies.length none

theorem Drains.nil (waiting : List (JobRow Time)) : Drains waiting [] :=
  ⟨inOrder waiting, inOrder_perm waiting, inOrder_pairwise waiting, List.nil_prefix⟩

theorem Drains.nothing {replies : List (Option String)}
    (rest : Drains ([] : List (JobRow Time)) replies) :
    Drains ([] : List (JobRow Time)) (none :: replies) := by
  obtain ⟨order, same, -, started⟩ := rest
  obtain rfl := List.perm_nil.mp same
  refine ⟨[], List.Perm.refl _, .nil, ?_⟩
  simpa [List.replicate_succ] using started

/-- A waiting job of the least rank comes first. -/
theorem Drains.leased
    {waiting remaining : List (JobRow Time)} {replies : List (Option String)} {row : JobRow Time}
    (split : waiting.Perm (row :: remaining))
    (least : ∀ other ∈ remaining, rank row ≤ rank other) (rest : Drains remaining replies) :
    Drains waiting (some row.jobId :: replies) := by
  obtain ⟨order, same, sorted, started⟩ := rest
  refine ⟨row :: order, (same.cons row).trans split.symm, ?_, ?_⟩
  · exact List.pairwise_cons.mpr ⟨fun other member => least other (same.mem_iff.mp member), sorted⟩
  · rw [List.map_cons, List.cons_append, List.prefix_cons_inj]
    refine started.trans ?_
    rw [List.prefix_append_right_inj]
    exact ⟨[none], by simp [List.replicate_succ']⟩

variable {Worker : Type} [DecidableEq Worker] [HAdd Time Int Time]

/-- What a call of `lease_next` for this type hands out. -/
def leaseReply (jobType : Option String) (event : QueueEvent Worker Time) :
    Option (Option String) :=
  match event.call.call, event.reply with
  | .leaseNext asked _, .job job => if asked = jobType then some (job.map Job.jobId) else none
  | _, _ => none

/-- A lease of this type, or a call that moves no waiting job. -/
def Call.KeepsWaiting (jobType : Option String) : Call → Prop
  | .leaseNext asked _ => asked = jobType
  | .enqueue _ | .fail _ _ | .cancel _ => False
  | _ => True

/-- The call keeps the jobs waiting, and no lease has expired. -/
def Undisturbed (jobType : Option String) (event : QueueEvent Worker Time) : Prop :=
  event.call.call.KeepsWaiting jobType ∧
    ∀ row ∈ event.before.store.jobs.rows, ¬ LeaseExpired event.call.now row

/-- A lease hands out the first of the jobs that wait once the expired leases are
reset. -/
theorem drains_lease
    (system : System Worker Time) (worker : Worker) (now : Time) (tie : Nat)
    {events : List (QueueEvent Worker Time)}
    (rest : Drains (candidates (step system ⟨worker, now, .leaseNext jobType tie⟩).2.store.jobs
      jobType) (events.filterMap (leaseReply jobType))) :
    Drains (candidates (resetExpired system.store now).jobs jobType)
      ((eventOf step system ⟨worker, now, .leaseNext jobType tie⟩ :: events).filterMap
        (leaseReply jobType)) := by
  have replied : leaseReply jobType (eventOf step system ⟨worker, now, .leaseNext jobType tie⟩) =
      some ((leaseNext (system.queues worker) system.store jobType now tie).1.map Job.jobId) :=
    if_pos rfl
  have after : (step system ⟨worker, now, .leaseNext jobType tie⟩).2.store =
      (leaseNext (system.queues worker) system.store jobType now tie).2 := rfl
  rw [after] at rest
  rw [List.filterMap_cons_some replied]
  rcases leaseNext_cases (system.queues worker) system.store jobType now tie with
    ⟨empty, result⟩ | ⟨row, member, least, leased, written⟩
  · rw [result] at rest ⊢
    rw [empty] at rest ⊢
    exact rest.nothing
  · have sameId : (rowToJob (leaseRow (now + (system.queues worker).leaseSeconds) now
        row)).jobId = row.jobId := rfl
    rw [leased, Option.map_some, sameId]
    rw [written, candidates_leased] at rest
    refine Drains.leased (candidates_perm member) (fun other inside => ?_) rest
    exact least other (List.mem_of_mem_filter inside)

/-- A call that is no lease and moves no waiting job. -/
theorem candidates_step
    {system : System Worker Time} {invocation : Invocation Worker Time}
    (calm : invocation.call.KeepsWaiting jobType)
    (other : ∀ asked tie, invocation.call ≠ .leaseNext asked tie)
    (current : ∀ row ∈ system.store.jobs.rows, ¬ LeaseExpired invocation.now row) :
    candidates (step system invocation).2.store.jobs jobType =
        candidates system.store.jobs jobType ∧
      leaseReply jobType (eventOf step system invocation) = none := by
  obtain ⟨worker, now, call⟩ := invocation
  have busy : ∀ row : JobRow Time, isLeased row = true → row.state ≠ .queued := by
    intro row leased queued
    simp [isLeased, queued] at leased
  have leasedOnly : ∀ (store : Store Time) (jobId : String)
      (change : JobRow Time → JobRow Time) (keeps : JobTable.KeepsKeys change),
      (∀ row, isLeased row = true → (change row).state ≠ .queued) →
        candidates (updateOne store jobId isLeased change keeps).2.jobs jobType =
          candidates store.jobs jobType := by
    intro store jobId change keeps stillBusy
    refine candidates_update keeps (fun row accepted => ?_)
    have leased := (Bool.and_eq_true_iff.mp accepted).2
    exact ⟨busy row leased, stillBusy row leased⟩
  cases call with
  | enqueue request => exact calm.elim
  | fail jobId error => exact calm.elim
  | cancel jobId => exact calm.elim
  | leaseNext asked tie => exact absurd rfl (other asked tie)
  | renewLease jobId => exact ⟨leasedOnly _ _ _ _ busy, rfl⟩
  | checkpoint jobId data =>
      refine ⟨?_, rfl⟩
      simp only [step, checkpoint]
      cases JsonColumn.dump data with
      | error problem => rfl
      | ok column => exact leasedOnly _ _ _ _ busy
  | complete jobId =>
      refine ⟨?_, rfl⟩
      have store : (step system ⟨worker, now, .complete jobId⟩).2.store =
          (complete (system.queues worker) system.store jobId now).2.2 := rfl
      rw [store, complete_store]
      exact leasedOnly _ _ _ _ (fun _ _ => by simp [completeRow])
  | resumeInProgress =>
      refine ⟨?_, rfl⟩
      have store : (step system ⟨worker, now, .resumeInProgress⟩).2.store =
          resetExpired system.store now := rfl
      rw [store, resetExpired_of_current current]
  | resetCircuit jobType => exact ⟨rfl, rfl⟩
  | isCircuitOpen jobType => exact ⟨rfl, rfl⟩
  | get jobId => exact ⟨rfl, rfl⟩
  | reopen leaseSeconds => exact ⟨rfl, rfl⟩

theorem drained
    {system : System Worker Time} {calls : List (Invocation Worker Time)}
    (undisturbed : ∀ event ∈ trace step system calls, Undisturbed jobType event) :
    Drains (candidates system.store.jobs jobType)
      ((trace step system calls).filterMap (leaseReply jobType)) := by
  induction calls generalizing system with
  | nil => exact Drains.nil _
  | cons invocation calls induction =>
      obtain ⟨calm, current⟩ := undisturbed _ (List.mem_cons_self)
      have rest := induction (fun event member => undisturbed event (List.mem_cons_of_mem _ member))
      obtain ⟨worker, now, call⟩ := invocation
      have unexpired : ∀ row ∈ system.store.jobs.rows, ¬ LeaseExpired now row := current
      by_cases lease : ∃ asked tie, call = .leaseNext asked tie
      · obtain ⟨asked, tie, rfl⟩ := lease
        obtain rfl : asked = jobType := calm
        have drains := drains_lease system worker now tie rest
        rwa [resetExpired_of_current unexpired] at drains
      · have other : ∀ asked tie, call ≠ .leaseNext asked tie :=
          fun asked tie same => lease ⟨asked, tie, same⟩
        obtain ⟨waiting, silent⟩ := @candidates_step _ jobType _ _ _ _ system
          ⟨worker, now, call⟩ calm other unexpired
        rw [waiting] at rest
        rw [trace, List.filterMap_cons_none silent]
        exact rest

/-- Every call resets exactly the expired leases and hands out a waiting job of
the least rank, if there is one.  After a call, and while no later call disturbs
it, the calls hand out all jobs that waited once, in the order of their ranks. -/
theorem leases_in_priority_order :
    (∀ (queue : PersistentJobQueue) (store : Store Time) (jobType : Option String) (now : Time)
        (tie : Nat),
      (resetExpired store now).jobs.rows = store.jobs.rows.map (afterSweep now) ∧
      (∀ row, LeaseExpired now row → afterSweep now row =
        { row with state := .queued, leaseExpires := none, updatedAt := now }) ∧
      (∀ row, ¬ LeaseExpired now row → afterSweep now row = row) ∧
      LeasesNext queue (resetExpired store now) jobType now
        (leaseNext queue store jobType now tie)) ∧
    ∀ (system : System Worker Time) (worker : Worker) (jobType : Option String) (now : Time)
        (tie : Nat) (later : List (Invocation Worker Time)),
      (∀ event ∈ trace step (step system ⟨worker, now, .leaseNext jobType tie⟩).2 later,
        Undisturbed jobType event) →
        Drains (candidates (resetExpired system.store now).jobs jobType)
          ((trace step system (⟨worker, now, .leaseNext jobType tie⟩ :: later)).filterMap
            (leaseReply jobType)) := by
  constructor
  · intro queue store jobType now tie
    exact ⟨rows_resetExpired store now, fun _ => afterSweep_of_expired,
      fun _ => afterSweep_of_not_expired, leasesNext_leaseNext queue store jobType now tie⟩
  · intro system worker jobType now tie later undisturbed
    exact drains_lease system worker now tie (drained undisturbed)

end Drain

def priorityRequest (jobId : String) (priority : Int) : EnqueueRequest :=
  { jobId := jobId
    jobType := "t"
    priority := priority
    payload := .dict [] }

/-- Two jobs, the later one more urgent. -/
def twoJobs : System Unit Int :=
  final step (System.initial (fun _ => 300))
    [⟨(), 0, .enqueue (priorityRequest "slow" 5)⟩, ⟨(), 1, .enqueue (priorityRequest "fast" 1)⟩]

theorem twoJobs_drained :
    Drains (candidates (resetExpired twoJobs.store 2).jobs none)
        ((trace step twoJobs [⟨(), 2, .leaseNext none 0⟩, ⟨(), 3, .leaseNext none 0⟩]).filterMap
          (leaseReply none)) ∧
      (trace step twoJobs [⟨(), 2, .leaseNext none 0⟩, ⟨(), 3, .leaseNext none 0⟩]).filterMap
        (leaseReply none) = [some "fast", some "slow"] := by
  refine ⟨leases_in_priority_order.2 twoJobs () none 2 0 [⟨(), 3, .leaseNext none 0⟩] ?_,
    by decide +kernel⟩
  intro event member
  obtain rfl := List.mem_singleton.mp member
  have unexpired : ∀ row ∈ (step twoJobs ⟨(), 2, .leaseNext none 0⟩).2.store.jobs.rows,
      isExpiredLease 3 row = false := by
    decide +kernel
  refine ⟨rfl, fun row inside expired => ?_⟩
  exact Bool.false_ne_true ((unexpired row inside).symm.trans (isExpiredLease_iff.mpr expired))

end SuperAdvisor.Scheduler
