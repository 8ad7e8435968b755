import SuperAdvisor.Foundation.Program
import SuperAdvisor.MainAgent.AuditLog
import SuperAdvisor.MainAgent.CompletionReports

/-!
# The audit chain

A round is one run of `_dispatch_with_retry`: a task, what the dispatcher did at
every attempt, and the result, which is then validated.  Over all calls of
`execute` on one directory, also for different requests and by different
managers, the audit log is a chain, and it has one record for every round.
-/

namespace SuperAdvisor.MainAgent

open Python
open Program (Ends ends_bind ends_bind_ofExcept run_ends)

variable {Time : Type}

/-- A call of `execute` on the directory, with its choices. -/
structure ExecuteCall (Time : Type) where
  manager : MainRuntimeManager
  request : RuntimeRequest Time
  script : List (Choice Time)

structure ExecuteResult (Time : Type) where
  outcome : Program.Outcome RuntimeProblem RuntimeReport
  acts : List (RuntimeAct Time)

abbrev ExecuteEvent (Time : Type) :=
  Machine.Event Files (ExecuteCall Time) (ExecuteResult Time)

def executeStep [LinearOrder Time] [Add Time] (sha256Hex : List Char → String)
    (files : Files) (call : ExecuteCall Time) : ExecuteResult Time × Files :=
  let run := Program.run answer (execute sha256Hex call.manager call.request) call.script files
  ({ outcome := run.outcome, acts := run.acts }, run.state)

/-- The operations of `_append_audit_event`. -/
def RuntimeOp.isAudit : RuntimeOp → Bool
  | .readAuditLog => true
  | .utcNow => true
  | .appendAuditLog _ => true
  | _ => false

def AuditFault (act : RuntimeAct Time) : Prop :=
  act.op.isAudit = true ∧ act.reply.isOk = false

/-- The process did not die, and nothing kept it from writing the audit log. -/
structure ExecuteResult.Uninterrupted (result : ExecuteResult Time) : Prop where
  alive : result.outcome ≠ .died
  audits : ∀ act ∈ result.acts, ¬AuditFault act

/-- What an attempt makes of the dispatcher's answer: the result, or the error
after which the task is tried again. -/
def DispatchOutcome.attempt (task : AgentTask) : DispatchOutcome → Except String TaskResult
  | .returned payload =>
      match resultOfPayload payload with
      | .ok result =>
          if result.isRetryable then .error "retryable failure result" else .ok result
      | .error failure => .ok (failedDispatch task failure.text)
  | .refused message => .ok (failedDispatch task message)
  | .runtimeError message => .error message

/-- The attempts of a task, with the number of attempts that are left. -/
inductive Attempts (task : AgentTask) : Nat → String → List DispatchOutcome → TaskResult → Prop
  | exhausted {lastError : String} :
      Attempts task 0 lastError [] (failedDispatch task lastError)
  | settled {remaining : Nat} {lastError : String} {outcome : DispatchOutcome}
      {result : TaskResult} (settles : outcome.attempt task = .ok result) :
      Attempts task (remaining + 1) lastError [outcome] result
  | retried {remaining : Nat} {lastError message : String} {outcome : DispatchOutcome}
      {outcomes : List DispatchOutcome} {result : TaskResult}
      (again : outcome.attempt task = .error message)
      (later : Attempts task remaining message outcomes result) :
      Attempts task (remaining + 1) lastError (outcome :: outcomes) result

structure Round where
  task : AgentTask
  outcomes : List DispatchOutcome
  result : TaskResult

namespace Round

def dispatches (round : Round) : List (AgentTask × DispatchOutcome) :=
  round.outcomes.map (fun outcome => (round.task, outcome))

/-- The round follows the loop of `_dispatch_with_retry`. -/
def Runs (manager : MainRuntimeManager) (round : Round) : Prop :=
  Attempts round.task (manager.maxRetries + 1).toNat "unknown dispatch failure"
    round.outcomes round.result

def validationError (round : Round) : String :=
  validateResult round.task round.result

/-- Event type, task and detail of the record of the round. -/
def verdict (round : Round) : String × String × String :=
  if round.validationError ≠ "" then
    ("task_failed", round.task.taskId, round.validationError)
  else ("task_completed", round.task.taskId, round.result.evidenceReference)

end Round

def AuditEvent.verdict (event : AuditEvent) : String × String × String :=
  (event.eventType, event.taskId, event.detail)

/-- The dispatch an operation was answered with. -/
def dispatchOf : RuntimeAct Time → Option (AgentTask × DispatchOutcome)
  | ⟨_, .dispatch task, .ok outcome, _⟩ => some (task, outcome)
  | _ => none

/-- An exception of the dispatcher escaped. -/
def DispatcherEscaped (act : RuntimeAct Time) : Prop :=
  act.op.dispatched.isSome = true ∧ act.reply.isOk = false

/-- The attempts that belong to no round were answered with an error, before
an attempt whose exception escaped. -/
def Abandoned (attempts : List (AgentTask × DispatchOutcome)) (acts : List (RuntimeAct Time)) :
    Prop :=
  attempts = [] ∨
    ((∀ attempt ∈ attempts, ∃ message, attempt.2.attempt attempt.1 = .error message) ∧
      ∃ act ∈ acts, DispatcherEscaped act)

/-- The rounds take tasks of the validated plan, in its order. -/
def Planned (manager : MainRuntimeManager) (request : RuntimeRequest Time)
    (rounds : List Round) : Prop :=
  rounds = [] ∨ ∃ ordered,
    validateAndOrderPlan manager.capabilities request.plan request.maxHops = .ok ordered ∧
      (rounds.map Round.task).Sublist ordered

/-- The rounds of a call. -/
structure Rounds (event : ExecuteEvent Time) (rounds : List Round) : Prop where
  runs : ∀ round ∈ rounds, round.Runs event.call.manager
  dispatches : ∃ abandoned, Abandoned abandoned event.reply.acts ∧
    event.reply.acts.filterMap dispatchOf = rounds.flatMap Round.dispatches ++ abandoned
  planned : Planned event.call.manager event.call.request rounds
  failed : ∀ report, event.reply.outcome = .returned report →
    (report.status = "FAILED" ↔ ∃ round ∈ rounds, round.validationError ≠ "")

/-- Where a call stands: the log has the records of its rounds, and the
attempts since then are pending. -/
structure Progress (sha256Hex : List Char → String) (manager : MainRuntimeManager)
    (events : List AuditEvent) (rounds : List Round)
    (pending : List (AgentTask × DispatchOutcome)) (past : List (RuntimeAct Time))
    (files : Files) : Prop where
  logged : ∃ recorded, (auditFormat sha256Hex).Intact files.auditLog (events ++ recorded) ∧
    recorded.map AuditEvent.verdict = rounds.map Round.verdict
  runs : ∀ round ∈ rounds, round.Runs manager
  dispatches : past.filterMap dispatchOf = rounds.flatMap Round.dispatches ++ pending

/-- What holds where a call stops short. -/
def StopsShort (sha256Hex : List Char → String) (manager : MainRuntimeManager)
    (request : RuntimeRequest Time) (events : List AuditEvent) (problem : Option RuntimeProblem)
    (past : List (RuntimeAct Time)) (files : Files) : Prop :=
  problem = none ∨ (∃ act ∈ past, AuditFault act) ∨
    ∃ rounds pending, Progress sha256Hex manager events rounds pending past files ∧
      Abandoned pending past ∧ Planned manager request rounds

/-- What holds where a call reports. -/
def ReportsRounds (sha256Hex : List Char → String) (manager : MainRuntimeManager)
    (request : RuntimeRequest Time) (events : List AuditEvent) (report : RuntimeReport)
    (past : List (RuntimeAct Time)) (files : Files) : Prop :=
  ∃ rounds, Progress sha256Hex manager events rounds [] past files ∧
    Planned manager request rounds ∧
    (report.status = "FAILED" ↔ ∃ round ∈ rounds, round.validationError ≠ "")

abbrev Audits {α : Type} (sha256Hex : List Char → String) (manager : MainRuntimeManager)
    (request : RuntimeRequest Time) (events : List AuditEvent)
    (post : α → List (RuntimeAct Time) → Files → Prop) :
    RuntimeProgram Time α → List (RuntimeAct Time) → Files → Prop :=
  Ends answer (fun _ => True) (StopsShort sha256Hex manager request events) post

theorem afterAttempt_eq
    (task : AgentTask) (retry : String → RuntimeProgram Time TaskResult)
    (outcome : DispatchOutcome) :
    afterAttempt task retry outcome =
      match outcome.attempt task with
      | .ok result => .done result
      | .error message => retry message := by
  cases outcome with
  | refused message => rfl
  | runtimeError message => rfl
  | returned payload =>
      simp only [afterAttempt, DispatchOutcome.attempt]
      cases resultOfPayload payload with
      | error failure => rfl
      | ok result => by_cases again : result.isRetryable = true <;> simp [again]

theorem dispatchOf_of_failed
    {act : RuntimeAct Time} (failed : act.reply.isOk = false) : dispatchOf act = none := by
  obtain ⟨before, op, reply, after⟩ := act
  cases reply with
  | ok value => cases failed
  | error problem => cases op <;> rfl

section Rules

variable {files : Files} {choice : Choice Time} {op : RuntimeOp}

private theorem dispatchOf_actOf (silent : op.dispatched = none) :
    dispatchOf (actOf files choice op) = none := by
  cases op with
  | dispatch task => cases silent
  | _ => rfl

private theorem auditLog_actOf (outside : op.isAudit = false) :
    (actOf files choice op).after.auditLog = files.auditLog := by
  cases fault : choice.fault with
  | none =>
      cases op with
      | readAuditLog => cases outside
      | appendAuditLog line => cases outside
      | _ => simp [actOf, Program.actOf, answer, fault, perform]
  | some written =>
      cases op with
      | appendAuditLog line => cases outside
      | _ => simp [actOf, Program.actOf, answer, fault, Files.afterFault]

private theorem dispatchOf_answered
    {task : AgentTask} {outcome : DispatchOutcome}
    (answered : (actOf files choice (.dispatch task)).reply = .ok outcome) :
    dispatchOf (actOf files choice (.dispatch task)) = some (task, outcome) := by
  have reply : (answer files choice (.dispatch task)).1 = .ok outcome := answered
  simp only [actOf, Program.actOf, reply, dispatchOf]

variable {sha256Hex : List Char → String} {manager : MainRuntimeManager}
  {request : RuntimeRequest Time} {events : List AuditEvent} {rounds : List Round}
  {pending : List (AgentTask × DispatchOutcome)} {past : List (RuntimeAct Time)}
  {α : Type} {post : α → List (RuntimeAct Time) → Files → Prop}

theorem Progress.snoc
    (progress : Progress sha256Hex manager events rounds pending past files)
    {act : RuntimeAct Time} {after : Files} (same : after.auditLog = files.auditLog)
    (silent : dispatchOf act = none) :
    Progress sha256Hex manager events rounds pending (past ++ [act]) after := by
  refine ⟨?_, progress.runs, ?_⟩
  · rw [same]
    exact progress.logged
  · rw [List.filterMap_append, progress.dispatches]
    simp [silent]

theorem Progress.stopsShort
    (progress : Progress sha256Hex manager events rounds [] past files)
    (planned : Planned manager request rounds) (problem : Option RuntimeProblem) :
    StopsShort sha256Hex manager request events problem past files :=
  .inr (.inr ⟨rounds, [], progress, .inl rfl, planned⟩)

/-- An operation that neither dispatches nor touches the audit log. -/
theorem audits_quiet
    (op : RuntimeOp) {next : op.Reply Time → RuntimeProgram Time α}
    (outside : op.isAudit = false) (silent : op.dispatched = none)
    (progress : Progress sha256Hex manager events rounds [] past files)
    (planned : Planned manager request rounds)
    (later : ∀ reply history after, Progress sha256Hex manager events rounds [] history after →
      Audits sha256Hex manager request events post (next reply) history after) :
    Audits sha256Hex manager request events post
      ((Program.perform op .done : RuntimeProgram Time (op.Reply Time)) >>= next) past files := by
  have kept : ∀ choice, Progress sha256Hex manager events rounds []
      (past ++ [actOf files choice op]) (actOf files choice op).after :=
    fun choice => progress.snoc (auditLog_actOf outside) (dispatchOf_actOf silent)
  refine .perform (.inl rfl) ?_ ?_
  · intro choice problem _ _
    exact (kept choice).stopsShort planned _
  · intro choice reply _ _
    exact later reply _ _ (kept choice)

/-- An operation on the audit log may fail only in an interrupted call. -/
theorem audits_audit
    (op : RuntimeOp) {next : op.Reply Time → RuntimeProgram Time α} (audit : op.isAudit = true)
    (later : ∀ choice, Audits sha256Hex manager request events post
      (next (perform files choice op).1) (past ++ [actOf files choice op])
      (perform files choice op).2) :
    Audits sha256Hex manager request events post
      ((Program.perform op .done : RuntimeProgram Time (op.Reply Time)) >>= next) past files := by
  refine .perform (.inl rfl) ?_ ?_
  · intro choice problem _ answered
    refine .inr (.inl ⟨_, List.mem_append_right _ List.mem_cons_self, audit, ?_⟩)
    rw [answered]
    rfl
  · intro choice reply _ answered
    obtain ⟨rfl, shape⟩ := actOf_ok answered
    rw [shape]
    exact later choice

/-- Reading for the audit log, which changes nothing. -/
theorem audits_consult
    (op : RuntimeOp) {next : op.Reply Time → RuntimeProgram Time α} (audit : op.isAudit = true)
    (reads : ∀ line, op ≠ .appendAuditLog line)
    (progress : Progress sha256Hex manager events rounds pending past files)
    (later : ∀ choice history,
      Progress sha256Hex manager events rounds pending history files →
        Audits sha256Hex manager request events post (next (perform files choice op).1)
          history files) :
    Audits sha256Hex manager request events post
      ((Program.perform op .done : RuntimeProgram Time (op.Reply Time)) >>= next) past files := by
  refine audits_audit op audit ?_
  intro choice
  have same : (perform files choice op).2 = files := by
    cases op with
    | appendAuditLog line => exact absurd rfl (reads line)
    | replaceCheckpoint path text => cases audit
    | _ => rfl
  have silent : dispatchOf (actOf files choice op) = none := by
    apply dispatchOf_actOf
    cases op with
    | dispatch task => cases audit
    | _ => rfl
  rw [same]
  exact later choice _ (progress.snoc rfl silent)

theorem audits_loadCheckpoint
    {next : RuntimeCheckpoint → RuntimeProgram Time α}
    (progress : Progress sha256Hex manager events rounds [] past files)
    (planned : Planned manager request rounds)
    (later : ∀ checkpoint history after,
      Progress sha256Hex manager events rounds [] history after →
        Audits sha256Hex manager request events post (next checkpoint) history after) :
    Audits sha256Hex manager request events post (loadCheckpoint sha256Hex request >>= next)
      past files := by
  unfold loadCheckpoint readFile
  rw [Program.bind_assoc]
  refine audits_quiet (.readCheckpoint _) rfl rfl progress planned ?_
  intro text history after progress
  apply ends_bind_ofExcept
  · intro problem _
    exact progress.stopsShort planned _
  · intro checkpoint _
    exact later checkpoint history after progress

theorem audits_saveCheckpoint
    {checkpoint : RuntimeCheckpoint} {next : Unit → RuntimeProgram Time α}
    (progress : Progress sha256Hex manager events rounds [] past files)
    (planned : Planned manager request rounds)
    (later : ∀ history after, Progress sha256Hex manager events rounds [] history after →
      Audits sha256Hex manager request events post (next ()) history after) :
    Audits sha256Hex manager request events post (saveCheckpoint sha256Hex request checkpoint >>= next)
      past files := by
  unfold saveCheckpoint replaceFile
  rw [Program.bind_assoc]
  apply ends_bind_ofExcept
  · intro problem _
    exact progress.stopsShort planned _
  · intro text _
    exact audits_quiet (.replaceCheckpoint _ text) rfl rfl progress planned (fun _ => later)

/-- The attempts of a task become pending. -/
theorem audits_dispatchAttempts
    {task : AgentTask} (planned : Planned manager request rounds)
    (progress : Progress sha256Hex manager events rounds pending past files)
    (unsettled : ∀ attempt ∈ pending, ∃ message, attempt.2.attempt attempt.1 = .error message)
    (remaining : Nat) (lastError : String) :
    Audits sha256Hex manager request events
      (fun result history after => ∃ outcomes, Attempts task remaining lastError outcomes result ∧
        Progress sha256Hex manager events rounds
          (pending ++ outcomes.map (fun outcome => (task, outcome))) history after)
      (dispatchAttempts task remaining lastError) past files := by
  induction remaining generalizing pending past files lastError with
  | zero =>
      refine .done ⟨[], .exhausted, ?_⟩
      simpa using progress
  | succ remaining induction =>
      unfold dispatchAttempts dispatcher
      refine .perform (.inl rfl) ?_ ?_
      · intro choice problem _ answered
        have failed : (actOf files choice (.dispatch task)).reply.isOk = false := by
          rw [answered]
          rfl
        refine .inr (.inr ⟨rounds, pending,
          progress.snoc (auditLog_actOf rfl) (dispatchOf_of_failed failed),
          .inr ⟨unsettled, _, List.mem_append_right _ List.mem_cons_self, rfl, failed⟩, planned⟩)
      · intro choice outcome _ answered
        obtain ⟨rfl, shape⟩ := actOf_ok answered
        have next : Progress sha256Hex manager events rounds (pending ++ [(task, choice.outcome)])
            (past ++ [actOf files choice (.dispatch task)])
            (actOf files choice (.dispatch task)).after := by
          refine ⟨?_, progress.runs, ?_⟩
          · rw [auditLog_actOf rfl]
            exact progress.logged
          · rw [List.filterMap_append, progress.dispatches]
            simp [dispatchOf_answered answered, perform]
        show Audits sha256Hex manager request events _
          (afterAttempt task (dispatchAttempts task remaining) choice.outcome) _ _
        rw [afterAttempt_eq]
        cases attempted : choice.outcome.attempt task with
        | ok result => exact .done ⟨[choice.outcome], .settled attempted, next⟩
        | error message =>
            have retried : ∀ attempt ∈ pending ++ [(task, choice.outcome)],
                ∃ message, attempt.2.attempt attempt.1 = .error message := by
              intro attempt member
              rcases List.mem_append.mp member with early | last
              · exact unsettled attempt early
              · obtain rfl := List.mem_singleton.mp last
                exact ⟨message, attempted⟩
            refine Program.ends_mono ?_ (induction next retried message)
            rintro result history after ⟨outcomes, attempts, progress⟩
            refine ⟨choice.outcome :: outcomes, .retried attempted attempts, ?_⟩
            simpa using progress

private theorem audits_printEvent
    (event : AuditEvent) {next : List Char → RuntimeProgram Time α}
    (later : ∀ line, canonicalJson event.toValue = .ok line →
      Audits sha256Hex manager request events post (next line) past files) :
    Audits sha256Hex manager request events post
      (Program.ofExcept ((canonicalJson event.toValue).mapError .json) >>= next) past files := by
  obtain ⟨line, printed⟩ := event.exists_canonicalJson
  rw [printed]
  exact later line printed

/-- A round that is over gets its record. -/
theorem audits_appendAuditEvent
    {round : Round} {eventType taskId detail : String} {next : Unit → RuntimeProgram Time α}
    (verdict : round.verdict = (eventType, taskId, detail)) (runs : round.Runs manager)
    (progress : Progress sha256Hex manager events rounds round.dispatches past files)
    (later : ∀ history after,
      Progress sha256Hex manager events (rounds ++ [round]) [] history after →
        Audits sha256Hex manager request events post (next ()) history after) :
    Audits sha256Hex manager request events post
      (appendAuditEvent sha256Hex eventType taskId detail >>= next) past files := by
  obtain ⟨recorded, intact, same⟩ := progress.logged
  unfold appendAuditEvent readLog utcNow appendLog
  rw [Program.bind_assoc]
  refine audits_consult .readAuditLog rfl (by simp) progress ?_
  intro readChoice readHistory progress
  rw [Program.bind_assoc]
  have found : previousHash (perform files readChoice .readAuditLog).1 =
      .ok ((auditFormat sha256Hex).headHash (events ++ recorded)) := previousHash_of_intact intact
  refine ends_bind_ofExcept ?_ ?_
  · intro problem broken
    cases found.symm.trans broken
  intro previous read
  obtain rfl := Except.ok.inj (found.symm.trans read)
  rw [Program.bind_assoc]
  refine audits_consult .utcNow rfl (by simp) progress ?_
  intro clockChoice clockHistory progress
  rw [Program.bind_assoc]
  refine audits_printEvent _ ?_
  intro unhashed dumped
  rw [Program.bind_assoc]
  refine audits_printEvent _ ?_
  intro line printed
  refine audits_audit (.appendAuditLog (line ++ ['\n'])) rfl ?_
  intro choice
  obtain ⟨event, rfl, rfl, rfl, extended⟩ := intact_next intact dumped printed
  apply later
  refine ⟨⟨recorded ++ [event], ?_, ?_⟩, ?_, ?_⟩
  · rw [← List.append_assoc]
    exact extended
  · rw [List.map_append, List.map_append, same, List.map_singleton, List.map_singleton, verdict]
    rfl
  · intro other member
    rcases List.mem_append.mp member with early | last
    · exact progress.runs other early
    · obtain rfl := List.mem_singleton.mp last
      exact runs
  · have silent : dispatchOf (actOf files choice (.appendAuditLog (line ++ ['\n']))) = none :=
      dispatchOf_actOf rfl
    rw [List.filterMap_append, progress.dispatches]
    simp [silent]

/-- Where the loop of `execute` stands: no round has failed, and the rounds
took tasks of the plan before those that are left. -/
structure Underway (sha256Hex : List Char → String) (manager : MainRuntimeManager)
    (events : List AuditEvent) (ordered tasks : List AgentTask) (rounds : List Round)
    (past : List (RuntimeAct Time)) (files : Files) : Prop where
  progress : Progress sha256Hex manager events rounds [] past files
  valid : ∀ round ∈ rounds, round.validationError = ""
  inOrder : (rounds.map Round.task ++ tasks).Sublist ordered

section Loop

variable {ordered tasks : List AgentTask} {task : AgentTask}
  (validated :
    validateAndOrderPlan manager.capabilities request.plan request.maxHops = .ok ordered)

theorem Underway.skip
    (underway : Underway sha256Hex manager events ordered (task :: tasks) rounds past files) :
    Underway sha256Hex manager events ordered tasks rounds past files :=
  ⟨underway.progress, underway.valid,
    ((List.sublist_cons_self task tasks).append_left _).trans underway.inOrder⟩

include validated in
theorem Underway.planned
    (underway : Underway sha256Hex manager events ordered tasks rounds past files) :
    Planned manager request rounds :=
  .inr ⟨ordered, validated, (List.sublist_append_left _ _).trans underway.inOrder⟩

include validated in
/-- A report that is not of failure, after rounds that did not fail. -/
theorem audits_report_valid
    (underway : Underway sha256Hex manager events ordered tasks rounds past files)
    (checkpoint : RuntimeCheckpoint) {status : String} (fine : status ≠ "FAILED") :
    Audits sha256Hex manager request events
      (ReportsRounds sha256Hex manager request events)
      (saveAndReport sha256Hex request checkpoint status) past files := by
  have planned := underway.planned validated
  refine audits_saveCheckpoint underway.progress planned ?_
  intro history after progress
  refine .done ⟨rounds, progress, planned, ?_⟩
  have none : ¬∃ round ∈ rounds, round.validationError ≠ "" := by
    rintro ⟨round, member, wrong⟩
    exact wrong (underway.valid round member)
  exact iff_of_false fine none

variable [LinearOrder Time]

include validated in
theorem audits_executeTasks
    (deadline : Time) (checkpoint : RuntimeCheckpoint)
    (underway : Underway sha256Hex manager events ordered tasks rounds past files) :
    Audits sha256Hex manager request events
      (ReportsRounds sha256Hex manager request events)
      (executeTasks sha256Hex manager request deadline tasks checkpoint) past files := by
  induction tasks generalizing checkpoint rounds past files with
  | nil => exact audits_report_valid validated underway _ (by decide)
  | cons task tasks induction =>
      unfold executeTasks
      split
      · exact induction checkpoint underway.skip
      refine audits_quiet .monotonic rfl rfl underway.progress
        (underway.planned validated) ?_
      intro now history after progress
      have underway : Underway sha256Hex manager events ordered (task :: tasks) rounds history
          after := ⟨progress, underway.valid, underway.inOrder⟩
      split
      · exact audits_report_valid validated underway _ (by decide)
      split
      · exact induction checkpoint underway.skip
      refine ends_bind _ (audits_dispatchAttempts (underway.planned validated) progress
        (by simp) _ _) ?_
      rintro result history after ⟨outcomes, attempts, progress⟩
      obtain ⟨round, rfl, rfl, rfl⟩ : ∃ round : Round, round.task = task ∧
          round.outcomes = outcomes ∧ round.result = result := ⟨⟨task, outcomes, result⟩, rfl, rfl, rfl⟩
      have taken : ((rounds ++ [round]).map Round.task ++ tasks).Sublist ordered := by
        simpa using underway.inOrder
      dsimp only
      split
      next invalid =>
        refine audits_appendAuditEvent (if_pos invalid) attempts progress ?_
        intro history after progress
        have planned : Planned manager request (rounds ++ [round]) :=
          .inr ⟨ordered, validated, (List.sublist_append_left _ _).trans taken⟩
        refine audits_saveCheckpoint progress planned ?_
        intro history after progress
        refine .done ⟨rounds ++ [round], progress, planned, ?_⟩
        exact iff_of_true rfl ⟨round, by simp, invalid⟩
      next valid =>
        refine audits_appendAuditEvent (if_neg valid) attempts progress ?_
        intro history after progress
        have underway : Underway sha256Hex manager events ordered tasks (rounds ++ [round]) history
            after := by
          refine ⟨progress, ?_, taken⟩
          intro other member
          rcases List.mem_append.mp member with early | last
          · exact underway.valid other early
          · obtain rfl := List.mem_singleton.mp last
            exact not_not.mp valid
        unfold raisesPython
        apply ends_bind_ofExcept
        · intro problem _
          exact progress.stopsShort (underway.planned validated) _
        intro conflicts _
        split
        · exact audits_report_valid validated underway _ (by decide)
        refine audits_saveCheckpoint progress (underway.planned validated) ?_
        intro history after progress
        exact induction _ ⟨progress, underway.valid, taken⟩

end Loop

variable [LinearOrder Time] [Add Time]

theorem audits_execute
    (progress : Progress sha256Hex manager events [] [] past files) :
    Audits sha256Hex manager request events (ReportsRounds sha256Hex manager request events)
      (execute sha256Hex manager request) past files := by
  have planned : Planned manager request [] := .inl rfl
  unfold execute
  split
  · exact .raised (progress.stopsShort planned _)
  split
  · exact .raised (progress.stopsShort planned _)
  apply ends_bind_ofExcept
  · intro problem _
    exact progress.stopsShort planned _
  intro ordered validated
  refine audits_loadCheckpoint progress planned ?_
  intro checkpoint history after progress
  split
  · exact .done ⟨[], progress, planned, by simp [report]⟩
  split
  · exact .done ⟨[], progress, planned, by simp [report]⟩
  refine audits_quiet .monotonic rfl rfl progress planned ?_
  intro now history after progress
  exact audits_executeTasks validated _ checkpoint ⟨progress, by simp, by simp⟩

end Rules

section Calls

variable [LinearOrder Time] [Add Time] (sha256Hex : List Char → String)

/-- An uninterrupted call appends the records of its rounds to an intact log. -/
theorem executeStep_rounds
    {files : Files} {events : List AuditEvent}
    (intact : (auditFormat sha256Hex).Intact files.auditLog events) {call : ExecuteCall Time}
    (whole : (executeStep sha256Hex files call).1.Uninterrupted) :
    ∃ rounds recorded, Rounds (Machine.eventOf (executeStep sha256Hex) files call) rounds ∧
      (auditFormat sha256Hex).Intact (executeStep sha256Hex files call).2.auditLog
        (events ++ recorded) ∧
      recorded.map AuditEvent.verdict = rounds.map Round.verdict := by
  have initial : Progress sha256Hex call.manager events [] [] ([] : List (RuntimeAct Time)) files :=
    ⟨⟨[], by simpa using intact, rfl⟩, by simp, rfl⟩
  have ends := run_ends (@audits_execute _ _ _ _ call.request _ _ _ _ initial) call.script
    (fun _ _ => trivial)
  rw [List.nil_append] at ends
  have shown : (executeStep sha256Hex files call).1.outcome = (Program.run answer
      (execute sha256Hex call.manager call.request) call.script files).outcome := rfl
  cases outcome : (Program.run answer (execute sha256Hex call.manager call.request) call.script
      files).outcome with
  | died => exact absurd (shown.trans outcome) whole.alive
  | returned report =>
      rw [outcome] at ends
      obtain ⟨rounds, ⟨⟨recorded, intact, same⟩, runs, dispatches⟩, planned, failed⟩ := ends
      refine ⟨rounds, recorded, ⟨runs, ⟨[], .inl rfl, dispatches⟩, planned, ?_⟩, intact, same⟩
      intro other returned
      cases (shown.trans outcome).symm.trans returned
      exact failed
  | raised problem =>
      rw [outcome] at ends
      obtain problem | ⟨act, member, fault⟩ | ⟨rounds, pending, ⟨⟨recorded, intact, same⟩, runs,
        dispatches⟩, abandoned, planned⟩ := ends
      · cases problem
      · exact absurd fault (whole.audits act member)
      · refine ⟨rounds, recorded, ⟨runs, ⟨pending, abandoned, dispatches⟩, planned, ?_⟩, intact,
          same⟩
        intro report returned
        cases (shown.trans outcome).symm.trans returned

private theorem trace_rounds
    {files : Files} {events : List AuditEvent}
    (intact : (auditFormat sha256Hex).Intact files.auditLog events)
    (calls : List (ExecuteCall Time))
    (whole : ∀ event ∈ Machine.trace (executeStep sha256Hex) files calls,
      event.reply.Uninterrupted) :
    ∃ (rounds : List (List Round)) (recorded : List AuditEvent),
      List.Forall₂ Rounds (Machine.trace (executeStep sha256Hex) files calls) rounds ∧
      (auditFormat sha256Hex).Intact
        (Machine.final (executeStep sha256Hex) files calls).auditLog (events ++ recorded) ∧
      recorded.map AuditEvent.verdict = rounds.flatten.map Round.verdict := by
  induction calls generalizing files events with
  | nil => exact ⟨[], [], .nil, by simpa [Machine.final] using intact, rfl⟩
  | cons call calls induction =>
      obtain ⟨first, recorded, account, intact, same⟩ :=
        executeStep_rounds sha256Hex intact (whole _ List.mem_cons_self)
      obtain ⟨others, later, accounts, intact, rest⟩ :=
        induction intact (fun event member => whole event (List.mem_cons_of_mem _ member))
      refine ⟨first :: others, recorded ++ later, .cons account accounts, ?_, ?_⟩
      · rw [← List.append_assoc]
        exact intact
      · rw [List.map_append, same, rest, List.flatten_cons, List.map_append]

/-- Over uninterrupted calls for any requests and managers the audit log is a chain, with one
record for every task that was validated, in the order of the dispatches. -/
theorem audit_log_chained
    (checkpoints : String → Option (List Char)) (calls : List (ExecuteCall Time))
    (whole : ∀ event ∈ Machine.trace (executeStep sha256Hex)
      { checkpoints := checkpoints, auditLog := none } calls, event.reply.Uninterrupted) :
    ∃ (rounds : List (List Round)) (events : List AuditEvent),
      List.Forall₂ Rounds (Machine.trace (executeStep sha256Hex)
        { checkpoints := checkpoints, auditLog := none } calls) rounds ∧
      (auditFormat sha256Hex).Intact (Machine.final (executeStep sha256Hex)
        { checkpoints := checkpoints, auditLog := none } calls).auditLog events ∧
      events.map AuditEvent.verdict = rounds.flatten.map Round.verdict := by
  obtain ⟨rounds, recorded, accounts, intact, same⟩ :=
    trace_rounds sha256Hex ChainedLog.Format.intact_none calls whole
  exact ⟨rounds, recorded, accounts, intact, same⟩

end Calls

/-- A request whose task completes, and one of another manager whose dispatcher refuses. -/
def twoExecutes : List (ExecuteCall Int) :=
  [{ manager := auditManager
     request := auditRequest [auditTask "a" []]
     script := List.replicate 12 { clock := 0, outcome := .returned (completedPayload "a") } },
    { manager := { auditManager with maxRetries := 0 }
      request := { auditRequest [auditTask "b" []] with requestId := "s" }
      script := List.replicate 12 { clock := 0, outcome := .runtimeError "boom" } }]

private theorem twoExecutes_whole :
    ∀ event ∈ Machine.trace (executeStep sha256Hex) Files.empty twoExecutes,
      event.reply.Uninterrupted := by
  have whole : ∀ event ∈ Machine.trace (executeStep sha256Hex) Files.empty twoExecutes,
      event.reply.outcome ≠ .died ∧ ∀ act ∈ event.reply.acts, act.reply.isOk = true := by
    decide +kernel
  intro event member
  obtain ⟨alive, answered⟩ := whole event member
  refine ⟨alive, ?_⟩
  rintro act performed ⟨-, failed⟩
  rw [answered act performed] at failed
  cases failed

theorem twoExecutes_chained :
    ∃ (rounds : List (List Round)) (events : List AuditEvent),
      List.Forall₂ Rounds (Machine.trace (executeStep sha256Hex) Files.empty twoExecutes)
        rounds ∧
      (auditFormat sha256Hex).Intact
        (Machine.final (executeStep sha256Hex) Files.empty twoExecutes).auditLog events ∧
      events.map AuditEvent.verdict = rounds.flatten.map Round.verdict :=
  audit_log_chained sha256Hex (fun _ => none) twoExecutes twoExecutes_whole

end SuperAdvisor.MainAgent
