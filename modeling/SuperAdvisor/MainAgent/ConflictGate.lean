import SuperAdvisor.MainAgent.AgreedResults
import SuperAdvisor.MainAgent.AuditLog
import SuperAdvisor.MainAgent.SessionHistory

/-!
# The conflict gate

A dispute is a dispatch that completes its task with a result the stored
checkpoint disagrees with.  Up to the first report of a conflict the stored
results agree, a dispute ends its call with a report of conflict that lists the
task alone, and there is no such report without a dispute.
-/

namespace SuperAdvisor.MainAgent

open Python
open Program (Ends ends_bind ends_bind_ofExcept run_ends)

variable {Time : Type}

/-- The result a dispatch completes its task with. -/
def completionOf : RuntimeAct Time → Option (AgentTask × TaskResult)
  | ⟨_, .dispatch task, .ok outcome, _⟩ =>
      match (outcome : DispatchOutcome) with
      | .returned payload =>
          match resultOfPayload payload with
          | .ok result =>
              if result.isRetryable = false ∧ validateResult task result = "" then
                some (task, result)
              else none
          | .error _ => none
      | _ => none
  | _ => none

/-- The operation failed to append a whole line to the audit log. -/
def TornAppend (act : RuntimeAct Time) : Prop :=
  (∃ line, act.op = .appendAuditLog line) ∧ act.reply.isOk = false

/-- What the dispatcher returns has a plain payload and a plain provenance. -/
def DispatchOutcome.IsPlain : DispatchOutcome → Prop
  | .returned payload => ∀ result, resultOfPayload payload = .ok result → result.IsPlain
  | _ => True

section Predicates

variable (sha256Hex : List Char → String) (request : RuntimeRequest Time)

/-- The stored checkpoint is agreed. -/
def AgreedFiles (files : Files) : Prop :=
  ∃ stored, storedCheckpoint sha256Hex request files = .ok stored ∧ stored.Agreed

/-- The act completes the task with a result the stored checkpoint disagrees with. -/
def Disputes (act : RuntimeAct Time) (task : AgentTask) : Prop :=
  ∃ result stored, completionOf act = some (task, result) ∧
    storedCheckpoint sha256Hex request act.before = .ok stored ∧ stored.Disagrees result

/-- Every line of the audit log is the canonical form of an event. -/
def LogIntact (files : Files) : Prop :=
  ∃ lines, files.auditLog.getD [] = unlines lines ∧
    ∀ line ∈ lines, ∃ event : AuditEvent, canonicalJson event.toValue = .ok line

/-- What holds while a call goes on that started in the directory `started`. -/
structure Ongoing (started : Files) (disputed : Option AgentTask)
    (past : List (RuntimeAct Time)) (files : Files) : Prop where
  agreed : AgreedFiles sha256Hex request files
  before : ∀ act ∈ past, AgreedFiles sha256Hex request act.before
  logged : LogIntact started → LogIntact files
  disputes : ∀ task, (∃ act ∈ past, Disputes sha256Hex request act task) ↔ disputed = some task

/-- What holds where a call stops short. -/
structure StoppedShort (started : Files) (problem : Option RuntimeProblem)
    (past : List (RuntimeAct Time)) (files : Files) : Prop where
  agreed : AgreedFiles sha256Hex request files
  before : ∀ act ∈ past, AgreedFiles sha256Hex request act.before
  logged : LogIntact started → (∃ act ∈ past, TornAppend act) ∨ LogIntact files
  excused : ∀ act ∈ past, ∀ task, Disputes sha256Hex request act task → LogIntact started →
    problem = none ∨ ∃ other ∈ past, other.reply.isOk = false

/-- What holds where a call returns a report. -/
structure Reported (started : Files) (report : RuntimeReport)
    (past : List (RuntimeAct Time)) (files : Files) : Prop where
  before : ∀ act ∈ past, AgreedFiles sha256Hex request act.before
  logged : LogIntact started → LogIntact files
  gated :
    (report.status ≠ "CONFLICT" ∧ AgreedFiles sha256Hex request files ∧
      ∀ task, ¬∃ act ∈ past, Disputes sha256Hex request act task) ∨
    (report.status = "CONFLICT" ∧ ∃ task, report.conflictTaskIds = [task.taskId] ∧
      ∀ other, (∃ act ∈ past, Disputes sha256Hex request act other) ↔ task = other)

end Predicates

variable {sha256Hex : List Char → String} {request : RuntimeRequest Time} {started files : Files}
  {disputed : Option AgentTask} {past : List (RuntimeAct Time)}

theorem agreedFiles_congr
    {other : Files} (same : other.checkpoints = files.checkpoints)
    (agreed : AgreedFiles sha256Hex request files) : AgreedFiles sha256Hex request other := by
  simpa only [AgreedFiles, storedCheckpoint_congr same] using agreed

theorem not_disputes_of_completionOf
    {act : RuntimeAct Time} (none : completionOf act = none) (task : AgentTask) :
    ¬Disputes sha256Hex request act task := by
  rintro ⟨result, stored, completed, -⟩
  rw [none] at completed
  cases completed

private theorem exists_mem_snoc
    {holds : RuntimeAct Time → Prop} {act : RuntimeAct Time} :
    (∃ other ∈ past ++ [act], holds other) ↔ (∃ other ∈ past, holds other) ∨ holds act := by
  simp only [List.mem_append, List.mem_singleton, or_and_right, exists_or, exists_eq_left]

theorem Ongoing.stopped
    (ongoing : Ongoing sha256Hex request started disputed past files) :
    StoppedShort sha256Hex request started none past files :=
  ⟨ongoing.agreed, ongoing.before, fun intact => .inr (ongoing.logged intact),
    fun _ _ _ _ _ => .inl rfl⟩

/-- An operation that completes no task leaves the disputes as they were. -/
theorem Ongoing.disputes_snoc
    (ongoing : Ongoing sha256Hex request started disputed past files) {act : RuntimeAct Time}
    (calm : completionOf act = none) (task : AgentTask) :
    (∃ other ∈ past ++ [act], Disputes sha256Hex request other task) ↔ disputed = some task := by
  rw [exists_mem_snoc, ← ongoing.disputes task]
  exact or_iff_left (not_disputes_of_completionOf calm task)

theorem Ongoing.before_snoc
    (ongoing : Ongoing sha256Hex request started disputed past files) {act : RuntimeAct Time}
    (here : act.before = files) :
    ∀ other ∈ past ++ [act], AgreedFiles sha256Hex request other.before := by
  intro other member
  rcases List.mem_append.mp member with early | last
  · exact ongoing.before other early
  · obtain rfl : other = act := by simpa using last
    exact here ▸ ongoing.agreed

/-- A program that raises by itself has no dispute behind it, or a broken log before it. -/
theorem Ongoing.raised
    (ongoing : Ongoing sha256Hex request started disputed past files) (problem : RuntimeProblem)
    (calm : LogIntact started → disputed = none) :
    StoppedShort sha256Hex request started (some problem) past files := by
  refine ⟨ongoing.agreed, ongoing.before, fun intact => .inr (ongoing.logged intact), ?_⟩
  intro act member task disputes intact
  have known := (ongoing.disputes task).mp ⟨act, member, disputes⟩
  rw [calm intact] at known
  cases known

/-- An operation that raises changes no checkpoint and completes no task. -/
theorem Ongoing.fault
    (ongoing : Ongoing sha256Hex request started disputed past files) {choice : Choice Time}
    {op : RuntimeOp} {problem : RuntimeProblem}
    (answered : (actOf files choice op).reply = .error problem) :
    StoppedShort sha256Hex request started (some problem) (past ++ [actOf files choice op])
      (actOf files choice op).after := by
  have failed : (actOf files choice op).reply.isOk = false := by
    rw [answered]
    rfl
  have kept : (actOf files choice op).after.checkpoints = files.checkpoints := by
    rcases actOf_after files choice op with ⟨-, same⟩ | ⟨-, -, -, save, -⟩
    · exact same
    · rw [save.2] at failed
      cases failed
  refine ⟨agreedFiles_congr kept ongoing.agreed, ongoing.before_snoc rfl, ?_, ?_⟩
  · intro intact
    cases fault : choice.fault with
    | none => simp [actOf, Program.actOf, answer, fault] at answered
    | some written =>
        by_cases appends : ∃ line, op = .appendAuditLog line
        · exact .inl ⟨_, by simp, appends, failed⟩
        · right
          have same : (actOf files choice op).after = files := by
            cases op <;> simp_all [actOf, Program.actOf, answer, Files.afterFault]
          rw [same]
          exact ongoing.logged intact
  · intro _ _ _ _ _
    exact .inr ⟨_, by simp, failed⟩

/-- An operation that is performed and completes no task. -/
theorem Ongoing.snoc
    (ongoing : Ongoing sha256Hex request started disputed past files) {act : RuntimeAct Time}
    {after : Files} (here : act.before = files) (calm : completionOf act = none)
    (agreed : AgreedFiles sha256Hex request after) (logged : LogIntact files → LogIntact after) :
    Ongoing sha256Hex request started disputed (past ++ [act]) after :=
  ⟨agreed, ongoing.before_snoc here, fun intact => logged (ongoing.logged intact),
    ongoing.disputes_snoc calm⟩

section Rules

variable (sha256Hex request started) in
/-- The program logic of a call that started in the directory `started`, with a
dispatcher of plain results. -/
abbrev Gates {α : Type} (post : α → List (RuntimeAct Time) → Files → Prop)
    (program : RuntimeProgram Time α) (past : List (RuntimeAct Time)) (files : Files) : Prop :=
  Ends answer (fun choice => choice.outcome.IsPlain) (StoppedShort sha256Hex request started)
    post program past files

variable {α : Type} {post : α → List (RuntimeAct Time) → Files → Prop}

theorem gates_perform
    (op : RuntimeOp) {next : op.Reply Time → RuntimeProgram Time α}
    (ongoing : Ongoing sha256Hex request started disputed past files)
    (later : ∀ choice : Choice Time, choice.outcome.IsPlain →
      actOf files choice op =
        { before := files, op := op, reply := .ok (perform files choice op).1,
          after := (perform files choice op).2 } →
      Gates sha256Hex request started post (next (perform files choice op).1)
        (past ++ [actOf files choice op]) (perform files choice op).2) :
    Gates sha256Hex request started post (.perform op next) past files := by
  refine .perform ongoing.stopped (fun choice problem _ answered => ongoing.fault answered) ?_
  intro choice reply plain answered
  obtain ⟨rfl, after⟩ := actOf_ok answered
  have shape : actOf files choice op =
      { before := files, op := op, reply := .ok (perform files choice op).1,
        after := (perform files choice op).2 } := by
    rw [← after]
    exact congrArg (fun reply => ({ before := files, op := op, reply := reply, after := _ } :
      RuntimeAct Time)) answered
  have rest := later choice plain shape
  rwa [← after] at rest

/-- Operations that neither dispatch nor write leave everything as it was. -/
theorem gates_ask
    (op : RuntimeOp) {next : op.Reply Time → RuntimeProgram Time α} (quiet : op.IsQuiet)
    (reads : ∀ line, op ≠ .appendAuditLog line)
    (ongoing : Ongoing sha256Hex request started disputed past files)
    (later : ∀ choice history, Ongoing sha256Hex request started disputed history files →
      Gates sha256Hex request started post (next (perform files choice op).1) history files) :
    Gates sha256Hex request started post
      ((Program.perform op .done : RuntimeProgram Time (op.Reply Time)) >>= next)
      past files := by
  refine gates_perform op ongoing ?_
  intro choice _ shape
  have same : (perform files choice op).2 = files := by
    cases op <;> first | rfl | exact quiet.elim | exact absurd rfl (reads _)
  have calm : completionOf (actOf files choice op) = none := by
    rw [shape]
    cases op <;> first | rfl | exact quiet.elim
  rw [same]
  exact later choice _ (ongoing.snoc rfl calm ongoing.agreed id)

theorem gates_loadCheckpoint
    {next : RuntimeCheckpoint → RuntimeProgram Time α}
    (ongoing : Ongoing sha256Hex request started disputed past files)
    (later : ∀ stored history, storedCheckpoint sha256Hex request files = .ok stored →
      stored.Agreed → Ongoing sha256Hex request started disputed history files →
        Gates sha256Hex request started post (next stored) history files) :
    Gates sha256Hex request started post (loadCheckpoint sha256Hex request >>= next)
      past files := by
  obtain ⟨stored, found, agreed⟩ := ongoing.agreed
  unfold loadCheckpoint
  rw [Program.bind_assoc]
  refine gates_ask (.readCheckpoint (checkpointPath sha256Hex request)) trivial (by simp)
    ongoing ?_
  intro _ history ongoing
  show Gates sha256Hex request started post
    (Program.ofExcept (storedCheckpoint sha256Hex request files) >>= next) history files
  rw [found]
  exact later stored history found agreed ongoing

/-- A checkpoint that can be saved is read back reloaded. -/
theorem gates_saveCheckpoint
    {checkpoint : RuntimeCheckpoint} {next : Unit → RuntimeProgram Time α}
    (ongoing : Ongoing sha256Hex request started disputed past files)
    (plain : ∀ result ∈ resultsOf checkpoint.completed, result.IsPlain)
    (later : ∀ act files', act.before = files → completionOf act = none →
      storedCheckpoint sha256Hex request files' = .ok checkpoint.reloaded →
      files'.auditLog = files.auditLog →
        Gates sha256Hex request started post (next ()) (past ++ [act]) files') :
    Gates sha256Hex request started post (saveCheckpoint sha256Hex request checkpoint >>= next)
      past files := by
  obtain ⟨text, printed⟩ := checkpoint.exists_canonicalJson plain
  unfold saveCheckpoint
  rw [printed]
  refine gates_perform (.replaceCheckpoint (checkpointPath sha256Hex request) text)
    ongoing ?_
  intro choice _ shape
  refine later _ _ rfl ?_ (storedCheckpoint_saved printed) rfl
  rw [shape]
  rfl

/-- The hash of the last event of an intact log can be read. -/
private theorem previousHash_of_logIntact
    (intact : LogIntact files) : ∃ hash, previousHash files.auditLog = .ok hash := by
  obtain ⟨lines, text, printed⟩ := intact
  have recordLines : ∀ line ∈ lines, ChainedLog.IsRecordLine line := by
    intro line member
    obtain ⟨event, dumped⟩ := printed line member
    exact Persistence.isRecordLine_of_canonicalJson dumped
  have stored := ChainedLog.storedLines_of_unlines text recordLines
  cases log : files.auditLog with
  | none => exact ⟨"", rfl⟩
  | some text =>
      rw [log, ChainedLog.storedLines, Option.getD_some] at stored
      simp only [previousHash, stored]
      cases last : lines.getLast? with
      | none => exact ⟨"", rfl⟩
      | some line =>
          obtain ⟨event, dumped⟩ := printed line (List.mem_of_getLast? last)
          obtain ⟨record, loaded, found⟩ :=
            recordHash_of_decodeAuditEvent (decodeAuditEvent_of_printed dumped)
          simp only [loaded, found]
          exact ⟨_, rfl⟩

private theorem gates_printEvent
    (event : AuditEvent) {next : List Char → RuntimeProgram Time α}
    (later : ∀ line, canonicalJson event.toValue = .ok line →
      Gates sha256Hex request started post (next line) past files) :
    Gates sha256Hex request started post
      (Program.ofExcept ((canonicalJson event.toValue).mapError .json) >>= next) past files := by
  obtain ⟨line, printed⟩ := event.exists_canonicalJson
  rw [printed]
  exact later line printed

/-- An event line after an intact log makes an intact log. -/
private theorem logIntact_append
    {event : AuditEvent} {line : List Char} (printed : canonicalJson event.toValue = .ok line)
    (intact : LogIntact files) :
    LogIntact { files with auditLog := some (files.auditLog.getD [] ++ (line ++ ['\n'])) } := by
  obtain ⟨lines, text, each⟩ := intact
  refine ⟨lines ++ [line], ?_, ?_⟩
  · rw [Option.getD_some, text, unlines_append]
    simp [unlines]
  · intro other member
    rcases List.mem_append.mp member with early | last
    · exact each other early
    · exact ⟨event, List.mem_singleton.mp last ▸ printed⟩

theorem gates_appendAuditEvent
    {eventType taskId detail : String} {next : Unit → RuntimeProgram Time α}
    (ongoing : Ongoing sha256Hex request started disputed past files)
    (later : ∀ history files', files'.checkpoints = files.checkpoints →
      Ongoing sha256Hex request started disputed history files' →
        Gates sha256Hex request started post (next ()) history files') :
    Gates sha256Hex request started post
      (appendAuditEvent sha256Hex eventType taskId detail >>= next) past files := by
  unfold appendAuditEvent readLog utcNow appendLog
  rw [Program.bind_assoc]
  refine gates_ask .readAuditLog trivial (by simp) ongoing ?_
  intro _ readHistory ongoing
  rw [Program.bind_assoc]
  refine ends_bind_ofExcept ?_ ?_
  · intro problem broken
    refine ongoing.raised problem (fun intact => ?_)
    obtain ⟨hash, read⟩ := previousHash_of_logIntact (ongoing.logged intact)
    cases read.symm.trans broken
  intro previous _
  rw [Program.bind_assoc]
  refine gates_ask .utcNow trivial (by simp) ongoing ?_
  intro _ clockHistory ongoing
  rw [Program.bind_assoc]
  refine gates_printEvent _ ?_
  intro unhashed _
  rw [Program.bind_assoc]
  refine gates_printEvent _ ?_
  intro line printed
  refine gates_perform (.appendAuditLog (line ++ ['\n'])) ongoing ?_
  intro choice _ shape
  refine later _ _ rfl (ongoing.snoc rfl ?_ ?_ (logIntact_append printed))
  · rw [shape]
    rfl
  · exact agreedFiles_congr rfl ongoing.agreed
section Dispatch

variable {stored : RuntimeCheckpoint} {task : AgentTask}

/-- A completion is disputed when the stored checkpoint disagrees with its result. -/
theorem Ongoing.complete
    (ongoing : Ongoing sha256Hex request started none past files)
    (found : storedCheckpoint sha256Hex request files = .ok stored) {act : RuntimeAct Time}
    (here : act.before = files) {result : TaskResult}
    (completed : completionOf act = some (task, result)) :
    ∃ disputed, Ongoing sha256Hex request started disputed (past ++ [act]) files ∧
      (disputed = some task ∧ stored.Disagrees result ∨
        disputed = none ∧ ¬stored.Disagrees result) := by
  have before := ongoing.before_snoc here
  have quiet : ∀ other, ¬∃ act ∈ past, Disputes sha256Hex request act other := by
    intro other disputes
    cases (ongoing.disputes other).mp disputes
  have only : ∀ other, Disputes sha256Hex request act other ↔
      task = other ∧ stored.Disagrees result := by
    intro other
    constructor
    · rintro ⟨known, checkpoint, same, again, differs⟩
      obtain ⟨rfl, rfl⟩ : task = other ∧ result = known := by simpa [completed] using same
      rw [here, found] at again
      cases again
      exact ⟨rfl, differs⟩
    · rintro ⟨rfl, differs⟩
      exact ⟨result, stored, completed, here ▸ found, differs⟩
  by_cases differs : stored.Disagrees result
  · refine ⟨some task, ⟨ongoing.agreed, before, ongoing.logged, ?_⟩, .inl ⟨rfl, differs⟩⟩
    intro other
    rw [exists_mem_snoc, or_iff_right (quiet other), only, Option.some_inj]
    exact and_iff_left differs
  · refine ⟨none, ⟨ongoing.agreed, before, ongoing.logged, ?_⟩, .inr ⟨rfl, differs⟩⟩
    intro other
    rw [exists_mem_snoc, or_iff_right (quiet other), only]
    simp [differs]

private theorem validateResult_failedDispatch (task : AgentTask) (error : String) :
    validateResult task (failedDispatch task error) ≠ "" := by
  have refused : "FAILED" ∉ acceptedStatuses := by decide
  simp [validateResult, failedDispatch, refused]

/-- What is known when the attempts of a task are over. -/
def Attempted (sha256Hex : List Char → String) (request : RuntimeRequest Time)
    (started files : Files) (stored : RuntimeCheckpoint) (task : AgentTask)
    (result : TaskResult) (history : List (RuntimeAct Time)) (after : Files) : Prop :=
  after = files ∧
    ((validateResult task result ≠ "" ∧
        Ongoing sha256Hex request started none history files) ∨
      (validateResult task result = "" ∧ result.IsPlain ∧
        ∃ disputed, Ongoing sha256Hex request started disputed history files ∧
          (disputed = some task ∧ stored.Disagrees result ∨
            disputed = none ∧ ¬stored.Disagrees result)))

theorem gates_dispatchAttempts
    (ongoing : Ongoing sha256Hex request started none past files)
    (found : storedCheckpoint sha256Hex request files = .ok stored)
    (remaining : Nat) (lastError : String) :
    Gates sha256Hex request started
      (Attempted sha256Hex request started files stored task)
      (dispatchAttempts task remaining lastError) past files := by
  induction remaining generalizing past lastError with
  | zero =>
      exact .done ⟨rfl, .inl ⟨validateResult_failedDispatch task lastError, ongoing⟩⟩
  | succ remaining induction =>
      unfold dispatchAttempts
      refine gates_perform (.dispatch task) ongoing ?_
      intro choice plain shape
      show Gates _ _ _ _ (afterAttempt task (dispatchAttempts task remaining) choice.outcome) _ files
      have reply : actOf files choice (.dispatch task) =
          { before := files, op := .dispatch task, reply := .ok choice.outcome,
            after := files } := shape
      have later : completionOf (actOf files choice (.dispatch task)) = none →
          Ongoing sha256Hex request started none
            (past ++ [actOf files choice (.dispatch task)]) files :=
        fun calm => ongoing.snoc rfl calm ongoing.agreed id
      rw [reply] at later ⊢
      cases outcome : choice.outcome with
      | refused message =>
          rw [outcome] at later
          exact .done ⟨rfl, .inl ⟨validateResult_failedDispatch task message, later rfl⟩⟩
      | runtimeError message =>
          rw [outcome] at later
          exact induction (later rfl) message
      | returned payload =>
          rw [outcome] at plain later
          cases read : resultOfPayload payload with
          | error failure =>
              simp only [afterAttempt, read]
              refine .done ⟨rfl, .inl ⟨validateResult_failedDispatch task failure.text, later ?_⟩⟩
              simp [completionOf, read]
          | ok result =>
              by_cases again : result.isRetryable = true
              · simp only [afterAttempt, read, again, if_true]
                refine induction (later ?_) _
                simp [completionOf, read, again]
              · simp only [afterAttempt, read, again]
                refine .done ⟨rfl, ?_⟩
                by_cases valid : validateResult task result = ""
                · right
                  refine ⟨valid, plain result read, ongoing.complete found rfl ?_⟩
                  simp [completionOf, read, again, valid]
                · left
                  refine ⟨valid, later ?_⟩
                  simp [completionOf, read, valid]

end Dispatch

end Rules

end SuperAdvisor.MainAgent
