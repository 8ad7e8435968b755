import SuperAdvisor.MainAgent.CompletionReports
import SuperAdvisor.MainAgent.ConflictGate

/-!
# The first report of a conflict

Up to the first report of a conflict, over any operator calls on one request
that start without a checkpoint: the completed results agree with each other, a
dispute ends its call with a report of conflict that lists its task alone, and
a report of conflict has a dispute behind it.
-/

namespace SuperAdvisor.MainAgent

open Python
open Program (Ends ends_bind ends_bind_ofExcept run_ends)

section Gate

variable {Time : Type} {sha256Hex : List Char → String} {request : RuntimeRequest Time}
  {started files : Files} {past : List (RuntimeAct Time)} {checkpoint : RuntimeCheckpoint}

/-- A save of an agreed checkpoint goes on. -/
theorem Ongoing.saved
    (ongoing : Ongoing sha256Hex request started none past files) (agreed : checkpoint.Agreed)
    {act : RuntimeAct Time} {after : Files} (here : act.before = files)
    (calm : completionOf act = none)
    (saved : storedCheckpoint sha256Hex request after = .ok checkpoint.reloaded)
    (log : after.auditLog = files.auditLog) :
    Ongoing sha256Hex request started none (past ++ [act]) after := by
  refine ongoing.snoc here calm ⟨_, saved, agreed.reloaded⟩ (fun intact => ?_)
  simpa only [LogIntact, log] using intact

/-- Any report but that of a conflict. -/
theorem gates_saveAndReport
    (ongoing : Ongoing sha256Hex request started none past files) (agreed : checkpoint.Agreed)
    {status : String} (other : status ≠ "CONFLICT") :
    Gates sha256Hex request started (Reported sha256Hex request started)
      (saveAndReport sha256Hex request checkpoint status) past files := by
  refine gates_saveCheckpoint ongoing agreed.plain ?_
  intro act after here calm saved log
  have ongoing := ongoing.saved agreed here calm saved log
  refine .done ⟨ongoing.before, ongoing.logged, .inl ⟨other, ongoing.agreed, ?_⟩⟩
  intro task disputes
  cases (ongoing.disputes task).mp disputes

/-- The report of a conflict after a dispute. -/
theorem gates_reportConflict
    {task : AgentTask} (ongoing : Ongoing sha256Hex request started (some task) past files)
    {conflicts : List String}
    (plain : ∀ result ∈ resultsOf checkpoint.completed, result.IsPlain)
    (listed : (report sha256Hex request (checkpoint.conflict conflicts)
      "CONFLICT").conflictTaskIds = [task.taskId]) :
    Gates sha256Hex request started (Reported sha256Hex request started)
      (saveAndReport sha256Hex request (checkpoint.conflict conflicts) "CONFLICT")
      past files := by
  refine gates_saveCheckpoint ongoing plain ?_
  intro act after here calm saved log
  refine .done ⟨ongoing.before_snoc here, fun intact => ?_, .inr ⟨rfl, task, listed, ?_⟩⟩
  · simpa only [LogIntact, log] using ongoing.logged intact
  · intro other
    rw [ongoing.disputes_snoc calm, Option.some_inj]

/-- The checkpoint of the loop is agreed and disagrees with what the stored one
disagrees with. -/
structure GateLoop (sha256Hex : List Char → String) (request : RuntimeRequest Time)
    (started : Files) (checkpoint : RuntimeCheckpoint) (past : List (RuntimeAct Time))
    (files : Files) : Prop where
  ongoing : Ongoing sha256Hex request started none past files
  agreed : checkpoint.Agreed
  mirrored : ∃ stored, storedCheckpoint sha256Hex request files = .ok stored ∧
    ∀ result : TaskResult, result.IsPlain →
      (stored.Disagrees result ↔ checkpoint.Disagrees result)

private theorem validationError_ne_conflict (task : AgentTask) (result : TaskResult) :
    validateResult task result ≠ "conflict_detected" := by
  unfold validateResult
  repeat' split
  all_goals simp

variable [LinearOrder Time]

theorem gates_executeTasks
    (manager : MainRuntimeManager) (deadline : Time) (tasks : List AgentTask)
    (loop : GateLoop sha256Hex request started checkpoint past files) :
    Gates sha256Hex request started (Reported sha256Hex request started)
      (executeTasks sha256Hex manager request deadline tasks checkpoint) past files := by
  induction tasks generalizing checkpoint past files with
  | nil =>
      obtain ⟨ongoing, agreed, -⟩ := loop
      unfold executeTasks
      refine gates_saveAndReport ongoing ?_ (by simp)
      exact agreed.of_eq rfl rfl
  | cons task tasks induction =>
      unfold executeTasks
      split
      next => exact induction loop
      next unknown =>
        have fresh : task.taskId ∉ checkpoint.completed.keys :=
          fun member => unknown (Dict.contains_iff.mpr member)
        obtain ⟨ongoing, agreed, stored, found, same⟩ := loop
        refine gates_ask .monotonic trivial (by simp) ongoing ?_
        intro choice history ongoing
        split
        · refine gates_saveAndReport ongoing ?_ (by simp)
          exact agreed.of_eq rfl rfl
        split
        next => exact induction ⟨ongoing, agreed, stored, found, same⟩
        next =>
          refine ends_bind _ (gates_dispatchAttempts ongoing found _ _) ?_
          rintro result history _ ⟨rfl, attempted⟩
          dsimp only
          split
          next invalid =>
            obtain ⟨-, ongoing⟩ | ⟨valid, -⟩ := attempted
            · refine gates_appendAuditEvent ongoing ?_
              intro _ _ _ ongoing
              refine gates_saveAndReport ongoing ?_ (by simp)
              have recorded : (checkpoint.recordDispatch
                  (dispatchKey request task.taskId)).Agreed := agreed.of_eq rfl rfl
              exact recorded.failTask task.taskId (validationError_ne_conflict task result)
            · exact absurd valid invalid
          next valid =>
            obtain ⟨invalid, -⟩ | ⟨-, plain, disputed, ongoing, dispute⟩ := attempted
            · exact absurd invalid valid
            refine gates_appendAuditEvent ongoing ?_
            intro _ logged sameFiles ongoing
            have recorded : (checkpoint.recordDispatch
                (dispatchKey request task.taskId)).Agreed := agreed.of_eq rfl rfl
            obtain ⟨count, scanned, flagged⟩ :=
              detectConflicts_set fresh agreed.plain plain agreed.agree
            have flagged : count ≠ 0 ↔ stored.Disagrees result :=
              flagged.trans (same result plain).symm
            show Gates _ _ _ _ (raisesPython
              (detectConflicts (checkpoint.completed.set task.taskId result)) >>= _) _ _
            rw [scanned]
            show Gates _ _ _ _ (if List.replicate count task.taskId ≠ [] then _ else _) _ _
            obtain ⟨rfl, disagrees⟩ | ⟨rfl, agrees⟩ := dispute
            · have some : count ≠ 0 := flagged.mpr disagrees
              rw [if_pos (by simpa using some)]
              refine gates_reportConflict ongoing (plain_completeTask agreed.plain fresh plain) ?_
              exact conflictTaskIds_conflict sha256Hex request recorded.unflagged task.taskId
                "CONFLICT" some
            · have none : count = 0 := by
                by_contra some
                exact agrees (flagged.mp some)
              have agrees : ¬checkpoint.Disagrees result :=
                fun differs => agrees ((same result plain).mpr differs)
              have completed := recorded.completeTask fresh plain agrees
              rw [if_neg (by simp [none])]
              refine gates_saveCheckpoint ongoing completed.plain ?_
              intro act after here calm saved log
              refine induction ⟨ongoing.saved completed here calm saved log, completed, _, saved, ?_⟩
              exact fun other plain => completed.disagrees_reloaded plain

omit [LinearOrder Time] in
/-- A report that is given without a save. -/
theorem Ongoing.reported
    (ongoing : Ongoing sha256Hex request started none past files) {shown : RuntimeReport}
    (other : shown.status ≠ "CONFLICT") :
    Reported sha256Hex request started shown past files := by
  refine ⟨ongoing.before, ongoing.logged, .inl ⟨other, ongoing.agreed, ?_⟩⟩
  intro task disputes
  cases (ongoing.disputes task).mp disputes

variable [Add Time]

theorem gates_execute
    (manager : MainRuntimeManager)
    (ongoing : Ongoing sha256Hex request started none past files) :
    Gates sha256Hex request started (Reported sha256Hex request started)
      (execute sha256Hex manager request) past files := by
  have raises : ∀ problem, StoppedShort sha256Hex request started (some problem) past files :=
    fun problem => ongoing.raised problem (fun _ => rfl)
  unfold execute
  split
  · exact .raised (raises _)
  split
  · exact .raised (raises _)
  refine ends_bind_ofExcept (fun problem _ => raises problem) ?_
  intro ordered _
  refine gates_loadCheckpoint ongoing ?_
  intro stored history found agreed ongoing
  split
  · exact .done (ongoing.reported (by simp [report]))
  split
  · exact .done (ongoing.reported (by simp [report]))
  refine gates_ask .monotonic trivial (by simp) ongoing ?_
  intro _ history ongoing
  exact gates_executeTasks manager _ ordered ⟨ongoing, agreed, stored, found, fun _ _ => .rfl⟩

omit [LinearOrder Time] [Add Time] in
/-- Loading the checkpoint and saving it with other flags. -/
theorem gates_resave
    {α : Type} {post : α → List (RuntimeAct Time) → Files → Prop}
    {change : RuntimeCheckpoint → RuntimeCheckpoint} {next : Unit → RuntimeProgram Time α}
    (completed : ∀ stored, (change stored).completed = stored.completed)
    (failed : ∀ stored, (change stored).failed = stored.failed)
    (ongoing : Ongoing sha256Hex request started none past files)
    (later : ∀ history files', Ongoing sha256Hex request started none history files' →
      Gates sha256Hex request started post (next ()) history files') :
    Gates sha256Hex request started post
      (loadCheckpoint sha256Hex request >>= fun checkpoint =>
        saveCheckpoint sha256Hex request (change checkpoint) >>= next) past files := by
  refine gates_loadCheckpoint ongoing ?_
  intro stored history _ agreed ongoing
  have agreed := agreed.of_eq (completed stored) (failed stored)
  refine gates_saveCheckpoint ongoing agreed.plain ?_
  intro act after here calm saved log
  exact later _ _ (ongoing.saved agreed here calm saved log)

/-- What holds where an operator call returns. -/
def Replied (sha256Hex : List Char → String) (request : RuntimeRequest Time) (started : Files) :
    Option RuntimeReport → List (RuntimeAct Time) → Files → Prop
  | some shown => Reported sha256Hex request started shown
  | none => Ongoing sha256Hex request started none

theorem gates_call
    (manager : MainRuntimeManager) (call : OperatorCall)
    (agreed : AgreedFiles sha256Hex request started) :
    Gates sha256Hex request started (Replied sha256Hex request started)
      (call.program sha256Hex request manager) [] started := by
  have ongoing : Ongoing sha256Hex request started none ([] : List (RuntimeAct Time)) started :=
    ⟨agreed, by simp, id, by simp⟩
  cases call with
  | execute =>
      exact ends_bind _ (gates_execute manager ongoing) (fun _ _ _ reported => .done reported)
  | recover =>
      exact ends_bind _ (gates_execute manager ongoing) (fun _ _ _ reported => .done reported)
  | resume =>
      refine ends_bind (Reported sha256Hex request started) ?_
        (fun _ _ _ reported => .done reported)
      exact gates_resave (fun _ => rfl) (fun _ => rfl) ongoing
        (fun _ _ ongoing => gates_execute manager ongoing)
  | pause =>
      simp only [OperatorCall.program, pause, Program.bind_assoc]
      exact gates_resave (fun _ => rfl) (fun _ => rfl) ongoing (fun _ _ ongoing => .done ongoing)
  | stop =>
      simp only [OperatorCall.program, stop, Program.bind_assoc]
      exact gates_resave (fun _ => rfl) (fun _ => rfl) ongoing (fun _ _ ongoing => .done ongoing)

section Sessions

/-- The dispatcher returns plain results throughout the call. -/
def OperatorInvocation.IsPlain (invocation : OperatorInvocation Time) : Prop :=
  ∀ choice ∈ invocation.script, choice.outcome.IsPlain

/-- The call returned a report of conflict. -/
def ReportsConflict (event : SessionEvent Time) : Prop :=
  ∃ shown, event.reply.outcome = .returned (some shown) ∧ shown.status = "CONFLICT"

/-- The call returned a report of conflict that lists the task alone. -/
def FlagsOnly (event : SessionEvent Time) (taskId : String) : Prop :=
  ∃ shown, event.reply.outcome = .returned (some shown) ∧ shown.status = "CONFLICT" ∧
    shown.conflictTaskIds = [taskId]

/-- The call gave no report, because the process died, an operation raised, or
the audit log was broken before. -/
structure CutShort (start : Files) (early : List (SessionEvent Time))
    (event : SessionEvent Time) : Prop where
  silent : ∀ shown, event.reply.outcome ≠ .returned (some shown)
  cause : event.reply.outcome = .died ∨ (∃ act ∈ event.reply.acts, act.reply.isOk = false) ∨
    (∃ other ∈ early, ∃ act ∈ other.reply.acts, TornAppend act) ∨ ¬LogIntact start

/-- What the gate does in a call that follows the calls `early`. -/
structure ConflictGated (sha256Hex : List Char → String) (request : RuntimeRequest Time)
    (start : Files) (early : List (SessionEvent Time)) (event : SessionEvent Time) : Prop where
  agreed : AgreedFiles sha256Hex request event.before ∧
    ∀ act ∈ event.reply.acts, AgreedFiles sha256Hex request act.before
  flagged : ∀ act ∈ event.reply.acts, ∀ task, Disputes sha256Hex request act task →
    FlagsOnly event task.taskId ∨ CutShort start early event
  justified : ReportsConflict event → ∃ act ∈ event.reply.acts, ∃ task,
    Disputes sha256Hex request act task ∧ FlagsOnly event task.taskId

omit [LinearOrder Time] [Add Time] in
private theorem reportsConflict_of_returned
    {event : SessionEvent Time} {shown : RuntimeReport}
    (returned : event.reply.outcome = .returned (some shown)) :
    ReportsConflict event ↔ shown.status = "CONFLICT" := by
  constructor
  · rintro ⟨other, same, conflict⟩
    rw [returned] at same
    cases same
    exact conflict
  · exact fun conflict => ⟨shown, returned, conflict⟩

omit [LinearOrder Time] [Add Time] in
/-- A call that stopped short gave no report of conflict, and it has an excuse for every
dispute. -/
private theorem StoppedShort.gated
    {start : Files} {early : List (SessionEvent Time)} {event : SessionEvent Time}
    {problem : Option RuntimeProblem}
    (short : StoppedShort sha256Hex request files problem event.reply.acts event.after)
    (silent : ∀ value, event.reply.outcome ≠ .returned value)
    (died : problem = none → event.reply.outcome = .died)
    (agreed : AgreedFiles sha256Hex request event.before)
    (logged : LogIntact start →
      (∃ other ∈ early, ∃ act ∈ other.reply.acts, TornAppend act) ∨ LogIntact files) :
    ConflictGated sha256Hex request start early event := by
  refine ⟨⟨agreed, short.before⟩, ?_, ?_⟩
  · intro act member task disputes
    refine .inr ⟨fun shown => silent _, ?_⟩
    by_cases intact : LogIntact start
    · rcases logged intact with torn | intact
      · exact .inr (.inr (.inl torn))
      · rcases short.excused act member task disputes intact with none | fault
        · exact .inl (died none)
        · exact .inr (.inl fault)
    · exact .inr (.inr (.inr intact))
  · rintro ⟨shown, returned, -⟩
    exact absurd returned (silent _)

/-- One call on an agreed checkpoint. -/
theorem gated_call
    (agreed : AgreedFiles sha256Hex request files) {invocation : OperatorInvocation Time}
    (plain : invocation.IsPlain) {start : Files} {early : List (SessionEvent Time)}
    (logged : LogIntact start →
      (∃ other ∈ early, ∃ act ∈ other.reply.acts, TornAppend act) ∨ LogIntact files)
    {event : SessionEvent Time}
    (shape : event = Machine.eventOf (sessionStep sha256Hex request) files invocation) :
    ConflictGated sha256Hex request start early event ∧
      (¬ReportsConflict event → AgreedFiles sha256Hex request event.after) ∧
      (LogIntact files →
        (∃ act ∈ event.reply.acts, TornAppend act) ∨ LogIntact event.after) := by
  have ends := run_ends (gates_call invocation.manager invocation.call agreed) invocation.script
    plain
  have here : event.before = files := by rw [shape]; rfl
  have acts : (Program.run answer (invocation.call.program sha256Hex request invocation.manager)
      invocation.script files).acts = event.reply.acts := by rw [shape]; rfl
  have state : (Program.run answer (invocation.call.program sha256Hex request invocation.manager)
      invocation.script files).state = event.after := by rw [shape]; rfl
  have outcome : (Program.run answer (invocation.call.program sha256Hex request
      invocation.manager) invocation.script files).outcome = event.reply.outcome := by
    rw [shape]; rfl
  rw [List.nil_append, acts, state, outcome] at ends
  have started : AgreedFiles sha256Hex request event.before := here ▸ agreed
  cases ended : event.reply.outcome with
  | died =>
      rw [ended] at ends
      have ends : StoppedShort sha256Hex request files none event.reply.acts event.after := ends
      refine ⟨ends.gated (by simp [ended]) (fun _ => ended) started logged, fun _ => ends.agreed,
        ends.logged⟩
  | raised problem =>
      rw [ended] at ends
      have ends : StoppedShort sha256Hex request files (some problem) event.reply.acts
          event.after := ends
      refine ⟨ends.gated (by simp [ended]) (by simp) started logged, fun _ => ends.agreed,
        ends.logged⟩
  | returned reply =>
      rw [ended] at ends
      cases reply with
      | none =>
          have ends : Ongoing sha256Hex request files none event.reply.acts event.after := ends
          refine ⟨⟨⟨started, ends.before⟩, ?_, ?_⟩, fun _ => ends.agreed,
            fun intact => .inr (ends.logged intact)⟩
          · intro act member task disputes
            cases (ends.disputes task).mp ⟨act, member, disputes⟩
          · rintro ⟨shown, returned, -⟩
            rw [ended] at returned
            cases returned
      | some shown =>
          have ends : Reported sha256Hex request files shown event.reply.acts event.after := ends
          have conflict := reportsConflict_of_returned ended
          obtain ⟨other, agreed, calm⟩ | ⟨status, task, listed, only⟩ := ends.gated
          · refine ⟨⟨⟨started, ends.before⟩, ?_, ?_⟩, fun _ => agreed,
              fun intact => .inr (ends.logged intact)⟩
            · exact fun act member task disputes => absurd ⟨act, member, disputes⟩ (calm task)
            · exact fun reported => absurd (conflict.mp reported) other
          · have flags : FlagsOnly event task.taskId := ⟨shown, ended, status, listed⟩
            refine ⟨⟨⟨started, ends.before⟩, ?_, ?_⟩, fun none => absurd (conflict.mpr status) none,
              fun intact => .inr (ends.logged intact)⟩
            · intro act member other disputes
              rw [← (only other).mp ⟨act, member, disputes⟩]
              exact .inl flags
            · intro _
              obtain ⟨act, member, disputes⟩ := (only task).mpr rfl
              exact ⟨act, member, task, disputes, flags⟩

omit [LinearOrder Time] [Add Time] in
/-- A directory without a checkpoint of the request is agreed. -/
theorem agreedFiles_of_none
    (absent : files.checkpoints (checkpointPath sha256Hex request) = none) :
    AgreedFiles sha256Hex request files := by
  have found : storedCheckpoint sha256Hex request files = readCheckpoint request none := by
    rw [storedCheckpoint, absent]
  refine ⟨_, found.trans rfl, ?_, ?_, ?_⟩
  · intro result member
    cases member
  · intro left member
    cases member
  · intro entry member
    cases member

private theorem gated_calls
    {start : Files} {before early late : List (SessionEvent Time)}
    {calls : List (OperatorInvocation Time)} {event : SessionEvent Time}
    (agreed : AgreedFiles sha256Hex request files)
    (logged : LogIntact start →
      (∃ other ∈ before, ∃ act ∈ other.reply.acts, TornAppend act) ∨ LogIntact files)
    (plain : ∀ invocation ∈ calls, invocation.IsPlain)
    (shape : Machine.trace (sessionStep sha256Hex request) files calls = early ++ event :: late)
    (first : ∀ other ∈ early, ¬ReportsConflict other) :
    ConflictGated sha256Hex request start (before ++ early) event := by
  induction calls generalizing files before early with
  | nil => cases early <;> cases shape
  | cons invocation calls induction =>
      have here := gated_call agreed (plain invocation List.mem_cons_self) logged rfl
      cases early with
      | nil =>
          obtain ⟨rfl, -⟩ := List.cons.inj shape
          simpa using here.1
      | cons head early =>
          obtain ⟨rfl, rest⟩ := List.cons.inj shape
          have calm := first _ List.mem_cons_self
          rw [List.append_cons]
          refine induction (here.2.1 calm) ?_
            (fun other member => plain other (List.mem_cons_of_mem _ member)) rest
            (fun other member => first other (List.mem_cons_of_mem _ member))
          intro intact
          rcases logged intact with ⟨other, member, torn⟩ | intact
          · exact .inl ⟨other, by simp [member], torn⟩
          · rcases here.2.2 intact with torn | intact
            · exact .inl ⟨_, by simp, torn⟩
            · exact .inr intact

/-- Up to the first report of a conflict the gate flags the first disagreement, and
nothing else. -/
theorem firstConflict_gated
    (sha256Hex : List Char → String) (request : RuntimeRequest Time) {start : Files}
    (absent : start.checkpoints (checkpointPath sha256Hex request) = none)
    {calls : List (OperatorInvocation Time)} (plain : ∀ invocation ∈ calls, invocation.IsPlain)
    {early late : List (SessionEvent Time)} {event : SessionEvent Time}
    (shape : Machine.trace (sessionStep sha256Hex request) start calls = early ++ event :: late)
    (first : ∀ other ∈ early, ¬ReportsConflict other) :
    ConflictGated sha256Hex request start early event :=
  @gated_calls _ _ _ _ _ _ start [] _ _ _ _ (agreedFiles_of_none absent) (fun intact => .inr intact)
    plain shape first

end Sessions

end Gate

/-- The payload of a dispatcher that completes the task with a signal. -/
def signalPayload (taskId signal : String) : List (Key × Value) :=
  completedPayload taskId ++ [(.str "payload", .dict [(.str "evidence.signal", .str signal)])]

/-- Two tasks that complete with different signals. -/
def disputedExecute : OperatorInvocation Int :=
  { manager := auditManager
    call := .execute
    script :=
      List.replicate 6 { clock := 0, outcome := .returned (signalPayload "a" "same") } ++
        List.replicate 10 { clock := 0, outcome := .returned (signalPayload "b" "different") } }

def disputedRequest : RuntimeRequest Int :=
  auditRequest [auditTask "a" [], auditTask "b" ["a"]]

private theorem isPlain_signalPayload (taskId signal : String) :
    DispatchOutcome.IsPlain (.returned (signalPayload taskId signal)) := by
  intro result read
  obtain rfl := Except.ok.inj (read.symm.trans (show resultOfPayload _ = Except.ok
    { taskId := taskId, agentId := "worker", status := "COMPLETED", evidenceReference := "e",
      payload := [(.str "evidence.signal", .str signal)],
      provenance := [(.str "source", .str "s")] } from rfl))
  constructor <;> constructor <;>
    simp [Value.IsJson, Value.IsJsonEntries, Value.FiniteNumbers, Value.FiniteNumbersEntries,
      Key.isStr]

theorem disputedExecute_gated :
    (session sha256Hex disputedRequest [disputedExecute]).map (fun event => event.reply.outcome) =
      [.returned (some { auditReport "CONFLICT" ["a", "b"] ["b"] 2 with
        conflictTaskIds := ["b"] })] ∧
      ConflictGated sha256Hex disputedRequest Files.empty []
        (Machine.eventOf (sessionStep sha256Hex disputedRequest) Files.empty disputedExecute) := by
  constructor
  · decide +kernel
  · refine @firstConflict_gated Int _ _ sha256Hex disputedRequest Files.empty rfl [disputedExecute]
      ?_ [] [] _ rfl (fun _ member => by cases member)
    intro invocation member choice inside
    obtain rfl : invocation = disputedExecute := List.mem_singleton.mp member
    rcases List.mem_append.mp inside with first | second
    · rw [List.eq_of_mem_replicate first]
      exact isPlain_signalPayload "a" "same"
    · rw [List.eq_of_mem_replicate second]
      exact isPlain_signalPayload "b" "different"

end SuperAdvisor.MainAgent
