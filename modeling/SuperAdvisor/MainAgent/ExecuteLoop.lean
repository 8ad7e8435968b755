import SuperAdvisor.MainAgent.CheckpointSteps

/-!
# The loop of execute

The loop keeps its checkpoint in step with the stored one: both record the same
tasks whenever a dispatch begins.  `upholds_call` takes the invariant of the
loop to the five operator calls.
-/

namespace SuperAdvisor.MainAgent

open Python
open Program (Upholds upholds_bind upholds_bind_ofExcept)

variable {Time : Type}

section Invariant

variable (sha256Hex : List Char → String) (request : RuntimeRequest Time)

/-- The invariant of the loop of `execute` after the tasks `finished`. -/
structure LoopInvariant (start : RuntimeCheckpoint) (finished : List AgentTask)
    (checkpoint : RuntimeCheckpoint) (past : List (RuntimeAct Time))
    (files : Files) : Prop where
  stored : ∃ stored, storedCheckpoint sha256Hex request files = .ok stored ∧
    SameRecords stored checkpoint
  completed : ∀ taskId ∈ start.completed.keys, taskId ∈ checkpoint.completed.keys
  failed : ∀ taskId, taskId ∈ checkpoint.failed.keys ↔ taskId ∈ start.failed.keys
  reached : ∀ task ∈ finished, task.taskId ∈ checkpoint.completed.keys ∨
    dispatchKey request task.taskId ∈ start.dispatchedIdempotencyKeys.items
  explained : ∀ key ∈ checkpoint.dispatchedIdempotencyKeys.items,
    key ∈ start.dispatchedIdempotencyKeys.items ∨
      ∃ task ∈ finished, key = dispatchKey request task.taskId ∧
        task.taskId ∈ checkpoint.completed.keys
  recorded : ∀ act ∈ past, ∀ task, settledTask act = some task →
    dispatchKey request task.taskId ∈ checkpoint.dispatchedIdempotencyKeys.items

end Invariant

variable {sha256Hex : List Char → String} {request : RuntimeRequest Time}
  {start checkpoint : RuntimeCheckpoint} {past : List (RuntimeAct Time)} {files : Files}
  {finished : List AgentTask} {task : AgentTask}

theorem LoopInvariant.transport
    (invariant : LoopInvariant sha256Hex request start finished checkpoint past files)
    {after : Files} {history : List (RuntimeAct Time)}
    (same : after.checkpoints = files.checkpoints) (quiet : Unsettling past history) :
    LoopInvariant sha256Hex request start finished checkpoint history after := by
  refine ⟨?_, invariant.completed, invariant.failed, invariant.reached,
    invariant.explained, quiet.settled invariant.recorded⟩
  simpa only [storedCheckpoint, same] using invariant.stored

/-- Skipping a task that is completed or was dispatched before the call. -/
theorem LoopInvariant.skip
    (invariant : LoopInvariant sha256Hex request start finished checkpoint past files)
    (ready : task.taskId ∈ checkpoint.completed.keys ∨
      dispatchKey request task.taskId ∈ start.dispatchedIdempotencyKeys.items) :
    LoopInvariant sha256Hex request start (finished ++ [task]) checkpoint past files := by
  refine ⟨invariant.stored, invariant.completed, invariant.failed, ?_, ?_,
    invariant.recorded⟩
  · intro other member
    rcases List.mem_append.mp member with early | last
    · exact invariant.reached other early
    · obtain rfl : other = task := by simpa using last
      exact ready
  · intro key member
    rcases invariant.explained key member with old | ⟨other, inside, same, completed⟩
    · exact .inl old
    · exact .inr ⟨other, by simp [inside], same, completed⟩

/-- A recorded key is a reason to skip. -/
theorem LoopInvariant.ready_of_key
    (invariant : LoopInvariant sha256Hex request start finished checkpoint past files)
    (recorded : dispatchKey request task.taskId ∈
      checkpoint.dispatchedIdempotencyKeys.items) :
    task.taskId ∈ checkpoint.completed.keys ∨
      dispatchKey request task.taskId ∈ start.dispatchedIdempotencyKeys.items := by
  rcases invariant.explained _ recorded with old | ⟨other, -, same, completed⟩
  · exact .inr old
  · exact .inl (dispatchKey_injective request same ▸ completed)

/-- The dispatch of the next task is allowed. -/
theorem LoopInvariant.allows
    (invariant : LoopInvariant sha256Hex request start finished checkpoint past files)
    {tasks : List AgentTask} (orders : OrdersPlan request.plan (finished ++ task :: tasks))
    (incomplete : task.taskId ∉ checkpoint.completed.keys)
    (fresh : dispatchKey request task.taskId ∉ checkpoint.dispatchedIdempotencyKeys.items)
    (history : List (RuntimeAct Time)) (act : RuntimeAct Time)
    (before : act.before = files) (op : act.op = .dispatch task) :
    Allowed sha256Hex request start history act := by
  obtain ⟨stored, found, same⟩ := invariant.stored
  unfold Allowed
  rw [op]
  refine ⟨(orders.mem_iff task).mp (by simp), stored, by rw [before, found],
    fun member => incomplete ((same.completed _).mp member),
    fun member => fresh ((same.dispatched _).mp member), ?_⟩
  intro dependency member
  obtain ⟨other, inside, rfl⟩ :=
    List.mem_map.mp (orders.first finished task tasks rfl dependency member)
  rcases invariant.reached other inside with completed | old
  · exact .inl ((same.completed _).mpr completed)
  · exact .inr old

/-- After the attempts of a task its key covers everything settled so far. -/
theorem LoopInvariant.recorded_dispatch
    (invariant : LoopInvariant sha256Hex request start finished checkpoint past files)
    {history : List (RuntimeAct Time)}
    (attempts : ∀ act ∈ history, act ∈ past ∨ act.op = .dispatch task) :
    ∀ act ∈ history, ∀ other, settledTask act = some other →
      dispatchKey request other.taskId ∈
        (checkpoint.recordDispatch
          (dispatchKey request task.taskId)).dispatchedIdempotencyKeys.items := by
  intro act member other settled
  simp only [RuntimeCheckpoint.recordDispatch, KeySet.mem_insert]
  rcases attempts act member with early | op
  · exact .inr (invariant.recorded act early other settled)
  · have same := op_of_settledTask settled
    rw [op] at same
    cases same
    exact .inl rfl

/-- The records the loop adds for a settled task may be saved. -/
theorem SameRecords.grows
    {stored after : RuntimeCheckpoint} (same : SameRecords stored checkpoint)
    (planned : task ∈ request.plan.tasks)
    (fresh : dispatchKey request task.taskId ∉ checkpoint.dispatchedIdempotencyKeys.items)
    (completed : ∀ taskId ∈ checkpoint.completed.keys, taskId ∈ after.completed.keys)
    (added : ∀ taskId ∈ after.completed.keys, taskId = task.taskId ∨
      taskId ∈ checkpoint.completed.keys)
    (failed : ∀ taskId ∈ checkpoint.failed.keys, taskId ∈ after.failed.keys)
    (dispatched : after.dispatchedIdempotencyKeys =
      checkpoint.dispatchedIdempotencyKeys.insert (dispatchKey request task.taskId))
    (explained : task.taskId ∈ after.completed.keys ∨ after.failed.keys ≠ []) :
    Grows request stored after := by
  refine ⟨?_, ?_, ?_, ?_, ?_⟩
  · exact fun taskId member => completed taskId ((same.completed taskId).mp member)
  · exact fun taskId member => failed taskId ((same.failed taskId).mp member)
  · intro key member
    rw [dispatched, KeySet.mem_insert]
    exact .inr ((same.dispatched key).mp member)
  · intro taskId member
    rcases added taskId member with rfl | known
    · exact .inr (fun old => fresh ((same.dispatched _).mp old))
    · exact .inl ((same.completed taskId).mpr known)
  · intro key member
    rw [dispatched, KeySet.mem_insert] at member
    rcases member with rfl | old
    · exact .inr ⟨task, planned, rfl, explained⟩
    · exact .inl ((same.dispatched key).mpr old)

/-- The invariant after a completed task was saved. -/
theorem LoopInvariant.complete
    (invariant : LoopInvariant sha256Hex request start finished checkpoint past files)
    {result : TaskResult} {after : RuntimeCheckpoint}
    (shape : after = (checkpoint.recordDispatch
      (dispatchKey request task.taskId)).completeTask task.taskId result)
    {history : List (RuntimeAct Time)} {files' : Files}
    (saved : storedCheckpoint sha256Hex request files' = .ok after.reloaded)
    (recorded : ∀ act ∈ history, ∀ other, settledTask act = some other →
      dispatchKey request other.taskId ∈ after.dispatchedIdempotencyKeys.items) :
    LoopInvariant sha256Hex request start (finished ++ [task]) after history files' := by
  refine ⟨⟨_, saved, after.reloaded_same⟩, ?_, ?_, ?_, ?_, recorded⟩
  · intro taskId member
    simpa [shape, RuntimeCheckpoint.completeTask, RuntimeCheckpoint.recordDispatch] using
      .inr (invariant.completed taskId member)
  · simpa [shape, RuntimeCheckpoint.completeTask, RuntimeCheckpoint.recordDispatch] using
      invariant.failed
  · intro other member
    rcases List.mem_append.mp member with early | last
    · rcases invariant.reached other early with completed | old
      · left
        simp [shape, RuntimeCheckpoint.completeTask, RuntimeCheckpoint.recordDispatch,
          completed]
      · exact .inr old
    · obtain rfl : other = task := by simpa using last
      left
      simp [shape, RuntimeCheckpoint.completeTask]
  · intro key member
    simp only [shape, RuntimeCheckpoint.completeTask, RuntimeCheckpoint.recordDispatch,
      KeySet.mem_insert] at member
    rcases member with rfl | old
    · right
      exact ⟨task, by simp, rfl, by simp [shape, RuntimeCheckpoint.completeTask]⟩
    · rcases invariant.explained key old with before | ⟨other, inside, same, completed⟩
      · exact .inl before
      · right
        refine ⟨other, by simp [inside], same, ?_⟩
        simp [shape, RuntimeCheckpoint.completeTask, RuntimeCheckpoint.recordDispatch,
          completed]

/-- Saving after the loop and reporting. -/
theorem LoopInvariant.saveAndReport
    (invariant : LoopInvariant sha256Hex request start finished checkpoint past files)
    {after : RuntimeCheckpoint} {status : String} (same : SameRecords checkpoint after)
    (sound : ReportSound request start (report sha256Hex request after status)) :
    Upholds answer (Allowed sha256Hex request start)
      (fun report _ _ => ReportSound request start report)
      (saveAndReport sha256Hex request after status) past files := by
  obtain ⟨stored, found, known⟩ := invariant.stored
  refine upholds_saveAndReport found (Grows.of_same (known.trans same)) ?_ sound
  intro act member task settled
  exact (same.dispatched _).mp (invariant.recorded act member task settled)

/-- A report of completion after the loop has gone through the plan. -/
theorem LoopInvariant.reportSound
    (invariant : LoopInvariant sha256Hex request start finished checkpoint past files)
    (orders : OrdersPlan request.plan finished) :
    ReportSound request start
      (report sha256Hex request { checkpoint with status := "COMPLETED" } "COMPLETED") := by
  intro _
  refine ⟨?_, ?_, ?_⟩
  · intro task member
    simpa [report] using invariant.reached task ((orders.mem_iff task).mpr member)
  · intro taskId
    simpa [report] using invariant.failed taskId
  · intro taskId member
    simpa [report] using invariant.completed taskId member

/-- After an audit event the stored checkpoint and the settled tasks are the same. -/
theorem upholds_audited
    {α : Type} {eventType taskId detail : String} {stored : RuntimeCheckpoint}
    {holds : AgentTask → Prop} {next : RuntimeProgram Time α}
    {post : α → List (RuntimeAct Time) → Files → Prop}
    (found : storedCheckpoint sha256Hex request files = .ok stored)
    (recorded : ∀ act ∈ past, ∀ task, settledTask act = some task → holds task)
    (later : ∀ after files', storedCheckpoint sha256Hex request files' = .ok stored →
      (∀ act ∈ after, ∀ task, settledTask act = some task → holds task) →
        Upholds answer (Allowed sha256Hex request start) post next after files') :
    Upholds answer (Allowed sha256Hex request start) post
      (appendAuditEvent sha256Hex eventType taskId detail >>= fun _ => next)
      past files := by
  refine upholds_bind (fun _ after files' =>
    files'.checkpoints = files.checkpoints ∧ Unsettling past after) ?_ ?_
  · exact upholds_appendAuditEvent (fun _ _ same quiet => ⟨same, quiet⟩)
  · intro _ after files' ⟨same, quiet⟩
    refine later after files' ?_ (quiet.settled recorded)
    simpa only [storedCheckpoint, same] using found

theorem RuntimeCheckpoint.mem_conflict_failed
    (checkpoint : RuntimeCheckpoint) (conflicts : List String) {taskId : String}
    (member : taskId ∈ checkpoint.failed.keys) :
    taskId ∈ (checkpoint.conflict conflicts).failed.keys := by
  have kept : ∀ (failed : Dict String String), taskId ∈ failed.keys →
      taskId ∈ (conflicts.foldl
        (fun failed taskId => failed.set taskId "conflict_detected") failed).keys := by
    induction conflicts with
    | nil => exact fun _ inside => inside
    | cons conflict conflicts induction =>
        intro failed inside
        exact induction _ (by simp [inside])
  exact kept _ member

/-- Before its first task the loop has the records the call started from. -/
theorem LoopInvariant.initial
    (found : storedCheckpoint sha256Hex request files = .ok checkpoint)
    (same : SameRecords checkpoint start)
    (quiet : Unsettling [] past) :
    LoopInvariant sha256Hex request start [] checkpoint past files := by
  refine ⟨⟨checkpoint, found, SameRecords.of_eq rfl rfl rfl⟩, ?_, same.failed, by simp, ?_,
    quiet.settled (by simp)⟩
  · exact fun taskId member => (same.completed taskId).mpr member
  · exact fun key member => .inl ((same.dispatched key).mp member)

variable [LinearOrder Time]

theorem upholds_executeTasks
    (manager : MainRuntimeManager) (deadline : Time) {tasks : List AgentTask}
    (orders : OrdersPlan request.plan (finished ++ tasks))
    (invariant : LoopInvariant sha256Hex request start finished checkpoint past files) :
    Upholds answer (Allowed sha256Hex request start)
      (fun report _ _ => ReportSound request start report)
      (executeTasks sha256Hex manager request deadline tasks checkpoint) past files := by
  induction tasks generalizing finished checkpoint past files with
  | nil =>
      refine invariant.saveAndReport (SameRecords.of_eq rfl rfl rfl) ?_
      exact invariant.reportSound (by simpa using orders)
  | cons task tasks induction =>
      have planned : task ∈ request.plan.tasks := (orders.mem_iff task).mp (by simp)
      have later : OrdersPlan request.plan ((finished ++ [task]) ++ tasks) := by
        simpa using orders
      unfold executeTasks
      split
      next known =>
        exact induction later (invariant.skip (.inl (Dict.contains_iff.mp known)))
      next unknown =>
        refine upholds_quiet allowed_quiet .monotonic trivial ?_
        intro _ afterClock clockHistory _ clockSame clockQuiet
        have invariant := invariant.transport clockSame clockQuiet
        split
        · refine invariant.saveAndReport (SameRecords.of_eq rfl rfl rfl) ?_
          exact reportSound_of_status (by simp)
        split
        next recorded => exact induction later (invariant.skip (invariant.ready_of_key recorded))
        next fresh =>
          -- the task is dispatched; nothing is saved before its result is known
          refine upholds_bind (fun _ history files => files = afterClock ∧
            ∀ act ∈ history, act ∈ clockHistory ∨ act.op = .dispatch task) ?_ ?_
          · refine upholds_dispatchAttempts ?_ (fun _ _ attempts => ⟨rfl, attempts⟩) _ _
            exact invariant.allows orders (fun member => unknown (Dict.contains_iff.mpr member))
              fresh
          intro result history _ ⟨sameFiles, attempts⟩
          subst sameFiles
          have settled := invariant.recorded_dispatch attempts
          obtain ⟨stored, found, same⟩ := invariant.stored
          dsimp only
          split
          · refine upholds_audited found settled ?_
            intro _ _ found recorded
            refine upholds_saveAndReport found ?_ recorded (reportSound_of_status (by simp))
            refine same.grows planned fresh (fun _ member => member)
              (fun _ member => .inr member) ?_ rfl (.inr ?_)
            · exact fun _ member => Dict.mem_keys_set.mpr (.inr member)
            · exact List.ne_nil_of_mem (Dict.mem_keys_set.mpr (.inl rfl))
          · have completed : ∀ taskId ∈ checkpoint.completed.keys,
                taskId ∈ (checkpoint.completed.set task.taskId result).keys :=
              fun _ member => Dict.mem_keys_set.mpr (.inr member)
            have added : ∀ taskId ∈ (checkpoint.completed.set task.taskId result).keys,
                taskId = task.taskId ∨ taskId ∈ checkpoint.completed.keys :=
              fun _ member => Dict.mem_keys_set.mp member
            have here : task.taskId ∈ (checkpoint.completed.set task.taskId result).keys :=
              Dict.mem_keys_set.mpr (.inl rfl)
            refine upholds_audited found settled ?_
            intro _ _ found recorded
            refine upholds_bind_ofExcept ?_
            intro conflicts _
            split
            · refine upholds_saveAndReport found ?_ recorded (reportSound_of_status (by simp))
              exact same.grows planned fresh completed added
                (fun _ => RuntimeCheckpoint.mem_conflict_failed _ conflicts) rfl (.inl here)
            · refine upholds_bind (fun _ => LoopInvariant sha256Hex request start
                (finished ++ [task]) ((checkpoint.recordDispatch
                  (dispatchKey request task.taskId)).completeTask task.taskId result)) ?_ ?_
              · refine upholds_saveCheckpoint found ?_ recorded ?_
                · exact same.grows planned fresh completed added (fun _ member => member)
                    rfl (.inl here)
                · intro _ _ saved quiet
                  exact invariant.complete rfl saved (quiet.settled recorded)
              · intro _ _ _ invariant
                exact induction later invariant

variable [Add Time]

theorem upholds_execute
    (manager : MainRuntimeManager)
    (same : ∀ stored, storedCheckpoint sha256Hex request files = .ok stored →
      SameRecords stored start)
    (unsettled : Unsettling [] past) :
    Upholds answer (Allowed sha256Hex request start)
      (fun report _ _ => ReportSound request start report)
      (execute sha256Hex manager request) past files := by
  unfold execute
  split
  · exact .raised
  split
  · exact .raised
  refine upholds_bind_ofExcept ?_
  intro ordered accepted
  have orders := validateAndOrderPlan_orders accepted
  refine upholds_bind (fun checkpoint after files' =>
    storedCheckpoint sha256Hex request files = .ok checkpoint ∧ files' = files ∧
      Unsettling past after) ?_ ?_
  · exact upholds_loadCheckpoint allowed_quiet (fun _ _ found quiet => ⟨found, rfl, quiet⟩)
  intro checkpoint history _ ⟨found, sameFiles, quiet⟩
  subst sameFiles
  have invariant := LoopInvariant.initial found (same checkpoint found) (unsettled.trans quiet)
  split
  · exact .done (reportSound_of_status (by simp))
  split
  · exact .done (reportSound_of_status (by simp))
  refine upholds_quiet allowed_quiet .monotonic trivial ?_
  intro _ _ _ _ clockSame clockQuiet
  exact upholds_executeTasks manager _ (by simpa using orders)
    (invariant.transport clockSame clockQuiet)

omit [LinearOrder Time] [Add Time] in
/-- Loading the checkpoint and saving it with the same records. -/
theorem upholds_resave
    (change : RuntimeCheckpoint → RuntimeCheckpoint)
    (records : ∀ checkpoint, SameRecords (change checkpoint) checkpoint) :
    Upholds answer (Allowed sha256Hex request start)
      (fun _ after files' => (∀ stored saved,
        storedCheckpoint sha256Hex request files = .ok stored →
        storedCheckpoint sha256Hex request files' = .ok saved →
          SameRecords saved stored) ∧ Unsettling [] after)
      (loadCheckpoint sha256Hex request >>= fun checkpoint =>
        saveCheckpoint sha256Hex request (change checkpoint))
      [] files := by
  refine upholds_bind (fun checkpoint after files' =>
    storedCheckpoint sha256Hex request files = .ok checkpoint ∧ files' = files ∧
      Unsettling [] after) ?_ ?_
  · exact upholds_loadCheckpoint allowed_quiet (fun _ _ found quiet => ⟨found, rfl, quiet⟩)
  intro checkpoint history _ ⟨found, sameFiles, quiet⟩
  subst sameFiles
  have same := records checkpoint
  refine upholds_saveCheckpoint found (Grows.of_same same.symm) (quiet.settled (by simp)) ?_
  intro _ _ resaved later
  refine ⟨?_, quiet.trans later⟩
  intro stored saved known reread
  obtain rfl : checkpoint = stored := by simpa [found] using known
  obtain rfl : (change checkpoint).reloaded = saved := by simpa [resaved] using reread
  exact (change checkpoint).reloaded_same.trans same

theorem upholds_resume
    (manager : MainRuntimeManager)
    (started : storedCheckpoint sha256Hex request files = .ok start) :
    Upholds answer (Allowed sha256Hex request start)
      (fun report _ _ => ReportSound request start report)
      (resume sha256Hex manager request) [] files := by
  unfold resume
  rw [← Program.bind_assoc]
  refine upholds_bind _ (upholds_resave _ (fun _ => SameRecords.of_eq rfl rfl rfl)) ?_
  intro _ after files' ⟨same, quiet⟩
  exact upholds_execute manager (fun saved => same start saved started) quiet

/-- What an operator call upholds that starts with the checkpoint `start`. -/
theorem upholds_call
    (manager : MainRuntimeManager) (call : OperatorCall)
    (started : storedCheckpoint sha256Hex request files = .ok start) :
    Upholds answer (Allowed sha256Hex request start)
      (fun report _ _ => ∀ shown, report = some shown → ReportSound request start shown)
      (call.program sha256Hex request manager) [] files := by
  have loaded : ∀ stored, storedCheckpoint sha256Hex request files = .ok stored →
      SameRecords stored start := by
    intro stored found
    obtain rfl : start = stored := by simpa [started] using found
    exact SameRecords.of_eq rfl rfl rfl
  have reported : ∀ report past files, ReportSound request start report →
      Upholds answer (Allowed sha256Hex request start)
        (fun report _ _ => ∀ shown, report = some shown → ReportSound request start shown)
        (.done (some report) : RuntimeProgram Time (Option RuntimeReport)) past files :=
    fun _ _ _ sound => .done (fun _ same => Option.some.inj same ▸ sound)
  cases call with
  | execute =>
      exact upholds_bind _ (upholds_execute manager loaded (Unsettling.refl [])) reported
  | recover =>
      exact upholds_bind _ (upholds_execute manager loaded (Unsettling.refl [])) reported
  | resume => exact upholds_bind _ (upholds_resume manager started) reported
  | pause =>
      refine upholds_bind _ (upholds_resave _ (fun _ => SameRecords.of_eq rfl rfl rfl)) ?_
      exact fun _ _ _ _ => .done (by simp)
  | stop =>
      refine upholds_bind _ (upholds_resave _ (fun _ => SameRecords.of_eq rfl rfl rfl)) ?_
      exact fun _ _ _ _ => .done (by simp)

end SuperAdvisor.MainAgent
