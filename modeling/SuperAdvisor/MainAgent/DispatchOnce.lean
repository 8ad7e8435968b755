import SuperAdvisor.MainAgent.CompletionReports

/-!
# Dispatches within one call and across calls

The loop of `execute` passes over a task whose dispatch key is recorded, also
when the task never completed, so a task behind it can be dispatched too early.
A dispatch is safe exactly when the call began with no such dependency.

The key of a task reaches the checkpoint file only with the save that follows
its result, so a call that ends between the two leaves no trace of the
dispatch.  Where every result is followed by a save, no later call dispatches
the task again.
-/

namespace SuperAdvisor.MainAgent

section Dispatches

variable {Time : Type} (sha256Hex : List Char → String) (request : RuntimeRequest Time)

/-- The stored checkpoint has completed everything the task depends on. -/
def DependenciesCompleted (files : Files) (task : AgentTask) : Prop :=
  ∀ stored, storedCheckpoint sha256Hex request files = .ok stored →
    ∀ dependency ∈ task.dependsOn, dependency ∈ stored.completed.keys

/-- A dispatch happens only behind completed dependencies. -/
def DependencySafe (act : RuntimeAct Time) : Prop :=
  ∀ task ∈ act.op.dispatched, DependenciesCompleted sha256Hex request act.before task

/-- No dependency of the task has its dispatch key recorded without being
completed. -/
def DependenciesSettled (files : Files) (task : AgentTask) : Prop :=
  ∀ stored, storedCheckpoint sha256Hex request files = .ok stored →
    ∀ dependency ∈ task.dependsOn,
      dispatchKey request dependency ∈ stored.dispatchedIdempotencyKeys.items →
        dependency ∈ stored.completed.keys

instance (files : Files) (task : AgentTask) :
    Decidable (DependenciesCompleted sha256Hex request files task) :=
  match found : storedCheckpoint sha256Hex request files with
  | .error _ => .isTrue (fun stored same => by simp [found] at same)
  | .ok checkpoint =>
      decidable_of_iff (∀ dependency ∈ task.dependsOn, dependency ∈ checkpoint.completed.keys)
        (by simp [DependenciesCompleted, found])

instance (act : RuntimeAct Time) : Decidable (DependencySafe sha256Hex request act) :=
  inferInstanceAs (Decidable (∀ task ∈ act.op.dispatched,
    DependenciesCompleted sha256Hex request act.before task))

variable [LinearOrder Time] [Add Time]

theorem dependencySafe_iff
    (calls : List (OperatorInvocation Time)) {event : SessionEvent Time}
    (member : event ∈ session sha256Hex request calls) {act : RuntimeAct Time}
    (performed : act ∈ event.reply.acts) {task : AgentTask}
    (dispatched : act.op = .dispatch task) :
    DependencySafe sha256Hex request act ↔
      DependenciesSettled sha256Hex request event.before task := by
  obtain ⟨start, started, -, facts⟩ := session_facts member
  obtain ⟨early, late, shape⟩ := List.append_of_mem performed
  obtain ⟨⟨stored, found, grows, -⟩, allowed⟩ := facts.during early act late shape
  unfold Allowed at allowed
  rw [dispatched] at allowed
  obtain ⟨-, known, same, -, -, behind⟩ := allowed
  obtain rfl : stored = known := by simpa [found] using same
  constructor
  · intro safe begun again dependency inside recorded
    have completed := safe task (by simp [dispatched, RuntimeOp.dispatched])
    obtain rfl : start = begun := by simpa [started] using again
    rcases grows.fresh dependency (completed stored found dependency inside) with old | fresh
    · exact old
    · exact absurd recorded fresh
  · intro settled other same now again dependency inside
    obtain rfl : task = other := by simpa [dispatched, RuntimeOp.dispatched] using same
    obtain rfl : stored = now := by simpa [found] using again
    rcases behind dependency inside with completed | recorded
    · exact completed
    · exact grows.completed dependency (settled start started dependency inside recorded)

end Dispatches

theorem firstTask_dispatched_safely :
    DependencySafe sha256Hex (auditRequest [auditTask "a" []])
        (actOf Files.empty { clock := 0, outcome := .refused "boom" }
          (.dispatch (auditTask "a" []))) ↔
      DependenciesSettled sha256Hex (auditRequest [auditTask "a" []]) Files.empty
        (auditTask "a" []) :=
  dependencySafe_iff sha256Hex (auditRequest [auditTask "a" []])
    [executeWith (.refused "boom")] (List.mem_singleton.mpr rfl)
    (List.mem_of_getElem? (i := 3) rfl) rfl

/-- The dispatcher refuses the first task; the second call dispatches the task
that depends on it. -/
theorem failedDependency_dispatched :
    ¬∀ event ∈ session sha256Hex (auditRequest [auditTask "a" [], auditTask "b" ["a"]])
        [executeWith (.refused "boom"), executeWith (.refused "boom")],
      ∀ act ∈ event.reply.acts, DependencySafe sha256Hex
        (auditRequest [auditTask "a" [], auditTask "b" ["a"]]) act := by
  decide +kernel

section Dispatches

variable {Time : Type}

def NeverDispatched (events : List (SessionEvent Time)) (taskId : String) : Prop :=
  ∀ event ∈ events, ∀ act ∈ event.reply.acts, ∀ task ∈ act.op.dispatched,
    task.taskId ≠ taskId

/-- A task whose result was known in a call is dispatched by no later call. -/
def DispatchedOnce (events : List (SessionEvent Time)) : Prop :=
  ∀ early event late, events = early ++ event :: late →
    ∀ act ∈ event.reply.acts, ∀ task, settledTask act = some task →
      NeverDispatched late task.taskId

/-- Every known result is followed by a save. -/
def SavesResults : List (RuntimeAct Time) → Prop
  | [] => True
  | act :: late =>
      ((settledTask act).isSome = true → ∃ save ∈ late, IsSave save) ∧ SavesResults late

instance SavesResults.decidable :
    (acts : List (RuntimeAct Time)) → Decidable (SavesResults acts)
  | [] => .isTrue trivial
  | act :: late =>
      have := SavesResults.decidable late
      inferInstanceAs (Decidable
        (((settledTask act).isSome = true → ∃ save ∈ late, IsSave save) ∧ SavesResults late))

theorem SavesResults.savedAfter
    {acts : List (RuntimeAct Time)} (saves : SavesResults acts) {act : RuntimeAct Time}
    (member : act ∈ acts) {task : AgentTask} (settled : settledTask act = some task) :
    SavedAfter acts task.taskId := by
  induction acts with
  | nil => simp at member
  | cons first acts induction =>
      rcases List.mem_cons.mp member with rfl | later
      · exact ⟨[], act, acts, rfl, ⟨task, settled, rfl⟩, saves.1 (by simp [settled])⟩
      · obtain ⟨early, other, late, rfl, known, save⟩ := induction saves.2 later
        exact ⟨first :: early, other, late, rfl, known, save⟩

variable [LinearOrder Time] [Add Time] {sha256Hex : List Char → String}
  {request : RuntimeRequest Time}

/-- A task whose key is stored is dispatched by no later call. -/
theorem recorded_neverDispatched
    {files : Files} {stored : RuntimeCheckpoint} {taskId : String}
    (found : storedCheckpoint sha256Hex request files = .ok stored)
    (recorded : dispatchKey request taskId ∈ stored.dispatchedIdempotencyKeys.items)
    (calls : List (OperatorInvocation Time)) :
    NeverDispatched (Machine.trace (sessionStep sha256Hex request) files calls) taskId := by
  intro event member act performed task dispatched same
  obtain ⟨early, invocation, late, -, rfl⟩ := (Machine.mem_trace_iff _).mp member
  obtain ⟨start, started, grows⟩ := final_grows found early
  have facts := callFacts started invocation
  obtain ⟨before, after, shape⟩ := List.append_of_mem performed
  obtain ⟨⟨known, now, more, -⟩, allowed⟩ := facts.during before act after shape
  have op : act.op = .dispatch task := by
    cases shown : act.op <;> simp_all [RuntimeOp.dispatched]
  unfold Allowed at allowed
  rw [op] at allowed
  obtain ⟨-, other, again, -, fresh, -⟩ := allowed
  obtain rfl : known = other := by simpa [now] using again
  rw [same] at fresh
  exact fresh (more.dispatched _ (grows.dispatched _ recorded))

/-- A task that was settled and then saved is dispatched by no later call. -/
theorem savedAfter_neverDispatched
    {calls : List (OperatorInvocation Time)} {early late : List (SessionEvent Time)}
    {event : SessionEvent Time}
    (shape : session sha256Hex request calls = early ++ event :: late) {taskId : String}
    (saved : SavedAfter event.reply.acts taskId) : NeverDispatched late taskId := by
  obtain ⟨first, second, -, -, rest⟩ := Machine.trace_eq_append _ shape
  cases second with
  | nil => simp [Machine.trace] at rest
  | cons invocation calls =>
      obtain ⟨rfl, rfl⟩ := List.cons.inj rest
      obtain ⟨start, started, -⟩ := final_grows
        (show storedCheckpoint sha256Hex request Files.empty = .ok _ from rfl) first
      obtain ⟨stored, found, -, recorded⟩ := (callFacts started invocation).after
      exact recorded_neverDispatched found (recorded taskId saved) calls

theorem dispatchedOnce_of_saved
    (sha256Hex : List Char → String) (request : RuntimeRequest Time)
    (calls : List (OperatorInvocation Time))
    (saves : ∀ event ∈ session sha256Hex request calls, SavesResults event.reply.acts) :
    DispatchedOnce (session sha256Hex request calls) := by
  intro early event late shape act performed task settled
  have member : event ∈ session sha256Hex request calls := by simp [shape]
  exact savedAfter_neverDispatched shape ((saves event member).savedAfter performed settled)

end Dispatches

theorem completedTask_dispatched_once :
    DispatchedOnce (session sha256Hex (auditRequest [auditTask "a" []])
      [executeWith (.returned (completedPayload "a")),
        executeWith (.returned (completedPayload "a"))]) :=
  dispatchedOnce_of_saved _ _ _ (by decide +kernel)

/-- An execute that dies right after the dispatcher returned. -/
def executeUntilDispatch : OperatorInvocation Int :=
  { manager := auditManager
    call := .execute
    script := List.replicate 4
      { clock := 0, outcome := .returned (completedPayload "a") } }

/-- The next execute dispatches the task again. -/
theorem diedAfterDispatch_dispatched_twice :
    ¬DispatchedOnce (session sha256Hex (auditRequest [auditTask "a" []])
      [executeUntilDispatch, executeUntilDispatch]) := by
  intro once
  have dispatch : ∀ {event : SessionEvent Int},
      event.reply.acts[3]? = some
          (actOf Files.empty
            ({ clock := 0, outcome := .returned (completedPayload "a") } : Choice Int)
            (.dispatch (auditTask "a" []))) →
        _ ∈ event.reply.acts :=
    fun found => List.mem_of_getElem? found
  exact once [] _ _ rfl _ (dispatch rfl) _ rfl _ (List.mem_singleton.mpr rfl) _
    (dispatch rfl) _ rfl rfl

end SuperAdvisor.MainAgent
