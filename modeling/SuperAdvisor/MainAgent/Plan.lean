import SuperAdvisor.Foundation.PythonDict

/-!
# Plans and their dispatch order

A plan is a list of agent tasks.  `validateAndOrderPlan` refuses plans that are
too long, name a task twice, need an unavailable agent or skill, or depend on
an unknown task, and orders the others depth first.  The ordered tasks are the
tasks of the plan, and every task stands behind the tasks it depends on.
-/

namespace SuperAdvisor.MainAgent

open Python

structure AgentTask where
  taskId : String
  agentId : String
  skill : String
  dependsOn : List String
  inputSchema : List (Key × Value)
  taskType : String := ""
  requestedAction : String := "analyze"

structure PlanningDecision where
  taskId : String
  requestType : String
  selectedAgent : String
  registryDefinitionHash : String
  selectionReason : String
  matchedAcceptedTaskType : String
  rejectedCandidateAgents : List (List (String × String))
  requiredInputs : List String
  outputContract : List (Key × Value)
  requiredReviewers : List String
  downstreamRoute : List String
  forbiddenActions : List String
  humanReleaseGateRequired : Bool

structure DependencyPlan where
  planId : String
  requestType : String
  tasks : List AgentTask
  requiresHumanGate : Bool
  registrySchemaVersion : String := ""
  registryDefinitionHash : String := ""
  planningDecisions : List PlanningDecision := []

structure AgentCapability where
  agentId : String
  skills : List String
  available : Bool := true

/-- The exceptions that can leave the runtime manager.  `environment` is one
raised by the operating system or by the dispatcher; `depthExhausted` is the
bound of the recursive ordering, which no plan reaches. -/
inductive RuntimeProblem where
  | validationError (message : String)
  | humanReleaseGateClosed (message : String)
  | python (failure : Failure)
  | json (problem : JsonError)
  | decodeError
  | environment
  | depthExhausted
  deriving DecidableEq

/-- One round of the loop that checks the tasks. -/
def registerTask (capabilities : List (String × AgentCapability))
    (taskById : List (String × AgentTask)) (task : AgentTask) :
    Except RuntimeProblem (List (String × AgentTask)) :=
  if OrderedDict.contains taskById task.taskId then
    .error (.validationError ("duplicate task_id: " ++ task.taskId))
  else
    match OrderedDict.get? capabilities task.agentId with
    | none => .error (.validationError ("unavailable capability: " ++ task.agentId))
    | some capability =>
        if !capability.available then
          .error (.validationError ("unavailable capability: " ++ task.agentId))
        else if task.skill ∉ capability.skills then
          .error (.validationError
            ("agent " ++ task.agentId ++ " does not provide skill " ++ task.skill))
        else .ok (OrderedDict.set taskById task.taskId task)

def checkDependencies (taskById : List (String × AgentTask))
    (tasks : List AgentTask) : Except RuntimeProblem Unit :=
  match (tasks.flatMap AgentTask.dependsOn).find?
      (fun dependency => !OrderedDict.contains taskById dependency) with
  | some dependency => .error (.validationError ("unknown dependency: " ++ dependency))
  | none => .ok ()

structure VisitState where
  visited : List String
  ordered : List AgentTask

/-- `visit`; the set `visiting` is the path from the root of the recursion. -/
def visit (taskById : List (String × AgentTask)) :
    Nat → List String → VisitState → String → Except RuntimeProblem VisitState
  | 0, _, _, _ => .error .depthExhausted
  | depth + 1, visiting, state, taskId =>
      if taskId ∈ state.visited then .ok state
      else if taskId ∈ visiting then
        .error (.validationError "dependency cycle detected")
      else
        match OrderedDict.get? taskById taskId with
        | none => .error (.python (.keyError taskId))
        | some task => do
            let state ←
              task.dependsOn.foldlM (visit taskById depth (taskId :: visiting)) state
            .ok
              { visited := taskId :: state.visited
                ordered := state.ordered ++ [task] }

def validateAndOrderPlan (capabilities : List (String × AgentCapability))
    (plan : DependencyPlan) (maxHops : Int) :
    Except RuntimeProblem (List AgentTask) :=
  if maxHops < plan.tasks.length then
    .error (.validationError "plan exceeds max_hops")
  else do
    let taskById ← plan.tasks.foldlM (registerTask capabilities) []
    checkDependencies taskById plan.tasks
    let state ← plan.tasks.foldlM
      (fun state task =>
        visit taskById (plan.tasks.length + 1) [] state task.taskId)
      { visited := [], ordered := [] }
    .ok state.ordered

/-- The ids of a list of tasks. -/
def taskIds (tasks : List AgentTask) : List String :=
  tasks.map AgentTask.taskId

/-- Every task stands behind the tasks it depends on. -/
def DependenciesFirst (tasks : List AgentTask) : Prop :=
  ∀ early task late, tasks = early ++ task :: late →
    ∀ dependency ∈ task.dependsOn, dependency ∈ taskIds early

theorem DependenciesFirst.snoc
    {tasks : List AgentTask} (first : DependenciesFirst tasks) {task : AgentTask}
    (ready : ∀ dependency ∈ task.dependsOn, dependency ∈ taskIds tasks) :
    DependenciesFirst (tasks ++ [task]) := by
  intro early other late shape dependency member
  rcases List.eq_nil_or_concat late with rfl | ⟨front, last, rfl⟩
  · obtain ⟨rfl, same⟩ := List.append_inj' shape rfl
    obtain rfl : task = other := by simpa using same
    exact ready dependency member
  · have split : tasks = early ++ other :: front := by
      have parts : tasks ++ [task] = (early ++ other :: front) ++ [last] := by
        simpa using shape
      exact (List.append_inj' parts rfl).1
    exact first early other front split dependency member

section Folding

variable {ε σ α : Type} {step : σ → α → Except ε σ}

/-- The rule for loops that may raise: an invariant, and a mark that every
round leaves behind and later rounds keep. -/
theorem foldlM_ok
    (holds : σ → Prop) (marked : α → σ → Prop)
    (preserved : ∀ state item next, holds state → step state item = .ok next →
      holds next ∧ marked item next ∧ ∀ other, marked other state → marked other next)
    {items : List α} {start last : σ} (initial : holds start)
    (folded : items.foldlM step start = .ok last) :
    holds last ∧ (∀ item ∈ items, marked item last) ∧
      ∀ other, marked other start → marked other last := by
  induction items generalizing start with
  | nil =>
      obtain rfl : start = last := by simpa [pure, Except.pure] using folded
      exact ⟨initial, by simp, fun _ marks => marks⟩
  | cons item items induction =>
      rw [List.foldlM_cons, except_bind_eq_ok] at folded
      obtain ⟨next, first, rest⟩ := folded
      obtain ⟨nextHolds, itemMarked, kept⟩ := preserved start item next initial first
      obtain ⟨lastHolds, laterMarked, laterKept⟩ := induction nextHolds rest
      refine ⟨lastHolds, ?_, fun other marks => laterKept other (kept other marks)⟩
      intro other member
      rcases List.mem_cons.mp member with rfl | later
      · exact laterKept _ itemMarked
      · exact laterMarked other later

/-- A loop that raises does so in one of its rounds. -/
theorem foldlM_error
    {items : List α} {start : σ} {problem : ε}
    (folded : items.foldlM step start = .error problem) :
    ∃ state, ∃ item ∈ items, step state item = .error problem := by
  induction items generalizing start with
  | nil => cases folded
  | cons item items induction =>
      cases first : step start item with
      | error raised =>
          simp only [List.foldlM_cons, first, bind, Except.bind] at folded
          exact ⟨start, item, by simp, folded ▸ first⟩
      | ok next =>
          simp only [List.foldlM_cons, first, bind, Except.bind] at folded
          obtain ⟨state, other, member, raised⟩ := induction folded
          exact ⟨state, other, List.mem_cons_of_mem _ member, raised⟩

end Folding

/-- The invariant of the ordering. -/
structure VisitState.Sound (taskById : List (String × AgentTask))
    (state : VisitState) : Prop where
  same : ∀ taskId, taskId ∈ state.visited ↔ taskId ∈ taskIds state.ordered
  known : ∀ task ∈ state.ordered,
    OrderedDict.get? taskById task.taskId = some task
  first : DependenciesFirst state.ordered
  distinct : (taskIds state.ordered).Nodup

def KeyedById (taskById : List (String × AgentTask)) : Prop :=
  ∀ taskId task, OrderedDict.get? taskById taskId = some task → task.taskId = taskId

theorem visit_sound
    {taskById : List (String × AgentTask)} (keyed : KeyedById taskById)
    {depth : Nat} {visiting : List String} {state after : VisitState}
    {taskId : String} (sound : state.Sound taskById)
    (apart : ∀ other ∈ visiting, other ∉ state.visited)
    (visited : visit taskById depth visiting state taskId = .ok after) :
    (after.Sound taskById ∧ ∀ other ∈ visiting, other ∉ after.visited) ∧
      taskId ∈ after.visited ∧
        ∀ other, other ∈ state.visited → other ∈ after.visited := by
  induction depth generalizing visiting state after taskId with
  | zero => cases visited
  | succ depth induction =>
      unfold visit at visited
      by_cases seen : taskId ∈ state.visited
      · rw [if_pos seen] at visited
        cases visited
        exact ⟨⟨sound, apart⟩, seen, fun _ member => member⟩
      · rw [if_neg seen] at visited
        by_cases onPath : taskId ∈ visiting
        · rw [if_pos onPath] at visited
          cases visited
        · rw [if_neg onPath] at visited
          cases found : OrderedDict.get? taskById taskId with
          | none => simp [found] at visited
          | some task =>
              simp only [found, except_bind_eq_ok] at visited
              obtain ⟨inner, folded, built⟩ := visited
              cases built
              have innerApart : ∀ other ∈ taskId :: visiting,
                  other ∉ state.visited := by
                intro other member
                rcases List.mem_cons.mp member with rfl | later
                · exact seen
                · exact apart other later
              obtain ⟨⟨innerSound, innerFresh⟩, ready, kept⟩ := foldlM_ok
                (fun state : VisitState => state.Sound taskById ∧
                  ∀ other ∈ taskId :: visiting, other ∉ state.visited)
                (fun dependency state => dependency ∈ state.visited)
                (fun _ _ _ invariant reached =>
                  induction invariant.1 invariant.2 reached)
                ⟨sound, innerApart⟩ folded
              have sameId : task.taskId = taskId := keyed taskId task found
              have fresh : taskId ∉ taskIds inner.ordered := fun member =>
                innerFresh taskId (by simp) ((innerSound.same taskId).mpr member)
              refine ⟨⟨⟨?_, ?_, ?_, ?_⟩, ?_⟩, by simp, ?_⟩
              · intro other
                simp [taskIds, sameId, (innerSound.same other), or_comm]
              · intro other member
                rcases List.mem_append.mp member with early | last
                · exact innerSound.known other early
                · obtain rfl : other = task := by simpa using last
                  rwa [sameId]
              · exact innerSound.first.snoc
                  (fun dependency member =>
                    (innerSound.same dependency).mp (ready dependency member))
              · rw [taskIds, List.map_append, List.nodup_append]
                refine ⟨innerSound.distinct, by simp, ?_⟩
                rintro other member _ last rfl
                obtain rfl : other = taskId := by simpa [sameId] using last
                exact fresh member
              · intro other member inside
                rcases List.mem_cons.mp inside with rfl | early
                · exact onPath member
                · exact innerFresh other (List.mem_cons_of_mem _ member) early
              · intro other member
                exact List.mem_cons_of_mem _ (kept other member)

/-- The bound on the recursion is never reached: the path consists of
different tasks of the plan. -/
theorem visit_ne_depthExhausted
    {taskById : List (String × AgentTask)} {depth : Nat} {visiting : List String}
    (distinct : visiting.Nodup) (inside : visiting ⊆ OrderedDict.keys taskById)
    (enough : taskById.length < depth + visiting.length)
    (state : VisitState) (taskId : String) :
    visit taskById depth visiting state taskId ≠ .error .depthExhausted := by
  induction depth generalizing visiting state taskId with
  | zero =>
      have short := (List.subperm_of_subset distinct inside).length_le
      simp only [OrderedDict.keys, List.length_map] at short
      omega
  | succ depth induction =>
      unfold visit
      split
      · simp
      · split
        · simp
        · next onPath =>
            cases found : OrderedDict.get? taskById taskId with
            | none => simp
            | some task =>
                have member : taskId ∈ OrderedDict.keys taskById :=
                  OrderedDict.contains_iff.mp (by simp [OrderedDict.contains, found])
                simp only
                cases folded : task.dependsOn.foldlM
                    (visit taskById depth (taskId :: visiting)) state with
                | ok inner => simp [bind, Except.bind]
                | error problem =>
                    obtain ⟨other, dependency, -, raised⟩ := foldlM_error folded
                    have different := induction (List.nodup_cons.mpr ⟨onPath, distinct⟩)
                      (List.cons_subset.mpr ⟨member, inside⟩)
                      (by simp only [List.length_cons]; omega) other dependency
                    simp only [bind, Except.bind, ne_eq, Except.error.injEq]
                    intro same
                    exact different (same ▸ raised)

/-- The task table after the first loop: the tasks of the plan by their ids,
which are all different. -/
theorem registerTasks
    {capabilities : List (String × AgentCapability)} {tasks : List AgentTask}
    {taskById : List (String × AgentTask)}
    (registered : tasks.foldlM (registerTask capabilities) [] = .ok taskById) :
    (taskIds tasks).Nodup ∧ taskById = tasks.map (fun task => (task.taskId, task)) := by
  have general : ∀ (rest built : List AgentTask) (last : List (String × AgentTask)),
      (taskIds built).Nodup →
      rest.foldlM (registerTask capabilities)
          (built.map (fun task => (task.taskId, task))) = .ok last →
        (taskIds (built ++ rest)).Nodup ∧
          last = (built ++ rest).map (fun task => (task.taskId, task)) := by
    intro rest
    induction rest with
    | nil =>
        intro built last distinct folded
        cases folded
        simpa using distinct
    | cons task rest induction =>
        intro built last distinct folded
        rw [List.foldlM_cons, except_bind_eq_ok] at folded
        obtain ⟨next, first, later⟩ := folded
        have keys : OrderedDict.keys (built.map (fun task => (task.taskId, task))) =
            taskIds built := by
          simp [OrderedDict.keys, taskIds]
        unfold registerTask at first
        split at first
        · cases first
        next absent =>
          rw [OrderedDict.contains_iff, keys] at absent
          have grown : next = (built ++ [task]).map (fun task => (task.taskId, task)) := by
            split at first
            · cases first
            · split at first
              · cases first
              · split at first
                · cases first
                · rw [OrderedDict.set_of_not_mem (keys ▸ absent)] at first
                  simpa using (Except.ok.inj first).symm
          have stillDistinct : (taskIds (built ++ [task])).Nodup := by
            simp only [taskIds, List.map_append, List.nodup_append]
            refine ⟨distinct, by simp, ?_⟩
            rintro other member _ last rfl
            obtain rfl : other = task.taskId := by simpa using last
            exact absent member
          simpa using induction (built ++ [task]) last stillDistinct (grown ▸ later)
  simpa using general tasks [] taskById (by simp [taskIds]) registered

theorem get?_byId
    {tasks : List AgentTask} {taskId : String} {task : AgentTask}
    (found : OrderedDict.get? (tasks.map (fun task => (task.taskId, task))) taskId =
      some task) :
    task ∈ tasks ∧ task.taskId = taskId := by
  induction tasks with
  | nil => cases found
  | cons first tasks induction =>
      simp only [List.map_cons, OrderedDict.get?] at found
      split at found
      next same =>
        obtain rfl : first = task := by simpa using found
        exact ⟨by simp, same⟩
      next => exact ⟨List.mem_cons_of_mem _ (induction found).1, (induction found).2⟩

theorem get?_byId_of_mem
    {tasks : List AgentTask} (distinct : (taskIds tasks).Nodup) {task : AgentTask}
    (member : task ∈ tasks) :
    OrderedDict.get? (tasks.map (fun task => (task.taskId, task))) task.taskId =
      some task := by
  induction tasks with
  | nil => cases member
  | cons first tasks induction =>
      have parts : first.taskId ∉ taskIds tasks ∧ (taskIds tasks).Nodup := by
        simpa [taskIds] using distinct
      rcases List.mem_cons.mp member with rfl | later
      · simp [OrderedDict.get?]
      · have different : first.taskId ≠ task.taskId := by
          intro same
          exact parts.1 (List.mem_map.mpr ⟨task, later, same.symm⟩)
        simpa [OrderedDict.get?, different] using induction parts.2 later

/-- An accepted plan is ordered with dependencies first, and the order holds
exactly the tasks of the plan, each once. -/
structure OrdersPlan (plan : DependencyPlan) (ordered : List AgentTask) : Prop where
  first : DependenciesFirst ordered
  mem_iff : ∀ task, task ∈ ordered ↔ task ∈ plan.tasks
  distinct : (taskIds ordered).Nodup

theorem validateAndOrderPlan_orders
    {capabilities : List (String × AgentCapability)} {plan : DependencyPlan}
    {maxHops : Int} {ordered : List AgentTask}
    (accepted : validateAndOrderPlan capabilities plan maxHops = .ok ordered) :
    OrdersPlan plan ordered := by
  unfold validateAndOrderPlan at accepted
  split at accepted
  · cases accepted
  · simp only [except_bind_eq_ok] at accepted
    obtain ⟨taskById, registered, -, -, last, folded, built⟩ := accepted
    cases built
    obtain ⟨distinct, rfl⟩ := registerTasks registered
    have keyed : KeyedById (plan.tasks.map (fun task => (task.taskId, task))) :=
      fun _ _ found => (get?_byId found).2
    have start : VisitState.Sound (plan.tasks.map (fun task => (task.taskId, task)))
        { visited := [], ordered := [] } :=
      ⟨by simp [taskIds], by simp, by simp [DependenciesFirst], by simp [taskIds]⟩
    obtain ⟨sound, covered, -⟩ := foldlM_ok
      (fun state : VisitState =>
        state.Sound (plan.tasks.map (fun task => (task.taskId, task))))
      (fun task state => task.taskId ∈ state.visited)
      (fun state task next invariant reached => by
        obtain ⟨⟨kept, -⟩, here, grows⟩ := visit_sound keyed invariant (by simp) reached
        exact ⟨kept, here, fun other => grows other.taskId⟩)
      start folded
    refine ⟨sound.first, ?_, sound.distinct⟩
    intro task
    constructor
    · intro member
      exact (get?_byId (sound.known task member)).1
    · intro member
      have placed := (sound.same task.taskId).mp (covered task member)
      obtain ⟨other, inside, sameId⟩ := List.mem_map.mp placed
      have found := sound.known other inside
      rw [sameId, get?_byId_of_mem distinct member] at found
      obtain rfl := Option.some.inj found
      exact inside

/-- Ordering a plan never runs out of depth. -/
theorem validateAndOrderPlan_ne_depthExhausted
    (capabilities : List (String × AgentCapability)) (plan : DependencyPlan)
    (maxHops : Int) :
    validateAndOrderPlan capabilities plan maxHops ≠ .error .depthExhausted := by
  unfold validateAndOrderPlan
  split
  · simp
  · cases registered : plan.tasks.foldlM (registerTask capabilities) [] with
    | error problem =>
        obtain ⟨taskById, task, -, raised⟩ := foldlM_error registered
        simp only [bind, Except.bind, ne_eq, Except.error.injEq]
        rintro rfl
        unfold registerTask at raised
        split at raised
        · cases raised
        · split at raised
          · cases raised
          · split at raised
            · cases raised
            · split at raised <;> cases raised
    | ok taskById =>
        obtain ⟨-, rfl⟩ := registerTasks registered
        simp only [bind, Except.bind]
        cases checked : checkDependencies
            (plan.tasks.map (fun task => (task.taskId, task))) plan.tasks with
        | error problem =>
            simp only [ne_eq, Except.error.injEq]
            rintro rfl
            unfold checkDependencies at checked
            split at checked <;> cases checked
        | ok _ =>
            simp only
            cases folded : plan.tasks.foldlM (fun state task =>
                visit (plan.tasks.map (fun task => (task.taskId, task)))
                  (plan.tasks.length + 1) [] state task.taskId)
                { visited := [], ordered := [] } with
            | ok last => simp
            | error problem =>
                obtain ⟨state, task, -, raised⟩ := foldlM_error folded
                have different := visit_ne_depthExhausted List.nodup_nil
                  (List.nil_subset _)
                  (show (plan.tasks.map (fun task => (task.taskId, task))).length <
                    plan.tasks.length + 1 + ([] : List String).length by simp)
                  state task.taskId
                simp only [ne_eq, Except.error.injEq]
                rintro rfl
                exact different raised

end SuperAdvisor.MainAgent
