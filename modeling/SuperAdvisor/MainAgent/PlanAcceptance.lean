import SuperAdvisor.MainAgent.Plan

/-!
# Accepted plans

The manager accepts a plan only if its task ids are different and an available
agent has every skill.  A plan that also lists every task behind its
dependencies is accepted, and keeps its order.
-/

namespace SuperAdvisor.MainAgent

open Python

/-- The manager has an available agent with the skill of the task. -/
def CapableOf (capabilities : List (String × AgentCapability)) (task : AgentTask) : Prop :=
  ∃ capability, OrderedDict.get? capabilities task.agentId = some capability ∧
    capability.available = true ∧ task.skill ∈ capability.skills

section Ordering

variable {capabilities : List (String × AgentCapability)} {tasks : List AgentTask}

theorem registerTask_eq_ok_iff
    {taskById next : List (String × AgentTask)} {task : AgentTask} :
    registerTask capabilities taskById task = .ok next ↔
      task.taskId ∉ OrderedDict.keys taskById ∧ CapableOf capabilities task ∧
        next = OrderedDict.set taskById task.taskId task := by
  unfold registerTask CapableOf
  rw [← OrderedDict.contains_iff]
  by_cases known : OrderedDict.contains taskById task.taskId = true
  · simp [known]
  · rw [if_neg known]
    cases found : OrderedDict.get? capabilities task.agentId with
    | none => simp
    | some capability =>
        by_cases available : capability.available = true
        · by_cases skilled : task.skill ∈ capability.skills
          · simp only [known, available, skilled]
            simp [skilled, available, eq_comm (b := next)]
          · simp [available, skilled]
        · simp [available]

/-- Tasks with different ids and capable agents are all registered. -/
theorem registerTasks_of_capable
    (distinct : (taskIds tasks).Nodup) (capable : ∀ task ∈ tasks, CapableOf capabilities task) :
    tasks.foldlM (registerTask capabilities) [] =
      .ok (tasks.map (fun task => (task.taskId, task))) := by
  have general : ∀ (rest built : List AgentTask), (taskIds (built ++ rest)).Nodup →
      (∀ task ∈ rest, CapableOf capabilities task) →
        rest.foldlM (registerTask capabilities)
            (built.map (fun task => (task.taskId, task))) =
          .ok ((built ++ rest).map (fun task => (task.taskId, task))) := by
    intro rest
    induction rest with
    | nil => simp [pure, Except.pure]
    | cons task rest induction =>
        intro built distinct capable
        have keys : OrderedDict.keys (built.map (fun task => (task.taskId, task))) =
            taskIds built := by
          simp [OrderedDict.keys, taskIds]
        have apart := List.disjoint_of_nodup_append
          (show (taskIds built ++ taskIds (task :: rest)).Nodup by simpa [taskIds] using distinct)
        have absent : task.taskId ∉ taskIds built :=
          fun member => apart member (by simp [taskIds])
        have registered := registerTask_eq_ok_iff.mpr
          ⟨keys.symm ▸ absent, capable task (by simp), rfl⟩
        rw [OrderedDict.set_of_not_mem (keys.symm ▸ absent)] at registered
        rw [List.foldlM_cons, registered]
        simpa [bind, Except.bind] using induction (built ++ [task]) (by simpa using distinct)
          (fun other member => capable other (by simp [member]))
  exact general tasks [] distinct capable

variable {plan : DependencyPlan} {maxHops : Int}

/-- What an accepted plan has. -/
theorem accepted_of_validateAndOrderPlan
    {ordered : List AgentTask}
    (accepted : validateAndOrderPlan capabilities plan maxHops = .ok ordered) :
    (taskIds plan.tasks).Nodup ∧ ∀ task ∈ plan.tasks, CapableOf capabilities task := by
  unfold validateAndOrderPlan at accepted
  split at accepted
  · cases accepted
  · simp only [except_bind_eq_ok] at accepted
    obtain ⟨taskById, registered, -⟩ := accepted
    obtain ⟨-, capable, -⟩ := foldlM_ok (fun _ => True) (fun task _ => CapableOf capabilities task)
      (fun _ _ _ _ reached =>
        ⟨trivial, (registerTask_eq_ok_iff.mp reached).2.1, fun _ marks => marks⟩)
      trivial registered
    exact ⟨(registerTasks registered).1, capable⟩

/-- Visiting a task behind its dependencies appends it. -/
theorem visit_of_ready
    {taskById : List (String × AgentTask)} {depth : Nat} {state : VisitState}
    {task : AgentTask} (known : OrderedDict.get? taskById task.taskId = some task)
    (fresh : task.taskId ∉ state.visited)
    (ready : ∀ dependency ∈ task.dependsOn, dependency ∈ state.visited) :
    visit taskById (depth + 2) [] state task.taskId =
      .ok { visited := task.taskId :: state.visited, ordered := state.ordered ++ [task] } := by
  have still : ∀ dependencies : List String,
      (∀ dependency ∈ dependencies, dependency ∈ state.visited) →
        dependencies.foldlM (visit taskById (depth + 1) [task.taskId]) state = .ok state := by
    intro dependencies
    induction dependencies with
    | nil => simp [pure, Except.pure]
    | cons dependency dependencies induction =>
        intro visited
        obtain ⟨here, others⟩ := List.forall_mem_cons.mp visited
        have first : visit taskById (depth + 1) [task.taskId] state dependency = .ok state := by
          rw [visit, if_pos here]
        rw [List.foldlM_cons, first]
        exact induction others
  rw [visit, if_neg fresh, if_neg (by simp), known]
  simp only [still _ ready]
  rfl

/-- The second loop finds no unknown dependency. -/
theorem checkDependencies_of_first (first : DependenciesFirst tasks) :
    checkDependencies (tasks.map (fun task => (task.taskId, task))) tasks = .ok () := by
  unfold checkDependencies
  split
  next dependency found =>
    have unknown := List.find?_some found
    obtain ⟨task, member, inside⟩ := List.mem_flatMap.mp (List.mem_of_find?_eq_some found)
    obtain ⟨early, late, shape⟩ := List.append_of_mem member
    have known : dependency ∈ taskIds tasks := by
      have before := first early task late shape dependency inside
      simp only [shape, taskIds, List.map_append, List.mem_append]
      exact .inl before
    have contained : OrderedDict.contains (tasks.map (fun task => (task.taskId, task)))
        dependency = true := by
      rw [OrderedDict.contains_iff]
      simpa [OrderedDict.keys, taskIds] using known
    simp [contained] at unknown
  next => rfl

/-- A plan that lists every task behind its dependencies keeps its order. -/
theorem validateAndOrderPlan_of_first
    (short : plan.tasks.length ≤ maxHops) (distinct : (taskIds plan.tasks).Nodup)
    (capable : ∀ task ∈ plan.tasks, CapableOf capabilities task)
    (first : DependenciesFirst plan.tasks) :
    validateAndOrderPlan capabilities plan maxHops = .ok plan.tasks := by
  have visits : ∀ late early, plan.tasks = early ++ late →
      late.foldlM (fun state task =>
          visit (plan.tasks.map (fun task => (task.taskId, task))) (plan.tasks.length + 1) []
            state task.taskId)
        { visited := (taskIds early).reverse, ordered := early } =
          .ok { visited := (taskIds plan.tasks).reverse, ordered := plan.tasks } := by
    intro late
    induction late with
    | nil =>
        intro early shape
        simp [pure, Except.pure, shape]
    | cons task late induction =>
        intro early shape
        have member : task ∈ plan.tasks := by simp [shape]
        obtain ⟨depth, length⟩ : ∃ depth, plan.tasks.length = depth + 1 :=
          Nat.exists_eq_add_one.mpr (List.length_pos_of_mem member)
        have fresh : task.taskId ∉ taskIds early := by
          have apart := List.disjoint_of_nodup_append
            (show (taskIds early ++ taskIds (task :: late)).Nodup by
              simpa [taskIds, shape] using distinct)
          exact fun inside => apart inside (by simp [taskIds])
        have visited := @visit_of_ready _ depth
          { visited := (taskIds early).reverse, ordered := early } task
          (get?_byId_of_mem distinct member) (by simpa using fresh)
          (fun dependency inside => by simpa using first early task late shape dependency inside)
        rw [List.foldlM_cons, length, visited]
        have rest := induction (early ++ [task]) (by simpa using shape)
        simpa [bind, Except.bind, taskIds, length] using rest
  have start := visits plan.tasks [] rfl
  simp only [taskIds, List.map_nil, List.reverse_nil] at start
  unfold validateAndOrderPlan
  rw [if_neg (by omega), registerTasks_of_capable distinct capable]
  simp only [bind, Except.bind, checkDependencies_of_first first, start]

end Ordering

end SuperAdvisor.MainAgent
