import Mathlib.Logic.Relation
import SuperAdvisor.MainAgent.PlanAcceptance

/-!
# The plans that can be ordered

A plan whose tasks have capable agents is ordered exactly if it is short
enough, has different task ids, depends on its own tasks only and has no
dependency cycle.  The result is a permutation of the plan with dependencies
first; every other plan raises a validation error.
-/

namespace SuperAdvisor.MainAgent

open Python

/-- A task of the list with the first id names the second as a dependency. -/
def Requires (tasks : List AgentTask) (taskId dependency : String) : Prop :=
  ∃ task ∈ tasks, task.taskId = taskId ∧ dependency ∈ task.dependsOn

structure Orderable (plan : DependencyPlan) (maxHops : Int) : Prop where
  short : plan.tasks.length ≤ maxHops
  distinct : (taskIds plan.tasks).Nodup
  known : ∀ task ∈ plan.tasks, ∀ dependency ∈ task.dependsOn, dependency ∈ taskIds plan.tasks
  acyclic : ∀ taskId, ¬Relation.TransGen (Requires plan.tasks) taskId taskId

/-- A relation that lowers a rank has no cycle. -/
private theorem acyclic_of_rank
    {α : Type} {related : α → α → Prop} (rank : α → Nat)
    (lower : ∀ first second, related first second → rank second < rank first) (item : α) :
    ¬Relation.TransGen related item item := by
  have descends : ∀ other, Relation.TransGen related item other → rank other < rank item := by
    intro other reached
    induction reached with
    | single step => exact lower _ _ step
    | tail _ step induction => exact (lower _ _ step).trans induction
  exact fun cycle => (descends item cycle).false

section Searching

variable {tasks : List AgentTask}

/-- Positions in the order rank the tasks. -/
theorem acyclic_of_first
    {ordered : List AgentTask} (first : DependenciesFirst ordered)
    (distinct : (taskIds ordered).Nodup) (taskId : String) :
    ¬Relation.TransGen (Requires ordered) taskId taskId := by
  refine acyclic_of_rank (fun other => (taskIds ordered).idxOf other) ?_ taskId
  rintro other dependency ⟨task, member, rfl, inside⟩
  obtain ⟨early, late, shape⟩ := List.append_of_mem member
  have before := first early task late shape dependency inside
  have split : taskIds ordered = taskIds early ++ task.taskId :: taskIds late := by
    simp [shape, taskIds]
  have fresh : task.taskId ∉ taskIds early := by
    rw [split] at distinct
    exact fun same => List.disjoint_of_nodup_append distinct same (by simp)
  simp only [split]
  rw [List.idxOf_append_of_mem before, List.idxOf_append_of_notMem fresh, List.idxOf_cons_self]
  exact Nat.lt_add_right _ (List.idxOf_lt_length_of_mem before)

/-- A search that fails has run out of depth or followed a cycle: every task
on the path to the visited one requires it. -/
theorem visit_error
    {taskById : List (String × AgentTask)}
    (listed : ∀ taskId task, OrderedDict.get? taskById taskId = some task →
      task ∈ tasks ∧ task.taskId = taskId)
    (closed : ∀ task ∈ tasks, ∀ dependency ∈ task.dependsOn,
      dependency ∈ OrderedDict.keys taskById)
    {depth : Nat} {visiting : List String} {state : VisitState} {taskId : String}
    {problem : RuntimeProblem}
    (path : ∀ other ∈ visiting, Relation.TransGen (Requires tasks) other taskId)
    (known : taskId ∈ OrderedDict.keys taskById)
    (failed : visit taskById depth visiting state taskId = .error problem) :
    problem = .depthExhausted ∨
      (problem = .validationError "dependency cycle detected" ∧
        ∃ other, Relation.TransGen (Requires tasks) other other) := by
  induction depth generalizing visiting state taskId with
  | zero =>
      cases failed
      exact .inl rfl
  | succ depth induction =>
      unfold visit at failed
      split at failed
      · cases failed
      · split at failed
        next onPath =>
          cases failed
          exact .inr ⟨rfl, taskId, path taskId onPath⟩
        next =>
          cases found : OrderedDict.get? taskById taskId with
          | none => exact absurd known (OrderedDict.get?_eq_none_iff.mp found)
          | some task =>
              obtain ⟨member, sameId⟩ := listed taskId task found
              simp only [found] at failed
              cases folded : task.dependsOn.foldlM
                  (visit taskById depth (taskId :: visiting)) state with
              | ok inner => simp [folded, bind, Except.bind] at failed
              | error raised =>
                  simp only [folded, bind, Except.bind, Except.error.injEq] at failed
                  subst failed
                  obtain ⟨inner, dependency, inside, here⟩ := foldlM_error folded
                  have step : Requires tasks taskId dependency :=
                    ⟨task, member, sameId, inside⟩
                  refine induction ?_ (closed task member dependency inside) here
                  intro other above
                  rcases List.mem_cons.mp above with rfl | earlier
                  · exact .single step
                  · exact (path other earlier).tail step

end Searching

section Ordering

variable {capabilities : List (String × AgentCapability)} {plan : DependencyPlan} {maxHops : Int}

theorem orderable_of_validateAndOrderPlan
    {ordered : List AgentTask}
    (accepted : validateAndOrderPlan capabilities plan maxHops = .ok ordered) :
    Orderable plan maxHops := by
  obtain ⟨first, mem_iff, distinct⟩ := validateAndOrderPlan_orders accepted
  refine ⟨?_, (accepted_of_validateAndOrderPlan accepted).1, ?_, ?_⟩
  · unfold validateAndOrderPlan at accepted
    split at accepted
    · cases accepted
    next short => omega
  · intro task member dependency inside
    obtain ⟨early, late, shape⟩ := List.append_of_mem ((mem_iff task).mpr member)
    obtain ⟨other, before, rfl⟩ :=
      List.mem_map.mp (first early task late shape dependency inside)
    exact List.mem_map_of_mem ((mem_iff other).mp (by simp [shape, before]))
  · intro taskId cycle
    refine acyclic_of_first first distinct taskId (Relation.TransGen.mono ?_ _ _ cycle)
    rintro other dependency ⟨task, member, sameId, inside⟩
    exact ⟨task, (mem_iff task).mpr member, sameId, inside⟩

theorem perm_of_validateAndOrderPlan
    {ordered : List AgentTask}
    (accepted : validateAndOrderPlan capabilities plan maxHops = .ok ordered) :
    ordered.Perm plan.tasks := by
  obtain ⟨-, mem_iff, distinct⟩ := validateAndOrderPlan_orders accepted
  have planDistinct := (accepted_of_validateAndOrderPlan accepted).1
  exact (List.perm_ext_iff_of_nodup (distinct.of_map _) (planDistinct.of_map _)).mpr mem_iff

theorem registerTask_error
    {taskById : List (String × AgentTask)} {task : AgentTask} {problem : RuntimeProblem}
    (refused : registerTask capabilities taskById task = .error problem) :
    ∃ message, problem = .validationError message := by
  unfold registerTask at refused
  split at refused
  · cases refused
    exact ⟨_, rfl⟩
  · split at refused
    · cases refused
      exact ⟨_, rfl⟩
    · split at refused
      · cases refused
        exact ⟨_, rfl⟩
      · split at refused
        · cases refused
          exact ⟨_, rfl⟩
        · cases refused

theorem checkDependencies_ok
    {taskById : List (String × AgentTask)} {tasks : List AgentTask}
    (checked : checkDependencies taskById tasks = .ok ()) :
    ∀ task ∈ tasks, ∀ dependency ∈ task.dependsOn, dependency ∈ OrderedDict.keys taskById := by
  intro task member dependency inside
  unfold checkDependencies at checked
  split at checked
  · cases checked
  next unfound =>
    have present := List.find?_eq_none.mp unfound dependency
      (List.mem_flatMap.mpr ⟨task, member, inside⟩)
    exact OrderedDict.contains_iff.mp (by simpa using present)

theorem checkDependencies_error
    {taskById : List (String × AgentTask)} {tasks : List AgentTask} {problem : RuntimeProblem}
    (refused : checkDependencies taskById tasks = .error problem) :
    (∃ message, problem = .validationError message) ∧
      ∃ task ∈ tasks, ∃ dependency ∈ task.dependsOn,
        dependency ∉ OrderedDict.keys taskById := by
  unfold checkDependencies at refused
  split at refused
  next dependency found =>
    cases refused
    obtain ⟨task, member, inside⟩ := List.mem_flatMap.mp (List.mem_of_find?_eq_some found)
    have unknown := List.find?_some found
    refine ⟨⟨_, rfl⟩, task, member, dependency, inside, fun listed => ?_⟩
    simp [OrderedDict.contains_iff.mpr listed] at unknown
  · cases refused

/-- The raised problem is a validation error, and an orderable plan raises
none. -/
theorem validateAndOrderPlan_error
    (capable : ∀ task ∈ plan.tasks, CapableOf capabilities task) {problem : RuntimeProblem}
    (refused : validateAndOrderPlan capabilities plan maxHops = .error problem) :
    (∃ message, problem = .validationError message) ∧ ¬Orderable plan maxHops := by
  have bounded := validateAndOrderPlan_ne_depthExhausted capabilities plan maxHops
  rw [refused] at bounded
  unfold validateAndOrderPlan at refused
  split at refused
  next long =>
    cases refused
    exact ⟨⟨_, rfl⟩, fun orderable => by have short := orderable.short; omega⟩
  next =>
    cases registered : plan.tasks.foldlM (registerTask capabilities) [] with
    | error raised =>
        simp only [registered, bind, Except.bind, Except.error.injEq] at refused
        subst refused
        obtain ⟨taskById, task, -, here⟩ := foldlM_error registered
        refine ⟨registerTask_error here, fun orderable => ?_⟩
        rw [registerTasks_of_capable orderable.distinct capable] at registered
        cases registered
    | ok taskById =>
        obtain ⟨-, rfl⟩ := registerTasks registered
        have keys : OrderedDict.keys (plan.tasks.map (fun task => (task.taskId, task))) =
            taskIds plan.tasks := by
          simp [OrderedDict.keys, taskIds]
        simp only [registered, bind, Except.bind] at refused
        cases checked : checkDependencies
            (plan.tasks.map (fun task => (task.taskId, task))) plan.tasks with
        | error raised =>
            simp only [checked, Except.error.injEq] at refused
            subst refused
            obtain ⟨message, task, member, dependency, inside, unknown⟩ :=
              checkDependencies_error checked
            refine ⟨message, fun orderable => unknown ?_⟩
            exact keys ▸ orderable.known task member dependency inside
        | ok _ =>
            simp only [checked] at refused
            split at refused
            next raised folded =>
              cases refused
              obtain ⟨state, task, member, here⟩ := foldlM_error folded
              have failed := visit_error (fun _ _ found => get?_byId found)
                (checkDependencies_ok checked) (by simp)
                (keys ▸ List.mem_map_of_mem member) here
              rcases failed with rfl | ⟨message, other, cycle⟩
              · exact absurd rfl bounded
              · exact ⟨⟨_, message⟩, fun orderable => orderable.acyclic other cycle⟩
            next => cases refused

/-- The ordering is a correct topological sort. -/
theorem validateAndOrderPlan_topological
    (capable : ∀ task ∈ plan.tasks, CapableOf capabilities task) :
    ((∃ ordered, validateAndOrderPlan capabilities plan maxHops = .ok ordered) ↔
        Orderable plan maxHops) ∧
      (∀ ordered, validateAndOrderPlan capabilities plan maxHops = .ok ordered →
        ordered.Perm plan.tasks ∧ DependenciesFirst ordered) ∧
      ∀ problem, validateAndOrderPlan capabilities plan maxHops = .error problem →
        ∃ message, problem = .validationError message := by
  refine ⟨⟨?_, ?_⟩, ?_, ?_⟩
  · rintro ⟨ordered, accepted⟩
    exact orderable_of_validateAndOrderPlan accepted
  · intro orderable
    cases outcome : validateAndOrderPlan capabilities plan maxHops with
    | ok ordered => exact ⟨ordered, rfl⟩
    | error problem => exact absurd orderable (validateAndOrderPlan_error capable outcome).2
  · intro ordered accepted
    exact ⟨perm_of_validateAndOrderPlan accepted, (validateAndOrderPlan_orders accepted).first⟩
  · intro problem refused
    exact (validateAndOrderPlan_error capable refused).1

end Ordering

/-- One agent that reviews. -/
def reviewers : List (String × AgentCapability) :=
  [("reviewer", { agentId := "reviewer", skills := ["review"] })]

def dependentTask (taskId : String) (dependsOn : List String) : AgentTask :=
  { taskId := taskId
    agentId := "reviewer"
    skill := "review"
    dependsOn := dependsOn
    inputSchema := [] }

/-- Both tasks of the plan name each other. -/
def mutualPlan : DependencyPlan :=
  { planId := "plan"
    requestType := "code_review"
    tasks := [dependentTask "a" ["b"], dependentTask "b" ["a"]]
    requiresHumanGate := false }

theorem mutualPlan_topological :
    (∀ task ∈ mutualPlan.tasks, CapableOf reviewers task) ∧
      ((∃ ordered, validateAndOrderPlan reviewers mutualPlan 50 = .ok ordered) ↔
        Orderable mutualPlan 50) ∧
      (∀ ordered, validateAndOrderPlan reviewers mutualPlan 50 = .ok ordered →
        ordered.Perm mutualPlan.tasks ∧ DependenciesFirst ordered) ∧
      ∀ problem, validateAndOrderPlan reviewers mutualPlan 50 = .error problem →
        ∃ message, problem = .validationError message := by
  have capable : ∀ task ∈ mutualPlan.tasks, CapableOf reviewers task := by
    intro task member
    refine ⟨{ agentId := "reviewer", skills := ["review"] }, ?_, rfl, ?_⟩
    · rcases List.mem_pair.mp member with rfl | rfl <;> rfl
    · rcases List.mem_pair.mp member with rfl | rfl <;> exact List.mem_singleton.mpr rfl
  exact ⟨capable, validateAndOrderPlan_topological capable⟩

example : validateAndOrderPlan reviewers mutualPlan 50 =
    .error (.validationError "dependency cycle detected") := by
  rfl

end SuperAdvisor.MainAgent
