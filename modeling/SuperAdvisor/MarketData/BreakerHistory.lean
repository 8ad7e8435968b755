import Mathlib.Algebra.Order.Ring.Rat
import SuperAdvisor.MarketData.FredAdapter

/-!
# Histories of the circuit breaker

The breaker with any threshold and any reset time.  It restarts when a success is
recorded, and when it is read after its time is up; between two restarts its
state is the number of failures and the time of the last one.
-/

namespace SuperAdvisor.MarketData

/-- The arguments of the constructor. -/
structure BreakerRule where
  failureThreshold : Int := 3
  resetSeconds : Int := 300

namespace BreakerRule

variable (rule : BreakerRule)

def isOpen (breaker : CircuitBreaker) (now : Rat) : Bool × CircuitBreaker :=
  match breaker.openedAt with
  | none => (false, breaker)
  | some openedAt =>
      if (rule.resetSeconds : Rat) < now - openedAt then (false, {}) else (true, breaker)

def recordFailure (breaker : CircuitBreaker) (now : Rat) : CircuitBreaker :=
  let failures := breaker.failures + 1
  { failures := failures
    openedAt := if rule.failureThreshold ≤ failures then some now else breaker.openedAt }

/-- The rule of the adapter. -/
theorem isOpen_default : ({} : BreakerRule).isOpen = CircuitBreaker.isOpen := rfl

theorem recordFailure_default :
    ({} : BreakerRule).recordFailure = CircuitBreaker.recordFailure := by
  funext breaker now
  have same : (3 : Int) ≤ (breaker.failures + 1 : Nat) ↔ 3 ≤ breaker.failures + 1 := by omega
  simp only [recordFailure, CircuitBreaker.recordFailure, CircuitBreaker.threshold, same]
  congr

end BreakerRule

inductive BreakerCall where
  | isOpen
  | recordFailure
  | recordSuccess
  deriving DecidableEq

structure TimedCall where
  call : BreakerCall
  time : Rat

namespace BreakerRule

variable (rule : BreakerRule)

def step (breaker : CircuitBreaker) (timed : TimedCall) : CircuitBreaker :=
  match timed.call with
  | .isOpen => (rule.isOpen breaker timed.time).2
  | .recordFailure => rule.recordFailure breaker timed.time
  | .recordSuccess => breaker.recordSuccess

def run (history : List TimedCall) : CircuitBreaker :=
  history.foldl rule.step {}

/-- The call is a success, or a read that finds the breaker timed out. -/
def Restarts (breaker : CircuitBreaker) (timed : TimedCall) : Prop :=
  timed.call = .recordSuccess ∨
    timed.call = .isOpen ∧ ∃ openedAt, breaker.openedAt = some openedAt ∧
      (rule.resetSeconds : Rat) < timed.time - openedAt

/-- `since` is what follows the last restart, or all if there is none. -/
structure SinceRestart (before since : List TimedCall) : Prop where
  start : before = [] ∨
    ∃ earlier last, before = earlier ++ [last] ∧ rule.Restarts (rule.run earlier) last
  quiet : ∀ first timed rest, since = first ++ timed :: rest →
    ¬rule.Restarts (rule.run (before ++ first)) timed

end BreakerRule

/-- The times of the recorded failures. -/
def failureTimes (history : List TimedCall) : List Rat :=
  (history.filter fun timed => timed.call = .recordFailure).map TimedCall.time

/-- The state of a breaker that has counted these failures. -/
def BreakerRule.counting (rule : BreakerRule) (failures : List Rat) : CircuitBreaker :=
  { failures := failures.length
    openedAt := if rule.failureThreshold ≤ failures.length then failures.getLast? else none }

section Steps

variable {rule : BreakerRule} {breaker : CircuitBreaker} {timed : TimedCall}

theorem run_append (before since : List TimedCall) :
    rule.run (before ++ since) = since.foldl rule.step (rule.run before) :=
  List.foldl_append

theorem step_of_restarts (restarts : rule.Restarts breaker timed) :
    rule.step breaker timed = {} := by
  obtain ⟨call, time⟩ := timed
  rcases restarts with isSuccess | ⟨isRead, openedAt, opened, late⟩
  · cases isSuccess
    rfl
  · cases isRead
    simp only at late
    simp [BreakerRule.step, BreakerRule.isOpen, opened, late]

/-- A failure is counted, and arms the breaker once there are enough. -/
theorem recordFailure_counting (failures : List Rat) (time : Rat) :
    rule.recordFailure (rule.counting failures) time = rule.counting (failures ++ [time]) := by
  have counted : (failures ++ [time]).length = failures.length + 1 := by simp
  have latest : (failures ++ [time]).getLast? = some time := List.getLast?_concat
  unfold BreakerRule.counting
  rw [counted, latest]
  change CircuitBreaker.mk (failures.length + 1)
      (if rule.failureThreshold ≤ (failures.length + 1 : Nat) then some time
        else if rule.failureThreshold ≤ failures.length then failures.getLast? else none) = _
  by_cases enough : rule.failureThreshold ≤ (failures.length + 1 : Nat)
  · rw [if_pos enough, if_pos enough]
  · have fewer : ¬rule.failureThreshold ≤ failures.length := by omega
    rw [if_neg enough, if_neg enough, if_neg fewer]

/-- Any other call that does not restart changes nothing. -/
theorem step_of_not_restarts
    (quiet : ¬rule.Restarts breaker timed) (other : timed.call ≠ .recordFailure) :
    rule.step breaker timed = breaker := by
  obtain ⟨call, time⟩ := timed
  cases call with
  | recordFailure => exact absurd rfl other
  | recordSuccess => exact absurd (Or.inl rfl) quiet
  | isOpen =>
      change (rule.isOpen breaker time).2 = breaker
      unfold BreakerRule.isOpen
      split
      · rfl
      next openedAt opened =>
        rw [if_neg]
        exact fun late => quiet (.inr ⟨rfl, openedAt, opened, late⟩)

end Steps

section Histories

variable {rule : BreakerRule} {before since : List TimedCall}

theorem run_of_start
    (start : before = [] ∨
      ∃ earlier last, before = earlier ++ [last] ∧ rule.Restarts (rule.run earlier) last) :
    rule.run before = {} := by
  rcases start with rfl | ⟨earlier, last, rfl, restarts⟩
  · rfl
  · rw [run_append]
    exact step_of_restarts restarts

/-- Since a restart the breaker counts the failures. -/
theorem run_since (known : rule.SinceRestart before since) :
    rule.run (before ++ since) = rule.counting (failureTimes since) := by
  induction since using List.reverseRecOn with
  | nil =>
      rw [List.append_nil, run_of_start known.start]
      simp [BreakerRule.counting, failureTimes]
  | append_singleton since timed induction =>
      have earlier : rule.SinceRestart before since :=
        ⟨known.start, fun first other rest shape =>
          known.quiet first other (rest ++ [timed]) (by simp [shape])⟩
      have quiet := known.quiet since timed [] rfl
      rw [← List.append_assoc, run_append, List.foldl_cons, List.foldl_nil]
      by_cases failed : timed.call = .recordFailure
      · have counted := @recordFailure_counting rule (failureTimes since) timed.time
        rw [induction earlier, BreakerRule.step, failed, counted]
        simp [failureTimes, failed]
      · rw [step_of_not_restarts quiet failed, induction earlier]
        simp [failureTimes, failed]

/-- Every history has a last restart, or none. -/
theorem exists_sinceRestart (rule : BreakerRule) (history : List TimedCall) :
    ∃ before since, history = before ++ since ∧ rule.SinceRestart before since := by
  induction history using List.reverseRecOn with
  | nil => exact ⟨[], [], rfl, .inl rfl, by simp⟩
  | append_singleton history timed induction =>
      obtain ⟨before, since, rfl, known⟩ := induction
      by_cases restarts : rule.Restarts (rule.run (before ++ since)) timed
      · exact ⟨before ++ since ++ [timed], [], by simp, .inr ⟨_, timed, rfl, restarts⟩, by simp⟩
      · refine ⟨before, since ++ [timed], by simp, known.start, ?_⟩
        intro first other rest shape
        rcases List.eq_nil_or_concat rest with rfl | ⟨rest, last, rfl⟩
        · obtain ⟨rfl, same⟩ := List.append_inj' shape rfl
          cases same
          exact restarts
        · rw [List.concat_eq_append, ← List.cons_append, ← List.append_assoc] at shape
          exact known.quiet first other rest (List.append_inj' shape rfl).1

theorem isOpen_counting (failures : List Rat) (now : Rat) :
    (rule.isOpen (rule.counting failures) now).1 = true ↔
      rule.failureThreshold ≤ failures.length ∧
        ∃ latest, failures.getLast? = some latest ∧ now - latest ≤ rule.resetSeconds := by
  unfold BreakerRule.isOpen BreakerRule.counting
  by_cases many : rule.failureThreshold ≤ failures.length
  · simp only [many, if_true, true_and]
    cases failures.getLast? with
    | none => simp
    | some latest =>
        simp only [Option.some.injEq, exists_eq_left']
        split
        next late => exact iff_of_false Bool.false_ne_true (not_le.mpr late)
        next early => exact iff_of_true rfl (not_lt.mp early)
  · simp [many]

end Histories

/-- In order, the last of some times is the latest. -/
theorem getLast?_eq_some_iff_latest {times : List Rat} (ordered : times.Pairwise (· ≤ ·))
    (latest : Rat) :
    times.getLast? = some latest ↔ latest ∈ times ∧ ∀ time ∈ times, time ≤ latest := by
  rcases List.eq_nil_or_concat times with rfl | ⟨earlier, last, rfl⟩
  · simp
  · rw [List.concat_eq_append] at ordered ⊢
    have bounded := (List.pairwise_append.mp ordered).2.2
    rw [List.getLast?_concat, Option.some.injEq]
    constructor
    · rintro rfl
      refine ⟨by simp, fun time member => ?_⟩
      rcases List.mem_append.mp member with early | same
      · exact bounded time early _ (by simp)
      · exact (List.mem_singleton.mp same).le
    · rintro ⟨member, above⟩
      refine le_antisymm (above last (by simp)) ?_
      rcases List.mem_append.mp member with early | same
      · exact bounded latest early _ (by simp)
      · exact (List.mem_singleton.mp same).le

/-- Three failures in a row. -/
def threeFailures : List TimedCall :=
  [⟨.recordFailure, 0⟩, ⟨.recordFailure, 10⟩, ⟨.recordFailure, 20⟩]

end SuperAdvisor.MarketData
