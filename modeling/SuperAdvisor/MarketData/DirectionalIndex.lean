import SuperAdvisor.Foundation.RaisingLoops
import SuperAdvisor.MarketData.Features

/-!
# The directional index

`compute_adx` over exact rational numbers.  Between two candles the movement in
one direction stays within the true range, and the sums and the smoothing keep
that; so every divisor is positive and every indicator is a percentage.
-/

namespace SuperAdvisor.MarketData

open Averages

/-- The two directional movements and the true range, of a step or summed up. -/
structure Movement where
  plus : ℚ
  minus : ℚ
  range : ℚ

namespace Movement

/-- No movement is negative and both together stay within the range. -/
structure Bounded (movement : Movement) : Prop where
  plus : 0 ≤ movement.plus
  minus : 0 ≤ movement.minus
  total : movement.plus + movement.minus ≤ movement.range

def sum (movements : List Movement) : Movement :=
  { plus := (movements.map plus).sum
    minus := (movements.map minus).sum
    range := (movements.map range).sum }

/-- The smoothing step `total - total / period + next`. -/
def smooth (period : ℕ) (total next : Movement) : Except ArithmeticError Movement := do
  let range ← divide total.range period
  let plus ← divide total.plus period
  let minus ← divide total.minus period
  .ok
    { plus := total.plus - plus + next.plus
      minus := total.minus - minus + next.minus
      range := total.range - range + next.range }

end Movement

/-- From one candle to the next. -/
def movementOf (high low lastHigh lastLow lastClose : ℚ) : Movement :=
  let highDiff := high - lastHigh
  let lowDiff := lastLow - low
  { plus := if lowDiff < highDiff then max highDiff 0 else 0
    minus := if highDiff < lowDiff then max lowDiff 0 else 0
    range := max (max (high - low) |high - lastClose|) |low - lastClose| }

def movementAt (highs lows closes : List ℚ) (index : ℕ) : Except ArithmeticError Movement := do
  let high ← entry highs index
  let lastHigh ← entry highs (index - 1)
  let lastLow ← entry lows (index - 1)
  let low ← entry lows index
  let lastClose ← entry closes (index - 1)
  .ok (movementOf high low lastHigh lastLow lastClose)

/-- One movement for each index from one on. -/
def movements (highs lows closes : List ℚ) : Except ArithmeticError (List Movement) :=
  (List.range' 1 (highs.length - 1)).mapM (movementAt highs lows closes)

/-- The sum of the first period, smoothed over the rest. -/
def smoothed (period : ℕ) (steps : List Movement) : Except ArithmeticError Movement :=
  (steps.drop period).foldlM (Movement.smooth period) (Movement.sum (steps.take period))

/-- The two indicators of a range that is not zero. -/
def directionalIndicators (total : Movement) : Except ArithmeticError (ℚ × ℚ) := do
  let plus ← divide (100 * total.plus) total.range
  let minus ← divide (100 * total.minus) total.range
  .ok (plus, minus)

/-- The index of two indicators. -/
def directionalMovement (plus minus : ℚ) : Except ArithmeticError ℚ :=
  if 0 < plus + minus then divide (100 * |plus - minus|) (plus + minus) else .ok 0

/-- The index of the smoothed sums. -/
def indexOf (total : Movement) : Except ArithmeticError ℚ :=
  if total.range = 0 then .ok 0
  else do
    let (plus, minus) ← directionalIndicators total
    directionalMovement plus minus

/-- The returned number before it is rounded, if there are enough candles. -/
def adxValue (highs lows closes : List ℚ) (period : ℕ) : Except ArithmeticError (Option ℚ) :=
  if highs.length < period * 2 then .ok none
  else do
    let steps ← movements highs lows closes
    let total ← smoothed period steps
    let index ← indexOf total
    .ok (some index)

def computeAdx (highs lows closes : List ℚ) (period : ℕ) :
    Except ArithmeticError (FeatureResult ℚ) := do
  match ← adxValue highs lows closes period with
  | none => .ok (.insufficient "adx")
  | some index => .ok (.valid "adx" (roundTo 4 index))

/-- The three columns of the same candles, each with its close between its low
and its high. -/
structure Candles (highs lows closes : List ℚ) : Prop where
  sameLows : lows.length = highs.length
  sameCloses : closes.length = highs.length
  ordered : ∀ (index : ℕ) low close high, lows[index]? = some low → closes[index]? = some close →
    highs[index]? = some high → low ≤ close ∧ close ≤ high

section Steps

variable {lastHigh lastLow lastClose : ℚ}

/-- Only one direction counts, and the last close lies on the way. -/
theorem movementOf_bounded (high low : ℚ) (below : lastLow ≤ lastClose) (above : lastClose ≤ lastHigh) :
    (movementOf high low lastHigh lastLow lastClose).Bounded := by
  have up : high - lastHigh ≤ max (max (high - low) |high - lastClose|) |low - lastClose| := by
    calc
      high - lastHigh ≤ high - lastClose := by linarith
      _ ≤ |high - lastClose| := le_abs_self _
      _ ≤ _ := (le_max_right _ _).trans (le_max_left _ _)
  have down : lastLow - low ≤ max (max (high - low) |high - lastClose|) |low - lastClose| := by
    calc
      lastLow - low ≤ -(low - lastClose) := by linarith
      _ ≤ |low - lastClose| := neg_le_abs _
      _ ≤ _ := le_max_right _ _
  have nonneg : 0 ≤ max (max (high - low) |high - lastClose|) |low - lastClose| :=
    (abs_nonneg _).trans (le_max_right _ _)
  unfold movementOf
  constructor
  · dsimp only
    split
    · exact le_max_right _ _
    · exact le_rfl
  · dsimp only
    split
    · exact le_max_right _ _
    · exact le_rfl
  · dsimp only
    rcases lt_trichotomy (lastLow - low) (high - lastHigh) with rising | level | falling
    · rw [if_pos rising, if_neg rising.not_gt, add_zero]
      exact max_le up nonneg
    · rw [if_neg level.not_lt, if_neg level.not_gt, add_zero]
      exact nonneg
    · rw [if_neg falling.not_gt, if_pos falling, zero_add]
      exact max_le down nonneg

end Steps

section Sums

variable {total next : Movement} {steps : List Movement} {period : ℕ}

theorem Movement.bounded_sum (bounded : ∀ step ∈ steps, step.Bounded) :
    (Movement.sum steps).Bounded := by
  induction steps with
  | nil => constructor <;> simp [Movement.sum]
  | cons step steps induction =>
      obtain ⟨head, tail⟩ := List.forall_mem_cons.mp bounded
      have rest := induction tail
      constructor
      · simpa [Movement.sum] using add_nonneg head.plus rest.plus
      · simpa [Movement.sum] using add_nonneg head.minus rest.minus
      · have both := add_le_add head.total rest.total
        simp only [Movement.sum, List.map_cons, List.sum_cons] at both ⊢
        linarith

/-- Smoothing divides by the period only, and keeps the bounds. -/
theorem Movement.bounded_smooth
    (positive : 0 < period) (totalBounded : total.Bounded) (nextBounded : next.Bounded) :
    ∃ after, Movement.smooth period total next = .ok after ∧ after.Bounded := by
  have nonzero : (period : ℚ) ≠ 0 := Nat.cast_ne_zero.mpr positive.ne'
  refine ⟨_, by simp only [Movement.smooth, divide_of_ne_zero nonzero]; rfl, ?_⟩
  have share : (0 : ℚ) ≤ 1 - 1 / period := by
    rw [sub_nonneg, div_le_one (Nat.cast_pos.mpr positive)]
    exact Nat.one_le_cast.mpr positive
  have kept : ∀ number : ℚ, number * (1 - 1 / period) = number - number / period := by
    intro number
    ring
  have plus := mul_nonneg totalBounded.plus share
  have minus := mul_nonneg totalBounded.minus share
  have both := mul_le_mul_of_nonneg_right totalBounded.total share
  rw [add_mul, kept, kept, kept] at both
  rw [kept] at plus minus
  constructor
  · exact add_nonneg plus nextBounded.plus
  · exact add_nonneg minus nextBounded.minus
  · dsimp only
    linarith [nextBounded.total]

theorem bounded_foldlM_smooth
    (positive : 0 < period) (start : total.Bounded) (bounded : ∀ step ∈ steps, step.Bounded) :
    ∃ after, steps.foldlM (Movement.smooth period) total = .ok after ∧ after.Bounded := by
  induction steps generalizing total with
  | nil => exact ⟨total, rfl, start⟩
  | cons step steps induction =>
      obtain ⟨head, tail⟩ := List.forall_mem_cons.mp bounded
      obtain ⟨next, stepped, nextBounded⟩ := Movement.bounded_smooth positive start head
      obtain ⟨after, ran, afterBounded⟩ := induction nextBounded tail
      refine ⟨after, ?_, afterBounded⟩
      rw [List.foldlM_cons, stepped]
      exact ran

theorem bounded_smoothed
    (positive : 0 < period) (bounded : ∀ step ∈ steps, step.Bounded) :
    ∃ total, smoothed period steps = .ok total ∧ total.Bounded := by
  have start : (Movement.sum (steps.take period)).Bounded :=
    Movement.bounded_sum fun step member => bounded step (List.mem_of_mem_take member)
  exact bounded_foldlM_smooth positive start
    fun step member => bounded step (List.mem_of_mem_drop member)

end Sums

section Index

variable {highs lows closes : List ℚ} {period : ℕ} {total : Movement}

/-- Every step between two of the candles is there, and bounded. -/
theorem bounded_movementAt
    (candles : Candles highs lows closes) {index : ℕ} (inside : index < highs.length) :
    ∃ step, movementAt highs lows closes index = .ok step ∧ step.Bounded := by
  have before : index - 1 < highs.length := (Nat.sub_le _ _).trans_lt inside
  have insideLows := candles.sameLows ▸ inside
  have beforeLows := candles.sameLows ▸ before
  have beforeCloses := candles.sameCloses ▸ before
  obtain ⟨below, above⟩ := candles.ordered (index - 1) _ _ _ (List.getElem?_eq_getElem beforeLows)
    (List.getElem?_eq_getElem beforeCloses) (List.getElem?_eq_getElem before)
  refine ⟨_, ?_, movementOf_bounded highs[index] lows[index] below above⟩
  rw [movementAt, entry_of_lt inside, entry_of_lt before, entry_of_lt insideLows,
    entry_of_lt beforeLows, entry_of_lt beforeCloses]
  rfl

theorem exists_movements (candles : Candles highs lows closes) :
    ∃ steps, movements highs lows closes = .ok steps ∧ ∀ step ∈ steps, step.Bounded := by
  have reached : ∀ index ∈ List.range' 1 (highs.length - 1), index < highs.length := by
    intro index member
    rw [List.mem_range'_1] at member
    omega
  obtain ⟨steps, collected⟩ := Python.exists_mapM_iff.mpr fun index member => by
    obtain ⟨step, there, -⟩ := bounded_movementAt candles (reached index member)
    exact ⟨step, there⟩
  refine ⟨steps, collected, fun step member => ?_⟩
  obtain ⟨index, listed, there⟩ :=
    Python.exists_of_mem_right (Python.mapM_eq_ok_iff.mp collected) member
  obtain ⟨other, same, bounded⟩ := bounded_movementAt candles (reached index listed)
  cases there.symm.trans same
  exact bounded

/-- The indicators of a bounded total divide by a positive range. -/
theorem bounded_directionalIndicators (bounded : total.Bounded) (nonzero : total.range ≠ 0) :
    ∃ plus minus, directionalIndicators total = .ok (plus, minus) ∧ IsPercentage plus ∧
      IsPercentage minus := by
  obtain ⟨plus, minus, within⟩ := bounded
  have positive : 0 < total.range := lt_of_le_of_ne (by linarith) nonzero.symm
  refine ⟨_, _, ?_, isPercentage_of_le plus (by linarith) positive,
    isPercentage_of_le minus (by linarith) positive⟩
  simp only [directionalIndicators, divide_of_ne_zero nonzero]
  rfl

/-- The index of two indicators that are not negative is a percentage. -/
theorem bounded_directionalMovement
    {plus minus : ℚ} (plusNonneg : 0 ≤ plus) (minusNonneg : 0 ≤ minus) :
    ∃ index, directionalMovement plus minus = .ok index ∧ IsPercentage index := by
  unfold directionalMovement
  split
  next positive =>
    refine ⟨_, divide_of_ne_zero positive.ne' _, isPercentage_of_le (abs_nonneg _) ?_ positive⟩
    exact abs_sub_le_iff.mpr ⟨by linarith, by linarith⟩
  next => exact ⟨0, rfl, le_rfl, by norm_num⟩

/-- The index of a bounded total is a percentage. -/
theorem bounded_indexOf (bounded : total.Bounded) :
    ∃ index, indexOf total = .ok index ∧ IsPercentage index := by
  unfold indexOf
  split
  · exact ⟨0, rfl, le_rfl, by norm_num⟩
  next nonzero =>
    obtain ⟨plus, minus, indicated, plusPercentage, minusPercentage⟩ :=
      bounded_directionalIndicators bounded nonzero
    rw [indicated]
    exact bounded_directionalMovement plusPercentage.1 minusPercentage.1

/-- No division raises; the smoothed sums are bounded, and the indicators and the
returned number are percentages. -/
theorem adx_bounded (candles : Candles highs lows closes) (positive : 0 < period) :
    (highs.length < period * 2 →
      computeAdx highs lows closes period = .ok (.insufficient "adx")) ∧
    (period * 2 ≤ highs.length → ∃ steps total index,
      movements highs lows closes = .ok steps ∧ smoothed period steps = .ok total ∧
      total.Bounded ∧
      (total.range ≠ 0 → ∃ plus minus, directionalIndicators total = .ok (plus, minus) ∧
        IsPercentage plus ∧ IsPercentage minus) ∧
      indexOf total = .ok index ∧ IsPercentage index ∧
      computeAdx highs lows closes period = .ok (.valid "adx" (roundTo 4 index))) := by
  constructor
  · intro short
    rw [computeAdx, adxValue, if_pos short]
    rfl
  · intro enough
    obtain ⟨steps, stepped, stepsBounded⟩ := exists_movements candles
    obtain ⟨total, summed, bounded⟩ := bounded_smoothed positive stepsBounded
    obtain ⟨index, indexed, percentage⟩ := bounded_indexOf bounded
    refine ⟨steps, total, index, stepped, summed, bounded,
      bounded_directionalIndicators bounded, indexed, percentage, ?_⟩
    simp only [computeAdx, adxValue, if_neg (not_lt.mpr enough), stepped, summed, indexed, bind,
      Except.bind]

end Index

/-- Two candles, the second one above the first. -/
theorem risingCandles_bounded :
    ∃ index, computeAdx [2, 4] [1, 2] [2, 3] 1 = .ok (.valid "adx" (roundTo 4 index)) ∧
      IsPercentage index := by
  have candles : Candles [2, 4] [1, 2] [2, 3] := by
    refine ⟨rfl, rfl, fun index low close high isLow isClose isHigh => ?_⟩
    match index with
    | 0 =>
        cases isLow
        cases isClose
        cases isHigh
        norm_num
    | 1 =>
        cases isLow
        cases isClose
        cases isHigh
        norm_num
    | index + 2 => cases isLow
  obtain ⟨-, -, index, -, -, -, -, -, percentage, computed⟩ :=
    (adx_bounded candles Nat.one_pos).2 (by decide)
  exact ⟨index, computed, percentage⟩

end SuperAdvisor.MarketData
