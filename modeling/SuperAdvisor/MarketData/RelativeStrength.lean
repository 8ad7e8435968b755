import Mathlib.Algebra.Order.Group.MinMax
import SuperAdvisor.MarketData.Features

/-!
# The relative strength index

`compute_rsi` over exact rational numbers.  Negating the closes swaps the gains
and the losses, so the index becomes its distance to one hundred; a window
without any change has the index one hundred on both sides.
-/

namespace SuperAdvisor.MarketData

open Averages

/-- The differences of neighbouring closes. -/
def changes (closes : List ℚ) : List ℚ :=
  List.zipWith (fun close last => close - last) (closes.drop 1) closes

/-- The changes of the window. -/
def recentChanges (closes : List ℚ) (period : ℕ) : List ℚ :=
  lastEntries period (changes closes)

def averageGain (recent : List ℚ) (period : ℕ) : Except ArithmeticError ℚ :=
  divide (recent.map fun change => max change 0).sum period

def averageLoss (recent : List ℚ) (period : ℕ) : Except ArithmeticError ℚ :=
  divide (recent.map fun change => |min change 0|).sum period

/-- The index of the two averages. -/
def strengthIndex (gain loss : ℚ) : Except ArithmeticError ℚ :=
  if loss = 0 then .ok 100
  else do
    let strength ← divide gain loss
    let share ← divide 100 (1 + strength)
    .ok (100 - share)

/-- The index before it is rounded, if there are enough closes. -/
def rsiValue (closes : List ℚ) (period : ℕ) : Except ArithmeticError (Option ℚ) :=
  if closes.length < period + 1 then .ok none
  else do
    let recent := recentChanges closes period
    let gain ← averageGain recent period
    let loss ← averageLoss recent period
    let index ← strengthIndex gain loss
    .ok (some index)

def computeRsi (closes : List ℚ) (period : ℕ) : Except ArithmeticError (FeatureResult ℚ) := do
  match ← rsiValue closes period with
  | none => .ok (.insufficient "rsi")
  | some index => .ok (.valid "rsi" (roundTo 4 index))

/-- The series with every close negated. -/
def mirrored (closes : List ℚ) : List ℚ :=
  closes.map fun close => -close

section Window

variable {recent closes : List ℚ} {period : ℕ}

theorem recentChanges_mirrored :
    recentChanges (mirrored closes) period = mirrored (recentChanges closes period) := by
  rw [recentChanges, recentChanges, mirrored, mirrored, ← lastEntries_map, changes, changes,
    ← List.map_drop, List.zipWith_map, List.map_zipWith]
  congr 2
  funext close last
  ring

/-- Gains and losses swap their places. -/
theorem averageGain_mirrored : averageGain (mirrored recent) period = averageLoss recent period := by
  have swapped : ∀ change : ℚ, max (-change) 0 = |min change 0| := by
    intro change
    rw [abs_of_nonpos (min_le_right _ _), ← max_neg_neg, neg_zero]
  simp only [averageGain, averageLoss, mirrored, List.map_map, Function.comp_def, swapped]

theorem averageLoss_mirrored : averageLoss (mirrored recent) period = averageGain recent period := by
  rw [← averageGain_mirrored, mirrored, mirrored, List.map_map]
  simp

private theorem sum_eq_zero_iff_of_nonneg
    {numbers : List ℚ} (nonneg : ∀ number ∈ numbers, 0 ≤ number) :
    numbers.sum = 0 ↔ ∀ number ∈ numbers, number = 0 :=
  ⟨fun total _ => List.all_zero_of_le_zero_le_of_sum_eq_zero nonneg total, List.sum_eq_zero⟩

/-- The averages of a window, none of which is negative; both are zero only if
nothing changed. -/
theorem exists_averages (positive : 0 < period) (recent : List ℚ) :
    ∃ gain loss, averageGain recent period = .ok gain ∧ averageLoss recent period = .ok loss ∧
      0 ≤ gain ∧ 0 ≤ loss ∧ (gain = 0 ∧ loss = 0 ↔ ∀ change ∈ recent, change = 0) := by
  have nonzero : (period : ℚ) ≠ 0 := Nat.cast_ne_zero.mpr positive.ne'
  have gains : ∀ gain ∈ recent.map (fun change => max change 0), 0 ≤ gain := by simp
  have losses : ∀ loss ∈ recent.map (fun change => |min change 0|), 0 ≤ loss := by simp
  refine ⟨_, _, divide_of_ne_zero nonzero _, divide_of_ne_zero nonzero _,
    div_nonneg (List.sum_nonneg gains) period.cast_nonneg,
    div_nonneg (List.sum_nonneg losses) period.cast_nonneg, ?_⟩
  rw [div_eq_zero_iff, div_eq_zero_iff, or_iff_left nonzero, or_iff_left nonzero,
    sum_eq_zero_iff_of_nonneg gains, sum_eq_zero_iff_of_nonneg losses]
  simp only [List.forall_mem_map, abs_eq_zero, max_eq_right_iff, min_eq_right_iff]
  constructor
  · rintro ⟨noGain, noLoss⟩ change member
    exact le_antisymm (noGain change member) (noLoss change member)
  · intro flat
    exact ⟨fun change member => (flat change member).le, fun change member => (flat change member).ge⟩

end Window

section Index

variable {gain loss : ℚ}

/-- No division raises, and the index is the share of the gains. -/
theorem strengthIndex_of_nonneg (gainNonneg : 0 ≤ gain) (lossNonneg : 0 ≤ loss) :
    strengthIndex gain loss =
      .ok (if loss = 0 then 100 else 100 * gain / (gain + loss)) := by
  unfold strengthIndex
  split
  · rfl
  next nonzero =>
    have positive : 0 < loss := lt_of_le_of_ne lossNonneg (Ne.symm nonzero)
    have total : 1 + gain / loss ≠ 0 := by positivity
    simp only [divide_of_ne_zero nonzero, divide_of_ne_zero total, bind, Except.bind]
    congr 1
    field_simp
    ring

/-- The index is a percentage. -/
theorem strengthIndex_isPercentage (gainNonneg : 0 ≤ gain) (lossNonneg : 0 ≤ loss) :
    IsPercentage (if loss = 0 then 100 else 100 * gain / (gain + loss)) := by
  split
  · exact ⟨by norm_num, le_rfl⟩
  next nonzero =>
    have positive : 0 < loss := lt_of_le_of_ne lossNonneg (Ne.symm nonzero)
    exact isPercentage_of_le gainNonneg (by linarith) (by linarith)

/-- Unless both averages are zero, swapping them mirrors the index. -/
theorem strengthIndex_swap
    (gainNonneg : 0 ≤ gain) (lossNonneg : 0 ≤ loss) (moved : ¬(gain = 0 ∧ loss = 0)) :
    (if gain = 0 then 100 else 100 * loss / (loss + gain)) =
      100 - if loss = 0 then 100 else 100 * gain / (gain + loss) := by
  by_cases noGain : gain = 0
  · have noLoss : loss ≠ 0 := fun zero => moved ⟨noGain, zero⟩
    simp [noGain, noLoss]
  · by_cases noLoss : loss = 0
    · simp [noGain, noLoss]
    · have total : loss + gain ≠ 0 := by
        have positive : 0 < gain := lt_of_le_of_ne gainNonneg (Ne.symm noGain)
        linarith
      rw [if_neg noGain, if_neg noLoss, add_comm gain loss]
      field_simp
      ring

end Index

theorem rsiValue_eq
    {closes : List ℚ} {period : ℕ} (enough : period + 1 ≤ closes.length) {gain loss index : ℚ}
    (gains : averageGain (recentChanges closes period) period = .ok gain)
    (losses : averageLoss (recentChanges closes period) period = .ok loss)
    (indexed : strengthIndex gain loss = .ok index) :
    rsiValue closes period = .ok (some index) := by
  simp only [rsiValue, if_neg (not_lt.mpr enough), gains, losses, indexed, bind, Except.bind]

/-- The index is a percentage, and that of the mirrored series its distance to
one hundred, unless the window is flat: then both are one hundred. -/
theorem rsi_bounded_and_mirrored
    {closes : List ℚ} {period : ℕ} (positive : 0 < period)
    (enough : period + 1 ≤ closes.length) :
    ∃ index other, rsiValue closes period = .ok (some index) ∧
      rsiValue (mirrored closes) period = .ok (some other) ∧ IsPercentage index ∧
      ((∃ change ∈ recentChanges closes period, change ≠ 0) → other = 100 - index) ∧
      ((∀ change ∈ recentChanges closes period, change = 0) → index = 100 ∧ other = 100) := by
  obtain ⟨gain, loss, gains, losses, gainNonneg, lossNonneg, flat⟩ :=
    exists_averages positive (recentChanges closes period)
  have mirroredEnough : period + 1 ≤ (mirrored closes).length := by
    rwa [mirrored, List.length_map]
  refine ⟨_, _,
    rsiValue_eq enough gains losses (strengthIndex_of_nonneg gainNonneg lossNonneg),
    rsiValue_eq mirroredEnough ?_ ?_ (strengthIndex_of_nonneg lossNonneg gainNonneg),
    strengthIndex_isPercentage gainNonneg lossNonneg, ?_, ?_⟩
  · rw [recentChanges_mirrored, averageGain_mirrored, losses]
  · rw [recentChanges_mirrored, averageLoss_mirrored, gains]
  · rintro ⟨change, member, moved⟩
    exact strengthIndex_swap gainNonneg lossNonneg fun zero => moved (flat.mp zero change member)
  · intro still
    obtain ⟨noGain, noLoss⟩ := flat.mpr still
    exact ⟨if_pos noLoss, if_pos noGain⟩

/-- A rise and the fall that mirrors it. -/
theorem rise_mirrored :
    ∃ index other, rsiValue [1, 2] 1 = .ok (some index) ∧
      rsiValue (mirrored [1, 2]) 1 = .ok (some other) ∧ other = 100 - index := by
  obtain ⟨index, other, value, opposite, -, moved, -⟩ :=
    @rsi_bounded_and_mirrored [1, 2] 1 Nat.one_pos (by decide)
  exact ⟨index, other, value, opposite, moved ⟨1, by decide +kernel, by decide⟩⟩

/-- Two equal closes. -/
theorem flatCloses_not_mirrored :
    ¬∀ (closes : List ℚ) (period : ℕ), 0 < period → period + 1 ≤ closes.length →
      ∃ index, rsiValue closes period = .ok (some index) ∧
        rsiValue (mirrored closes) period = .ok (some (100 - index)) := by
  intro all
  obtain ⟨index, value, opposite⟩ := all [1, 1] 1 Nat.one_pos (by decide)
  have hundred : rsiValue [1, 1] 1 = .ok (some 100) := by decide +kernel
  have again : rsiValue (mirrored [1, 1]) 1 = .ok (some 100) := by decide +kernel
  obtain rfl : index = 100 := by simpa [hundred] using value.symm
  rw [again] at opposite
  norm_num at opposite

end SuperAdvisor.MarketData
