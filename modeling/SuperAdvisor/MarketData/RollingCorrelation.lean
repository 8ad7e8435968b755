import Mathlib.Analysis.Real.Sqrt
import SuperAdvisor.MarketData.Features

/-!
# Rolling correlation

`rolling_correlation` for any square root, and over the real numbers with the
real one.  The covariance and the variances are sums over the pairs of the
window, so the inequality of Cauchy and Schwarz bounds the correlation.
-/

namespace SuperAdvisor.MarketData

open Averages

section Definitions

variable {K : Type} [Field K] [DecidableEq K]

def meanOf (values : List K) (window : ℕ) : Except ArithmeticError K :=
  divide values.sum window

def covarianceOf (a b : List K) (window : ℕ) : Except ArithmeticError K := do
  let meanA ← meanOf a window
  let meanB ← meanOf b window
  divide ((List.zip a b).map fun pair => (pair.1 - meanA) * (pair.2 - meanB)).sum window

def varianceOf (values : List K) (window : ℕ) : Except ArithmeticError K := do
  let mean ← meanOf values window
  divide (values.map fun value => (value - mean) ^ 2).sum window

inductive Correlation (Number : Type) where
  | insufficient
  | zeroVariance
  | value (number : Number)
  deriving DecidableEq

variable (sqrt : K → K)

/-- The correlation before it is rounded. -/
def correlation (seriesA seriesB : List K) (window : ℕ) :
    Except ArithmeticError (Correlation K) :=
  if seriesA.length < window ∨ seriesB.length < window then .ok .insufficient
  else do
    let a := lastEntries window seriesA
    let b := lastEntries window seriesB
    let cov ← covarianceOf a b window
    let varianceA ← varianceOf a window
    let varianceB ← varianceOf b window
    let stdA := sqrt varianceA
    let stdB := sqrt varianceB
    if stdA = 0 ∨ stdB = 0 then .ok .zeroVariance
    else do
      let quotient ← divide cov (stdA * stdB)
      .ok (.value quotient)

/-- The result with its number rounded. -/
def Correlation.feature (round : K → K) : Correlation K → FeatureResult K
  | .insufficient => .insufficient "correlation"
  | .zeroVariance =>
      { name := "correlation", value := .number 0, qualityStatus := .zeroVariance }
  | .value quotient => .valid "correlation" (round quotient)

def rollingCorrelation (round : K → K) (seriesA seriesB : List K) (window : ℕ) :
    Except ArithmeticError (FeatureResult K) :=
  (correlation sqrt seriesA seriesB window).map (Correlation.feature round)

end Definitions

section Moments

noncomputable def windowMean (values : List ℝ) : ℝ :=
  values.sum / values.length

noncomputable def windowCovariance (a b : List ℝ) : ℝ :=
  ((List.zip a b).map fun pair => (pair.1 - windowMean a) * (pair.2 - windowMean b)).sum /
    a.length

noncomputable def windowVariance (values : List ℝ) : ℝ :=
  (values.map fun value => (value - windowMean values) ^ 2).sum / values.length

variable {a b : List ℝ} {window : ℕ}

theorem meanOf_eq (positive : 0 < window) (length : a.length = window) :
    meanOf a window = .ok (windowMean a) := by
  subst length
  exact divide_of_ne_zero (Nat.cast_ne_zero.mpr positive.ne') _

theorem covarianceOf_eq
    (positive : 0 < window) (lengthA : a.length = window) (lengthB : b.length = window) :
    covarianceOf a b window = .ok (windowCovariance a b) := by
  have nonzero : (window : ℝ) ≠ 0 := Nat.cast_ne_zero.mpr positive.ne'
  simp only [covarianceOf, meanOf_eq positive lengthA, meanOf_eq positive lengthB,
    divide_of_ne_zero nonzero, windowCovariance, lengthA, bind, Except.bind]

theorem varianceOf_eq (positive : 0 < window) (length : a.length = window) :
    varianceOf a window = .ok (windowVariance a) := by
  have nonzero : (window : ℝ) ≠ 0 := Nat.cast_ne_zero.mpr positive.ne'
  simp only [varianceOf, meanOf_eq positive length, divide_of_ne_zero nonzero, windowVariance,
    length, bind, Except.bind]

theorem windowCovariance_comm (same : a.length = b.length) :
    windowCovariance b a = windowCovariance a b := by
  rw [windowCovariance, windowCovariance, ← List.zip_swap a b, List.map_map, same]
  simp only [Function.comp_def, Prod.fst_swap, Prod.snd_swap, mul_comm]

theorem windowVariance_nonneg : 0 ≤ windowVariance a := by
  refine div_nonneg (List.sum_nonneg ?_) a.length.cast_nonneg
  simp only [List.forall_mem_map]
  exact fun value _ => sq_nonneg _

/-- A variance is zero only if all values are equal. -/
theorem windowVariance_pos {x y : ℝ} (isX : x ∈ a) (isY : y ∈ a) (different : x ≠ y) :
    0 < windowVariance a := by
  refine lt_of_le_of_ne windowVariance_nonneg fun zero => different ?_
  have nonzero : (a.length : ℝ) ≠ 0 := Nat.cast_ne_zero.mpr (List.length_pos_of_mem isX).ne'
  have total := (div_eq_zero_iff.mp zero.symm).resolve_right nonzero
  have squares : ∀ square ∈ a.map (fun value => (value - windowMean a) ^ 2), 0 ≤ square := by
    simp only [List.forall_mem_map]
    exact fun value _ => sq_nonneg _
  have equal : ∀ value ∈ a, value = windowMean a := by
    intro value member
    have square := List.all_zero_of_le_zero_le_of_sum_eq_zero squares total
      (List.mem_map_of_mem member)
    exact sub_eq_zero.mp (pow_eq_zero_iff two_ne_zero |>.mp square)
  rw [equal x isX, equal y isY]

/-- The squared covariance stays within the product of the variances. -/
theorem windowCovariance_sq_le (same : a.length = b.length) :
    windowCovariance a b ^ 2 ≤ windowVariance a * windowVariance b := by
  have first : a.map (fun value => (value - windowMean a) ^ 2) =
      (List.zip a b).map fun pair => (pair.1 - windowMean a) ^ 2 := by
    conv_lhs => rw [← List.map_fst_zip same.le, List.map_map]
    rw [List.map_fst_zip same.le]
    rfl
  have second : b.map (fun value => (value - windowMean b) ^ 2) =
      (List.zip a b).map fun pair => (pair.2 - windowMean b) ^ 2 := by
    conv_lhs => rw [← List.map_snd_zip same.ge, List.map_map]
    rw [List.map_snd_zip same.ge]
    rfl
  rw [windowCovariance, windowVariance, windowVariance, first, second, ← same, div_pow,
    div_mul_div_comm, ← sq]
  exact div_le_div_of_nonneg_right (sum_mul_sq_le _ _ _) (sq_nonneg _)

section Affine

variable {scale shift : ℝ}

theorem windowMean_affine (nonempty : a ≠ []) :
    windowMean (a.map fun value => scale * value + shift) = scale * windowMean a + shift := by
  rw [windowMean, List.length_map]
  exact mean_affine scale shift nonempty

theorem windowVariance_affine (nonempty : a ≠ []) :
    windowVariance (a.map fun value => scale * value + shift) =
      scale ^ 2 * windowVariance a := by
  have squares : ∀ value, (scale * value + shift - (scale * windowMean a + shift)) ^ 2 =
      scale ^ 2 * (value - windowMean a) ^ 2 := by
    intro value
    ring
  simp only [windowVariance, windowMean_affine nonempty, List.map_map, Function.comp_def, squares,
    List.sum_map_mul_left, List.length_map, mul_div_assoc]

theorem windowCovariance_affine (nonempty : a ≠ []) :
    windowCovariance a (a.map fun value => scale * value + shift) =
      scale * windowVariance a := by
  have products : ∀ value, (value - windowMean a) *
      (scale * value + shift - (scale * windowMean a + shift)) =
        scale * (value - windowMean a) ^ 2 := by
    intro value
    ring
  have pairs : List.zip a (a.map fun value => scale * value + shift) =
      a.map fun value => (value, scale * value + shift) := by
    simpa using List.zip_map' (l := a) (f := id) (g := fun value => scale * value + shift)
  simp only [windowCovariance, windowVariance, windowMean_affine nonempty, pairs, List.map_map,
    Function.comp_def, products, List.sum_map_mul_left, mul_div_assoc]

end Affine

end Moments

/-- The correlation of two windows. -/
noncomputable def windowCorrelation (a b : List ℝ) : Correlation ℝ :=
  if √(windowVariance a) = 0 ∨ √(windowVariance b) = 0 then .zeroVariance
  else .value (windowCovariance a b / (√(windowVariance a) * √(windowVariance b)))

section Correlation

variable {a b : List ℝ}

theorem windowCorrelation_comm (same : a.length = b.length) :
    windowCorrelation b a = windowCorrelation a b := by
  simp only [windowCorrelation, windowCovariance_comm same, or_comm, mul_comm]

theorem windowCorrelation_bounded
    (same : a.length = b.length) {number : ℝ} (known : windowCorrelation a b = .value number) :
    -1 ≤ number ∧ number ≤ 1 := by
  unfold windowCorrelation at known
  split at known
  next => cases known
  next nonzero =>
    obtain ⟨stdA, stdB⟩ := not_or.mp nonzero
    have positive : 0 < √(windowVariance a) * √(windowVariance b) :=
      mul_pos (lt_of_le_of_ne (Real.sqrt_nonneg _) (Ne.symm stdA))
        (lt_of_le_of_ne (Real.sqrt_nonneg _) (Ne.symm stdB))
    have within : |windowCovariance a b| ≤ √(windowVariance a) * √(windowVariance b) := by
      rw [← Real.sqrt_mul windowVariance_nonneg]
      exact Real.abs_le_sqrt (windowCovariance_sq_le same)
    obtain rfl := Correlation.value.inj known
    rw [← abs_le, abs_div, abs_of_pos positive, div_le_one positive]
    exact within

/-- An affine image of a window that varies has the correlation of its slope. -/
theorem windowCorrelation_affine
    {x y scale shift : ℝ} (isX : x ∈ a) (isY : y ∈ a) (different : x ≠ y) (slope : scale ≠ 0) :
    windowCorrelation a (a.map fun value => scale * value + shift) =
      .value (if 0 < scale then 1 else -1) := by
  have nonempty : a ≠ [] := List.ne_nil_of_mem isX
  have positive := windowVariance_pos isX isY different
  have std : √(windowVariance a) ≠ 0 := (Real.sqrt_pos.mpr positive).ne'
  rw [windowCorrelation, windowVariance_affine nonempty, windowCovariance_affine nonempty,
    Real.sqrt_mul (sq_nonneg _), Real.sqrt_sq_eq_abs, if_neg]
  · have square : √(windowVariance a) * (|scale| * √(windowVariance a)) =
        |scale| * windowVariance a := by
      rw [mul_left_comm, Real.mul_self_sqrt positive.le]
    rw [square, mul_div_mul_right _ _ positive.ne']
    split
    next rising => rw [abs_of_pos rising, div_self slope]
    next falling =>
      have negative : scale < 0 := lt_of_le_of_ne (not_lt.mp falling) slope
      rw [abs_of_neg negative, div_neg, div_self slope]
  · exact not_or.mpr ⟨std, mul_ne_zero (abs_ne_zero.mpr slope) std⟩

end Correlation

/-- Over long enough series the correlation is that of the two windows. -/
theorem correlation_eq
    {a b : List ℝ} {window : ℕ} (positive : 0 < window) (enoughA : window ≤ a.length)
    (enoughB : window ≤ b.length) :
    correlation Real.sqrt a b window =
      .ok (windowCorrelation (lastEntries window a) (lastEntries window b)) := by
  have lengthA := length_lastEntries enoughA
  have lengthB := length_lastEntries enoughB
  have enough : ¬(a.length < window ∨ b.length < window) :=
    not_or.mpr ⟨not_lt.mpr enoughA, not_lt.mpr enoughB⟩
  simp only [correlation, if_neg enough, covarianceOf_eq positive lengthA lengthB,
    varianceOf_eq positive lengthA, varianceOf_eq positive lengthB, windowCorrelation, bind,
    Except.bind]
  split
  · rfl
  next nonzero =>
    obtain ⟨stdA, stdB⟩ := not_or.mp nonzero
    rw [divide_of_ne_zero (mul_ne_zero stdA stdB)]

/-- The correlation never divides by zero, is symmetric, stays between minus one
and one as the covariance does between the standard deviations, is that of its
slope for an affine image, and depends on the window only. -/
theorem correlation_is_true
    {a b : List ℝ} {window : ℕ} (positive : 0 < window) (enoughA : window ≤ a.length)
    (enoughB : window ≤ b.length) :
    ∃ cov varianceA varianceB result,
      covarianceOf (lastEntries window a) (lastEntries window b) window = .ok cov ∧
      varianceOf (lastEntries window a) window = .ok varianceA ∧
      varianceOf (lastEntries window b) window = .ok varianceB ∧
      cov ^ 2 ≤ varianceA * varianceB ∧
      correlation Real.sqrt a b window = .ok result ∧
      correlation Real.sqrt b a window = .ok result ∧
      (∀ round, rollingCorrelation Real.sqrt round a b window = .ok (result.feature round)) ∧
      (∀ number, result = .value number → -1 ≤ number ∧ number ≤ 1) ∧
      (∀ scale shift, lastEntries window b =
          (lastEntries window a).map (fun value => scale * value + shift) → scale ≠ 0 →
        (∃ x ∈ lastEntries window a, ∃ y ∈ lastEntries window a, x ≠ y) →
          result = .value (if 0 < scale then 1 else -1)) ∧
      ∀ otherA otherB, window ≤ otherA.length → window ≤ otherB.length →
        lastEntries window otherA = lastEntries window a →
        lastEntries window otherB = lastEntries window b →
          correlation Real.sqrt otherA otherB window = .ok result := by
  have lengthA := length_lastEntries enoughA
  have lengthB := length_lastEntries enoughB
  have same := lengthA.trans lengthB.symm
  refine ⟨_, _, _, _, covarianceOf_eq positive lengthA lengthB, varianceOf_eq positive lengthA,
    varianceOf_eq positive lengthB, windowCovariance_sq_le same,
    correlation_eq positive enoughA enoughB, ?_, ?_, fun _ => windowCorrelation_bounded same,
    ?_, ?_⟩
  · rw [correlation_eq positive enoughB enoughA, windowCorrelation_comm same]
  · intro round
    rw [rollingCorrelation, correlation_eq positive enoughA enoughB]
    rfl
  · rintro scale shift image slope ⟨x, isX, y, isY, different⟩
    rw [image, windowCorrelation_affine isX isY different slope]
  · intro otherA otherB enoughOtherA enoughOtherB sameA sameB
    rw [correlation_eq positive enoughOtherA enoughOtherB, sameA, sameB]

/-- A series and its double. -/
theorem doubled_correlates :
    correlation Real.sqrt [5, 1, 2] [2, 4] 2 = .ok (.value 1) := by
  obtain ⟨-, -, -, result, -, -, -, -, value, -, -, -, affine, -⟩ :=
    @correlation_is_true [5, 1, 2] [2, 4] 2 (by decide) (by decide) (by decide)
  have slope : result = .value (if (0 : ℝ) < 2 then 1 else -1) := by
    refine affine 2 0 ?_ two_ne_zero
      ⟨1, by simp [lastEntries], 2, by simp [lastEntries], by norm_num⟩
    norm_num [lastEntries]
  rw [value, slope, if_pos two_pos]

end SuperAdvisor.MarketData
