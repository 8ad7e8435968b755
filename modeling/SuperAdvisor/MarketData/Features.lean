import SuperAdvisor.Foundation.Averages
import SuperAdvisor.MarketData.Records

/-!
# Moving averages

The features of `market_data/features.py` over exact rational numbers, first of
all the exponential average and the MACD.  The two averages that the MACD
subtracts start at different closes and end at the same one.
-/

namespace SuperAdvisor.MarketData

open Averages

inductive FeatureValue (Number : Type) where
  | number (value : Number)
  | text (value : String)

inductive QualityStatus where
  | valid
  | insufficientData
  | zeroVariance
  deriving DecidableEq

def featuresVersion : String := "features-p2.4-v1"

structure FeatureResult (Number : Type) where
  name : String
  value : FeatureValue Number
  qualityStatus : QualityStatus
  formulaVersion : String := featuresVersion
  realtimeClass : String := "COMPUTED"

namespace FeatureResult

variable {Number : Type}

def insufficient (name : String) : FeatureResult Number :=
  { name := name, value := .text "INSUFFICIENT_DATA", qualityStatus := .insufficientData }

def valid (name : String) (number : Number) : FeatureResult Number :=
  { name := name, value := .number number, qualityStatus := .valid }

end FeatureResult

/-- `round(value, digits)` -/
def roundTo (digits : ℕ) (value : ℚ) : ℚ :=
  roundHalfEven (value * 10 ^ digits) / 10 ^ digits

def IsPercentage (number : ℚ) : Prop :=
  0 ≤ number ∧ number ≤ 100

theorem isPercentage_of_le
    {part whole : ℚ} (nonneg : 0 ≤ part) (within : part ≤ whole) (positive : 0 < whole) :
    IsPercentage (100 * part / whole) := by
  constructor
  · positivity
  · rw [div_le_iff₀ positive]
    linarith

/-- The exponential average for a positive period. -/
def ema (values : List ℚ) (period : ℕ) : List ℚ :=
  if values.length < period then []
  else
    carried (2 / ((period : ℚ) + 1)) ((values.take period).sum / period) (values.drop period)

/-- The three values of the MACD before they are rounded. -/
structure MacdValues where
  line : ℚ
  signal : ℚ
  histogram : ℚ

/-- The differences of the two averages, for as many closes as both have. -/
def macdLine (closes : List ℚ) (fast slow : ℕ) : List ℚ :=
  let emaFast := ema closes fast
  let emaSlow := ema closes slow
  let minLen := min emaFast.length emaSlow.length
  List.zipWith (fun f s => f - s) (lastEntries minLen emaFast) (lastEntries minLen emaSlow)

def macdValues (closes : List ℚ) (fast slow signalPeriod : ℕ) : Option MacdValues :=
  if min (ema closes fast).length (ema closes slow).length < signalPeriod then none
  else
    let line := macdLine closes fast slow
    match line.getLast?, (ema line signalPeriod).getLast? with
    | some lastLine, some lastSignal =>
        some { line := lastLine, signal := lastSignal, histogram := lastLine - lastSignal }
    | _, _ => none

def computeMacd (closes : List ℚ) (fast slow signalPeriod : ℕ) :
    List (String × FeatureResult ℚ) :=
  match macdValues closes fast slow signalPeriod with
  | none =>
      [("macd_line", .insufficient "macd"), ("macd_signal", .insufficient "macd"),
        ("macd_histogram", .insufficient "macd")]
  | some values =>
      [("macd_line", .valid "macd_line" (roundTo 6 values.line)),
        ("macd_signal", .valid "macd_signal" (roundTo 6 values.signal)),
        ("macd_histogram", .valid "macd_histogram" (roundTo 6 values.histogram))]

/-- All three results are valid. -/
def MacdValid (results : List (String × FeatureResult ℚ)) : Prop :=
  ∀ result ∈ results, result.2.qualityStatus = .valid

section Ema

variable {values : List ℚ} {period : ℕ}

theorem length_ema : (ema values period).length = values.length + 1 - period := by
  unfold ema
  split
  next short =>
    rw [List.length_nil]
    omega
  next enough =>
    rw [length_carried, List.length_drop]
    omega

/-- The average at an index is between the entries up to that index. -/
theorem between_ema
    (positive : 0 < period) {index : ℕ} {average : ℚ} (reached : period ≤ index + 1)
    (found : (ema values period)[index + 1 - period]? = some average) :
    Between (values.take (index + 1)) average := by
  unfold ema at found
  split at found
  next => cases found
  next enough =>
    have nonneg : (0 : ℚ) ≤ 2 / ((period : ℚ) + 1) := by positivity
    have atMostOne : 2 / ((period : ℚ) + 1) ≤ 1 := by
      have one : (1 : ℚ) ≤ period := Nat.one_le_cast.mpr positive
      rw [div_le_one (by positivity)]
      linarith
    have length : (values.take period).length = period := by
      rw [List.length_take]
      omega
    have start : Between (values.take period) ((values.take period).sum / period) := by
      have nonempty : values.take period ≠ [] := List.ne_nil_of_length_pos (by omega)
      have mean := between_mean nonempty
      rwa [length] at mean
    have between := between_carried nonneg atMostOne start found
    rwa [← List.take_add, show period + (index + 1 - period) = index + 1 by omega] at between

/-- The averages go along with an affine change of the values. -/
theorem ema_affine (positive : 0 < period) (scale shift : ℚ) :
    ema (values.map fun value => scale * value + shift) period =
      (ema values period).map fun value => scale * value + shift := by
  unfold ema
  rw [List.length_map]
  split
  · rfl
  next enough =>
    have length : (values.take period).length = period := by
      rw [List.length_take]
      omega
    have nonempty : values.take period ≠ [] := List.ne_nil_of_length_pos (by omega)
    have mean := mean_affine scale shift nonempty
    rw [length] at mean
    rw [← List.map_take, ← List.map_drop, mean, carried_affine]

theorem ema_shift (positive : 0 < period) (shift : ℚ) :
    ema (values.map fun value => value + shift) period =
      (ema values period).map fun value => value + shift := by
  simpa using @ema_affine values period positive 1 shift

end Ema

section Macd

variable {closes : List ℚ} {fast slow signalPeriod : ℕ}

theorem length_macdLine :
    (macdLine closes fast slow).length =
      min (ema closes fast).length (ema closes slow).length := by
  rw [macdLine, List.length_zipWith, length_lastEntries (min_le_left _ _),
    length_lastEntries (min_le_right _ _), min_self]

/-- There are values as soon as the line is long enough for its own average. -/
theorem exists_macdValues_iff (positive : 0 < signalPeriod) :
    (∃ values, macdValues closes fast slow signalPeriod = some values) ↔
      signalPeriod ≤ min (ema closes fast).length (ema closes slow).length := by
  unfold macdValues
  split
  next short => exact iff_of_false (by simp) (not_le.mpr short)
  next enough =>
    rw [← length_macdLine, not_lt] at enough
    refine iff_of_true ?_ (length_macdLine ▸ enough)
    have lineNonempty : macdLine closes fast slow ≠ [] := List.ne_nil_of_length_pos (by omega)
    have signalNonempty : ema (macdLine closes fast slow) signalPeriod ≠ [] := by
      refine List.ne_nil_of_length_pos ?_
      rw [length_ema]
      omega
    simp [List.getLast?_eq_some_getLast lineNonempty, List.getLast?_eq_some_getLast signalNonempty]

theorem macdValid_iff :
    MacdValid (computeMacd closes fast slow signalPeriod) ↔
      ∃ values, macdValues closes fast slow signalPeriod = some values := by
  unfold computeMacd
  cases macdValues closes fast slow signalPeriod with
  | none => simp [MacdValid, FeatureResult.insufficient]
  | some values => simp [MacdValid, FeatureResult.valid]

/-- The last entry of the line subtracts the last entries of the averages. -/
theorem getLast?_macdLine
    {f s : ℚ} (lastFast : (ema closes fast).getLast? = some f)
    (lastSlow : (ema closes slow).getLast? = some s) :
    (macdLine closes fast slow).getLast? = some (f - s) := by
  have positive : 0 < min (ema closes fast).length (ema closes slow).length := by
    refine lt_min ?_ ?_
    · exact List.length_pos_of_mem (List.mem_of_getLast? lastFast)
    · exact List.length_pos_of_mem (List.mem_of_getLast? lastSlow)
  have fastEnds := (getLast?_lastEntries positive).trans lastFast
  have slowEnds := (getLast?_lastEntries positive).trans lastSlow
  rw [List.getLast?_eq_getElem?, length_lastEntries (min_le_left _ _)] at fastEnds
  rw [List.getLast?_eq_getElem?, length_lastEntries (min_le_right _ _)] at slowEnds
  rw [List.getLast?_eq_getElem?, length_macdLine, macdLine, List.getElem?_zipWith, fastEnds,
    slowEnds]

theorem exists_lasts_of_macdValues
    (positive : 0 < signalPeriod) {values : MacdValues}
    (known : macdValues closes fast slow signalPeriod = some values) :
    ∃ f s, (ema closes fast).getLast? = some f ∧ (ema closes slow).getLast? = some s ∧
      values.line = f - s := by
  have enough := (exists_macdValues_iff positive).mp ⟨values, known⟩
  have fastNonempty : ema closes fast ≠ [] :=
    List.ne_nil_of_length_pos (positive.trans_le (enough.trans (min_le_left _ _)))
  have slowNonempty : ema closes slow ≠ [] :=
    List.ne_nil_of_length_pos (positive.trans_le (enough.trans (min_le_right _ _)))
  have lastFast := List.getLast?_eq_some_getLast fastNonempty
  have lastSlow := List.getLast?_eq_some_getLast slowNonempty
  refine ⟨_, _, lastFast, lastSlow, ?_⟩
  unfold macdValues at known
  rw [if_neg (not_lt.mpr enough)] at known
  simp only [getLast?_macdLine lastFast lastSlow] at known
  split at known
  next line signal isLine isSignal =>
    rw [← Option.some.inj known, ← Option.some.inj isLine]
  next => cases known

theorem macdLine_shift (fastPositive : 0 < fast) (slowPositive : 0 < slow) (shift : ℚ) :
    macdLine (closes.map fun close => close + shift) fast slow = macdLine closes fast slow := by
  simp only [macdLine, ema_shift fastPositive, ema_shift slowPositive, List.length_map,
    lastEntries_map, List.zipWith_map, add_sub_add_right_eq_sub]

theorem macdValues_shift (fastPositive : 0 < fast) (slowPositive : 0 < slow) (shift : ℚ) :
    macdValues (closes.map fun close => close + shift) fast slow signalPeriod =
      macdValues closes fast slow signalPeriod := by
  simp only [macdValues, macdLine_shift fastPositive slowPositive, length_ema, List.length_map]

end Macd

/-- The averages have their length, stay between what they have seen and go
along with affine changes; the MACD needs as many closes as its slow average and
its signal take together, subtracts the last averages and ignores a shift. -/
theorem ema_and_macd_aligned
    (values : List ℚ) {period fast slow signalPeriod : ℕ} (positive : 0 < period)
    (fastPositive : 0 < fast) (slowPositive : 0 < slow) (signalPositive : 0 < signalPeriod)
    (ordered : fast ≤ slow) :
    ((ema values period).length = values.length + 1 - period ∧
      (∀ index average, period ≤ index + 1 →
        (ema values period)[index + 1 - period]? = some average →
          Between (values.take (index + 1)) average) ∧
      ∀ scale shift, ema (values.map fun value => scale * value + shift) period =
        (ema values period).map fun value => scale * value + shift) ∧
    (MacdValid (computeMacd values fast slow signalPeriod) ↔
      slow + signalPeriod - 1 ≤ values.length) ∧
    (∀ result, macdValues values fast slow signalPeriod = some result →
      ∃ f s, (ema values fast).getLast? = some f ∧ (ema values slow).getLast? = some s ∧
        result.line = f - s) ∧
    ∀ shift, macdValues (values.map fun value => value + shift) fast slow signalPeriod =
      macdValues values fast slow signalPeriod := by
  refine ⟨⟨length_ema, fun _ _ => between_ema positive, ema_affine positive⟩, ?_,
    fun _ => exists_lasts_of_macdValues signalPositive,
    macdValues_shift fastPositive slowPositive⟩
  rw [macdValid_iff, exists_macdValues_iff signalPositive, length_ema, length_ema]
  omega

/-- The averages over one and over two of three closes. -/
theorem threeCloses_aligned :
    MacdValid (computeMacd [1, 2, 4] 1 2 2) ∧ ema [1, 2, 4] 2 = [3 / 2, 19 / 6] := by
  constructor
  · exact (@ema_and_macd_aligned [1, 2, 4] 2 1 2 2 (by decide) (by decide) (by decide)
      (by decide) (by decide)).2.1.mpr (by decide)
  · decide +kernel

end SuperAdvisor.MarketData
