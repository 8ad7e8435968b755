import Mathlib.Algebra.BigOperators.Fin
import Mathlib.Algebra.Order.BigOperators.Group.List
import Mathlib.Algebra.Order.BigOperators.Ring.Finset
import Mathlib.Algebra.Order.Field.Basic
import Mathlib.Tactic.LinearCombination

/-!
# Averages of lists

Means and weighted averages over an ordered field, the last entries of a list,
and the Cauchy-Schwarz inequality for two lists.  A division that can meet a
zero raises.
-/

namespace Averages

inductive ArithmeticError where
  | zeroDivision
  | indexOutOfRange
  deriving DecidableEq

section Division

variable {K : Type} [Field K] [DecidableEq K]

def divide (dividend divisor : K) : Except ArithmeticError K :=
  if divisor = 0 then .error .zeroDivision else .ok (dividend / divisor)

theorem divide_of_ne_zero {divisor : K} (nonzero : divisor ≠ 0) (dividend : K) :
    divide dividend divisor = .ok (dividend / divisor) :=
  if_neg nonzero

end Division

/-- The entry at an index. -/
def entry {α : Type} (values : List α) (index : ℕ) : Except ArithmeticError α :=
  match values[index]? with
  | some value => .ok value
  | none => .error .indexOutOfRange

theorem entry_of_lt {α : Type} {values : List α} {index : ℕ} (inside : index < values.length) :
    entry values index = .ok values[index] := by
  rw [entry, List.getElem?_eq_getElem inside]

/-- The last entries of a list, all of them if there are no more. -/
def lastEntries {α : Type} (count : ℕ) (values : List α) : List α :=
  values.drop (values.length - count)

section LastEntries

variable {α β : Type} {count : ℕ} {values : List α}

theorem length_lastEntries (enough : count ≤ values.length) :
    (lastEntries count values).length = count := by
  rw [lastEntries, List.length_drop]
  omega

theorem lastEntries_map (change : α → β) :
    lastEntries count (values.map change) = (lastEntries count values).map change := by
  rw [lastEntries, lastEntries, List.length_map, List.map_drop]

theorem getLast?_lastEntries (positive : 0 < count) :
    (lastEntries count values).getLast? = values.getLast? := by
  cases values with
  | nil => simp [lastEntries]
  | cons value values =>
      rw [lastEntries, List.getLast?_drop, if_neg]
      simp only [List.length_cons, not_le]
      omega

end LastEntries

section Between

variable {K : Type} [LinearOrder K] {values : List K} {number : K}

/-- Between the least and the greatest of the values. -/
def Between (values : List K) (number : K) : Prop :=
  (∃ low ∈ values, low ≤ number) ∧ ∃ high ∈ values, number ≤ high

theorem between_of_mem (member : number ∈ values) : Between values number :=
  ⟨⟨number, member, le_rfl⟩, number, member, le_rfl⟩

theorem Between.mono
    {more : List K} (between : Between values number) (subset : values ⊆ more) :
    Between more number := by
  obtain ⟨⟨low, isLow, below⟩, high, isHigh, above⟩ := between
  exact ⟨⟨low, subset isLow, below⟩, high, subset isHigh, above⟩

end Between

section Carried

variable {K : Type} [Field K] {weight seed : K}

/-- An average that is carried on from one entry to the next. -/
def carried (weight seed : K) (values : List K) : List K :=
  values.scanl (fun last value => value * weight + last * (1 - weight)) seed

theorem length_carried (values : List K) :
    (carried weight seed values).length = values.length + 1 :=
  List.length_scanl

/-- A carried average goes along with an affine change of its entries. -/
theorem carried_affine (scale shift : K) (values : List K) :
    carried weight (scale * seed + shift) (values.map fun value => scale * value + shift) =
      (carried weight seed values).map fun value => scale * value + shift := by
  induction values generalizing seed with
  | nil => rfl
  | cons value values induction =>
      have step : (scale * value + shift) * weight + (scale * seed + shift) * (1 - weight) =
          scale * (value * weight + seed * (1 - weight)) + shift := by
        ring
      rw [carried, List.map_cons, List.scanl_cons, step]
      rw [carried, List.scanl_cons, List.map_cons]
      congr 1
      exact induction

end Carried

variable {K : Type} [Field K] [LinearOrder K] [IsStrictOrderedRing K]

/-- The mean of a list is between its entries. -/
theorem between_mean {values : List K} (nonempty : values ≠ []) :
    Between values (values.sum / values.length) := by
  have positive : (0 : K) < values.length :=
    Nat.cast_pos.mpr (List.length_pos_iff.mpr nonempty)
  have total : (values.map fun _ => values.sum / values.length).sum =
      (values.map fun value => value).sum := by
    rw [List.map_const', List.sum_replicate, nsmul_eq_mul, List.map_id', mul_div_cancel₀]
    exact positive.ne'
  constructor
  · exact List.exists_le_of_sum_le nonempty _ _ total.ge
  · exact List.exists_le_of_sum_le nonempty _ _ total.le

/-- So is a weighted average of two numbers that are. -/
theorem Between.blend {values : List K} {first second weight : K}
    (firstBetween : Between values first) (secondBetween : Between values second)
    (nonneg : 0 ≤ weight) (atMostOne : weight ≤ 1) :
    Between values (first * weight + second * (1 - weight)) := by
  rcases le_total first second with ordered | ordered
  · have upper : 0 ≤ (second - first) * weight := mul_nonneg (sub_nonneg.mpr ordered) nonneg
    have lower : 0 ≤ (second - first) * (1 - weight) :=
      mul_nonneg (sub_nonneg.mpr ordered) (sub_nonneg.mpr atMostOne)
    obtain ⟨low, isLow, below⟩ := firstBetween.1
    obtain ⟨high, isHigh, above⟩ := secondBetween.2
    exact ⟨⟨low, isLow, by linear_combination below + lower⟩,
      high, isHigh, by linear_combination above + upper⟩
  · have upper : 0 ≤ (first - second) * (1 - weight) :=
      mul_nonneg (sub_nonneg.mpr ordered) (sub_nonneg.mpr atMostOne)
    have lower : 0 ≤ (first - second) * weight := mul_nonneg (sub_nonneg.mpr ordered) nonneg
    obtain ⟨low, isLow, below⟩ := secondBetween.1
    obtain ⟨high, isHigh, above⟩ := firstBetween.2
    exact ⟨⟨low, isLow, by linear_combination below + lower⟩,
      high, isHigh, by linear_combination above + upper⟩

/-- A carried average stays between the entries that it has seen. -/
theorem between_carried
    {weight seed : K} {seen values : List K} (nonneg : 0 ≤ weight) (atMostOne : weight ≤ 1)
    (start : Between seen seed) {index : ℕ} {average : K}
    (found : (carried weight seed values)[index]? = some average) :
    Between (seen ++ values.take index) average := by
  induction values generalizing seed seen index with
  | nil =>
      cases index with
      | zero =>
          obtain rfl : seed = average := by simpa [carried] using found
          simpa using start
      | succ index => simp [carried] at found
  | cons value values induction =>
      cases index with
      | zero =>
          obtain rfl : seed = average := by simpa [carried] using found
          simpa using start
      | succ index =>
          have step : Between (seen ++ [value]) (value * weight + seed * (1 - weight)) :=
            (between_of_mem (by simp)).blend (start.mono (List.subset_append_left _ _))
              nonneg atMostOne
          rw [carried, List.scanl_cons, List.getElem?_cons_succ] at found
          have between := induction step found
          rwa [List.append_assoc, List.singleton_append] at between

/-- The mean goes along with an affine change. -/
theorem mean_affine (scale shift : K) {values : List K} (nonempty : values ≠ []) :
    (values.map fun value => scale * value + shift).sum / values.length =
      scale * (values.sum / values.length) + shift := by
  have positive : (0 : K) < values.length :=
    Nat.cast_pos.mpr (List.length_pos_iff.mpr nonempty)
  have total : (values.map fun value => scale * value + shift).sum =
      scale * values.sum + values.length * shift := by
    rw [List.sum_map_add, List.sum_map_mul_left, List.map_id', List.map_const', List.sum_replicate,
      nsmul_eq_mul]
  rw [total, add_div, mul_div_assoc, mul_div_cancel_left₀ _ positive.ne']

/-- The inequality of Cauchy and Schwarz. -/
theorem sum_mul_sq_le {α : Type} (pairs : List α) (first second : α → K) :
    (pairs.map fun pair => first pair * second pair).sum ^ 2 ≤
      (pairs.map fun pair => first pair ^ 2).sum * (pairs.map fun pair => second pair ^ 2).sum := by
  simp only [← Fin.sum_univ_fun_getElem]
  exact Finset.sum_mul_sq_le_sq_mul_sq _ _ _

end Averages
