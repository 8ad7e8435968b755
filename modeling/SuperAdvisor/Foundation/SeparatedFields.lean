import Mathlib.Algebra.GroupWithZero.Nat
import Mathlib.Data.List.Basic
import Mathlib.Algebra.BigOperators.Group.List.Basic

/-!
# Fields joined by a separator

The text that a separator joins determines its fields, among all lists of as
many fields, exactly if no field contains the separator.
-/

namespace Separated

variable {α : Type} {separator : α}

theorem intercalate_append_cons
    (early : List (List α)) (field : List α) (late : List (List α)) :
    [separator].intercalate (early ++ field :: late) =
      early.flatMap (fun other => other ++ [separator]) ++
        [separator].intercalate (field :: late) := by
  induction early with
  | nil => rfl
  | cons other early induction =>
      rw [List.cons_append, List.flatMap_cons, List.append_assoc, ← induction]
      cases early <;> simp [List.intercalate_cons_cons]

/-- A field with the separator may be cut there, and the rest be given to a
neighbour. -/
private theorem exists_recut
    {early late : List (List α)} {before after : List α}
    (many : 2 ≤ (early ++ (before ++ separator :: after) :: late).length) :
    ∃ others, others.length = (early ++ (before ++ separator :: after) :: late).length ∧
      [separator].intercalate others =
        [separator].intercalate (early ++ (before ++ separator :: after) :: late) ∧
      others ≠ early ++ (before ++ separator :: after) :: late := by
  cases late with
  | cons next late =>
      refine ⟨early ++ before :: (after ++ separator :: next) :: late, by simp, ?_, ?_⟩
      · rw [intercalate_append_cons, intercalate_append_cons]
        cases late <;> simp [List.intercalate_cons_cons]
      · intro same
        have cut := (List.cons.inj (List.append_cancel_left same)).1
        simpa using congrArg List.length cut
  | nil =>
      rcases List.eq_nil_or_concat early with rfl | ⟨early, previous, rfl⟩
      · simp at many
      · refine ⟨early ++ [previous ++ separator :: before, after], by simp, ?_, ?_⟩
        · rw [List.concat_eq_append, List.append_assoc, List.singleton_append,
            intercalate_append_cons, intercalate_append_cons]
          simp [List.intercalate_cons_cons]
        · intro same
          rw [List.concat_eq_append, List.append_assoc] at same
          have cut := (List.cons.inj (List.cons.inj (List.append_cancel_left same)).2).1
          have lengths := congrArg List.length cut
          simp at lengths
          omega

variable [DecidableEq α]

/-- A joined text has one separator between two fields, and those of the fields. -/
theorem count_intercalate (field : List α) (fields : List (List α)) :
    ([separator].intercalate (field :: fields)).count separator =
      ((field :: fields).map (List.count separator)).sum + fields.length := by
  induction fields generalizing field with
  | nil => simp
  | cons next fields induction =>
      rw [List.intercalate_cons_cons, List.count_append, List.count_append, induction]
      simp
      omega

/-- Fields without the separator are determined by the joined text. -/
theorem eq_of_intercalate_eq
    {fields others : List (List α)} (free : ∀ field ∈ fields, separator ∉ field)
    (length : others.length = fields.length)
    (same : [separator].intercalate others = [separator].intercalate fields) :
    others = fields := by
  cases fields with
  | nil => exact List.length_eq_zero_iff.mp length
  | cons field fields =>
      cases others with
      | nil => cases length
      | cons other others =>
          have none : ((field :: fields).map (List.count separator)).sum = 0 := by
            refine List.sum_eq_zero_iff_forall_eq_nat.mpr (fun count member => ?_)
            obtain ⟨inner, inside, rfl⟩ := List.mem_map.mp member
            exact List.count_eq_zero.mpr (free inner inside)
          have counts := congrArg (List.count separator) same
          rw [count_intercalate, count_intercalate, none] at counts
          have otherFree : ∀ inner ∈ other :: others, separator ∉ inner := by
            intro inner inside
            have zero : ((other :: others).map (List.count separator)).sum = 0 := by
              simp only [List.length_cons] at length
              omega
            exact List.count_eq_zero.mp (List.sum_eq_zero_iff_forall_eq_nat.mp zero _
              (List.mem_map_of_mem inside))
          rw [← List.splitOn_intercalate separator free (List.cons_ne_nil _ _), ← same,
            List.splitOn_intercalate separator otherFree (List.cons_ne_nil _ _)]

theorem determined_iff
    {fields : List (List α)} (many : 2 ≤ fields.length) :
    (∀ others, others.length = fields.length →
      [separator].intercalate others = [separator].intercalate fields → others = fields) ↔
      ∀ field ∈ fields, separator ∉ field := by
  constructor
  · intro determined field member inside
    obtain ⟨early, late, rfl⟩ := List.append_of_mem member
    obtain ⟨before, after, rfl⟩ := List.append_of_mem inside
    obtain ⟨others, length, same, different⟩ := exists_recut many
    exact different (determined others length same)
  · exact fun free others length same => eq_of_intercalate_eq free length same

end Separated
