import Mathlib.Data.List.DropRight
import SuperAdvisor.Foundation.PythonText

/-!
# Letter case and surrounding space

The ASCII letters that `lower` leaves in a text, and the beginning that
`strip` leaves.  A part that ends without space begins the stripped text
exactly if it begins the text without its leading space.
-/

namespace Python

/-- `symbol.lower()`, as far as ASCII characters go: the Kelvin sign and the
capital I with a dot are the only other characters that leave one. -/
def lowerChar (symbol : Char) : List Char :=
  if symbol = Char.ofNat 0x212a then ['k']
  else if symbol = Char.ofNat 0x130 then ['i', Char.ofNat 0x307]
  else [symbol.toLower]

/-- `text.lower()` -/
def lowerText (text : List Char) : List Char :=
  text.flatMap lowerChar

theorem lowerText_append (first second : List Char) :
    lowerText (first ++ second) = lowerText first ++ lowerText second := by
  simp [lowerText]

private theorem toLower_cases (symbol : Char) :
    (symbol.isUpper = false ∧ symbol.toLower = symbol) ∨
      (65 ≤ symbol.toNat ∧ symbol.toNat ≤ 90 ∧ symbol.toLower.toNat = symbol.toNat + 32) := by
  delta Char.isUpper Char.toLower
  split
  case isFalse notUpper => exact .inl ⟨by simpa using notUpper, rfl⟩
  case isTrue upper =>
    have low : 65 ≤ symbol.val.toNat := UInt32.le_iff_toNat_le.mp upper.1
    have high : symbol.val.toNat ≤ 90 := UInt32.le_iff_toNat_le.mp upper.2
    refine .inr ⟨low, high, ?_⟩
    calc (symbol.val + 32).toNat = (symbol.val.toNat + 32) % 2 ^ 32 := UInt32.toNat_add _ _
      _ = symbol.val.toNat + 32 := by omega

private theorem isUpper_toLower (symbol : Char) : symbol.toLower.isUpper = false := by
  rcases toLower_cases symbol with ⟨notUpper, same⟩ | ⟨low, high, moved⟩
  · rw [same, notUpper]
  · by_contra upper
    have bounds : 65 ≤ symbol.toLower.toNat ∧ symbol.toLower.toNat ≤ 90 := by
      have between : symbol.toLower.isUpper = true := eq_true_of_ne_false upper
      delta Char.isUpper at between
      simpa [UInt32.le_iff_toNat_le] using between
    omega

theorem isUpper_eq_false_of_mem_lowerText
    {symbol : Char} {text : List Char} (member : symbol ∈ lowerText text) :
    symbol.isUpper = false := by
  obtain ⟨original, -, inside⟩ := List.mem_flatMap.mp member
  unfold lowerChar at inside
  split at inside
  · obtain rfl := List.mem_singleton.mp inside
    rfl
  · split at inside
    · have either : symbol = 'i' ∨ symbol = Char.ofNat 0x307 := by simpa using inside
      rcases either with rfl | rfl <;> decide
    · obtain rfl := List.mem_singleton.mp inside
      exact isUpper_toLower original

/-! Space is neither made nor removed by changing case. -/

private theorem isSpace_toLower (symbol : Char) : isSpace symbol.toLower = isSpace symbol := by
  rcases toLower_cases symbol with ⟨-, same⟩ | ⟨low, high, moved⟩
  · rw [same]
  · have solid : isSpace symbol = false := by
      simp [isSpace]
      omega
    have movedSolid : isSpace symbol.toLower = false := by
      simp [isSpace, moved]
      omega
    rw [solid, movedSolid]

theorem lowerChar_of_space {symbol : Char} (space : isSpace symbol = true) :
    lowerChar symbol = [symbol] := by
  have plain : symbol ≠ Char.ofNat 0x212a ∧ symbol ≠ Char.ofNat 0x130 := by
    constructor <;> rintro rfl <;> exact absurd space (by decide)
  rcases toLower_cases symbol with ⟨-, same⟩ | ⟨low, high, -⟩
  · rw [lowerChar, if_neg plain.1, if_neg plain.2, same]
  · have solid : isSpace symbol = false := by
      simp [isSpace]
      omega
    rw [solid] at space
    cases space

/-- The characters of another one; there is at least one. -/
theorem lowerChar_of_solid {symbol : Char} (solid : isSpace symbol = false) :
    (∃ first, (lowerChar symbol).head? = some first ∧ isSpace first = false) ∧
      ∃ last, (lowerChar symbol).getLast? = some last ∧ isSpace last = false := by
  unfold lowerChar
  split
  · exact ⟨⟨'k', rfl, rfl⟩, 'k', rfl, rfl⟩
  split
  · exact ⟨⟨'i', rfl, rfl⟩, Char.ofNat 0x307, rfl, by decide⟩
  · have lowered := (isSpace_toLower symbol).trans solid
    exact ⟨⟨_, rfl, lowered⟩, _, rfl, lowered⟩

theorem lowerText_dropWhile (text : List Char) :
    lowerText (text.dropWhile isSpace) = (lowerText text).dropWhile isSpace := by
  induction text with
  | nil => rfl
  | cons symbol text induction =>
      have unfolded : lowerText (symbol :: text) = lowerChar symbol ++ lowerText text := rfl
      cases space : isSpace symbol with
      | true =>
          rw [unfolded, lowerChar_of_space space, List.dropWhile_cons_of_pos space, induction,
            List.singleton_append, List.dropWhile_cons_of_pos space]
      | false =>
          obtain ⟨⟨first, head, solid⟩, -⟩ := lowerChar_of_solid space
          obtain ⟨rest, same⟩ := List.head?_eq_some_iff.mp head
          rw [List.dropWhile_cons_of_neg (by simp [space]), unfolded, same, List.cons_append,
            List.dropWhile_cons_of_neg (by simp [solid])]

/-- A text that ends without space is left as it is. -/
theorem rdropWhile_of_last
    {symbols : List Char} {last : Char} (ends : symbols.getLast? = some last)
    (solid : isSpace last = false) : symbols.rdropWhile isSpace = symbols := by
  refine List.rdropWhile_eq_self_iff.mpr (fun nonempty => ?_)
  rw [List.getLast?_eq_some_getLast nonempty] at ends
  simp [Option.some.inj ends, solid]

theorem lowerText_rdropWhile (text : List Char) :
    lowerText (text.rdropWhile isSpace) = (lowerText text).rdropWhile isSpace := by
  induction text using List.reverseRecOn with
  | nil => rfl
  | append_singleton text symbol induction =>
      have unfolded : lowerText (text ++ [symbol]) = lowerText text ++ lowerChar symbol := by
        simp [lowerText]
      cases space : isSpace symbol with
      | true =>
          rw [List.rdropWhile_concat_pos _ _ _ space, induction, unfolded,
            lowerChar_of_space space, List.rdropWhile_concat_pos _ _ _ space]
      | false =>
          obtain ⟨-, last, ends, solid⟩ := lowerChar_of_solid space
          have unchanged : (lowerText text ++ lowerChar symbol).rdropWhile isSpace =
              lowerText text ++ lowerChar symbol :=
            rdropWhile_of_last (by rw [List.getLast?_append, ends, Option.some_or]) solid
          rw [List.rdropWhile_concat_neg _ _ _ (by simp [space]), unfolded, unchanged]

theorem toList_strip (text : String) :
    (strip text).toList = (text.toList.dropWhile isSpace).rdropWhile isSpace := by
  rw [strip, String.toList_ofList]
  rfl

/-- Stripping and changing case may change places. -/
theorem lowerText_strip (text : List Char) :
    lowerText (strip (String.ofList text)).toList =
      ((lowerText text).dropWhile isSpace).rdropWhile isSpace := by
  rw [toList_strip, String.toList_ofList, lowerText_rdropWhile, lowerText_dropWhile]

/-- Stripping the end leaves a beginning whose last character stays. -/
theorem prefix_rdropWhile_iff
    {α : Type} {drops : α → Bool} {part : List α} {last : α}
    (ends : part.getLast? = some last) (stays : drops last = false) (text : List α) :
    part <+: text.rdropWhile drops ↔ part <+: text := by
  refine ⟨fun begins => begins.trans (List.rdropWhile_prefix drops text), ?_⟩
  rintro ⟨rest, rfl⟩
  induction rest using List.reverseRecOn with
  | nil =>
      have whole : part.rdropWhile drops = part := by
        refine List.rdropWhile_eq_self_iff.mpr (fun nonempty => ?_)
        rw [List.getLast?_eq_some_getLast nonempty] at ends
        simp [Option.some.inj ends, stays]
      simp [whole]
  | append_singleton rest symbol induction =>
      rw [← List.append_assoc, List.rdropWhile_concat]
      split
      · exact induction
      · exact List.prefix_append_of_prefix (List.prefix_append part rest)

theorem prefix_strip_iff
    {part : List Char} {last : Char}
    (ends : part.getLast? = some last) (stays : isSpace last = false) (text : String) :
    part <+: (strip text).toList ↔ part <+: text.toList.dropWhile isSpace := by
  rw [toList_strip]
  exact prefix_rdropWhile_iff ends stays _

theorem strip_eq_empty_iff (text : String) :
    strip text = "" ↔ ∀ symbol ∈ text.toList, isSpace symbol = true := by
  rw [← String.toList_eq_nil_iff, strip, String.toList_ofList, List.reverse_eq_nil_iff,
    List.dropWhile_eq_nil_iff]
  constructor
  · intro spaces symbol member
    rw [← List.takeWhile_append_dropWhile (p := isSpace) (l := text.toList)] at member
    rcases List.mem_append.mp member with early | late
    · exact List.mem_takeWhile_imp early
    · exact spaces symbol (List.mem_reverse.mpr late)
  · intro spaces symbol member
    exact spaces symbol ((List.dropWhile_sublist _).subset (List.mem_reverse.mp member))

/-- What stands behind a mark does not matter to a part without the mark. -/
theorem prefix_of_prefix_append_cons
    {α : Type} {part before after : List α} {mark : α}
    (absent : mark ∉ part) (begins : part <+: before ++ mark :: after) : part <+: before := by
  refine List.prefix_of_prefix_length_le begins (List.prefix_append before _) ?_
  by_contra longer
  have marked : before ++ [mark] <+: part :=
    List.prefix_of_prefix_length_le ⟨after, by simp⟩ begins (by simp; omega)
  exact absent (marked.subset (by simp))

end Python
