import SuperAdvisor.Foundation.LowerText
import SuperAdvisor.Foundation.PythonDict

/-!
# The text of values that are not strings

`str` gives such a value a text that begins with one of a few characters, none
of them a space.  So the text is never blank, and a text with another beginning
comes from a string only.
-/

namespace Python

open JsonText

/-- The first character of a value that is no string. -/
def opensValue (symbol : Char) : Bool :=
  symbol.isDigit ||
    ['-', 'N', 'T', 'F', 'n', 'i', '[', '(', Char.ofNat 0x7b, '<'].contains symbol

private theorem opensValue_of_afterInteger
    {text rest : List Char} (integer : afterInteger text = some rest) :
    ∃ symbol, text.head? = some symbol ∧ opensValue symbol = true := by
  have magnitude : ∀ {digits}, afterInteger.afterMagnitude digits = some rest →
      ∃ symbol, digits.head? = some symbol ∧ opensValue symbol = true := by
    intro digits read
    cases digits with
    | nil => cases read
    | cons digit digits =>
        refine ⟨digit, rfl, ?_⟩
        simp only [afterInteger.afterMagnitude] at read
        split at read
        case isTrue zero => exact zero ▸ rfl
        case isFalse =>
          split at read
          case isTrue isDigit => simp [opensValue, isDigit]
          case isFalse => cases read
  unfold afterInteger at integer
  split at integer
  · exact ⟨'-', rfl, rfl⟩
  · exact magnitude integer

private theorem opensValue_floatText (literal : FloatLiteral) :
    ∃ symbol, (floatText literal).toList.head? = some symbol ∧ opensValue symbol = true := by
  unfold floatText
  split
  · exact ⟨'n', rfl, rfl⟩
  split
  · exact ⟨'i', rfl, rfl⟩
  split
  · exact ⟨'-', rfl, rfl⟩
  · rename_i notNan notInfinite notNegative
    have wellFormed := literal.wellFormed
    have finite : literal.text ∉ nonFiniteLiterals := by
      simp only [nonFiniteLiterals, List.mem_cons, List.not_mem_nil, not_or]
      exact ⟨notNan, notInfinite, notNegative, not_false⟩
    rw [String.toList_ofList]
    cases integer : afterInteger literal.text with
    | none => simp [isFloatLiteral, finite, integer] at wellFormed
    | some rest => exact opensValue_of_afterInteger integer

theorem exists_opensValue
    {value : Value} (noText : ∀ text, value ≠ .str text) :
    ∃ symbol, value.text.toList.head? = some symbol ∧ opensValue symbol = true := by
  cases value with
  | none => exact ⟨'N', rfl, rfl⟩
  | bool value => cases value <;> exact ⟨_, rfl, rfl⟩
  | int value =>
      obtain ⟨symbol, first, opens⟩ := opensValue_of_afterInteger (afterInteger_renderInt value)
      exact ⟨symbol, by simpa [Value.text, Value.shown, intText] using first, opens⟩
  | float value => exact opensValue_floatText value
  | str text => exact absurd rfl (noText text)
  | list items => exact ⟨'[', by simp [Value.text, Value.shown], rfl⟩
  | tuple items => exact ⟨'(', by simp [Value.text, Value.shown], rfl⟩
  | dict entries => exact ⟨Char.ofNat 0x7b, by simp [Value.text, Value.shown], rfl⟩
  | other label => exact ⟨'<', by simp [Value.text, Value.shown], rfl⟩

/-- A text that no other value begins like is the text of a string only. -/
theorem text_eq_iff
    {value : Value} {text : String} {first : Char} (begins : text.toList.head? = some first)
    (apart : opensValue first = false) : value.text = text ↔ value = .str text := by
  refine ⟨fun same => ?_, fun same => same ▸ rfl⟩
  by_contra different
  have noText : ∀ other, value ≠ .str other := by
    rintro other rfl
    exact different (congrArg Value.str same)
  obtain ⟨symbol, found, opens⟩ := exists_opensValue noText
  rw [same, begins] at found
  rw [Option.some.inj found, opens] at apart
  cases apart

private theorem isSpace_of_opensValue {symbol : Char} (opens : opensValue symbol = true) :
    isSpace symbol = false := by
  rcases Bool.or_eq_true_iff.mp opens with digit | listed
  · have low : 48 ≤ symbol.toNat := (Char.isDigit_iff_toNat.mp digit).1
    have high : symbol.toNat ≤ 57 := (Char.isDigit_iff_toNat.mp digit).2
    simp [isSpace]
    omega
  · have each : ['-', 'N', 'T', 'F', 'n', 'i', '[', '(', Char.ofNat 0x7b, '<'].all
        (fun mark => !isSpace mark) = true := by decide
    simpa using List.all_eq_true.mp each symbol (List.contains_iff_mem.mp listed)

/-- The text of a value is blank only if the value is a blank string. -/
theorem strip_text_eq_empty_iff (value : Value) :
    strip value.text = "" ↔ ∃ text, value = .str text ∧ strip text = "" := by
  refine ⟨fun blank => ?_, fun ⟨text, same, blank⟩ => same ▸ blank⟩
  by_contra notBlank
  have noText : ∀ text, value ≠ .str text := by
    rintro text rfl
    exact notBlank ⟨text, rfl, blank⟩
  obtain ⟨symbol, found, opens⟩ := exists_opensValue noText
  have space := (strip_eq_empty_iff value.text).mp blank symbol (List.mem_of_head? found)
  rw [isSpace_of_opensValue opens] at space
  cases space

theorem listOf_cases (value : Value) :
    (∃ items, listOf value = .ok items ∧ (items = [] ↔ value.truthy = false)) ∨
      ∃ message, listOf value = .error (.typeError message) := by
  cases value with
  | str text => exact .inl ⟨_, rfl, by simp [Value.truthy]⟩
  | list items => exact .inl ⟨items, rfl, by simp [Value.truthy]⟩
  | tuple items => exact .inl ⟨items, rfl, by simp [Value.truthy]⟩
  | dict entries => exact .inl ⟨_, rfl, by simp [Value.truthy]⟩
  | none => exact .inr ⟨_, rfl⟩
  | bool value => exact .inr ⟨_, rfl⟩
  | int value => exact .inr ⟨_, rfl⟩
  | float value => exact .inr ⟨_, rfl⟩
  | other label => exact .inr ⟨_, rfl⟩

end Python
