import SuperAdvisor.Foundation.PythonDict
import SuperAdvisor.Foundation.RaisingLoops

/-!
# Identical and equal values

Two notions of sameness: `identical` compares constructors and is equality in
the logic, `equals` is what `==` computes.  What equals a list or a dictionary
is one, with equal items behind the same positions or keys.
-/

namespace Python

mutual

def Value.identical : Value → Value → Bool
  | .none, .none => true
  | .bool left, .bool right => decide (left = right)
  | .int left, .int right => decide (left = right)
  | .float left, .float right => decide (left = right)
  | .str left, .str right => decide (left = right)
  | .list left, .list right => Value.identicalItems left right
  | .tuple left, .tuple right => Value.identicalItems left right
  | .dict left, .dict right => Value.identicalEntries left right
  | .other left, .other right => decide (left = right)
  | _, _ => false

def Value.identicalItems : List Value → List Value → Bool
  | [], [] => true
  | left :: lefts, right :: rights =>
      Value.identical left right && Value.identicalItems lefts rights
  | _, _ => false

def Value.identicalEntries : List (Key × Value) → List (Key × Value) → Bool
  | [], [] => true
  | (leftKey, left) :: lefts, (rightKey, right) :: rights =>
      decide (leftKey = rightKey) && Value.identical left right &&
        Value.identicalEntries lefts rights
  | _, _ => false

end

mutual

theorem Value.identical_iff (left right : Value) :
    left.identical right = true ↔ left = right := by
  match left with
  | .none => cases right <;> simp [Value.identical]
  | .bool _ => cases right <;> simp [Value.identical]
  | .int _ => cases right <;> simp [Value.identical]
  | .float _ => cases right <;> simp [Value.identical]
  | .str _ => cases right <;> simp [Value.identical]
  | .other _ => cases right <;> simp [Value.identical]
  | .list items =>
      cases right <;> simp [Value.identical, Value.identicalItems_iff items]
  | .tuple items =>
      cases right <;> simp [Value.identical, Value.identicalItems_iff items]
  | .dict entries =>
      cases right <;> simp [Value.identical, Value.identicalEntries_iff entries]

theorem Value.identicalItems_iff (left right : List Value) :
    Value.identicalItems left right = true ↔ left = right := by
  match left with
  | [] => cases right <;> simp [Value.identicalItems]
  | item :: items =>
      cases right <;> simp [Value.identicalItems, Value.identical_iff item,
        Value.identicalItems_iff items]

theorem Value.identicalEntries_iff (left right : List (Key × Value)) :
    Value.identicalEntries left right = true ↔ left = right := by
  match left with
  | [] => cases right <;> simp [Value.identicalEntries]
  | (key, value) :: entries =>
      cases right with
      | nil => simp [Value.identicalEntries]
      | cons entry rights =>
          simp [Value.identicalEntries, Value.identical_iff value,
            Value.identicalEntries_iff entries, Prod.ext_iff, and_assoc]

end

instance : DecidableEq Value := fun left right =>
  decidable_of_iff _ (Value.identical_iff left right)

theorem Key.same_str_iff {key : Key} {name : String} :
    key.same (.str name) = true ↔ key = .str name := by
  cases key <;> simp [Key.same, Key.number?]

theorem equalsItems_iff {left right : List Value} :
    Value.equalsItems left right = true ↔
      List.Forall₂ (fun first second => first.equals second = true) left right := by
  induction left generalizing right with
  | nil => cases right <;> simp [Value.equalsItems]
  | cons item items induction => cases right <;> simp [Value.equalsItems, induction]

theorem equals_list_iff {value : Value} {items : List Value} :
    value.equals (.list items) = true ↔
      ∃ found, value = .list found ∧ Value.equalsItems found items = true := by
  cases value <;> simp [Value.equals, Value.number?]

/-- A list of texts is equal to no other value. -/
theorem equals_strings_iff {value : Value} {items : List String} :
    value.equals (.list (items.map .str)) = true ↔ value = .list (items.map .str) := by
  have itemwise : ∀ found : List Value,
      Value.equalsItems found (items.map .str) = true ↔ found = items.map .str := by
    intro found
    induction items generalizing found with
    | nil => cases found <;> simp [Value.equalsItems]
    | cons item items induction =>
        cases found with
        | nil => simp [Value.equalsItems]
        | cons first found => simp [Value.equalsItems, equals_str_iff, induction]
  rw [equals_list_iff]
  constructor
  · rintro ⟨found, rfl, matched⟩
    rw [(itemwise found).mp matched]
  · rintro rfl
    exact ⟨_, rfl, (itemwise _).mpr rfl⟩

/-- Setting one name leaves the others as they were. -/
theorem lookupEntry_setEntry_of_ne
    (entries : List (Key × Value)) {name other : String} (value : Value)
    (different : other ≠ name) :
    lookupEntry (setEntry entries (.str name) value) (.str other) =
      lookupEntry entries (.str other) := by
  have apart : Key.same (.str name) (.str other) = false := by
    simpa [Key.same, Key.number?] using Ne.symm different
  induction entries with
  | nil => simp [setEntry, lookupEntry, apart]
  | cons entry entries induction =>
      obtain ⟨candidate, old⟩ := entry
      cases here : candidate.same (.str name) with
      | true =>
          obtain rfl := Key.same_str_iff.mp here
          simp [setEntry, here, lookupEntry, apart]
      | false => simp [setEntry, here, lookupEntry, induction]

theorem equalsEntries_iff {left right : List (Key × Value)} :
    Value.equalsEntries left right = true ↔
      ∀ entry ∈ left, ∃ found, lookupEntry right entry.1 = some found ∧
        entry.2.equals found = true := by
  induction left with
  | nil => simp [Value.equalsEntries]
  | cons entry left induction =>
      obtain ⟨key, value⟩ := entry
      cases looked : lookupEntry right key <;>
        simp [Value.equalsEntries, looked, induction]

/-- What equals a dictionary is one, and finds an equal value behind every
string key. -/
theorem lookup_of_equals_dict
    {value : Value} {entries : List (Key × Value)}
    (equal : value.equals (.dict entries) = true) :
    ∃ found, value = .dict found ∧ ∀ name item, lookupEntry found (.str name) = some item →
      ∃ other, lookupEntry entries (.str name) = some other ∧ item.equals other = true := by
  have general : ∀ found : List (Key × Value), Value.equalsEntries found entries = true →
      ∀ name item, lookupEntry found (.str name) = some item →
        ∃ other, lookupEntry entries (.str name) = some other ∧
          item.equals other = true := by
    intro found same name item looked
    induction found with
    | nil => cases looked
    | cons entry found induction =>
        obtain ⟨key, first⟩ := entry
        simp only [Value.equalsEntries, Bool.and_eq_true] at same
        unfold lookupEntry at looked
        split at looked
        next here =>
          obtain rfl := Key.same_str_iff.mp here
          obtain rfl : first = item := by simpa using looked
          cases other : lookupEntry entries (.str name) with
          | none => simp [other] at same
          | some second => exact ⟨second, rfl, by simpa [other] using same.1⟩
        next => exact induction same.2 looked
  cases value with
  | dict found =>
      simp only [Value.equals, Bool.and_eq_true] at equal
      exact ⟨found, rfl, general found equal.2⟩
  | _ => simp [Value.equals, Value.number?] at equal

end Python
