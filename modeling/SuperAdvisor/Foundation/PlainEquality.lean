import SuperAdvisor.Foundation.LoadedValues
import SuperAdvisor.Foundation.Reloading

/-!
# Equality of plain values

Among JSON values with finite numbers equality is an equivalence relation, and
dumping and loading keeps such a value equal to itself.

A dump with sorted keys leaves nothing to change: what it loads back as comes
back from the next dump as it is.  Entries of a dictionary are found under the
same names before and after.
-/

namespace Python

open JsonText

/-- A JSON value whose numbers are finite. -/
structure Value.IsPlain (value : Value) : Prop where
  json : value.IsJson
  finite : value.FiniteNumbers

theorem isPlain_list_iff {items : List Value} :
    (Value.list items).IsPlain ↔ ∀ item ∈ items, item.IsPlain := by
  constructor
  · rintro ⟨json, finite⟩ item member
    exact ⟨isJsonItems_iff.mp json item member, finiteNumbersItems_iff.mp finite item member⟩
  · intro each
    exact ⟨isJsonItems_iff.mpr (fun item member => (each item member).json),
      finiteNumbersItems_iff.mpr (fun item member => (each item member).finite)⟩

/-- A plain dictionary has names with plain values. -/
theorem exists_named_of_isPlain
    {entries : List (Key × Value)} (plain : (Value.dict entries).IsPlain) :
    ∃ fields, entries = named fields ∧ (OrderedDict.keys fields).Nodup ∧
      ∀ field ∈ fields, field.2.IsPlain := by
  obtain ⟨⟨texts, different, json⟩, finite⟩ := plain
  obtain ⟨fields, rfl⟩ := exists_named texts
  refine ⟨fields, rfl, ?_, ?_⟩
  · rw [show (named fields).map Prod.fst = (OrderedDict.keys fields).map Key.str by
      simp [named, OrderedDict.keys]] at different
    exact different.of_map
  · intro field member
    have inside : ((.str field.1, field.2) : Key × Value) ∈ named fields :=
      List.mem_map_of_mem (f := fun field => (Key.str field.1, field.2)) member
    exact ⟨isJsonEntries_iff.mp json _ inside, finiteNumbersEntries_iff.mp finite _ inside⟩

theorem isPlain_of_lookup
    {entries : List (Key × Value)} (plain : (Value.dict entries).IsPlain) {key : Key}
    {value : Value} (looked : lookupEntry entries key = some value) : value.IsPlain :=
  ⟨isJson_of_lookup plain.json.2.2 looked, finiteNumbers_of_lookup plain.finite looked⟩

/-- A finite number equals the values with the same number. -/
theorem equals_iff_of_number
    {value other : Value} {number : Rat} (known : value.number? = some number)
    (finite : value.FiniteNumbers) (plain : other.FiniteNumbers) :
    value.equals other = true ↔ some number = other.number? := by
  rw [← known]
  cases value with
  | bool | int | float =>
      cases other <;> simp_all [Value.equals, Value.number?, Value.FiniteNumbers]
  | none | str | list | tuple | dict | other => cases known

private theorem equals_symm_of_number
    {left right : Value} (known : left.number?.isSome = true) (leftPlain : left.IsPlain)
    (rightPlain : right.IsPlain) (equal : left.equals right = true) :
    right.equals left = true := by
  obtain ⟨number, known⟩ := Option.isSome_iff_exists.mp known
  have same := (equals_iff_of_number known leftPlain.finite rightPlain.finite).mp equal
  exact (equals_iff_of_number same.symm rightPlain.finite leftPlain.finite).mpr known.symm

private theorem equals_trans_of_number
    {first second third : Value} (known : first.number?.isSome = true)
    (firstPlain : first.IsPlain) (secondPlain : second.IsPlain) (thirdPlain : third.IsPlain)
    (left : first.equals second = true) (right : second.equals third = true) :
    first.equals third = true := by
  obtain ⟨number, known⟩ := Option.isSome_iff_exists.mp known
  have same := (equals_iff_of_number known firstPlain.finite secondPlain.finite).mp left
  have again := (equals_iff_of_number same.symm secondPlain.finite thirdPlain.finite).mp right
  exact (equals_iff_of_number known firstPlain.finite thirdPlain.finite).mpr again

mutual

theorem equals_symm
    (left right : Value) (leftPlain : left.IsPlain) (rightPlain : right.IsPlain)
    (equal : left.equals right = true) : right.equals left = true := by
  match left with
  | .list items =>
      cases right with
      | list others =>
          simp only [Value.equals] at equal ⊢
          exact equalsItems_symm items others (isPlain_list_iff.mp leftPlain)
            (isPlain_list_iff.mp rightPlain) equal
      | _ => simp [Value.equals, Value.number?] at equal
  | .dict entries =>
      cases right with
      | dict others =>
          have each := equalsValues_symm entries
          obtain ⟨fields, rfl, distinct, plain⟩ := exists_named_of_isPlain rightPlain
          have found := @lookup_of_equals_named entries fields leftPlain.json equal
          simp only [Value.equals, Bool.and_eq_true, decide_eq_true_eq] at equal ⊢
          refine ⟨equal.1.symm, equalsEntries_iff.mpr ?_⟩
          intro entry member
          obtain ⟨field, inside, rfl⟩ := List.mem_map.mp member
          obtain ⟨item, looked, agree⟩ := found (OrderedDict.get?_eq_some_of_mem distinct inside)
          obtain ⟨own, stands, rfl⟩ := mem_of_lookupEntry looked
          exact ⟨own.2, looked, each own stands field.2 (isPlain_of_lookup leftPlain looked)
            (plain field inside) agree⟩
      | _ => simp [Value.equals, Value.number?] at equal
  | .none => cases right <;> simp_all [Value.equals, Value.number?]
  | .str _ => cases right <;> simp_all [Value.equals, Value.number?]
  | .bool _ => exact equals_symm_of_number rfl leftPlain rightPlain equal
  | .int _ => exact equals_symm_of_number rfl leftPlain rightPlain equal
  | .float number =>
      have finite : number.isFinite = true := leftPlain.finite
      refine equals_symm_of_number ?_ leftPlain rightPlain equal
      simp [Value.number?, finite]
  | .tuple _ => exact leftPlain.json.elim
  | .other _ => exact leftPlain.json.elim

theorem equalsItems_symm
    (lefts rights : List Value) (leftPlain : ∀ item ∈ lefts, item.IsPlain)
    (rightPlain : ∀ item ∈ rights, item.IsPlain)
    (equal : Value.equalsItems lefts rights = true) :
    Value.equalsItems rights lefts = true := by
  match lefts, rights with
  | [], [] => rfl
  | left :: lefts, right :: rights =>
      simp only [Value.equalsItems, Bool.and_eq_true] at equal ⊢
      exact ⟨equals_symm left right (leftPlain _ List.mem_cons_self)
          (rightPlain _ List.mem_cons_self) equal.1,
        equalsItems_symm lefts rights (fun item member => leftPlain item (.tail _ member))
          (fun item member => rightPlain item (.tail _ member)) equal.2⟩

theorem equalsValues_symm (entries : List (Key × Value)) :
    ∀ entry ∈ entries, ∀ other, entry.2.IsPlain → other.IsPlain →
      entry.2.equals other = true → other.equals entry.2 = true := by
  match entries with
  | [] => simp
  | (_, value) :: entries =>
      intro entry member other
      rcases List.mem_cons.mp member with rfl | later
      · exact equals_symm value other
      · exact equalsValues_symm entries entry later other

end

mutual

theorem equals_trans
    (first second third : Value) (firstPlain : first.IsPlain) (secondPlain : second.IsPlain)
    (thirdPlain : third.IsPlain) (left : first.equals second = true)
    (right : second.equals third = true) : first.equals third = true := by
  match first with
  | .list items =>
      obtain ⟨middle, rfl, lefts⟩ : ∃ middle, second = .list middle ∧
          Value.equalsItems items middle = true := by
        cases second <;> simp_all [Value.equals, Value.number?]
      obtain ⟨others, rfl, rights⟩ : ∃ others, third = .list others ∧
          Value.equalsItems middle others = true := by
        cases third <;> simp_all [Value.equals, Value.number?]
      simp only [Value.equals]
      exact equalsItems_trans items middle others (isPlain_list_iff.mp firstPlain)
        (isPlain_list_iff.mp secondPlain) (isPlain_list_iff.mp thirdPlain) lefts rights
  | .dict entries =>
      have each := equalsValues_trans entries
      obtain ⟨middle, rfl, leftLength, lefts⟩ : ∃ middle, second = .dict middle ∧
          entries.length = middle.length ∧ Value.equalsEntries entries middle = true := by
        cases second <;> simp_all [Value.equals, Value.number?]
      obtain ⟨others, rfl, rightLength, rights⟩ : ∃ others, third = .dict others ∧
          middle.length = others.length ∧ Value.equalsEntries middle others = true := by
        cases third <;> simp_all [Value.equals, Value.number?]
      simp only [Value.equals, Bool.and_eq_true, decide_eq_true_eq]
      refine ⟨leftLength.trans rightLength, equalsEntries_iff.mpr ?_⟩
      intro entry member
      obtain ⟨found, looked, agree⟩ := equalsEntries_iff.mp lefts entry member
      obtain ⟨fields, rfl, -, -⟩ := exists_named_of_isPlain firstPlain
      obtain ⟨middles, rfl, -, -⟩ := exists_named_of_isPlain secondPlain
      obtain ⟨field, -, rfl⟩ := List.mem_map.mp member
      have stands := looked
      rw [lookupEntry_named] at stands
      obtain ⟨last, behind, same⟩ := equalsEntries_iff.mp rights (.str field.1, found)
        (List.mem_map_of_mem (f := fun field => (Key.str field.1, field.2))
          (OrderedDict.mem_of_get? stands))
      refine ⟨last, behind, each _ member found last ?_ (isPlain_of_lookup secondPlain looked)
        (isPlain_of_lookup thirdPlain behind) agree same⟩
      exact ⟨isJsonEntries_iff.mp firstPlain.json.2.2 _ member,
        finiteNumbersEntries_iff.mp firstPlain.finite _ member⟩
  | .none =>
      obtain rfl : second = .none := by cases second <;> simp_all [Value.equals, Value.number?]
      exact right
  | .str text =>
      obtain rfl : second = .str text := by
        cases second <;> simp_all [Value.equals, Value.number?]
      exact right
  | .bool _ => exact equals_trans_of_number rfl firstPlain secondPlain thirdPlain left right
  | .int _ => exact equals_trans_of_number rfl firstPlain secondPlain thirdPlain left right
  | .float number =>
      have finite : number.isFinite = true := firstPlain.finite
      refine equals_trans_of_number ?_ firstPlain secondPlain thirdPlain left right
      simp [Value.number?, finite]
  | .tuple _ => exact firstPlain.json.elim
  | .other _ => exact firstPlain.json.elim

theorem equalsItems_trans
    (firsts seconds thirds : List Value) (firstPlain : ∀ item ∈ firsts, item.IsPlain)
    (secondPlain : ∀ item ∈ seconds, item.IsPlain)
    (thirdPlain : ∀ item ∈ thirds, item.IsPlain)
    (left : Value.equalsItems firsts seconds = true)
    (right : Value.equalsItems seconds thirds = true) :
    Value.equalsItems firsts thirds = true := by
  match firsts, seconds, thirds with
  | [], [], [] => rfl
  | first :: firsts, second :: seconds, third :: thirds =>
      simp only [Value.equalsItems, Bool.and_eq_true] at left right ⊢
      exact ⟨equals_trans first second third (firstPlain _ List.mem_cons_self)
          (secondPlain _ List.mem_cons_self) (thirdPlain _ List.mem_cons_self) left.1 right.1,
        equalsItems_trans firsts seconds thirds (fun item member => firstPlain item (.tail _ member))
          (fun item member => secondPlain item (.tail _ member))
          (fun item member => thirdPlain item (.tail _ member)) left.2 right.2⟩

theorem equalsValues_trans (entries : List (Key × Value)) :
    ∀ entry ∈ entries, ∀ second third, entry.2.IsPlain → second.IsPlain → third.IsPlain →
      entry.2.equals second = true → second.equals third = true →
        entry.2.equals third = true := by
  match entries with
  | [] => simp
  | (_, value) :: entries =>
      intro entry member second third
      rcases List.mem_cons.mp member with rfl | later
      · exact equals_trans value second third
      · exact equalsValues_trans entries entry later second third

end

section Reload

variable {options : DumpOptions}

/-- A plain value can be dumped, also strictly. -/
theorem Value.IsPlain.exists_document
    (sorting : options.sortKeys = true) (strict : options.allowNan = false) {value : Value}
    (plain : value.IsPlain) : ∃ document, value.toDocument options = .ok document :=
  (exists_toDocument_iff sorting strict value plain.json).mpr plain.finite

theorem isPlain_reload
    (sorting : options.sortKeys = true) (strict : options.allowNan = false) {value : Value}
    (plain : value.IsPlain) : (value.reload options).IsPlain := by
  have converted := plain.exists_document sorting strict
  have json : (value.reload options).IsJson := by
    obtain ⟨document, accepted⟩ := converted
    have dumped : dumps options value = .ok (render options.spaced document) := by
      rw [dumps, accepted]
      rfl
    exact isJson_of_loads (loads_dumps dumped)
  exact ⟨json, (exists_toDocument_iff sorting strict _ json).mp
    (exists_toDocument_reload sorting converted)⟩

mutual

/-- A plain value equals what it is after it was dumped and loaded. -/
theorem equals_reload
    (sorting : options.sortKeys = true) (strict : options.allowNan = false) (value : Value)
    (plain : value.IsPlain) : value.equals (value.reload options) = true := by
  obtain ⟨document, converted⟩ := plain.exists_document sorting strict
  match value with
  | .list items =>
      rw [reload_list converted]
      simp only [Value.equals]
      exact equalsItems_reload sorting strict items (isPlain_list_iff.mp plain)
  | .dict entries =>
      have each := equalsValues_reload sorting strict entries
      obtain ⟨fields, rfl, distinct, plains⟩ := exists_named_of_isPlain plain
      rw [reload_named sorting distinct converted]
      simp only [Value.equals, Bool.and_eq_true, decide_eq_true_eq]
      refine ⟨by simp [named, sortByName], equalsEntries_iff.mpr ?_⟩
      intro entry member
      obtain ⟨field, inside, rfl⟩ := List.mem_map.mp member
      refine ⟨field.2.reload options, ?_, each _ member (plains field inside)⟩
      rw [lookupEntry_named, OrderedDict.get?_map, get?_sortByName distinct,
        OrderedDict.get?_eq_some_of_mem distinct inside]
      rfl
  | .none | .bool _ | .int _ | .str _ =>
      exact equals_self _ plain.json plain.finite
  | .float number =>
      have same : (Value.float number).reload options = .float number := by
        have accepted := converted
        simp only [Value.toDocument] at accepted
        split at accepted
        next =>
          obtain rfl := Except.ok.inj accepted
          simp [Value.reload, converted, Document.loaded, ofDocument]
        next => cases accepted
      rw [same]
      exact equals_self _ plain.json plain.finite
  | .tuple _ => exact plain.json.elim
  | .other _ => exact plain.json.elim

theorem equalsItems_reload
    (sorting : options.sortKeys = true) (strict : options.allowNan = false)
    (items : List Value) (plain : ∀ item ∈ items, item.IsPlain) :
    Value.equalsItems items (items.map (Value.reload options)) = true := by
  match items with
  | [] => rfl
  | item :: items =>
      simp only [List.map_cons, Value.equalsItems, Bool.and_eq_true]
      exact ⟨equals_reload sorting strict item (plain _ List.mem_cons_self),
        equalsItems_reload sorting strict items (fun item member => plain item (.tail _ member))⟩

theorem equalsValues_reload
    (sorting : options.sortKeys = true) (strict : options.allowNan = false)
    (entries : List (Key × Value)) :
    ∀ entry ∈ entries, entry.2.IsPlain → entry.2.equals (entry.2.reload options) = true := by
  match entries with
  | [] => simp
  | (_, value) :: entries =>
      intro entry member
      rcases List.mem_cons.mp member with rfl | later
      · exact equals_reload sorting strict value
      · exact equalsValues_reload sorting strict entries entry later

end

end Reload

mutual

/-- The names of a JSON value sort as its keys do. -/
theorem keyOrderStable_of_isJson (value : Value) (json : value.IsJson) :
    value.KeyOrderStable := by
  match value with
  | .list items => exact keyOrderStableItems_of_isJson items json
  | .dict entries =>
      obtain ⟨texts, different, values⟩ := json
      refine ⟨?_, keyOrderStableEntries_of_isJson entries values⟩
      obtain ⟨fields, rfl⟩ := exists_named texts
      have keys : (named fields).map Prod.fst = (OrderedDict.keys fields).map Key.str := by
        simp [named, OrderedDict.keys]
      rw [keys] at different ⊢
      have sorted : sortKeys ((OrderedDict.keys fields).map Key.str) =
          ((OrderedDict.keys fields).insertionSort (fun left right => left ≤ right)).map
            Key.str :=
        (List.map_insertionSort _ _ Key.str _ (by simp [Key.before])).symm
      have distinct := (List.perm_insertionSort (fun left right => left ≤ right)
        (OrderedDict.keys fields)).nodup_iff.mpr (different.of_map)
      rw [namesAscend, sorted, List.map_map, show Key.jsonName ∘ Key.str = id from rfl,
        List.map_id]
      exact ((List.pairwise_insertionSort _ _).and distinct).imp
        (fun both => lt_of_le_of_ne both.1 both.2)
  | .none | .bool _ | .int _ | .float _ | .str _ => trivial
  | .tuple _ => exact json.elim
  | .other _ => exact json.elim

theorem keyOrderStableItems_of_isJson (items : List Value) (json : Value.IsJsonItems items) :
    Value.KeyOrderStableItems items := by
  match items with
  | [] => trivial
  | item :: items =>
      exact ⟨keyOrderStable_of_isJson item json.1, keyOrderStableItems_of_isJson items json.2⟩

theorem keyOrderStableEntries_of_isJson
    (entries : List (Key × Value)) (json : Value.IsJsonEntries entries) :
    Value.KeyOrderStableEntries entries := by
  match entries with
  | [] => trivial
  | (_, value) :: entries =>
      exact ⟨keyOrderStable_of_isJson value json.1, keyOrderStableEntries_of_isJson entries json.2⟩

end

theorem isPlain_named
    {fields : List (String × Value)} (distinct : (OrderedDict.keys fields).Nodup)
    (plain : ∀ field ∈ fields, field.2.IsPlain) : (Value.dict (named fields)).IsPlain :=
  ⟨isJson_named distinct (fun field member => (plain field member).json),
    finiteNumbers_named (fun field member => (plain field member).finite)⟩

section Reload

variable {options : DumpOptions} (sorting : options.sortKeys = true)
  (strict : options.allowNan = false)

include sorting strict

/-- What was dumped and loaded comes back as it is. -/
theorem reload_reload {value : Value} (plain : value.IsPlain) :
    (value.reload options).reload options = value.reload options := by
  obtain ⟨document, converted⟩ := plain.exists_document sorting strict
  have again := toDocument_reload sorting converted (keyOrderStable_of_isJson value plain.json)
  simp only [Value.reload, converted] at again ⊢
  rw [again]

/-- A plain dictionary loads back as one with the same names. -/
theorem exists_reload_dict {entries : List (Key × Value)} (plain : (Value.dict entries).IsPlain) :
    ∃ loaded, (Value.dict entries).reload options = .dict loaded ∧
      loaded.isEmpty = entries.isEmpty ∧
      ∀ name, lookupEntry loaded (.str name) =
        (lookupEntry entries (.str name)).map (Value.reload options) := by
  obtain ⟨document, converted⟩ := plain.exists_document sorting strict
  obtain ⟨fields, rfl, distinct, -⟩ := exists_named_of_isPlain plain
  refine ⟨named (reloadFields options fields), reload_named sorting distinct converted, ?_, ?_⟩
  · have length : (named (reloadFields options fields)).length = (named fields).length := by
      simp [named, reloadFields, sortByName]
    rw [Bool.eq_iff_iff, List.isEmpty_iff_length_eq_zero, List.isEmpty_iff_length_eq_zero, length]
  · intro name
    rw [lookupEntry_named, lookupEntry_named, get?_reloadFields distinct]

/-- A plain value loads back as itself, a list as a list of as many values, and a
dictionary as one with the same names. -/
theorem reload_cases {value : Value} (plain : value.IsPlain) :
    value.reload options = value ∨
      (∃ items, value = .list items ∧
        value.reload options = .list (items.map (Value.reload options))) ∨
      ∃ entries loaded, value = .dict entries ∧ value.reload options = .dict loaded ∧
        loaded.isEmpty = entries.isEmpty := by
  obtain ⟨document, converted⟩ := plain.exists_document sorting strict
  cases value with
  | list items => exact .inr (.inl ⟨items, rfl, reload_list converted⟩)
  | dict entries =>
      obtain ⟨loaded, same, empty, -⟩ := exists_reload_dict sorting strict plain
      exact .inr (.inr ⟨entries, loaded, rfl, same, empty⟩)
  | float number =>
      have accepted := converted
      simp only [Value.toDocument] at accepted
      split at accepted
      next =>
        obtain rfl := Except.ok.inj accepted
        exact .inl (by simp [Value.reload, converted, Document.loaded, ofDocument])
      next => cases accepted
  | none | bool _ | int _ | str _ => exact .inl rfl
  | tuple _ => exact plain.json.elim
  | other _ => exact plain.json.elim

/-- Whether a value is true does not change. -/
theorem truthy_reload {value : Value} (plain : value.IsPlain) :
    (value.reload options).truthy = value.truthy := by
  rcases reload_cases sorting strict plain with
    same | ⟨items, rfl, same⟩ | ⟨entries, loaded, rfl, same, empty⟩
  · rw [same]
  · simp [same, Value.truthy]
  · simp [same, Value.truthy, empty]

end Reload

end Python
