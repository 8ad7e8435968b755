import SuperAdvisor.Foundation.LoadedValues
import SuperAdvisor.Foundation.Reloading

/-!
# Values that come back equal

Dumping in insertion order and loading gives an equal value back only if the
value holds no tuples and no keys other than strings.  Two records with the same
names are equal field by field.
-/

namespace Python

open JsonText

variable {options : DumpOptions}

/-- What a value loads back as is a JSON value. -/
theorem isJson_reload
    {value : Value} {document : Document} (converted : value.toDocument options = .ok document) :
    (value.reload options).IsJson := by
  have dumped : dumps options value = .ok (render options.spaced document) := by
    rw [dumps, converted]
    rfl
  exact isJson_of_loads (loads_dumps dumped)

/-- Different strings that are all found among as many keys are the keys. -/
private theorem keys_of_found
    {names : List String} {entries : List (Key × Value)} (distinct : names.Nodup)
    (length : entries.length = names.length)
    (found : ∀ name ∈ names, ∃ value, lookupEntry entries (.str name) = some value) :
    (names.map Key.str).Perm (entries.map Prod.fst) := by
  have inside : names.map Key.str ⊆ entries.map Prod.fst := by
    intro key member
    obtain ⟨name, listed, rfl⟩ := List.mem_map.mp member
    obtain ⟨value, looked⟩ := found name listed
    exact mem_keys_of_lookupEntry looked
  refine (List.subperm_of_subset ?_ inside).perm_of_length_le (by simp [length])
  exact distinct.map (fun _ _ same => Key.str.inj same)

/-- A dictionary that equals what it loads back as has different strings as
keys. -/
private theorem exists_named_of_equals
    (plain : options.Plain) {entries : List (Key × Value)} {document : Document}
    (converted : (Value.dict entries).toDocument options = .ok document)
    (equal : ((Value.dict entries).reload options).equals (.dict entries) = true) :
    ∃ fields, entries = named fields ∧ (OrderedDict.keys fields).Nodup ∧
      ∀ field ∈ fields, (field.2.reload options).equals field.2 = true := by
  have json := isJson_reload converted
  rw [reload_dict converted] at json equal
  obtain ⟨loaded, isNamed⟩ := exists_named json.1
  rw [isNamed] at json equal
  have distinct : (OrderedDict.keys loaded).Nodup := by
    have different := json.2.1
    rw [show (named loaded).map Prod.fst = (OrderedDict.keys loaded).map Key.str by
      simp [named, OrderedDict.keys]] at different
    exact different.of_map
  simp only [Value.equals, Bool.and_eq_true, decide_eq_true_eq] at equal
  obtain ⟨length, each⟩ := equal
  have keys := @keys_of_found (OrderedDict.keys loaded) entries distinct
    (by simpa [named, OrderedDict.keys] using length.symm) (fun name listed => by
      obtain ⟨field, member, rfl⟩ := List.mem_map.mp listed
      obtain ⟨found, looked, -⟩ := equalsEntries_iff.mp each (.str field.1, field.2)
        (List.mem_map_of_mem (f := fun field => (Key.str field.1, field.2)) member)
      exact ⟨found, looked⟩)
  have texts : ∀ entry ∈ entries, entry.1.isStr = true := by
    intro entry member
    obtain ⟨name, -, same⟩ := List.mem_map.mp (keys.mem_iff.mpr (List.mem_map_of_mem member))
    rw [← same]
    rfl
  obtain ⟨fields, rfl⟩ := exists_named texts
  have names : (OrderedDict.keys fields).Nodup := by
    have different := keys.nodup_iff.mp (distinct.map (fun _ _ same => Key.str.inj same))
    rw [show (named fields).map Prod.fst = (OrderedDict.keys fields).map Key.str by
      simp [named, OrderedDict.keys]] at different
    exact different.of_map
  refine ⟨fields, rfl, names, ?_⟩
  intro field member
  have shape := reload_named_plain plain names converted
  rw [reload_dict converted, isNamed] at shape
  obtain ⟨found, looked, same⟩ := equalsEntries_iff.mp each
    (.str field.1, field.2.reload options) (by
      rw [Value.dict.inj shape]
      exact List.mem_map_of_mem (f := fun field => (Key.str field.1, field.2))
        (List.mem_map_of_mem (f := fun field => (field.1, field.2.reload options)) member))
  rw [lookupEntry_named, OrderedDict.get?_eq_some_of_mem names member] at looked
  rwa [← Option.some.inj looked] at same

mutual

/-- A value that equals what it loads back as is a JSON value. -/
theorem isJson_of_equals_reload
    (plain : options.Plain) (value : Value)
    (converted : ∃ document, value.toDocument options = .ok document)
    (equal : (value.reload options).equals value = true) : value.IsJson := by
  obtain ⟨document, accepted⟩ := converted
  match value with
  | .none | .bool _ | .int _ | .float _ | .str _ => trivial
  | .other _ => cases accepted
  | .tuple items =>
      have shape : ∃ loaded, (Value.tuple items).reload options = .list loaded := by
        have itemwise := accepted
        simp only [Value.toDocument, except_map_eq_ok] at itemwise
        obtain ⟨documents, -, rfl⟩ := itemwise
        exact ⟨ofDocuments (Document.loadedItems documents),
          by simp only [Value.reload, accepted, Document.loaded, ofDocument]⟩
      obtain ⟨loaded, shape⟩ := shape
      rw [shape] at equal
      simp [Value.equals, Value.number?] at equal
  | .list items =>
      rw [reload_list accepted] at equal
      simp only [Value.toDocument, except_map_eq_ok] at accepted
      obtain ⟨documents, itemwise, -⟩ := accepted
      exact isJsonItems_of_equals_reload plain items (toDocuments_item itemwise)
        (by simpa [Value.equals] using equal)
  | .dict entries =>
      have each := isJsonValues_of_equals_reload plain entries
      have values := toDocument_entry accepted
      obtain ⟨fields, rfl, distinct, same⟩ := exists_named_of_equals plain accepted equal
      refine isJson_named distinct (fun field member => ?_)
      have inside : ((.str field.1, field.2) : Key × Value) ∈ named fields :=
        List.mem_map_of_mem (f := fun field => (Key.str field.1, field.2)) member
      exact each _ inside (values _ inside).2 (same field member)

theorem isJsonItems_of_equals_reload
    (plain : options.Plain) (items : List Value)
    (converted : ∀ item ∈ items, ∃ document, item.toDocument options = .ok document)
    (equal : Value.equalsItems (items.map (Value.reload options)) items = true) :
    Value.IsJsonItems items := by
  match items with
  | [] => trivial
  | item :: items =>
      simp only [List.map_cons, Value.equalsItems, Bool.and_eq_true] at equal
      exact ⟨isJson_of_equals_reload plain item (converted _ List.mem_cons_self) equal.1,
        isJsonItems_of_equals_reload plain items
          (fun item member => converted item (.tail _ member)) equal.2⟩

theorem isJsonValues_of_equals_reload
    (plain : options.Plain) (entries : List (Key × Value)) :
    ∀ entry ∈ entries, (∃ document, entry.2.toDocument options = .ok document) →
      (entry.2.reload options).equals entry.2 = true → entry.2.IsJson := by
  match entries with
  | [] => simp
  | (_, value) :: entries =>
      intro entry member
      rcases List.mem_cons.mp member with rfl | later
      · exact isJson_of_equals_reload plain value
      · exact isJsonValues_of_equals_reload plain entries entry later

end

private theorem forall₂_of_found
    {left right : List (String × Value)} {whole : List (String × Value)}
    (names : OrderedDict.keys left = OrderedDict.keys right)
    (stand : ∀ field ∈ right, OrderedDict.get? whole field.1 = some field.2) :
    (∀ field ∈ left, ∃ found, OrderedDict.get? whole field.1 = some found ∧
        field.2.equals found = true) ↔
      List.Forall₂ (fun first second => first.2.equals second.2 = true) left right := by
  induction left generalizing right with
  | nil =>
      obtain rfl := List.map_eq_nil_iff.mp names.symm
      simp
  | cons first left induction =>
      obtain ⟨second, others, rfl⟩ : ∃ second others, right = second :: others :=
        List.exists_cons_of_ne_nil (by rintro rfl; cases names)
      simp only [OrderedDict.keys, List.map_cons, List.cons.injEq] at names
      have here := stand second List.mem_cons_self
      rw [List.forall_mem_cons, List.forall₂_cons, names.1, here,
        induction names.2 (fun field member => stand field (List.mem_cons_of_mem _ member))]
      simp

/-- Records with the same different names are equal field by field. -/
theorem equals_named_iff
    {left right : List (String × Value)} (names : OrderedDict.keys left = OrderedDict.keys right)
    (distinct : (OrderedDict.keys left).Nodup) :
    (Value.dict (named left)).equals (.dict (named right)) = true ↔
      List.Forall₂ (fun first second => first.2.equals second.2 = true) left right := by
  have length : (named left).length = (named right).length := by
    simpa [named, OrderedDict.keys] using congrArg List.length names
  rw [names] at distinct
  rw [← forall₂_of_found names
    (fun field member => OrderedDict.get?_eq_some_of_mem distinct member)]
  simp only [Value.equals, Bool.and_eq_true, decide_eq_true_eq, length, true_and,
    equalsEntries_iff]
  constructor
  · intro each field member
    obtain ⟨found, looked, same⟩ := each (.str field.1, field.2)
      (List.mem_map_of_mem (f := fun field => (Key.str field.1, field.2)) member)
    exact ⟨found, by rwa [← lookupEntry_named], same⟩
  · intro each entry member
    obtain ⟨field, inside, rfl⟩ := List.mem_map.mp member
    obtain ⟨found, looked, same⟩ := each field inside
    exact ⟨found, by rwa [lookupEntry_named], same⟩

end Python
