import SuperAdvisor.Foundation.StableDump

/-!
# What a dump with sorted keys loads back as

The fields of a record after it was dumped and loaded, the dictionaries that
can be sorted, and that what was loaded can be dumped again.
-/

namespace Python

open JsonText

variable {options : DumpOptions}

/-- The fields of a record after it was dumped and loaded. -/
def reloadFields (options : DumpOptions) (fields : List (String × Value)) :
    List (String × Value) :=
  (sortByName fields).map (fun field => (field.1, field.2.reload options))

theorem keys_sortByName {α : Type} (entries : List (String × α)) :
    OrderedDict.keys (sortByName entries) =
      (OrderedDict.keys entries).insertionSort (fun left right => left ≤ right) :=
  List.map_insertionSort _ _ Prod.fst entries (by simp)

theorem keys_reloadFields (fields : List (String × Value)) :
    OrderedDict.keys (reloadFields options fields) =
      (OrderedDict.keys fields).insertionSort (fun left right => left ≤ right) := by
  rw [← keys_sortByName]
  simp [reloadFields, OrderedDict.keys]

theorem keys_reloadFields_nodup
    {fields : List (String × Value)} (distinct : (OrderedDict.keys fields).Nodup) :
    (OrderedDict.keys (reloadFields options fields)).Nodup := by
  rw [keys_reloadFields]
  exact (List.perm_insertionSort _ _).nodup_iff.mpr distinct

theorem get?_reloadFields
    {fields : List (String × Value)} (distinct : (OrderedDict.keys fields).Nodup)
    (name : String) :
    OrderedDict.get? (reloadFields options fields) name =
      (OrderedDict.get? fields name).map (Value.reload options) := by
  rw [reloadFields, OrderedDict.get?_map, get?_sortByName distinct]

/-- Records that load back as the same have the same fields, as far as a dump
tells values apart. -/
theorem get?_of_same_reload
    (sorting : options.sortKeys = true) {first second : List (String × Value)}
    (firstDistinct : (OrderedDict.keys first).Nodup)
    (secondDistinct : (OrderedDict.keys second).Nodup)
    (firstFields : ∀ field ∈ first, ∃ document, field.2.toDocument options = .ok document)
    (secondFields : ∀ field ∈ second, ∃ document, field.2.toDocument options = .ok document)
    (same : (Value.dict (named first)).reload options =
      (Value.dict (named second)).reload options) (name : String) :
    (OrderedDict.get? first name).map (Value.reload options) =
      (OrderedDict.get? second name).map (Value.reload options) := by
  obtain ⟨firstDocument, firstConverted⟩ := toDocument_named_ok sorting firstFields
  obtain ⟨secondDocument, secondConverted⟩ := toDocument_named_ok sorting secondFields
  rw [reload_named sorting firstDistinct firstConverted,
    reload_named sorting secondDistinct secondConverted] at same
  have entries : reloadFields options first = reloadFields options second := by
    have injective : Function.Injective
        (fun entry : String × Value => ((.str entry.1, entry.2) : Key × Value)) := by
      rintro ⟨firstName, firstValue⟩ ⟨secondName, secondValue⟩ equal
      simpa using equal
    exact List.map_injective_iff.mpr injective (Value.dict.inj same)
  rw [← get?_reloadFields firstDistinct, ← get?_reloadFields secondDistinct, entries]

theorem ofFields_eq_named (fields : List (String × Document)) :
    ofFields fields = named (fields.map (fun field => (field.1, ofDocument field.2))) := by
  induction fields with
  | nil => rfl
  | cons field fields induction =>
      obtain ⟨name, document⟩ := field
      simp [ofFields, named, induction]

private theorem mem_collectFields
    {entries : List (Key × Except JsonError Document)} {fields : List (String × Document)}
    (collected : collectFields options entries = .ok fields) {field : String × Document}
    (member : field ∈ fields) : ∃ entry ∈ entries, entry.2 = .ok field.2 := by
  induction entries generalizing fields with
  | nil =>
      cases collected
      cases member
  | cons entry entries induction =>
      obtain ⟨key, converted⟩ := entry
      simp only [collectFields, except_bind_eq_ok] at collected
      obtain ⟨name, -, value, accepted, others, rest, built⟩ := collected
      cases built
      rcases List.mem_cons.mp member with rfl | later
      · exact ⟨_, List.mem_cons_self, accepted⟩
      · obtain ⟨entry, inside, same⟩ := induction rest later
        exact ⟨entry, List.mem_cons_of_mem _ inside, same⟩

private theorem mem_loadedFields
    {fields : List (String × Document)} {field : String × Document}
    (member : field ∈ Document.loadedFields fields) :
    ∃ other ∈ fields, field.2 = other.2.loaded := by
  induction fields with
  | nil => cases member
  | cons other fields induction =>
      obtain ⟨name, document⟩ := other
      rcases List.mem_cons.mp member with rfl | later
      · exact ⟨_, List.mem_cons_self, rfl⟩
      · obtain ⟨other, inside, same⟩ := induction later
        exact ⟨other, List.mem_cons_of_mem _ inside, same⟩

mutual

/-- What was dumped and loaded can be dumped again. -/
theorem exists_toDocument_loaded
    (sorting : options.sortKeys = true) (value : Value) {document : Document}
    (converted : value.toDocument options = .ok document) :
    ∃ again, (ofDocument document.loaded).toDocument options = .ok again := by
  match value with
  | .none => cases converted; exact ⟨_, rfl⟩
  | .bool _ => cases converted; exact ⟨_, rfl⟩
  | .int _ => cases converted; exact ⟨_, rfl⟩
  | .str _ => cases converted; exact ⟨_, rfl⟩
  | .other _ => cases converted
  | .float number =>
      have same := converted
      simp only [Value.toDocument] at same
      split at same
      · cases same
        exact ⟨_, converted⟩
      · cases same
  | .list items =>
      simp only [Value.toDocument, except_map_eq_ok] at converted
      obtain ⟨documents, accepted, rfl⟩ := converted
      obtain ⟨again, accepted⟩ := exists_toDocuments_loaded sorting items accepted
      exact ⟨.array again, by simp [Document.loaded, ofDocument, Value.toDocument, accepted, Except.map]⟩
  | .tuple items =>
      simp only [Value.toDocument, except_map_eq_ok] at converted
      obtain ⟨documents, accepted, rfl⟩ := converted
      obtain ⟨again, accepted⟩ := exists_toDocuments_loaded sorting items accepted
      exact ⟨.array again, by simp [Document.loaded, ofDocument, Value.toDocument, accepted, Except.map]⟩
  | .dict entries =>
      simp only [Value.toDocument, except_bind_eq_ok] at converted
      obtain ⟨arranged, sorted, fields, collected, built⟩ := converted
      cases built
      have each := each_toDocument_loaded sorting entries
      rw [Document.loaded, ofDocument, ofFields_eq_named]
      refine toDocument_named_ok sorting ?_
      intro field member
      obtain ⟨loaded, inside, rfl⟩ := List.mem_map.mp member
      obtain ⟨pair, pairIn, samePair⟩ := OrderedDict.mem_ofPairs inside
      obtain ⟨other, otherIn, sameOther⟩ := mem_loadedFields pairIn
      obtain ⟨entry, entryIn, accepted⟩ := mem_collectFields collected otherIn
      rw [samePair, sameOther]
      exact each entry ((arrange_perm sorted).mem_iff.mp entryIn) accepted

theorem exists_toDocuments_loaded
    (sorting : options.sortKeys = true) (items : List Value) {documents : List Document}
    (converted : Value.toDocuments options items = .ok documents) :
    ∃ again, Value.toDocuments options (ofDocuments (Document.loadedItems documents)) =
      .ok again := by
  match items with
  | [] =>
      cases converted
      exact ⟨[], rfl⟩
  | item :: items =>
      simp only [Value.toDocuments, except_bind_eq_ok] at converted
      obtain ⟨first, accepted, others, rest, built⟩ := converted
      cases built
      obtain ⟨again, firstAgain⟩ := exists_toDocument_loaded sorting item accepted
      obtain ⟨later, othersAgain⟩ := exists_toDocuments_loaded sorting items rest
      exact ⟨again :: later, by
        simp [Document.loadedItems, ofDocuments, Value.toDocuments, firstAgain, othersAgain, bind,
          Except.bind]⟩

theorem each_toDocument_loaded
    (sorting : options.sortKeys = true) (entries : List (Key × Value)) :
    ∀ entry ∈ Value.convertEntries options entries, ∀ {document : Document},
      entry.2 = .ok document →
        ∃ again, (ofDocument document.loaded).toDocument options = .ok again := by
  match entries with
  | [] => simp [Value.convertEntries]
  | (key, value) :: entries =>
      intro entry member document accepted
      rcases List.mem_cons.mp member with rfl | later
      · exact exists_toDocument_loaded sorting value accepted
      · exact each_toDocument_loaded sorting entries entry later accepted

end

theorem exists_toDocument_reload
    (sorting : options.sortKeys = true) {value : Value}
    (converted : ∃ document, value.toDocument options = .ok document) :
    ∃ document, (value.reload options).toDocument options = .ok document := by
  obtain ⟨document, accepted⟩ := converted
  rw [Value.reload, accepted]
  exact exists_toDocument_loaded sorting value accepted

/-- A dictionary that is dumped with a text among its keys has texts only. -/
theorem texts_of_converted
    (sorting : options.sortKeys = true) {entries : List (Key × Value)} {document : Document}
    (converted : (Value.dict entries).toDocument options = .ok document) {name : String}
    (present : .str name ∈ entries.map Prod.fst) : ∀ entry ∈ entries, entry.1.isStr = true := by
  simp only [Value.toDocument, except_bind_eq_ok, arrange, sorting, if_true] at converted
  obtain ⟨arranged, sorted, -⟩ := converted
  split at sorted
  next comparable =>
    rw [keys_convertEntries] at comparable
    simp only [keysComparable, Bool.or_eq_true, decide_eq_true_eq, List.all_eq_true] at comparable
    intro entry member
    have inside : entry.1 ∈ entries.map Prod.fst := List.mem_map_of_mem member
    rcases comparable with (short | texts) | numbers
    · obtain ⟨key, single⟩ : ∃ key, entries.map Prod.fst = [key] := by
        refine List.length_eq_one_iff.mp (le_antisymm short ?_)
        exact List.length_pos_of_mem present
      rw [single, List.mem_singleton] at present inside
      rw [inside, ← present]
      rfl
    · exact texts _ inside
    · cases numbers _ present
  next => cases sorted

private theorem ofDocuments_loadedItems
    {items : List Value} {documents : List Document}
    (converted : Value.toDocuments options items = .ok documents) :
    ofDocuments (Document.loadedItems documents) = items.map (Value.reload options) := by
  induction items generalizing documents with
  | nil =>
      cases converted
      rfl
  | cons item items induction =>
      simp only [Value.toDocuments, except_bind_eq_ok] at converted
      obtain ⟨document, accepted, others, rest, built⟩ := converted
      cases built
      simp [Document.loadedItems, ofDocuments, Value.reload, accepted, induction rest]

/-- A list loads back item by item. -/
theorem reload_list
    {items : List Value} {document : Document}
    (converted : (Value.list items).toDocument options = .ok document) :
    (Value.list items).reload options = .list (items.map (Value.reload options)) := by
  have itemwise := converted
  simp only [Value.toDocument, except_map_eq_ok] at itemwise
  obtain ⟨documents, accepted, rfl⟩ := itemwise
  simp [Value.reload, converted, Document.loaded, ofDocument, ofDocuments_loadedItems accepted]

/-- Different texts ascend when they are sorted. -/
private theorem namesAscend_texts
    {names : List String} (distinct : names.Nodup) : namesAscend (names.map Key.str) := by
  have moved := List.map_insertionSort (fun left right => left ≤ right)
    (fun left right => Key.before left right = true) Key.str names (by simp [Key.before])
  have sorted : (sortKeys (names.map Key.str)).map Key.jsonName =
      names.insertionSort (fun left right => left ≤ right) := by
    simp [sortKeys, ← moved, Function.comp_def, Key.jsonName]
  rw [namesAscend, sorted]
  have fresh := (List.perm_insertionSort (fun left right => left ≤ right) names).nodup_iff.mpr
    distinct
  exact ((List.pairwise_insertionSort (fun left right => left ≤ right) names).and fresh).imp
    (fun both => lt_of_le_of_ne both.1 both.2)

private theorem keyOrderStableEntries_iff
    {entries : List (Key × Value)} :
    Value.KeyOrderStableEntries entries ↔ ∀ entry ∈ entries, entry.2.KeyOrderStable := by
  induction entries with
  | nil => simp [Value.KeyOrderStableEntries]
  | cons entry entries induction =>
      obtain ⟨key, value⟩ := entry
      simp [Value.KeyOrderStableEntries, induction]

mutual

/-- What was loaded is stable. -/
theorem keyOrderStable_loaded (document : Document) :
    (ofDocument document.loaded).KeyOrderStable := by
  match document with
  | .null => trivial
  | .bool _ => trivial
  | .int _ => trivial
  | .float _ => trivial
  | .string _ => trivial
  | .array items => exact keyOrderStable_loadedItems items
  | .object fields =>
      have each := keyOrderStable_loadedFields fields
      rw [Document.loaded, ofDocument, ofFields_eq_named]
      refine ⟨?_, keyOrderStableEntries_iff.mpr ?_⟩
      · have names := namesAscend_texts
          (OrderedDict.keys_nodup_ofPairs (Document.loadedFields fields))
        simpa [named, OrderedDict.keys, Function.comp_def] using names
      · intro entry member
        obtain ⟨field, inside, rfl⟩ := List.mem_map.mp member
        obtain ⟨loaded, loadedIn, rfl⟩ := List.mem_map.mp inside
        obtain ⟨pair, pairIn, samePair⟩ := OrderedDict.mem_ofPairs loadedIn
        rw [samePair]
        exact each pair pairIn

theorem keyOrderStable_loadedItems (items : List Document) :
    Value.KeyOrderStableItems (ofDocuments (Document.loadedItems items)) := by
  match items with
  | [] => trivial
  | item :: items => exact ⟨keyOrderStable_loaded item, keyOrderStable_loadedItems items⟩

theorem keyOrderStable_loadedFields (fields : List (String × Document)) :
    ∀ field ∈ Document.loadedFields fields, (ofDocument field.2).KeyOrderStable := by
  match fields with
  | [] => simp [Document.loadedFields]
  | (name, document) :: fields =>
      intro field member
      rcases List.mem_cons.mp member with rfl | later
      · exact keyOrderStable_loaded document
      · exact keyOrderStable_loadedFields fields field later

end

theorem keyOrderStable_reload
    {value : Value} (converted : ∃ document, value.toDocument options = .ok document) :
    (value.reload options).KeyOrderStable := by
  obtain ⟨document, accepted⟩ := converted
  rw [Value.reload, accepted]
  exact keyOrderStable_loaded document

end Python
