import SuperAdvisor.Foundation.PlainDump
import SuperAdvisor.Foundation.ValueEquality

/-!
# Values loaded from a text

The reader merges repeated keys, so a loaded value is a JSON value: all its
dictionaries have different string keys.  Two such dictionaries that are equal
have equal values behind the same names, and a value without NaN equals itself.
-/

namespace JsonText

private theorem distinctKeys_of_readBare
    {token : List Char} {document : Document} (read : readBare token = some document) :
    document.DistinctKeys := by
  unfold readBare at read
  repeat' split at read
  all_goals first
    | cases read
      trivial
    | cases read

/-- Whatever is read has different keys in every object: by induction on the
fuel, a field list being merged when its object is closed. -/
private theorem distinctKeys_of_read (fuel : Nat) :
    (∀ text document rest, readValue fuel text = some (document, rest) →
      document.DistinctKeys) ∧
    (∀ text items rest, readItems fuel text = some (items, rest) →
      Document.DistinctKeysItems items) ∧
    (∀ text fields rest, readFields fuel text = some (fields, rest) →
      ∀ field ∈ fields, field.2.DistinctKeys) := by
  induction fuel with
  | zero =>
      refine ⟨?_, ?_, ?_⟩
      · intro text document rest read
        simp [readValue] at read
      · intro text items rest read
        simp [readItems] at read
      · intro text fields rest read
        simp [readFields] at read
  | succ fuel induction =>
      obtain ⟨values, lists, objects⟩ := induction
      refine ⟨?_, ?_, ?_⟩
      · intro text document rest read
        cases text with
        | nil => simp [readValue] at read
        | cons symbol text =>
            unfold readValue at read
            split at read
            next =>
              obtain ⟨body, -, same⟩ := Option.map_eq_some_iff.mp read
              cases same
              trivial
            next =>
              split at read
              next =>
                split at read
                next =>
                  cases read
                  trivial
                next =>
                  obtain ⟨⟨items, others⟩, readRest, same⟩ := Option.map_eq_some_iff.mp read
                  cases same
                  exact lists _ _ _ readRest
              next =>
                split at read
                next =>
                  split at read
                  next =>
                    cases read
                    exact ⟨List.nodup_nil, trivial⟩
                  next =>
                    obtain ⟨⟨fields, others⟩, readRest, same⟩ :=
                      Option.map_eq_some_iff.mp read
                    cases same
                    refine ⟨OrderedDict.keys_nodup_ofPairs _, ?_⟩
                    rw [Document.distinctKeysFields_iff]
                    intro field member
                    obtain ⟨pair, inside, same⟩ := OrderedDict.mem_ofPairs member
                    rw [same]
                    exact objects _ _ _ readRest pair inside
                next =>
                  obtain ⟨value, readToken, same⟩ := Option.map_eq_some_iff.mp read
                  cases same
                  exact distinctKeys_of_readBare readToken
      · intro text items rest read
        simp only [readItems, Option.bind_eq_bind, Option.bind_eq_some_iff] at read
        obtain ⟨⟨item, after⟩, first, read⟩ := read
        split at read
        next =>
          obtain ⟨⟨others, last⟩, readRest, same⟩ := Option.bind_eq_some_iff.mp read
          cases same
          exact ⟨values _ _ _ first, lists _ _ _ readRest⟩
        next =>
          cases read
          exact ⟨values _ _ _ first, trivial⟩
        next => cases read
      · intro text fields rest read
        simp only [readFields, Option.bind_eq_bind, Option.bind_eq_some_iff] at read
        obtain ⟨⟨key, after⟩, -, read⟩ := read
        split at read
        next =>
          obtain ⟨⟨value, behind⟩, first, read⟩ := Option.bind_eq_some_iff.mp read
          split at read
          next =>
            obtain ⟨⟨others, last⟩, readRest, same⟩ := Option.bind_eq_some_iff.mp read
            cases same
            intro field member
            rcases List.mem_cons.mp member with here | later
            · rw [here]
              exact values _ _ _ first
            · exact objects _ _ _ readRest field later
          next =>
            cases read
            intro field member
            rw [List.mem_singleton.mp member]
            exact values _ _ _ first
          next => cases read
        next => cases read

theorem distinctKeys_of_parse
    {text : List Char} {document : Document} (read : parse text = some document) :
    document.DistinctKeys := by
  unfold parse at read
  split at read
  next found _ here =>
    split at read
    next =>
      cases read
      exact (distinctKeys_of_read _).1 _ _ _ here
    next => cases read
  next => cases read

end JsonText

namespace Python

open JsonText

mutual

theorem isJson_ofDocument
    (document : Document) (distinct : document.DistinctKeys) :
    (ofDocument document).IsJson := by
  match document with
  | .null => trivial
  | .bool _ => trivial
  | .int _ => trivial
  | .float _ => trivial
  | .string _ => trivial
  | .array items => exact isJsonItems_ofDocuments items distinct
  | .object fields =>
      refine ⟨?_, ?_, isJsonEntries_ofFields fields distinct.2⟩
      · intro entry member
        have inside : entry.1 ∈ (ofFields fields).map Prod.fst := List.mem_map_of_mem member
        rw [keys_ofFields] at inside
        obtain ⟨name, -, same⟩ := List.mem_map.mp inside
        simp [← same, Key.isStr]
      · rw [keys_ofFields]
        exact distinct.1.map (fun _ _ same => Key.str.inj same)

theorem isJsonItems_ofDocuments
    (items : List Document) (distinct : Document.DistinctKeysItems items) :
    Value.IsJsonItems (ofDocuments items) := by
  match items with
  | [] => trivial
  | item :: items =>
      exact ⟨isJson_ofDocument item distinct.1, isJsonItems_ofDocuments items distinct.2⟩

theorem isJsonEntries_ofFields
    (fields : List (String × Document)) (distinct : Document.DistinctKeysFields fields) :
    Value.IsJsonEntries (ofFields fields) := by
  match fields with
  | [] => trivial
  | (_, value) :: fields =>
      exact ⟨isJson_ofDocument value distinct.1, isJsonEntries_ofFields fields distinct.2⟩

end

/-- A loaded value is a JSON value. -/
theorem isJson_of_loads
    {text : List Char} {value : Value} (loaded : loads text = some value) : value.IsJson := by
  obtain ⟨document, read, rfl⟩ := Option.map_eq_some_iff.mp loaded
  exact isJson_ofDocument document (distinctKeys_of_parse read)

theorem mem_of_lookupEntry
    {entries : List (Key × Value)} {key : Key} {value : Value}
    (looked : lookupEntry entries key = some value) : ∃ entry ∈ entries, entry.2 = value := by
  induction entries with
  | nil => cases looked
  | cons entry entries induction =>
      unfold lookupEntry at looked
      split at looked
      next =>
        cases looked
        exact ⟨entry, List.mem_cons_self, rfl⟩
      next =>
        obtain ⟨other, member, same⟩ := induction looked
        exact ⟨other, List.mem_cons_of_mem _ member, same⟩

theorem isJson_of_lookup
    {entries : List (Key × Value)} {key : Key} {value : Value}
    (json : Value.IsJsonEntries entries) (looked : lookupEntry entries key = some value) :
    value.IsJson := by
  obtain ⟨entry, member, rfl⟩ := mem_of_lookupEntry looked
  exact isJsonEntries_iff.mp json entry member

theorem finiteNumbersItems_iff {items : List Value} :
    Value.FiniteNumbersItems items ↔ ∀ item ∈ items, item.FiniteNumbers := by
  induction items with
  | nil => simp [Value.FiniteNumbersItems]
  | cons item items induction => simp [Value.FiniteNumbersItems, induction]

theorem finiteNumbersEntries_iff {entries : List (Key × Value)} :
    Value.FiniteNumbersEntries entries ↔ ∀ entry ∈ entries, entry.2.FiniteNumbers := by
  induction entries with
  | nil => simp [Value.FiniteNumbersEntries]
  | cons entry entries induction =>
      obtain ⟨key, value⟩ := entry
      simp [Value.FiniteNumbersEntries, induction]

theorem finiteNumbers_named
    {fields : List (String × Value)} (finite : ∀ field ∈ fields, field.2.FiniteNumbers) :
    (Value.dict (named fields)).FiniteNumbers := by
  refine finiteNumbersEntries_iff.mpr (fun entry member => ?_)
  obtain ⟨field, inside, rfl⟩ := List.mem_map.mp member
  exact finite field inside

theorem finiteNumbers_of_lookup
    {entries : List (Key × Value)} {key : Key} {value : Value}
    (finite : Value.FiniteNumbersEntries entries)
    (looked : lookupEntry entries key = some value) : value.FiniteNumbers := by
  obtain ⟨entry, member, rfl⟩ := mem_of_lookupEntry looked
  exact finiteNumbersEntries_iff.mp finite entry member

private theorem keys_nodup_of_isJson
    {fields : List (String × Value)} (json : (Value.dict (named fields)).IsJson) :
    (OrderedDict.keys fields).Nodup := by
  have different := json.2.1
  rw [show (named fields).map Prod.fst = (OrderedDict.keys fields).map Key.str by
    simp [named, OrderedDict.keys]] at different
  exact different.of_map

/-- Equal dictionaries have the same names, so each name of the second is found
in the first. -/
theorem lookup_of_equals_named
    {found : List (Key × Value)} {fields : List (String × Value)}
    (json : (Value.dict found).IsJson)
    (equal : (Value.dict found).equals (.dict (named fields)) = true)
    {name : String} {value : Value} (listed : OrderedDict.get? fields name = some value) :
    ∃ item, lookupEntry found (.str name) = some item ∧ item.equals value = true := by
  obtain ⟨items, rfl⟩ := exists_named json.1
  obtain ⟨_, same, finds⟩ := lookup_of_equals_dict equal
  cases same
  have distinct := keys_nodup_of_isJson json
  have inside : OrderedDict.keys items ⊆ OrderedDict.keys fields := by
    intro key member
    obtain ⟨entry, stands, rfl⟩ := List.mem_map.mp member
    obtain ⟨other, behind, -⟩ := finds entry.1 entry.2
      ((lookupEntry_named _ _).trans (OrderedDict.get?_eq_some_of_mem distinct stands))
    rw [lookupEntry_named] at behind
    exact List.mem_map.mpr ⟨_, OrderedDict.mem_of_get? behind, rfl⟩
  have lengths : fields.length = items.length := by
    simp only [Value.equals, Bool.and_eq_true, decide_eq_true_eq] at equal
    simpa [named] using equal.1.symm
  have names := (List.subperm_of_subset distinct inside).perm_of_length_le
    (by simp [OrderedDict.keys, lengths])
  have present : name ∈ OrderedDict.keys items :=
    names.mem_iff.mpr (List.mem_map_of_mem (OrderedDict.mem_of_get? listed))
  cases looked : OrderedDict.get? items name with
  | none => exact absurd present (OrderedDict.get?_eq_none_iff.mp looked)
  | some item =>
      have here := (lookupEntry_named items name).trans looked
      obtain ⟨other, behind, agree⟩ := finds name item here
      rw [lookupEntry_named, listed] at behind
      cases behind
      exact ⟨item, here, agree⟩

mutual

/-- A value without infinite numbers or NaN equals itself. -/
theorem equals_self
    (value : Value) (json : value.IsJson) (finite : value.FiniteNumbers) :
    value.equals value = true := by
  match value with
  | .none => rfl
  | .bool _ => simp [Value.equals, Value.number?]
  | .int _ => simp [Value.equals, Value.number?]
  | .str _ => simp [Value.equals]
  | .float number =>
      have finite : number.isFinite = true := finite
      simp [Value.equals, finite]
  | .list items => simpa [Value.equals] using equalsItems_self items json finite
  | .dict entries =>
      have each := equalsValues_self entries json.2.2 finite
      obtain ⟨fields, rfl⟩ := exists_named json.1
      have names := keys_nodup_of_isJson json
      simp only [Value.equals, decide_true, Bool.true_and]
      refine equalsEntries_iff.mpr (fun entry member => ?_)
      obtain ⟨field, inside, rfl⟩ := List.mem_map.mp member
      refine ⟨field.2, ?_, each _ member⟩
      rw [lookupEntry_named]
      exact OrderedDict.get?_eq_some_of_mem names inside
  | .tuple _ => exact json.elim
  | .other _ => exact json.elim

theorem equalsItems_self
    (items : List Value) (json : Value.IsJsonItems items)
    (finite : Value.FiniteNumbersItems items) : Value.equalsItems items items = true := by
  match items with
  | [] => rfl
  | item :: items =>
      simp [Value.equalsItems, equals_self item json.1 finite.1,
        equalsItems_self items json.2 finite.2]

theorem equalsValues_self
    (entries : List (Key × Value)) (json : Value.IsJsonEntries entries)
    (finite : Value.FiniteNumbersEntries entries) :
    ∀ entry ∈ entries, entry.2.equals entry.2 = true := by
  intro entry member
  match entries with
  | [] => cases member
  | (_, value) :: entries =>
      rcases List.mem_cons.mp member with rfl | later
      · exact equals_self value json.1 finite.1
      · exact equalsValues_self entries json.2 finite.2 entry later

end

end Python
