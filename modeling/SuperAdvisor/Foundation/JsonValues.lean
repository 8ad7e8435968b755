import SuperAdvisor.Foundation.PythonDict
import SuperAdvisor.Foundation.StableDump

/-!
# JSON values

The values that a dump without sorting gives back unchanged: built from null,
booleans, numbers, texts, lists and dictionaries with different string keys.  A
strict dump refuses exactly those that hold a number that is not finite.
-/

namespace Python

open JsonText

mutual

/-- A JSON value with string keys. -/
def Value.IsJson : Value → Prop
  | .list items => Value.IsJsonItems items
  | .dict entries =>
      (∀ entry ∈ entries, entry.1.isStr = true) ∧ (entries.map Prod.fst).Nodup ∧
        Value.IsJsonEntries entries
  | .tuple _ => False
  | .other _ => False
  | _ => True

def Value.IsJsonItems : List Value → Prop
  | [] => True
  | item :: items => item.IsJson ∧ Value.IsJsonItems items

def Value.IsJsonEntries : List (Key × Value) → Prop
  | [] => True
  | (_, value) :: entries => value.IsJson ∧ Value.IsJsonEntries entries

end

/-- Dumping in insertion order, all floats allowed. -/
structure DumpOptions.Plain (options : DumpOptions) : Prop where
  unsorted : options.sortKeys = false
  lenient : options.allowNan = true

variable {options : DumpOptions}

theorem keys_ofFields (fields : List (String × Document)) :
    (ofFields fields).map Prod.fst = (OrderedDict.keys fields).map Key.str := by
  induction fields with
  | nil => rfl
  | cons field fields induction =>
      obtain ⟨name, value⟩ := field
      simp only [OrderedDict.keys] at induction ⊢
      simp [ofFields, induction]

mutual

/-- A JSON value has a document that stands for it. -/
theorem exists_document
    (plain : options.Plain) (value : Value) (json : value.IsJson) :
    ∃ document, value.toDocument options = .ok document ∧ document.DistinctKeys ∧
      ofDocument document = value := by
  match value with
  | .none => exact ⟨.null, rfl, trivial, rfl⟩
  | .bool flag => exact ⟨.bool flag, rfl, trivial, rfl⟩
  | .int number => exact ⟨.int number, rfl, trivial, rfl⟩
  | .float number =>
      exact ⟨.float number, by simp [Value.toDocument, floatAllowed, plain.lenient], trivial, rfl⟩
  | .str text => exact ⟨.string text, rfl, trivial, rfl⟩
  | .list items =>
      obtain ⟨documents, converted, distinct, same⟩ := exists_documents plain items json
      exact ⟨.array documents, by simp [Value.toDocument, converted, Except.map], distinct,
        by simp [ofDocument, same]⟩
  | .dict entries =>
      obtain ⟨texts, different, values⟩ := json
      obtain ⟨fields, converted, distinct, same⟩ := exists_fields plain entries texts values
      have names : (OrderedDict.keys fields).Nodup := by
        rw [← same, keys_ofFields] at different
        exact different.of_map
      refine ⟨.object fields, ?_, ⟨names, distinct⟩, by simp [ofDocument, same]⟩
      simp [Value.toDocument, arrange, plain.unsorted, converted, bind, Except.bind]
  | .tuple _ => exact json.elim
  | .other _ => exact json.elim

theorem exists_documents
    (plain : options.Plain) (items : List Value) (json : Value.IsJsonItems items) :
    ∃ documents, Value.toDocuments options items = .ok documents ∧
      Document.DistinctKeysItems documents ∧ ofDocuments documents = items := by
  match items with
  | [] => exact ⟨[], rfl, trivial, rfl⟩
  | item :: items =>
      obtain ⟨document, converted, distinct, same⟩ := exists_document plain item json.1
      obtain ⟨documents, rest, distinctRest, sameRest⟩ := exists_documents plain items json.2
      exact ⟨document :: documents,
        by simp [Value.toDocuments, converted, rest, bind, Except.bind],
        ⟨distinct, distinctRest⟩, by simp [ofDocuments, same, sameRest]⟩

theorem exists_fields
    (plain : options.Plain) (entries : List (Key × Value))
    (texts : ∀ entry ∈ entries, entry.1.isStr = true) (json : Value.IsJsonEntries entries) :
    ∃ fields, collectFields options (Value.convertEntries options entries) = .ok fields ∧
      Document.DistinctKeysFields fields ∧ ofFields fields = entries := by
  match entries with
  | [] => exact ⟨[], rfl, trivial, rfl⟩
  | (.str name, value) :: entries =>
      obtain ⟨document, converted, distinct, same⟩ := exists_document plain value json.1
      obtain ⟨fields, rest, distinctRest, sameRest⟩ := exists_fields plain entries
        (fun entry member => texts entry (List.mem_cons_of_mem _ member)) json.2
      exact ⟨(name, document) :: fields,
        by simp [Value.convertEntries, collectFields, Key.dump, Key.jsonName, converted, rest,
          bind, Except.bind],
        ⟨distinct, distinctRest⟩, by simp [ofFields, same, sameRest]⟩
  | (.none, _) :: _ => exact absurd (texts _ List.mem_cons_self) (by simp [Key.isStr])
  | (.bool _, _) :: _ => exact absurd (texts _ List.mem_cons_self) (by simp [Key.isStr])
  | (.int _, _) :: _ => exact absurd (texts _ List.mem_cons_self) (by simp [Key.isStr])
  | (.float _, _) :: _ => exact absurd (texts _ List.mem_cons_self) (by simp [Key.isStr])
  | (.other _, _) :: _ => exact absurd (texts _ List.mem_cons_self) (by simp [Key.isStr])

end

mutual

/-- Every floating-point number in the value is finite. -/
def Value.FiniteNumbers : Value → Prop
  | .float number => number.isFinite = true
  | .list items => Value.FiniteNumbersItems items
  | .tuple items => Value.FiniteNumbersItems items
  | .dict entries => Value.FiniteNumbersEntries entries
  | _ => True

def Value.FiniteNumbersItems : List Value → Prop
  | [] => True
  | item :: items => item.FiniteNumbers ∧ Value.FiniteNumbersItems items

def Value.FiniteNumbersEntries : List (Key × Value) → Prop
  | [] => True
  | (_, value) :: entries => value.FiniteNumbers ∧ Value.FiniteNumbersEntries entries

end

/-! What a dump of a whole says about its parts. -/

private theorem collectFields_entry
    {entries : List (Key × Except JsonError Document)} {fields : List (String × Document)}
    (collected : collectFields options entries = .ok fields) :
    ∀ entry ∈ entries, (∃ name, entry.1.dump options = .ok name) ∧
      ∃ document, entry.2 = .ok document := by
  induction entries generalizing fields with
  | nil => simp
  | cons entry entries induction =>
      obtain ⟨key, converted⟩ := entry
      simp only [collectFields, except_bind_eq_ok] at collected
      obtain ⟨name, dumped, document, accepted, others, rest, -⟩ := collected
      exact List.forall_mem_cons.mpr ⟨⟨⟨name, dumped⟩, document, accepted⟩, induction rest⟩

private theorem mem_convertEntries
    {entries : List (Key × Value)} {entry : Key × Value} (member : entry ∈ entries) :
    (entry.1, entry.2.toDocument options) ∈ Value.convertEntries options entries := by
  induction entries with
  | nil => cases member
  | cons first entries induction =>
      obtain ⟨key, value⟩ := first
      rcases List.mem_cons.mp member with rfl | later
      · exact List.mem_cons_self
      · exact List.mem_cons_of_mem _ (induction later)

/-- A dictionary that is dumped has keys and values that are. -/
theorem toDocument_entry
    {entries : List (Key × Value)} {document : Document}
    (converted : (Value.dict entries).toDocument options = .ok document) :
    ∀ entry ∈ entries, (∃ name, entry.1.dump options = .ok name) ∧
      ∃ inner, entry.2.toDocument options = .ok inner := by
  intro entry member
  simp only [Value.toDocument, except_bind_eq_ok] at converted
  obtain ⟨arranged, sorted, fields, collected, -⟩ := converted
  exact collectFields_entry collected _
    ((arrange_perm sorted).mem_iff.mpr (mem_convertEntries member))

/-- A list that is dumped has items that are. -/
theorem toDocuments_item
    {items : List Value} {documents : List Document}
    (converted : Value.toDocuments options items = .ok documents) :
    ∀ item ∈ items, ∃ document, item.toDocument options = .ok document := by
  induction items generalizing documents with
  | nil => simp
  | cons item items induction =>
      simp only [Value.toDocuments, except_bind_eq_ok] at converted
      obtain ⟨first, accepted, others, rest, -⟩ := converted
      exact List.forall_mem_cons.mpr ⟨⟨first, accepted⟩, induction rest⟩

/-- The items of a value that is dumped are dumped. -/
theorem toDocument_listOf
    {value : Value} {document : Document} (converted : value.toDocument options = .ok document)
    {items : List Value} (listed : listOf value = .ok items) :
    ∀ item ∈ items, ∃ inner, item.toDocument options = .ok inner := by
  cases value with
  | list found =>
      cases listed
      obtain ⟨documents, accepted, -⟩ := except_map_eq_ok.mp converted
      exact toDocuments_item accepted
  | tuple found =>
      cases listed
      obtain ⟨documents, accepted, -⟩ := except_map_eq_ok.mp converted
      exact toDocuments_item accepted
  | str text =>
      cases listed
      intro item member
      obtain ⟨symbol, -, rfl⟩ := List.mem_map.mp member
      exact ⟨_, rfl⟩
  | dict entries =>
      cases listed
      intro item member
      obtain ⟨entry, inside, rfl⟩ := List.mem_map.mp member
      obtain ⟨⟨name, dumped⟩, -⟩ := toDocument_entry converted entry inside
      cases shape : entry.1 with
      | float number =>
          rw [shape, Key.dump] at dumped
          split at dumped
          next allowed => exact ⟨_, by simp [Key.asValue, Value.toDocument, allowed]; rfl⟩
          next => cases dumped
      | other label =>
          rw [shape] at dumped
          cases dumped
      | _ => exact ⟨_, rfl⟩
  | _ => cases listed

theorem toDocument_named_iff
    (sorting : options.sortKeys = true) {fields : List (String × Value)} :
    (∃ document, (Value.dict (named fields)).toDocument options = .ok document) ↔
      ∀ field ∈ fields, ∃ document, field.2.toDocument options = .ok document := by
  constructor
  · rintro ⟨document, converted⟩ field member
    exact toDocument_named_field sorting converted member
  · exact toDocument_named_ok sorting

mutual

/-- A strict dump of a JSON value succeeds if its numbers are finite. -/
theorem exists_toDocument_iff
    (sorting : options.sortKeys = true) (strict : options.allowNan = false) (value : Value)
    (json : value.IsJson) :
    (∃ document, value.toDocument options = .ok document) ↔ value.FiniteNumbers := by
  match value with
  | .none => simp [Value.toDocument, Value.FiniteNumbers]
  | .bool _ => simp [Value.toDocument, Value.FiniteNumbers]
  | .int _ => simp [Value.toDocument, Value.FiniteNumbers]
  | .str _ => simp [Value.toDocument, Value.FiniteNumbers]
  | .float number =>
      cases finite : number.isFinite <;>
        simp [Value.toDocument, Value.FiniteNumbers, floatAllowed, strict, finite]
  | .list items =>
      simpa [Value.toDocument, Value.FiniteNumbers, except_map_eq_ok] using
        exists_toDocuments_iff sorting strict items json
  | .dict entries =>
      have each := each_toDocument_iff sorting strict entries json.2.2
      obtain ⟨fields, same⟩ := exists_named json.1
      rw [Value.FiniteNumbers, ← each, same, toDocument_named_iff sorting]
      simp only [named, List.forall_mem_map]
  | .tuple _ => exact json.elim
  | .other _ => exact json.elim

theorem exists_toDocuments_iff
    (sorting : options.sortKeys = true) (strict : options.allowNan = false) (items : List Value)
    (json : Value.IsJsonItems items) :
    (∃ documents, Value.toDocuments options items = .ok documents) ↔
      Value.FiniteNumbersItems items := by
  match items with
  | [] => simp [Value.toDocuments, Value.FiniteNumbersItems]
  | item :: items =>
      rw [Value.FiniteNumbersItems, ← exists_toDocument_iff sorting strict item json.1,
        ← exists_toDocuments_iff sorting strict items json.2]
      simp [Value.toDocuments, except_bind_eq_ok]

theorem each_toDocument_iff
    (sorting : options.sortKeys = true) (strict : options.allowNan = false)
    (entries : List (Key × Value)) (json : Value.IsJsonEntries entries) :
    (∀ entry ∈ entries, ∃ document, entry.2.toDocument options = .ok document) ↔
      Value.FiniteNumbersEntries entries := by
  match entries with
  | [] => simp [Value.FiniteNumbersEntries]
  | (key, value) :: entries =>
      rw [Value.FiniteNumbersEntries, ← exists_toDocument_iff sorting strict value json.1,
        ← each_toDocument_iff sorting strict entries json.2]
      simp

end

end Python
