import SuperAdvisor.Foundation.JsonIndent
import SuperAdvisor.Foundation.JsonValues

/-!
# Dumps in insertion order

A record that is dumped without sorting, compact or laid out on lines, loads
back field by field; a JSON value loads back as itself.
-/

namespace Python

open JsonText

variable {options : DumpOptions}

/-- `json.dumps(value, indent=2)` -/
def dumpsIndented (options : DumpOptions) (value : Value) : Except JsonError (List Char) :=
  (value.toDocument options).map (renderIndented 0)

theorem toDocument_of_dumps
    {value : Value} {text : List Char} (dumped : dumps options value = .ok text) :
    ∃ document, value.toDocument options = .ok document := by
  obtain ⟨document, converted, -⟩ := except_map_eq_ok.mp dumped
  exact ⟨document, converted⟩

theorem loads_dumps_line
    {value : Value} {text : List Char} (dumped : dumps options value = .ok text) :
    loads (text ++ ['\n']) = some (value.reload options) := by
  obtain ⟨document, converted, rfl⟩ := except_map_eq_ok.mp dumped
  simp [loads, parse_render_line, Value.reload, converted]

theorem loads_dumpsIndented
    {value : Value} {text : List Char} (dumped : dumpsIndented options value = .ok text) :
    loads (text ++ ['\n']) = some (value.reload options) := by
  obtain ⟨document, converted, rfl⟩ := except_map_eq_ok.mp dumped
  simp [loads, parse_renderIndented, Value.reload, converted]

theorem reload_of_isJson (plain : options.Plain) {value : Value} (json : value.IsJson) :
    value.reload options = value := by
  obtain ⟨document, converted, distinct, same⟩ := exists_document plain value json
  simp [Value.reload, converted, document.loaded_of_distinctKeys distinct, same]

theorem toDocument_of_isJson (plain : options.Plain) {value : Value} (json : value.IsJson) :
    ∃ document, value.toDocument options = .ok document := by
  obtain ⟨document, converted, -, -⟩ := exists_document plain value json
  exact ⟨document, converted⟩

theorem toDocument_named_plain
    (plain : options.Plain) (entries : List (String × Value)) :
    (Value.dict (named entries)).toDocument options =
      (convertFields options entries).map .object := by
  simp only [Value.toDocument, convertEntries_named, arrange, plain.unsorted, Bool.false_eq_true,
    if_false]
  show (collectFields options _ >>= fun fields => _) = _
  rw [collectFields_convert]
  cases convertFields options entries <;> rfl

/-- A record loads back field by field, in its own order. -/
theorem reload_named_plain
    (plain : options.Plain) {entries : List (String × Value)}
    (distinct : (OrderedDict.keys entries).Nodup) {document : Document}
    (converted : (Value.dict (named entries)).toDocument options = .ok document) :
    (Value.dict (named entries)).reload options =
      .dict (named (entries.map (fun entry => (entry.1, entry.2.reload options)))) := by
  have fieldwise := converted
  rw [toDocument_named_plain plain] at fieldwise
  obtain ⟨fields, accepted, rfl⟩ := except_map_eq_ok.mp fieldwise
  have merged : OrderedDict.ofPairs (Document.loadedFields fields) =
      Document.loadedFields fields := by
    refine OrderedDict.ofPairs_of_nodup ?_
    rw [keys_loadedFields, keys_convertFields accepted]
    exact distinct
  simp only [Value.reload, converted, Document.loaded, merged, ofDocument,
    ofFields_convertFields accepted]

theorem toDocuments_ok
    {items : List Value}
    (each : ∀ item ∈ items, ∃ document, item.toDocument options = .ok document) :
    ∃ documents, Value.toDocuments options items = .ok documents := by
  induction items with
  | nil => exact ⟨[], rfl⟩
  | cons item items induction =>
      obtain ⟨document, converted⟩ := each item List.mem_cons_self
      obtain ⟨documents, rest⟩ :=
        induction (fun other member => each other (List.mem_cons_of_mem _ member))
      exact ⟨document :: documents,
        by simp [Value.toDocuments, converted, rest, bind, Except.bind]⟩

/-- A text, or null. -/
def optionalText : Option String → Value
  | some text => .str text
  | none => .none

def textList (items : List String) : Value :=
  .list (items.map .str)

theorem toDocument_optionalText (text : Option String) :
    ∃ document, (optionalText text).toDocument options = .ok document := by
  cases text <;> exact ⟨_, rfl⟩

theorem toDocument_textList (items : List String) :
    ∃ document, (textList items).toDocument options = .ok document :=
  ⟨.array (items.map .string), by
    simp [textList, Value.toDocument, toDocuments_strings, Except.map]⟩

@[simp] theorem isJson_str (text : String) : (Value.str text).IsJson := trivial

@[simp] theorem isJson_optionalText (text : Option String) : (optionalText text).IsJson := by
  cases text <;> trivial

@[simp] theorem isJson_textList (items : List String) : (textList items).IsJson := by
  show Value.IsJsonItems (items.map .str)
  induction items with
  | nil => trivial
  | cons item items induction => exact ⟨trivial, induction⟩

theorem isJsonItems_iff {items : List Value} :
    Value.IsJsonItems items ↔ ∀ item ∈ items, item.IsJson := by
  induction items with
  | nil => simp [Value.IsJsonItems]
  | cons item items induction => simp [Value.IsJsonItems, induction]

theorem isJsonEntries_iff {entries : List (Key × Value)} :
    Value.IsJsonEntries entries ↔ ∀ entry ∈ entries, entry.2.IsJson := by
  induction entries with
  | nil => simp [Value.IsJsonEntries]
  | cons entry entries induction =>
      obtain ⟨key, value⟩ := entry
      simp [Value.IsJsonEntries, induction]

/-- A record of JSON values with different names is a JSON value. -/
theorem isJson_named
    {entries : List (String × Value)} (distinct : (OrderedDict.keys entries).Nodup)
    (fields : ∀ entry ∈ entries, entry.2.IsJson) : (Value.dict (named entries)).IsJson := by
  refine ⟨?_, ?_, ?_⟩
  · intro entry member
    obtain ⟨field, -, rfl⟩ := List.mem_map.mp member
    rfl
  rotate_left
  · refine isJsonEntries_iff.mpr (fun entry member => ?_)
    obtain ⟨field, inside, rfl⟩ := List.mem_map.mp member
    exact fields field inside
  have names : (named entries).map Prod.fst = (OrderedDict.keys entries).map Key.str := by
    simp [named, OrderedDict.keys]
  rw [names]
  exact distinct.map (fun _ _ same => Key.str.inj same)

end Python
