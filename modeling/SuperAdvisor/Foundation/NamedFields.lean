import SuperAdvisor.Foundation.PythonJson

/-!
# Records dumped as dictionaries

A record is written as a dictionary with different string keys.  Dumping such a
dictionary with sorted keys and loading it back gives the same fields in name
order, each holding what its own value loads back as.
-/

namespace Python

open JsonText

/-- The dictionary with these named entries. -/
def named (entries : List (String × Value)) : List (Key × Value) :=
  entries.map (fun entry => (.str entry.1, entry.2))

@[simp] theorem named_nil : named [] = [] := rfl

@[simp] theorem named_cons
    (name : String) (value : Value) (entries : List (String × Value)) :
    named ((name, value) :: entries) = (.str name, value) :: named entries := rfl

def sortByName {α : Type} (entries : List (String × α)) : List (String × α) :=
  entries.insertionSort (fun left right => left.1 ≤ right.1)

/-- What a value is after it was dumped and loaded. -/
def Value.reload (options : DumpOptions) (value : Value) : Value :=
  match value.toDocument options with
  | .ok document => ofDocument document.loaded
  | .error _ => value

/-- The entries of a dictionary after it was dumped and loaded. -/
def reloadEntries (options : DumpOptions) (entries : List (Key × Value)) :
    List (Key × Value) :=
  match (Value.dict entries).reload options with
  | .dict reloaded => reloaded
  | _ => entries

theorem loads_dumps
    {options : DumpOptions} {value : Value} {text : List Char}
    (dumped : dumps options value = .ok text) :
    loads text = some (value.reload options) := by
  obtain ⟨document, converted, rfl⟩ := except_map_eq_ok.mp dumped
  simp [loads, parse_render, Value.reload, converted]

/-- A dictionary loads back as a dictionary. -/
theorem reload_dict
    {options : DumpOptions} {entries : List (Key × Value)} {document : Document}
    (converted : (Value.dict entries).toDocument options = .ok document) :
    (Value.dict entries).reload options = .dict (reloadEntries options entries) := by
  have shape : ∃ fields, document = .object fields := by
    simp only [Value.toDocument, except_bind_eq_ok] at converted
    obtain ⟨arranged, -, fields, -, built⟩ := converted
    exact ⟨fields, (Except.ok.inj built).symm⟩
  obtain ⟨fields, rfl⟩ := shape
  simp [reloadEntries, Value.reload, converted, Document.loaded, ofDocument]

theorem lookupEntry_named (entries : List (String × Value)) (name : String) :
    lookupEntry (named entries) (.str name) = OrderedDict.get? entries name := by
  induction entries with
  | nil => rfl
  | cons entry entries induction =>
      obtain ⟨candidate, value⟩ := entry
      simp only [named] at induction
      simp [named, lookupEntry, Key.same, Key.number?, OrderedDict.get?, induction]

/-- A name that is found is a key. -/
theorem mem_keys_of_lookupEntry {entries : List (Key × Value)} {name : String} {value : Value}
    (found : lookupEntry entries (.str name) = some value) :
    Key.str name ∈ entries.map Prod.fst := by
  induction entries with
  | nil => cases found
  | cons entry entries induction =>
      obtain ⟨key, written⟩ := entry
      by_cases same : key.same (.str name) = true
      · have isName : key = .str name := by
          cases key <;> simp [Key.same, Key.number?] at same ⊢
          exact same
        simp [isName]
      · have later : lookupEntry entries (.str name) = some value := by
          simpa [lookupEntry, same] using found
        exact List.mem_cons_of_mem _ (induction later)

theorem sortByName_perm {α : Type} (entries : List (String × α)) :
    (sortByName entries).Perm entries :=
  List.perm_insertionSort _ _

theorem keys_sortByName_nodup
    {α : Type} {entries : List (String × α)}
    (distinct : (OrderedDict.keys entries).Nodup) :
    (OrderedDict.keys (sortByName entries)).Nodup :=
  ((sortByName_perm entries).map Prod.fst).nodup_iff.mpr distinct

/-- Sorting does not change what a name finds. -/
theorem get?_sortByName
    {α : Type} {entries : List (String × α)}
    (distinct : (OrderedDict.keys entries).Nodup) (name : String) :
    OrderedDict.get? (sortByName entries) name = OrderedDict.get? entries name :=
  OrderedDict.get?_perm (sortByName_perm entries) (keys_sortByName_nodup distinct) name

/-- Sorting by name commutes with a change of the values. -/
theorem sortByName_map {α β : Type} (change : α → β) (entries : List (String × α)) :
    sortByName (entries.map (fun entry => (entry.1, change entry.2))) =
      (sortByName entries).map (fun entry => (entry.1, change entry.2)) :=
  (List.map_insertionSort _ _ _ entries (by simp)).symm

/-- Convert the values of named entries, stopping at the first error. -/
def convertFields (options : DumpOptions) :
    List (String × Value) → Except JsonError (List (String × Document))
  | [] => .ok []
  | (name, value) :: entries => do
      let converted ← value.toDocument options
      let fields ← convertFields options entries
      .ok ((name, converted) :: fields)

theorem collectFields_convert
    (options : DumpOptions) (entries : List (String × Value)) :
    collectFields options
        (entries.map (fun entry => (Key.str entry.1, entry.2.toDocument options))) =
      convertFields options entries := by
  induction entries with
  | nil => rfl
  | cons entry entries induction =>
      obtain ⟨name, value⟩ := entry
      simp only [List.map_cons, collectFields, convertFields, induction]
      rfl

theorem convertEntries_named
    (options : DumpOptions) (entries : List (String × Value)) :
    Value.convertEntries options (named entries) =
      entries.map (fun entry => (Key.str entry.1, entry.2.toDocument options)) := by
  induction entries with
  | nil => rfl
  | cons entry entries induction =>
      obtain ⟨name, value⟩ := entry
      simp only [named] at induction
      simp [named, Value.convertEntries, induction]

private theorem arrange_convert
    {options : DumpOptions} (sorting : options.sortKeys = true)
    (entries : List (String × Value)) :
    arrange options
        (entries.map (fun entry => (Key.str entry.1, entry.2.toDocument options))) =
      .ok ((sortByName entries).map
        (fun entry => (Key.str entry.1, entry.2.toDocument options))) := by
  have comparable : keysComparable ((entries.map (fun entry =>
      (Key.str entry.1, entry.2.toDocument options))).map Prod.fst) = true := by
    simp [keysComparable, Key.isStr]
  unfold arrange sortByName
  rw [if_pos sorting, if_pos comparable]
  congr 1
  exact (List.map_insertionSort _ _ _ entries (by simp [Key.before])).symm

theorem toDocument_named
    {options : DumpOptions} (sorting : options.sortKeys = true)
    (entries : List (String × Value)) :
    (Value.dict (named entries)).toDocument options =
      (convertFields options (sortByName entries)).map .object := by
  simp only [Value.toDocument, convertEntries_named, arrange_convert sorting]
  show (collectFields options _ >>= fun fields => _) = _
  rw [collectFields_convert]
  cases convertFields options (sortByName entries) <;> rfl

theorem keys_convertFields
    {options : DumpOptions} {entries : List (String × Value)}
    {fields : List (String × Document)}
    (converted : convertFields options entries = .ok fields) :
    OrderedDict.keys fields = OrderedDict.keys entries := by
  induction entries generalizing fields with
  | nil =>
      cases converted
      rfl
  | cons entry entries induction =>
      obtain ⟨name, value⟩ := entry
      simp only [convertFields, except_bind_eq_ok] at converted
      obtain ⟨document, -, others, rest, built⟩ := converted
      cases built
      have tail := induction rest
      simp only [OrderedDict.keys] at tail ⊢
      simp [tail]

theorem ofFields_convertFields
    {options : DumpOptions} {entries : List (String × Value)}
    {fields : List (String × Document)}
    (converted : convertFields options entries = .ok fields) :
    ofFields (Document.loadedFields fields) =
      named (entries.map (fun entry => (entry.1, entry.2.reload options))) := by
  induction entries generalizing fields with
  | nil =>
      cases converted
      rfl
  | cons entry entries induction =>
      obtain ⟨name, value⟩ := entry
      simp only [convertFields, except_bind_eq_ok] at converted
      obtain ⟨document, accepted, others, rest, built⟩ := converted
      cases built
      have tail := induction rest
      simp only [named] at tail
      simp [Document.loadedFields, ofFields, named, Value.reload, accepted, tail]

/-- A record loads back field by field. -/
theorem reload_named
    {options : DumpOptions} (sorting : options.sortKeys = true)
    {entries : List (String × Value)} (distinct : (OrderedDict.keys entries).Nodup)
    {document : Document}
    (converted : (Value.dict (named entries)).toDocument options = .ok document) :
    (Value.dict (named entries)).reload options =
      .dict (named ((sortByName entries).map
        (fun entry => (entry.1, entry.2.reload options)))) := by
  have fieldwise := converted
  rw [toDocument_named sorting] at fieldwise
  obtain ⟨fields, accepted, rfl⟩ := except_map_eq_ok.mp fieldwise
  have merged : OrderedDict.ofPairs (Document.loadedFields fields) =
      Document.loadedFields fields := by
    refine OrderedDict.ofPairs_of_nodup ?_
    rw [keys_loadedFields, keys_convertFields accepted]
    exact keys_sortByName_nodup distinct
  simp only [Value.reload, converted, Document.loaded, merged, ofDocument,
    ofFields_convertFields accepted]

/-- Every field of a dumped record could be dumped. -/
theorem convertFields_field
    {options : DumpOptions} {entries : List (String × Value)}
    {fields : List (String × Document)}
    (converted : convertFields options entries = .ok fields)
    {entry : String × Value} (member : entry ∈ entries) :
    ∃ document, entry.2.toDocument options = .ok document := by
  induction entries generalizing fields with
  | nil => cases member
  | cons first entries induction =>
      obtain ⟨name, value⟩ := first
      simp only [convertFields, except_bind_eq_ok] at converted
      obtain ⟨document, accepted, others, rest, -⟩ := converted
      rcases List.mem_cons.mp member with rfl | later
      · exact ⟨document, accepted⟩
      · exact induction rest later

theorem toDocument_named_field
    {options : DumpOptions} (sorting : options.sortKeys = true)
    {entries : List (String × Value)} {document : Document}
    (converted : (Value.dict (named entries)).toDocument options = .ok document)
    {entry : String × Value} (member : entry ∈ entries) :
    ∃ field, entry.2.toDocument options = .ok field := by
  rw [toDocument_named sorting] at converted
  obtain ⟨fields, accepted, -⟩ := except_map_eq_ok.mp converted
  exact convertFields_field accepted ((sortByName_perm entries).mem_iff.mpr member)

@[simp] theorem toDocument_str (options : DumpOptions) (value : String) :
    (Value.str value).toDocument options = .ok (.string value) := rfl

@[simp] theorem toDocument_int (options : DumpOptions) (value : Int) :
    (Value.int value).toDocument options = .ok (.int value) := rfl

@[simp] theorem reload_str (options : DumpOptions) (value : String) :
    (Value.str value).reload options = .str value := rfl

@[simp] theorem reload_bool (options : DumpOptions) (value : Bool) :
    (Value.bool value).reload options = .bool value := rfl

theorem toDocuments_strings (options : DumpOptions) (items : List String) :
    Value.toDocuments options (items.map Value.str) = .ok (items.map .string) := by
  induction items with
  | nil => rfl
  | cons item items induction =>
      simp [Value.toDocuments, Value.toDocument, induction, bind, Except.bind]

private theorem ofDocuments_strings (items : List String) :
    ofDocuments (Document.loadedItems (items.map .string)) = items.map Value.str := by
  induction items with
  | nil => rfl
  | cons item items induction =>
      simp [Document.loadedItems, Document.loaded, ofDocuments, ofDocument, induction]

@[simp] theorem reload_strings (options : DumpOptions) (items : List String) :
    (Value.list (items.map Value.str)).reload options = .list (items.map Value.str) := by
  simp [Value.reload, Value.toDocument, toDocuments_strings, Except.map,
    Document.loaded, ofDocument, ofDocuments_strings]

end Python
