import SuperAdvisor.Foundation.PythonValue

/-!
# Dumping values and loading them back

`toDocument` is the conversion behind a JSON dump: it may sort the entries of
every dictionary by key and refuses what has no JSON form.  A value whose keys
keep their order when they become text dumps to a document that loads and
dumps to itself.
-/

namespace Python

open JsonText

structure DumpOptions where
  sortKeys : Bool
  allowNan : Bool
  spaced : Bool

inductive JsonError where
  | typeError
  | valueError
  deriving DecidableEq

def floatAllowed (options : DumpOptions) (value : FloatLiteral) : Bool :=
  value.isFinite || options.allowNan

/-- The text a key is dumped as. -/
def Key.jsonName : Key → String
  | .none => "null"
  | .bool value => if value then "true" else "false"
  | .int value => intText value
  | .float value => String.ofList value.text
  | .str value => value
  | .other label => label

def Key.dump (options : DumpOptions) (key : Key) : Except JsonError String :=
  match key with
  | .float value =>
      if floatAllowed options value then .ok key.jsonName else .error .valueError
  | .other _ => .error .typeError
  | _ => .ok key.jsonName

def Key.isStr : Key → Bool
  | .str _ => true
  | _ => false

/-- The order of sorted keys: strings by code point, numbers by value. -/
def Key.before (left right : Key) : Bool :=
  match left, right with
  | .str first, .str second => decide (first ≤ second)
  | left, right =>
      match left.number?, right.number? with
      | some first, some second => decide (first ≤ second)
      | _, _ => true

/-- Sorting succeeds on strings alone or on numbers alone. -/
def keysComparable (keys : List Key) : Bool :=
  decide (keys.length ≤ 1) || keys.all Key.isStr ||
    keys.all (fun key => key.number?.isSome)

def sortKeys (keys : List Key) : List Key :=
  keys.insertionSort (fun left right => left.before right = true)

def arrange {α : Type} (options : DumpOptions) (entries : List (Key × α)) :
    Except JsonError (List (Key × α)) :=
  if options.sortKeys then
    if keysComparable (entries.map Prod.fst) then
      .ok (entries.insertionSort
        (fun left right => left.1.before right.1 = true))
    else .error .typeError
  else .ok entries

/-- Name the arranged entries, stopping at the first error. -/
def collectFields (options : DumpOptions)
    (entries : List (Key × Except JsonError Document)) :
    Except JsonError (List (String × Document)) :=
  match entries with
  | [] => .ok []
  | (key, converted) :: rest => do
      let name ← key.dump options
      let value ← converted
      let fields ← collectFields options rest
      .ok ((name, value) :: fields)

mutual

def Value.toDocument (options : DumpOptions) : Value → Except JsonError Document
  | .none => .ok .null
  | .bool value => .ok (.bool value)
  | .int value => .ok (.int value)
  | .float value =>
      if floatAllowed options value then .ok (.float value) else .error .valueError
  | .str value => .ok (.string value)
  | .list items => (Value.toDocuments options items).map .array
  | .tuple items => (Value.toDocuments options items).map .array
  | .dict entries => do
      let arranged ← arrange options (Value.convertEntries options entries)
      let fields ← collectFields options arranged
      .ok (.object fields)
  | .other _ => .error .typeError

def Value.toDocuments (options : DumpOptions) :
    List Value → Except JsonError (List Document)
  | [] => .ok []
  | item :: items => do
      let first ← item.toDocument options
      let others ← Value.toDocuments options items
      .ok (first :: others)

def Value.convertEntries (options : DumpOptions) :
    List (Key × Value) → List (Key × Except JsonError Document)
  | [] => []
  | (key, value) :: entries =>
      (key, value.toDocument options) :: Value.convertEntries options entries

end

/-- Dump a value to text. -/
def dumps (options : DumpOptions) (value : Value) :
    Except JsonError (List Char) :=
  (value.toDocument options).map (render options.spaced)

mutual

/-- The value a document loads as. -/
def ofDocument : Document → Value
  | .null => .none
  | .bool value => .bool value
  | .int value => .int value
  | .float value => .float value
  | .string value => .str value
  | .array items => .list (ofDocuments items)
  | .object fields => .dict (ofFields fields)

def ofDocuments : List Document → List Value
  | [] => []
  | item :: items => ofDocument item :: ofDocuments items

def ofFields : List (String × Document) → List (Key × Value)
  | [] => []
  | (name, value) :: fields => (.str name, ofDocument value) :: ofFields fields

end

/-- Load a text; `none` is a decoding error. -/
def loads (text : List Char) : Option Value :=
  (parse text).map ofDocument

mutual

/-- A document that dumping with `options` can produce unchanged: only allowed
numbers, and keys in ascending order when keys are sorted. -/
def Dumped (options : DumpOptions) : Document → Prop
  | .float value => floatAllowed options value = true
  | .array items => DumpedItems options items
  | .object fields =>
      (options.sortKeys = true →
        (OrderedDict.keys fields).Pairwise (· < ·)) ∧ DumpedFields options fields
  | _ => True

def DumpedItems (options : DumpOptions) : List Document → Prop
  | [] => True
  | item :: items => Dumped options item ∧ DumpedItems options items

def DumpedFields (options : DumpOptions) : List (String × Document) → Prop
  | [] => True
  | (_, value) :: fields => Dumped options value ∧ DumpedFields options fields

end

/-- Sorted as keys, the names of these keys ascend as texts. -/
def namesAscend (keys : List Key) : Prop :=
  ((sortKeys keys).map Key.jsonName).Pairwise (· < ·)

mutual

/-- Every dictionary inside the value keeps the order of its keys when they
become text. -/
def Value.KeyOrderStable : Value → Prop
  | .list items => Value.KeyOrderStableItems items
  | .tuple items => Value.KeyOrderStableItems items
  | .dict entries =>
      namesAscend (entries.map Prod.fst) ∧ Value.KeyOrderStableEntries entries
  | _ => True

def Value.KeyOrderStableItems : List Value → Prop
  | [] => True
  | item :: items => item.KeyOrderStable ∧ Value.KeyOrderStableItems items

def Value.KeyOrderStableEntries : List (Key × Value) → Prop
  | [] => True
  | (_, value) :: entries =>
      value.KeyOrderStable ∧ Value.KeyOrderStableEntries entries

end

theorem except_bind_eq_ok
    {ε α β : Type} {first : Except ε α} {next : α → Except ε β} {result : β} :
    first >>= next = .ok result ↔ ∃ value, first = .ok value ∧ next value = .ok result := by
  cases first with
  | error problem => simp [bind, Except.bind]
  | ok value => simp [bind, Except.bind]

theorem except_map_eq_ok
    {ε α β : Type} {function : α → β} {first : Except ε α} {result : β} :
    first.map function = .ok result ↔ ∃ value, first = .ok value ∧ function value = result := by
  cases first with
  | error problem => simp [Except.map]
  | ok value => simp [Except.map]

theorem except_mapError_eq_ok
    {ε δ α : Type} {change : ε → δ} {result : Except ε α} {value : α} :
    result.mapError change = .ok value ↔ result = .ok value := by
  cases result <;> simp [Except.mapError]

theorem keys_convertEntries (options : DumpOptions) (entries : List (Key × Value)) :
    (Value.convertEntries options entries).map Prod.fst = entries.map Prod.fst := by
  induction entries with
  | nil => rfl
  | cons entry entries induction =>
      obtain ⟨key, value⟩ := entry
      simp [Value.convertEntries, induction]

theorem Key.dump_eq_ok
    {options : DumpOptions} {key : Key} {name : String}
    (dumped : key.dump options = .ok name) : name = key.jsonName := by
  unfold Key.dump at dumped
  split at dumped
  · split at dumped
    · exact (Except.ok.inj dumped).symm
    · cases dumped
  · cases dumped
  · exact (Except.ok.inj dumped).symm

/-- The fields an object dumps to carry the names of the arranged keys. -/
theorem collectFields_names
    {options : DumpOptions} {entries : List (Key × Except JsonError Document)}
    {fields : List (String × Document)}
    (collected : collectFields options entries = .ok fields) :
    OrderedDict.keys fields = (entries.map Prod.fst).map Key.jsonName := by
  induction entries generalizing fields with
  | nil =>
      cases collected
      rfl
  | cons entry entries induction =>
      obtain ⟨key, converted⟩ := entry
      simp only [collectFields, except_bind_eq_ok] at collected
      obtain ⟨name, named, value, -, others, rest, built⟩ := collected
      cases built
      have tail := induction rest
      simp only [OrderedDict.keys] at tail ⊢
      simp [Key.dump_eq_ok named, tail]

private theorem collectFields_dumped
    {options : DumpOptions} {entries : List (Key × Except JsonError Document)}
    {fields : List (String × Document)}
    (collected : collectFields options entries = .ok fields)
    (sound : ∀ entry ∈ entries, ∀ document, entry.2 = .ok document →
      Dumped options document) :
    DumpedFields options fields := by
  induction entries generalizing fields with
  | nil =>
      cases collected
      exact trivial
  | cons entry entries induction =>
      obtain ⟨key, converted⟩ := entry
      simp only [collectFields, except_bind_eq_ok] at collected
      obtain ⟨name, -, value, accepted, others, rest, built⟩ := collected
      cases built
      exact ⟨sound (key, converted) (by simp) value accepted,
        induction rest (fun other member => sound other (by simp [member]))⟩

theorem arrange_perm
    {α : Type} {options : DumpOptions} {entries arranged : List (Key × α)}
    (sorted : arrange options entries = .ok arranged) :
    arranged.Perm entries := by
  unfold arrange at sorted
  split at sorted
  · split at sorted
    · cases sorted
      exact List.perm_insertionSort _ _
    · cases sorted
  · cases sorted
    exact List.Perm.refl _

theorem arrange_keys
    {α : Type} {options : DumpOptions} {entries arranged : List (Key × α)}
    (sorting : options.sortKeys = true)
    (sorted : arrange options entries = .ok arranged) :
    arranged.map Prod.fst = sortKeys (entries.map Prod.fst) := by
  unfold arrange at sorted
  rw [if_pos sorting] at sorted
  split at sorted
  · cases sorted
    exact List.map_insertionSort _ _ Prod.fst entries (by simp)
  · cases sorted

mutual

/-- Dumping a value with stable key order yields a document that can be
dumped again unchanged. -/
theorem toDocument_dumped
    {options : DumpOptions} (value : Value) {document : Document}
    (converted : value.toDocument options = .ok document)
    (stable : options.sortKeys = true → value.KeyOrderStable) :
    Dumped options document := by
  match value with
  | .none => cases converted; exact trivial
  | .bool _ => cases converted; exact trivial
  | .int _ => cases converted; exact trivial
  | .str _ => cases converted; exact trivial
  | .other _ => cases converted
  | .float number =>
      simp only [Value.toDocument] at converted
      split at converted
      · rename_i allowed
        cases converted
        exact allowed
      · cases converted
  | .list items =>
      simp only [Value.toDocument, except_map_eq_ok] at converted
      obtain ⟨documents, accepted, rfl⟩ := converted
      exact toDocuments_dumped items accepted stable
  | .tuple items =>
      simp only [Value.toDocument, except_map_eq_ok] at converted
      obtain ⟨documents, accepted, rfl⟩ := converted
      exact toDocuments_dumped items accepted stable
  | .dict entries =>
      simp only [Value.toDocument, except_bind_eq_ok] at converted
      obtain ⟨arranged, sorted, fields, collected, built⟩ := converted
      cases built
      refine ⟨?_, ?_⟩
      · intro sorting
        rw [collectFields_names collected, arrange_keys sorting sorted,
          keys_convertEntries]
        exact (stable sorting).1
      · apply collectFields_dumped collected
        intro entry member document accepted
        exact convertEntries_dumped entries (fun sorting => (stable sorting).2)
          entry ((arrange_perm sorted).mem_iff.mp member) document accepted

theorem toDocuments_dumped
    {options : DumpOptions} (items : List Value) {documents : List Document}
    (converted : Value.toDocuments options items = .ok documents)
    (stable : options.sortKeys = true → Value.KeyOrderStableItems items) :
    DumpedItems options documents := by
  match items with
  | [] => cases converted; exact trivial
  | item :: items =>
      simp only [Value.toDocuments, except_bind_eq_ok] at converted
      obtain ⟨first, firstOk, others, othersOk, built⟩ := converted
      cases built
      exact ⟨toDocument_dumped item firstOk (fun sorting => (stable sorting).1),
        toDocuments_dumped items othersOk (fun sorting => (stable sorting).2)⟩

theorem convertEntries_dumped
    {options : DumpOptions} (entries : List (Key × Value))
    (stable : options.sortKeys = true → Value.KeyOrderStableEntries entries) :
    ∀ entry ∈ Value.convertEntries options entries, ∀ document,
      entry.2 = .ok document → Dumped options document := by
  intro entry member document accepted
  match entries with
  | [] => simp [Value.convertEntries] at member
  | (key, value) :: entries =>
      simp only [Value.convertEntries] at member
      rcases List.mem_cons.mp member with first | later
      · subst first
        exact toDocument_dumped value accepted (fun sorting => (stable sorting).1)
      · exact convertEntries_dumped entries (fun sorting => (stable sorting).2)
          entry later document accepted

end

private theorem collectFields_named
    (options : DumpOptions) (fields : List (String × Document)) :
    collectFields options (fields.map (fun field => (Key.str field.1, .ok field.2))) =
      .ok fields := by
  induction fields with
  | nil => rfl
  | cons field fields induction =>
      simp [collectFields, Key.dump, Key.jsonName, induction, bind, Except.bind]

private theorem arrange_named
    {options : DumpOptions} {fields : List (String × Document)}
    (ascending : options.sortKeys = true →
      (OrderedDict.keys fields).Pairwise (· < ·)) :
    arrange options
        (fields.map (fun field => (Key.str field.1, Except.ok (ε := JsonError) field.2))) =
      .ok (fields.map (fun field => (Key.str field.1, .ok field.2))) := by
  unfold arrange
  by_cases sorting : options.sortKeys = true
  · have comparable : keysComparable ((fields.map (fun field =>
        (Key.str field.1, Except.ok (ε := JsonError) field.2))).map Prod.fst) = true := by
      simp [keysComparable, Key.isStr]
    have inOrder : (fields.map (fun field =>
        (Key.str field.1, Except.ok (ε := JsonError) field.2))).Pairwise
          (fun left right => left.1.before right.1 = true) := by
      have names := ascending sorting
      simp only [OrderedDict.keys, List.pairwise_map] at names ⊢
      refine names.imp ?_
      intro left right less
      simpa [Key.before] using le_of_lt less
    rw [if_pos sorting, if_pos comparable, inOrder.insertionSort_eq]
  · rw [if_neg sorting]

mutual

/-- Loading and dumping again gives the same document. -/
theorem toDocument_ofDocument
    {options : DumpOptions} (document : Document) (dumped : Dumped options document) :
    (ofDocument document).toDocument options = .ok document := by
  match document with
  | .null => rfl
  | .bool _ => rfl
  | .int _ => rfl
  | .string _ => rfl
  | .float number =>
      have allowed : floatAllowed options number = true := dumped
      simp [ofDocument, Value.toDocument, allowed]
  | .array items =>
      simp [ofDocument, Value.toDocument, toDocuments_ofDocuments items dumped,
        Except.map]
  | .object fields =>
      have converted := convertEntries_ofFields fields dumped.2
      have arranged := arrange_named dumped.1
      simp [ofDocument, Value.toDocument, converted, arranged,
        collectFields_named, bind, Except.bind]

theorem toDocuments_ofDocuments
    {options : DumpOptions} (items : List Document)
    (dumped : DumpedItems options items) :
    Value.toDocuments options (ofDocuments items) = .ok items := by
  match items with
  | [] => rfl
  | item :: items =>
      simp [ofDocuments, Value.toDocuments, toDocument_ofDocument item dumped.1,
        toDocuments_ofDocuments items dumped.2, bind, Except.bind]

theorem convertEntries_ofFields
    {options : DumpOptions} (fields : List (String × Document))
    (dumped : DumpedFields options fields) :
    Value.convertEntries options (ofFields fields) =
      fields.map (fun field => (Key.str field.1, .ok field.2)) := by
  match fields with
  | [] => rfl
  | (name, value) :: fields =>
      simp [ofFields, Value.convertEntries, toDocument_ofDocument value dumped.1,
        convertEntries_ofFields fields dumped.2]

end

mutual

theorem Dumped.distinctKeys
    {options : DumpOptions} (sorting : options.sortKeys = true)
    (document : Document) (dumped : Dumped options document) :
    document.DistinctKeys := by
  match document with
  | .null => exact trivial
  | .bool _ => exact trivial
  | .int _ => exact trivial
  | .float _ => exact trivial
  | .string _ => exact trivial
  | .array items => exact DumpedItems.distinctKeys sorting items dumped
  | .object fields =>
      exact ⟨(dumped.1 sorting).imp (fun less => ne_of_lt less),
        DumpedFields.distinctKeys sorting fields dumped.2⟩

theorem DumpedItems.distinctKeys
    {options : DumpOptions} (sorting : options.sortKeys = true)
    (items : List Document) (dumped : DumpedItems options items) :
    Document.DistinctKeysItems items := by
  match items with
  | [] => exact trivial
  | item :: items =>
      exact ⟨Dumped.distinctKeys sorting item dumped.1,
        DumpedItems.distinctKeys sorting items dumped.2⟩

theorem DumpedFields.distinctKeys
    {options : DumpOptions} (sorting : options.sortKeys = true)
    (fields : List (String × Document)) (dumped : DumpedFields options fields) :
    Document.DistinctKeysFields fields := by
  match fields with
  | [] => exact trivial
  | (_, value) :: fields =>
      exact ⟨Dumped.distinctKeys sorting value dumped.1,
        DumpedFields.distinctKeys sorting fields dumped.2⟩

end

/-- A sorted dump loads as a value with the same dump. -/
theorem loads_render
    {options : DumpOptions} (sorting : options.sortKeys = true)
    {document : Document} (dumped : Dumped options document) :
    loads (render options.spaced document) = some (ofDocument document) := by
  simp [loads,
    parse_render_of_distinctKeys options.spaced (dumped.distinctKeys sorting)]

end Python
