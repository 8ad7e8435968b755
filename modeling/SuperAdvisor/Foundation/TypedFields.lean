import SuperAdvisor.Foundation.PlainDump
import SuperAdvisor.Foundation.PythonDict
import SuperAdvisor.Foundation.RaisingLoops

/-!
# Typed fields of a stored record

A store keeps records as files of JSON and reads every field back with its
type.  What was written from a typed field is read as that field.
-/

namespace Python

variable {options : DumpOptions}

/-- A dictionary from texts to texts. -/
structure TextDict where
  entries : List (String × String)
  distinct : (OrderedDict.keys entries).Nodup

def TextDict.empty : TextDict :=
  ⟨[], .nil⟩

def TextDict.value (texts : TextDict) : Value :=
  .dict (named (texts.entries.map (fun entry => (entry.1, .str entry.2))))

def optionalDict : Option (List (Key × Value)) → Value
  | some entries => .dict entries
  | none => .none

/-- The exceptions of a store of records.  A field of another type than its
own, which no call writes, counts as one here. -/
inductive RecordProblem where
  | fileNotFound
  | undecodable
  | keyError (name : String)
  | untyped (name : String)
  | badArguments
  | json (problem : JsonError)
  | valueError (message : String)
  deriving DecidableEq

def typedText (name : String) : Value → Except RecordProblem String
  | .str text => .ok text
  | _ => .error (.untyped name)

def typedOptional (name : String) : Value → Except RecordProblem (Option String)
  | .none => .ok none
  | value => (typedText name value).map some

def typedList (name : String) : Value → Except RecordProblem (List Value)
  | .list items => .ok items
  | _ => .error (.untyped name)

def typedTexts (name : String) (value : Value) : Except RecordProblem (List String) := do
  let items ← typedList name value
  items.mapM (typedText name)

def typedDict (name : String) : Value → Except RecordProblem (List (Key × Value))
  | .dict entries => .ok entries
  | _ => .error (.untyped name)

def typedOptionalDict (name : String) :
    Value → Except RecordProblem (Option (List (Key × Value)))
  | .none => .ok none
  | value => (typedDict name value).map some

def typedEntry (name : String) : Key × Value → Except RecordProblem (String × String)
  | (.str key, .str value) => .ok (key, value)
  | _ => .error (.untyped name)

def typedTextDict (name : String) (value : Value) : Except RecordProblem TextDict := do
  let entries ← typedDict name value
  let texts ← entries.mapM (typedEntry name)
  if distinct : (OrderedDict.keys texts).Nodup then .ok ⟨texts, distinct⟩
  else .error (.untyped name)

/-- `data[name]` -/
def readItem (data : List (Key × Value)) (name : String) : Except RecordProblem Value :=
  match lookupEntry data (.str name) with
  | some value => .ok value
  | none => .error (.keyError name)

/-- A keyword argument of a constructor. -/
def readArgument (data : List (Key × Value)) (name : String) : Except RecordProblem Value :=
  match lookupEntry data (.str name) with
  | some value => .ok value
  | none => .error .badArguments

/-! Reading the fields back. -/

theorem readItem_named (entries : List (String × Value)) (name : String) :
    readItem (named entries) name =
      match OrderedDict.get? entries name with
      | some value => .ok value
      | none => .error (.keyError name) := by
  rw [readItem, lookupEntry_named]

theorem readArgument_named (entries : List (String × Value)) (name : String) :
    readArgument (named entries) name =
      match OrderedDict.get? entries name with
      | some value => .ok value
      | none => .error .badArguments := by
  rw [readArgument, lookupEntry_named]

theorem ok_bind {ε α β : Type} (value : α) (next : α → Except ε β) :
    (Except.ok value >>= next) = next value := rfl

theorem typedTexts_textList (name : String) (items : List String) :
    typedTexts name (textList items) = .ok items := by
  show (items.map Value.str).mapM (typedText name) = .ok items
  refine mapM_eq_ok_iff.mpr ?_
  induction items with
  | nil => exact .nil
  | cons item items induction => exact .cons rfl induction

theorem typedOptional_optionalText (name : String) (text : Option String) :
    typedOptional name (optionalText text) = .ok text := by
  cases text <;> rfl

theorem typedOptionalDict_optionalDict
    (name : String) (entries : Option (List (Key × Value))) :
    typedOptionalDict name (optionalDict entries) = .ok entries := by
  cases entries <;> rfl

theorem typedTextDict_value (name : String) (texts : TextDict) :
    typedTextDict name texts.value = .ok texts := by
  have read : (named (texts.entries.map (fun entry => (entry.1, Value.str entry.2)))).mapM
      (typedEntry name) = .ok texts.entries := by
    refine mapM_eq_ok_iff.mpr ?_
    generalize texts.entries = entries
    induction entries with
    | nil => exact .nil
    | cons entry entries induction => exact .cons rfl induction
  show ((named _).mapM (typedEntry name) >>= _) = _
  rw [read]
  simp [bind, Except.bind, texts.distinct]

/-- A dictionary of texts is a JSON value. -/
theorem isJson_textDict (texts : TextDict) : texts.value.IsJson := by
  refine isJson_named ?_ ?_
  · have names : OrderedDict.keys (texts.entries.map (fun entry => (entry.1, Value.str entry.2))) =
        OrderedDict.keys texts.entries := by
      simp [OrderedDict.keys]
    rw [names]
    exact texts.distinct
  · intro entry member
    obtain ⟨text, -, rfl⟩ := List.mem_map.mp member
    trivial

theorem reload_optionalDict
    {entries : Option (List (Key × Value))} {document : JsonText.Document}
    (converted : (optionalDict entries).toDocument options = .ok document) :
    (optionalDict entries).reload options =
      optionalDict (entries.map (reloadEntries options)) := by
  cases entries with
  | none => rfl
  | some entries => exact reload_dict converted

end Python
