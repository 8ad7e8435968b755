import SuperAdvisor.Foundation.NamedFields

/-!
# Subscripts and the `dict` and `list` constructors

Reading a key of a value, and building a dictionary or a list from any value,
with the kind of exception each may raise.
-/

namespace Python

/-- An exception: the missing key, or the message. -/
inductive Failure where
  | keyError (key : String)
  | typeError (message : String)
  | valueError (message : String)
  | attributeError (message : String)
  | overflowError (message : String)
  deriving DecidableEq

/-- `str` of an exception. -/
def Failure.text : Failure → String
  | .keyError key => quotedText key
  | .typeError message => message
  | .valueError message => message
  | .attributeError message => message
  | .overflowError message => message

def Value.typeName : Value → String
  | .none => "NoneType"
  | .bool _ => "bool"
  | .int _ => "int"
  | .float _ => "float"
  | .str _ => "str"
  | .list _ => "list"
  | .tuple _ => "tuple"
  | .dict _ => "dict"
  | .other _ => "object"

/-- The exception of reading an attribute a value does not have. -/
def noAttribute (value : Value) (name : String) : Failure :=
  .attributeError
    (quotedText value.typeName ++ " object has no attribute " ++ quotedText name)

/-- The exception of subscripting a value that is no dictionary by a string. -/
def notSubscriptable (value : Value) : Failure :=
  match value with
  | .str _ => .typeError ("string indices must be integers, not " ++ quotedText "str")
  | .list _ => .typeError "list indices must be integers or slices, not str"
  | .tuple _ => .typeError "tuple indices must be integers or slices, not str"
  | value => .typeError (quotedText value.typeName ++ " object is not subscriptable")

/-- `entries.get(name, default)` -/
def getOr (entries : List (Key × Value)) (name : String) (default : Value) : Value :=
  (lookupEntry entries (.str name)).getD default

/-- `value[name]` -/
def getItem (value : Value) (name : String) : Except Failure Value :=
  match value with
  | .dict entries =>
      match lookupEntry entries (.str name) with
      | some found => .ok found
      | none => .error (.keyError name)
  | value => .error (notSubscriptable value)

/-- The key a value makes; lists and dictionaries make none. -/
def Value.asKey : Value → Option Key
  | .none => some .none
  | .bool value => some (.bool value)
  | .int value => some (.int value)
  | .float value => some (.float value)
  | .str value => some (.str value)
  | .tuple items => some (.other (Value.tuple items).shown)
  | .other label => some (.other label)
  | .list _ => Option.none
  | .dict _ => Option.none

def Key.asValue : Key → Value
  | .none => .none
  | .bool value => .bool value
  | .int value => .int value
  | .float value => .float value
  | .str value => .str value
  | .other label => .other label

/-- `list(value)` -/
def listOf : Value → Except Failure (List Value)
  | .list items => .ok items
  | .tuple items => .ok items
  | .str text => .ok (text.toList.map (fun symbol => .str (String.ofList [symbol])))
  | .dict entries => .ok (entries.map (fun entry => entry.1.asValue))
  | value => .error (.typeError (quotedText value.typeName ++ " object is not iterable"))

/-- The key and the value of the item `dict` meets at a position. -/
def pairOf (item : Value) (position : Nat) : Except Failure (Key × Value) :=
  match listOf item with
  | .ok [first, second] =>
      match first.asKey with
      | some key => .ok (key, second)
      | none => .error (.typeError ("unhashable type: " ++ quotedText first.typeName))
  | .ok items =>
      .error (.valueError
        ("dictionary update sequence element #" ++ intText position ++ " has length " ++
          intText items.length ++ "; 2 is required"))
  | .error _ =>
      .error (.typeError
        ("cannot convert dictionary update sequence element #" ++ intText position ++
          " to a sequence"))

/-- `dict(value)` -/
def dictOf : Value → Except Failure (List (Key × Value))
  | .dict entries => .ok entries
  | value => do
      let items ← listOf value
      items.zipIdx.foldlM
        (fun entries item => do
          let (key, value) ← pairOf item.1 item.2
          .ok (setEntry entries key value)) []

/-- A found value other than the default is an entry. -/
theorem lookupEntry_of_getOr
    {entries : List (Key × Value)} {name : String} {value : Value}
    (same : getOr entries name .none = value) (present : value ≠ .none) :
    lookupEntry entries (.str name) = some value := by
  unfold getOr at same
  cases looked : lookupEntry entries (.str name) with
  | none => exact absurd (by simpa [looked] using same.symm) present
  | some found => simpa [looked] using same

theorem equals_str_iff {value : Value} {text : String} :
    value.equals (.str text) = true ↔ value = .str text := by
  cases value <;> simp [Value.equals, Value.number?]

theorem getOr_named
    (entries : List (String × Value)) (name : String) (default : Value) :
    getOr (named entries) name default =
      (OrderedDict.get? entries name).getD default := by
  simp [getOr, lookupEntry_named]

@[simp] theorem getItem_named
    (entries : List (String × Value)) (name : String) :
    getItem (.dict (named entries)) name =
      match OrderedDict.get? entries name with
      | some found => .ok found
      | none => .error (.keyError name) := by
  simp [getItem, lookupEntry_named]

end Python
