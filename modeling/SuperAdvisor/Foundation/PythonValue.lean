import Mathlib.Data.List.Sort
import Mathlib.Data.Rat.Defs
import SuperAdvisor.Foundation.JsonRoundTrip

/-!
# Dynamically typed values and their JSON form

Values of a dynamically typed language with insertion-ordered dictionaries,
their truth value, text and equality, and their conversion to and from JSON
documents.  Dictionary keys other than strings become text on the way out and
come back as strings.
-/

namespace Python

open JsonText

inductive Key where
  | none
  | bool (value : Bool)
  | int (value : Int)
  | float (value : FloatLiteral)
  | str (value : String)
  | other (label : String)
  deriving DecidableEq

/-- `other` stands for an object that has no JSON form. -/
inductive Value where
  | none
  | bool (value : Bool)
  | int (value : Int)
  | float (value : FloatLiteral)
  | str (value : String)
  | list (items : List Value)
  | tuple (items : List Value)
  | dict (entries : List (Key × Value))
  | other (label : String)

instance : Inhabited Value := ⟨.none⟩

/-- Mantissa digits, with the number of digits after the point. -/
def decimalMantissa (text : List Char) : Nat × Nat :=
  let whole := text.takeWhile Char.isDigit
  match text.dropWhile Char.isDigit with
  | '.' :: rest =>
      let fraction := rest.takeWhile Char.isDigit
      (Nat.ofDigitChars 10 (whole ++ fraction) 0, fraction.length)
  | _ => (Nat.ofDigitChars 10 whole 0, 0)

def decimalExponent (text : List Char) : Int :=
  match text.dropWhile (fun symbol => symbol.isDigit || symbol == '.') with
  | _ :: '-' :: digits => -(Nat.ofDigitChars 10 digits 0 : Int)
  | _ :: '+' :: digits => (Nat.ofDigitChars 10 digits 0 : Int)
  | _ :: digits => (Nat.ofDigitChars 10 digits 0 : Int)
  | [] => 0

def unsignedDecimal (text : List Char) : Rat :=
  let (mantissa, scale) := decimalMantissa text
  let exponent := decimalExponent text - scale
  if 0 ≤ exponent then (mantissa : Rat) * ((10 ^ exponent.toNat : Nat) : Rat)
  else (mantissa : Rat) / ((10 ^ (-exponent).toNat : Nat) : Rat)

/-- The number a finite literal denotes. -/
def floatToRat (literal : FloatLiteral) : Rat :=
  match literal.text with
  | '-' :: digits => -unsignedDecimal digits
  | digits => unsignedDecimal digits

def Key.number? : Key → Option Rat
  | .bool value => some (if value then 1 else 0)
  | .int value => some value
  | .float value => some (floatToRat value)
  | _ => Option.none

/-- Key equality: numbers of different kinds with one value are one key. -/
def Key.same (left right : Key) : Bool :=
  match left.number?, right.number? with
  | some first, some second => decide (first = second)
  | Option.none, Option.none => decide (left = right)
  | _, _ => false

def lookupEntry (entries : List (Key × Value)) (key : Key) : Option Value :=
  match entries with
  | [] => Option.none
  | (candidate, value) :: rest =>
      if candidate.same key then some value else lookupEntry rest key

def setEntry (entries : List (Key × Value)) (key : Key) (value : Value) :
    List (Key × Value) :=
  match entries with
  | [] => [(key, value)]
  | (candidate, old) :: rest =>
      if candidate.same key then (candidate, value) :: rest
      else (candidate, old) :: setEntry rest key value

/-- The truth value of an object. -/
def Value.truthy : Value → Bool
  | .none => false
  | .bool value => value
  | .int value => decide (value ≠ 0)
  | .float value => !value.isFinite || decide (floatToRat value ≠ 0)
  | .str value => decide (value ≠ "")
  | .list items => !items.isEmpty
  | .tuple items => !items.isEmpty
  | .dict entries => !entries.isEmpty
  | .other _ => true

def Value.number? : Value → Option Rat
  | .bool value => some (if value then 1 else 0)
  | .int value => some value
  | .float value => if value.isFinite then some (floatToRat value) else Option.none
  | _ => Option.none

mutual

/-- Value equality; dictionaries are compared without their order. -/
def Value.equals : Value → Value → Bool
  | .none, .none => true
  | .str left, .str right => decide (left = right)
  | .list left, .list right => Value.equalsItems left right
  | .tuple left, .tuple right => Value.equalsItems left right
  | .dict left, .dict right =>
      decide (left.length = right.length) && Value.equalsEntries left right
  | .other left, .other right => decide (left = right)
  | .float left, .float right =>
      if left.isFinite && right.isFinite then
        decide (floatToRat left = floatToRat right)
      else decide (left = right) && decide (left.text ≠ "NaN".toList)
  | left, right =>
      match left.number?, right.number? with
      | some first, some second => decide (first = second)
      | _, _ => false

def Value.equalsItems : List Value → List Value → Bool
  | [], [] => true
  | left :: lefts, right :: rights =>
      Value.equals left right && Value.equalsItems lefts rights
  | _, _ => false

def Value.equalsEntries : List (Key × Value) → List (Key × Value) → Bool
  | [], _ => true
  | (key, value) :: rest, entries =>
      (match lookupEntry entries key with
        | some found => Value.equals value found
        | Option.none => false) && Value.equalsEntries rest entries

end

def singleQuote : Char := Char.ofNat 39

/-- A quoted string as it shows inside a container. -/
def quotedText (value : String) : String :=
  let body := value.toList.flatMap (fun symbol =>
    if symbol = singleQuote then [backslash, singleQuote]
    else if symbol = quote then [quote]
    else escapeChar symbol)
  String.ofList (singleQuote :: (body ++ [singleQuote]))

def floatText (literal : FloatLiteral) : String :=
  if literal.text = "NaN".toList then "nan"
  else if literal.text = "Infinity".toList then "inf"
  else if literal.text = "-Infinity".toList then "-inf"
  else String.ofList literal.text

def intText (value : Int) : String :=
  String.ofList (renderInt value)

def Key.text : Key → String
  | .none => "None"
  | .bool value => if value then "True" else "False"
  | .int value => intText value
  | .float value => floatText value
  | .str value => quotedText value
  | .other label => label

mutual

/-- The text of a value inside a container. -/
def Value.shown : Value → String
  | .none => "None"
  | .bool value => if value then "True" else "False"
  | .int value => intText value
  | .float value => floatText value
  | .str value => quotedText value
  | .list items => "[" ++ ", ".intercalate (Value.shownItems items) ++ "]"
  | .tuple items => "(" ++ ", ".intercalate (Value.shownItems items) ++ ")"
  | .dict entries => "\x7b" ++ ", ".intercalate (Value.shownEntries entries) ++ "\x7d"
  | .other label => "<" ++ label ++ ">"

def Value.shownItems : List Value → List String
  | [] => []
  | item :: items => item.shown :: Value.shownItems items

def Value.shownEntries : List (Key × Value) → List String
  | [] => []
  | (key, value) :: entries =>
      (key.text ++ ": " ++ value.shown) :: Value.shownEntries entries

end

/-- The text of a value: a string is its own text. -/
def Value.text : Value → String
  | .str value => value
  | value => value.shown

end Python
