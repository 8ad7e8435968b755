import Mathlib.Data.String.Basic
import SuperAdvisor.Foundation.OrderedDict

/-!
# JSON documents as text

Documents, the ASCII-only printer and the reader.  The printer escapes every
character outside the printable ASCII range, so a printed document never
contains a line break.  The reader accepts blanks between tokens and builds
objects the way a dictionary is filled, a repeated key keeping its last value.
Strings hold Unicode scalar values: an unpaired surrogate escape is refused.
-/

namespace JsonText

/-- Drop the digits at the front of a text. -/
def afterDigits (text : List Char) : List Char :=
  text.dropWhile Char.isDigit

/-- What follows an integer part without a leading zero. -/
def afterInteger (text : List Char) : Option (List Char) :=
  match text with
  | '-' :: rest => afterMagnitude rest
  | text => afterMagnitude text
where
  afterMagnitude : List Char → Option (List Char)
    | [] => none
    | digit :: rest =>
        if digit = '0' then some rest
        else if digit.isDigit then some (afterDigits rest)
        else none

/-- What follows an optional fraction. -/
def afterFraction (text : List Char) : List Char :=
  match text with
  | '.' :: digit :: rest =>
      if digit.isDigit then afterDigits rest else '.' :: digit :: rest
  | text => text

/-- What follows an optional exponent. -/
def afterExponent (text : List Char) : List Char :=
  match text with
  | [] => []
  | mark :: rest =>
      if mark = 'e' ∨ mark = 'E' then
        match rest with
        | [] => mark :: rest
        | sign :: digits =>
            let unsigned := if sign = '-' ∨ sign = '+' then digits else rest
            match unsigned with
            | [] => mark :: rest
            | digit :: tail =>
                if digit.isDigit then afterDigits tail else mark :: rest
      else mark :: rest

def isIntegerLiteral (text : List Char) : Bool :=
  decide (afterInteger text = some [])

/-- Characters of the tokens written without quotes: numbers and names. -/
def isBare (symbol : Char) : Bool :=
  symbol.isAlphanum || symbol == '-' || symbol == '+' || symbol == '.'

def nonFiniteLiterals : List (List Char) :=
  ["NaN".toList, "Infinity".toList, "-Infinity".toList]

/-- A number with a fraction or an exponent, or one of the three non-finite
names. -/
def isFloatLiteral (text : List Char) : Bool :=
  text.all isBare &&
    (nonFiniteLiterals.contains text ||
      match afterInteger text with
      | none => false
      | some [] => false
      | some rest => (afterExponent (afterFraction rest)).isEmpty)

/-- A floating-point number, given by the text that denotes it. -/
structure FloatLiteral where
  text : List Char
  wellFormed : isFloatLiteral text = true
  deriving DecidableEq

def FloatLiteral.isFinite (literal : FloatLiteral) : Bool :=
  !nonFiniteLiterals.contains literal.text

inductive Document where
  | null
  | bool (value : Bool)
  | int (value : Int)
  | float (value : FloatLiteral)
  | string (value : String)
  | array (items : List Document)
  | object (fields : List (String × Document))

def quote : Char := '"'

def backslash : Char := '\\'

/-- A four-digit escape of one UTF-16 unit. -/
def escapeUnit (unit : Nat) : List Char :=
  [backslash, 'u', Nat.digitChar (unit / 4096 % 16),
    Nat.digitChar (unit / 256 % 16), Nat.digitChar (unit / 16 % 16),
    Nat.digitChar (unit % 16)]

/-- The letter of a two-character escape. -/
def shortEscape (symbol : Char) : Option Char :=
  if symbol = quote then some quote
  else if symbol = backslash then some backslash
  else if symbol = '\n' then some 'n'
  else if symbol = '\r' then some 'r'
  else if symbol = '\t' then some 't'
  else if symbol = Char.ofNat 12 then some 'f'
  else if symbol = Char.ofNat 8 then some 'b'
  else none

def isPrintable (symbol : Char) : Bool :=
  decide (32 ≤ symbol.toNat) && decide (symbol.toNat ≤ 126)

def escapeChar (symbol : Char) : List Char :=
  match shortEscape symbol with
  | some letter => [backslash, letter]
  | none =>
      if isPrintable symbol then [symbol]
      else if symbol.toNat < 65536 then escapeUnit symbol.toNat
      else
        escapeUnit (55296 + (symbol.toNat - 65536) / 1024) ++
          escapeUnit (56320 + (symbol.toNat - 65536) % 1024)

def renderString (value : String) : List Char :=
  quote :: (value.toList.flatMap escapeChar ++ [quote])

def renderInt : Int → List Char
  | .ofNat magnitude => Nat.toDigits 10 magnitude
  | .negSucc magnitude => '-' :: Nat.toDigits 10 (magnitude + 1)

/-- The text after a separator: one blank in the spaced layout. -/
def gap (spaced : Bool) : List Char :=
  if spaced then [' '] else []

mutual

/-- Print a document, with or without a blank after each separator. -/
def render (spaced : Bool) : Document → List Char
  | .null => "null".toList
  | .bool true => "true".toList
  | .bool false => "false".toList
  | .int value => renderInt value
  | .float value => value.text
  | .string value => renderString value
  | .array items => '[' :: renderItems spaced items
  | .object fields => '{' :: renderFields spaced fields

/-- Print the items of an array and its closing bracket. -/
def renderItems (spaced : Bool) : List Document → List Char
  | [] => [']']
  | [item] => render spaced item ++ [']']
  | item :: items =>
      render spaced item ++ ',' :: (gap spaced ++ renderItems spaced items)

/-- Print the fields of an object and its closing brace. -/
def renderFields (spaced : Bool) : List (String × Document) → List Char
  | [] => ['}']
  | [(key, value)] =>
      renderString key ++ ':' :: (gap spaced ++ (render spaced value ++ ['}']))
  | (key, value) :: fields =>
      renderString key ++ ':' :: (gap spaced ++ (render spaced value ++
        ',' :: (gap spaced ++ renderFields spaced fields)))

end

/-- The integer a text of digits denotes, with its sign. -/
def integerOf (text : List Char) : Int :=
  match text with
  | '-' :: digits => -(Nat.ofDigitChars 10 digits 0 : Int)
  | digits => (Nat.ofDigitChars 10 digits 0 : Int)

/-- The document a bare token denotes. -/
def readBare (token : List Char) : Option Document :=
  if accepted : isFloatLiteral token = true then some (.float ⟨token, accepted⟩)
  else if isIntegerLiteral token then some (.int (integerOf token))
  else if token = "null".toList then some .null
  else if token = "true".toList then some (.bool true)
  else if token = "false".toList then some (.bool false)
  else none

def isBlank (symbol : Char) : Bool :=
  symbol == ' ' || symbol == '\t' || symbol == '\n' || symbol == '\r'

def skipBlank (text : List Char) : List Char :=
  text.dropWhile isBlank

def hexValue (symbol : Char) : Option Nat :=
  if symbol.isDigit then some (symbol.toNat - 48)
  else if 'a' ≤ symbol ∧ symbol ≤ 'f' then some (symbol.toNat - 87)
  else if 'A' ≤ symbol ∧ symbol ≤ 'F' then some (symbol.toNat - 55)
  else none

/-- Four hexadecimal digits after a unit escape. -/
def readUnit (text : List Char) : Option (Nat × List Char) :=
  match text with
  | first :: second :: third :: fourth :: rest => do
      let high ← hexValue first
      let upper ← hexValue second
      let lower ← hexValue third
      let low ← hexValue fourth
      some (high * 4096 + upper * 256 + lower * 16 + low, rest)
  | _ => none

/-- The low surrogate that follows a high one. -/
def readLowSurrogate (text : List Char) : Option (Nat × List Char) :=
  match text with
  | first :: second :: rest =>
      if first = backslash ∧ second = 'u' then do
        let (unit, rest) ← readUnit rest
        if 56320 ≤ unit ∧ unit < 57344 then some (unit, rest) else none
      else none
  | _ => none

/-- The character a unit escape denotes, surrogate pairs being joined. -/
def readUnitChar (text : List Char) : Option (Char × List Char) := do
  let (unit, rest) ← readUnit text
  if 55296 ≤ unit ∧ unit < 56320 then do
    let (low, rest) ← readLowSurrogate rest
    some (Char.ofNat (65536 + (unit - 55296) * 1024 + (low - 56320)), rest)
  else if 56320 ≤ unit ∧ unit < 57344 then none
  else some (Char.ofNat unit, rest)

/-- The character of a two-character escape. -/
def shortEscaped (letter : Char) : Option Char :=
  if letter = quote then some quote
  else if letter = backslash then some backslash
  else if letter = '/' then some '/'
  else if letter = 'n' then some '\n'
  else if letter = 'r' then some '\r'
  else if letter = 't' then some '\t'
  else if letter = 'f' then some (Char.ofNat 12)
  else if letter = 'b' then some (Char.ofNat 8)
  else none

/-- Read one character of a string body. -/
def readChar (text : List Char) : Option (Char × List Char) :=
  match text with
  | [] => none
  | symbol :: rest =>
      if symbol = backslash then
        match rest with
        | [] => none
        | letter :: rest =>
            if letter = 'u' then readUnitChar rest
            else (shortEscaped letter).map (fun escaped => (escaped, rest))
      else if symbol.toNat < 32 then none
      else some (symbol, rest)

/-- Read a string body up to its closing quote. -/
def readString (fuel : Nat) (text : List Char) :
    Option (List Char × List Char) :=
  match fuel with
  | 0 => none
  | fuel + 1 =>
      match text with
      | [] => none
      | symbol :: rest =>
          if symbol = quote then some ([], rest)
          else do
            let (first, rest) ← readChar (symbol :: rest)
            let (others, rest) ← readString fuel rest
            some (first :: others, rest)

/-- Read a quoted object key. -/
def readKey (fuel : Nat) (text : List Char) :
    Option (String × List Char) :=
  match text with
  | [] => none
  | symbol :: rest =>
      if symbol = quote then
        (readString fuel rest).map (fun body => (String.ofList body.1, body.2))
      else none

mutual

def readValue : Nat → List Char → Option (Document × List Char)
  | 0, _ => none
  | _ + 1, [] => none
  | fuel + 1, symbol :: rest =>
      if symbol = quote then
        (readString fuel rest).map
          (fun body => (.string (String.ofList body.1), body.2))
      else if symbol = '[' then
        match skipBlank rest with
        | ']' :: rest => some (.array [], rest)
        | rest => (readItems fuel rest).map
            (fun items => (.array items.1, items.2))
      else if symbol = '{' then
        match skipBlank rest with
        | '}' :: rest => some (.object [], rest)
        | rest => (readFields fuel rest).map
            (fun fields => (.object (OrderedDict.ofPairs fields.1), fields.2))
      else
        (readBare ((symbol :: rest).takeWhile isBare)).map
          (fun value => (value, (symbol :: rest).dropWhile isBare))

def readItems : Nat → List Char → Option (List Document × List Char)
  | 0, _ => none
  | fuel + 1, text => do
      let (item, rest) ← readValue fuel text
      match skipBlank rest with
      | ',' :: rest => do
          let (items, rest) ← readItems fuel (skipBlank rest)
          some (item :: items, rest)
      | ']' :: rest => some ([item], rest)
      | _ => none

def readFields : Nat → List Char → Option (List (String × Document) × List Char)
  | 0, _ => none
  | fuel + 1, text => do
      let (key, rest) ← readKey fuel text
      match skipBlank rest with
      | ':' :: rest => do
          let (value, rest) ← readValue fuel (skipBlank rest)
          match skipBlank rest with
          | ',' :: rest => do
              let (fields, rest) ← readFields fuel (skipBlank rest)
              some ((key, value) :: fields, rest)
          | '}' :: rest => some ([(key, value)], rest)
          | _ => none
      | _ => none

end

/-- Read a whole text: one document surrounded by blanks. -/
def parse (text : List Char) : Option Document :=
  match readValue (text.length + 1) (skipBlank text) with
  | some (document, rest) => if (skipBlank rest).isEmpty then some document else none
  | none => none

end JsonText
