import Mathlib.Data.Char
import Mathlib.Data.List.TakeWhile
import SuperAdvisor.Foundation.JsonText

/-!
# Printing and reading a document

Reading a printed document gives the document back, whatever follows it, as
long as the keys of every object are different.  A printed document is made of
printable ASCII characters only.
-/

namespace JsonText

mutual

/-- The keys of every object in the document are different. -/
def Document.DistinctKeys : Document → Prop
  | .array items => Document.DistinctKeysItems items
  | .object fields =>
      (OrderedDict.keys fields).Nodup ∧ Document.DistinctKeysFields fields
  | _ => True

def Document.DistinctKeysItems : List Document → Prop
  | [] => True
  | item :: items => item.DistinctKeys ∧ Document.DistinctKeysItems items

def Document.DistinctKeysFields : List (String × Document) → Prop
  | [] => True
  | (_, value) :: fields =>
      value.DistinctKeys ∧ Document.DistinctKeysFields fields

end

mutual

/-- What a printed document reads back as: repeated keys are merged. -/
def Document.loaded : Document → Document
  | .array items => .array (Document.loadedItems items)
  | .object fields => .object (OrderedDict.ofPairs (Document.loadedFields fields))
  | document => document

def Document.loadedItems : List Document → List Document
  | [] => []
  | item :: items => item.loaded :: Document.loadedItems items

def Document.loadedFields : List (String × Document) → List (String × Document)
  | [] => []
  | (key, value) :: fields => (key, value.loaded) :: Document.loadedFields fields

end

theorem keys_loadedFields (fields : List (String × Document)) :
    OrderedDict.keys (Document.loadedFields fields) = OrderedDict.keys fields := by
  induction fields with
  | nil => rfl
  | cons field fields induction =>
      obtain ⟨key, value⟩ := field
      simp only [OrderedDict.keys] at induction ⊢
      simp [Document.loadedFields, induction]

mutual

theorem Document.loaded_of_distinctKeys
    (document : Document) (distinct : document.DistinctKeys) :
    document.loaded = document := by
  match document with
  | .null => rfl
  | .bool _ => rfl
  | .int _ => rfl
  | .float _ => rfl
  | .string _ => rfl
  | .array items =>
      simp only [Document.loaded, Document.loadedItems_of_distinctKeys items distinct]
  | .object fields =>
      simp only [Document.loaded,
        Document.loadedFields_of_distinctKeys fields distinct.2,
        OrderedDict.ofPairs_of_nodup distinct.1]

theorem Document.loadedItems_of_distinctKeys
    (items : List Document) (distinct : Document.DistinctKeysItems items) :
    Document.loadedItems items = items := by
  match items with
  | [] => rfl
  | item :: items =>
      simp only [Document.loadedItems, Document.loaded_of_distinctKeys item distinct.1,
        Document.loadedItems_of_distinctKeys items distinct.2]

theorem Document.loadedFields_of_distinctKeys
    (fields : List (String × Document))
    (distinct : Document.DistinctKeysFields fields) :
    Document.loadedFields fields = fields := by
  match fields with
  | [] => rfl
  | (_, value) :: fields =>
      simp only [Document.loadedFields, Document.loaded_of_distinctKeys value distinct.1,
        Document.loadedFields_of_distinctKeys fields distinct.2]

end

theorem Document.distinctKeysFields_iff {fields : List (String × Document)} :
    Document.DistinctKeysFields fields ↔ ∀ field ∈ fields, field.2.DistinctKeys := by
  induction fields with
  | nil => simp [Document.DistinctKeysFields]
  | cons field fields induction => simp [Document.DistinctKeysFields, induction]

mutual

/-- What was read back has no repeated key left. -/
theorem Document.distinctKeys_loaded (document : Document) : document.loaded.DistinctKeys := by
  match document with
  | .null => exact trivial
  | .bool _ => exact trivial
  | .int _ => exact trivial
  | .float _ => exact trivial
  | .string _ => exact trivial
  | .array items => exact Document.distinctKeys_loadedItems items
  | .object fields =>
      refine ⟨OrderedDict.keys_nodup_ofPairs _, ?_⟩
      rw [Document.distinctKeysFields_iff]
      intro field member
      obtain ⟨pair, inside, same⟩ := OrderedDict.mem_ofPairs member
      rw [same]
      exact Document.distinctKeys_loadedFields fields pair inside

theorem Document.distinctKeys_loadedItems (items : List Document) :
    Document.DistinctKeysItems (Document.loadedItems items) := by
  match items with
  | [] => exact trivial
  | item :: items =>
      exact ⟨Document.distinctKeys_loaded item, Document.distinctKeys_loadedItems items⟩

theorem Document.distinctKeys_loadedFields (fields : List (String × Document)) :
    ∀ field ∈ Document.loadedFields fields, field.2.DistinctKeys := by
  intro field member
  match fields with
  | [] => cases member
  | (key, value) :: fields =>
      rcases List.mem_cons.mp member with first | later
      · rw [first]
        exact Document.distinctKeys_loaded value
      · exact Document.distinctKeys_loadedFields fields field later

end

theorem hexValue_digitChar {digit : Nat} (small : digit < 16) :
    hexValue (Nat.digitChar digit) = some digit := by
  revert digit
  decide

private theorem readUnit_digits
    (unit : Nat) (small : unit < 65536) (rest : List Char) :
    readUnit (Nat.digitChar (unit / 4096 % 16) ::
      Nat.digitChar (unit / 256 % 16) :: Nat.digitChar (unit / 16 % 16) ::
        Nat.digitChar (unit % 16) :: rest) = some (unit, rest) := by
  have first := @hexValue_digitChar (unit / 4096 % 16) (Nat.mod_lt _ (by decide))
  have second := @hexValue_digitChar (unit / 256 % 16) (Nat.mod_lt _ (by decide))
  have third := @hexValue_digitChar (unit / 16 % 16) (Nat.mod_lt _ (by decide))
  have fourth := @hexValue_digitChar (unit % 16) (Nat.mod_lt _ (by decide))
  have total : unit / 4096 % 16 * 4096 + unit / 256 % 16 * 256 +
      unit / 16 % 16 * 16 + unit % 16 = unit := by omega
  simp [readUnit, first, second, third, fourth, total]

/-- A character is a Unicode scalar value: outside the surrogates and below
the end of the code space. -/
private theorem char_scalar (symbol : Char) :
    symbol.toNat < 55296 ∨ (57344 ≤ symbol.toNat ∧ symbol.toNat < 1114112) := by
  have valid := symbol.valid
  simp only [UInt32.isValidChar, Nat.isValidChar] at valid
  have same : symbol.val.toNat = symbol.toNat := rfl
  omega

private theorem readUnitChar_basic
    {symbol : Char} (basic : symbol.toNat < 65536) (rest : List Char) :
    readUnitChar ((escapeUnit symbol.toNat).drop 2 ++ rest) =
      some (symbol, rest) := by
  have scalar := char_scalar symbol
  have notHigh : ¬(55296 ≤ symbol.toNat ∧ symbol.toNat < 56320) := by omega
  have notLow : ¬(56320 ≤ symbol.toNat ∧ symbol.toNat < 57344) := by omega
  have read := readUnit_digits _ basic rest
  simp only [readUnitChar, escapeUnit, List.drop_succ_cons, List.drop_zero,
    List.cons_append, List.nil_append, read]
  simp [notHigh, notLow, Char.ofNat_toNat]

private theorem readUnitChar_pair
    {high low : Nat} (highRange : 55296 ≤ high ∧ high < 56320)
    (lowRange : 56320 ≤ low ∧ low < 57344) (rest : List Char) :
    readUnitChar ((escapeUnit high).drop 2 ++ (escapeUnit low ++ rest)) =
      some (Char.ofNat (65536 + (high - 55296) * 1024 + (low - 56320)), rest) := by
  have readHigh := readUnit_digits high (by omega)
    (escapeUnit low ++ rest)
  have readLow := readUnit_digits low (by omega) rest
  have readPair : readLowSurrogate (escapeUnit low ++ rest) = some (low, rest) := by
    simp only [readLowSurrogate, escapeUnit, List.cons_append, List.nil_append,
      readLow]
    simp [lowRange]
  simp only [readUnitChar, show (escapeUnit high).drop 2 ++ (escapeUnit low ++ rest) =
    Nat.digitChar (high / 4096 % 16) :: Nat.digitChar (high / 256 % 16) ::
      Nat.digitChar (high / 16 % 16) :: Nat.digitChar (high % 16) ::
        (escapeUnit low ++ rest) from rfl, readHigh]
  simp [highRange, readPair]

private theorem readUnitChar_astral
    {symbol : Char} (astral : 65536 ≤ symbol.toNat) (rest : List Char) :
    readUnitChar
      ((escapeUnit (55296 + (symbol.toNat - 65536) / 1024)).drop 2 ++
        (escapeUnit (56320 + (symbol.toNat - 65536) % 1024) ++ rest)) =
      some (symbol, rest) := by
  have scalar := char_scalar symbol
  have joined : 65536 +
      (55296 + (symbol.toNat - 65536) / 1024 - 55296) * 1024 +
        (56320 + (symbol.toNat - 65536) % 1024 - 56320) = symbol.toNat := by
    omega
  rw [readUnitChar_pair (by omega) (by omega), joined, Char.ofNat_toNat]

private theorem shortEscaped_of_shortEscape
    {symbol letter : Char} (short : shortEscape symbol = some letter) :
    letter ≠ 'u' ∧ shortEscaped letter = some symbol := by
  unfold shortEscape at short
  split at short
  · rename_i same; cases short; subst same; decide
  split at short
  · rename_i same; cases short; subst same; decide
  split at short
  · rename_i same; cases short; subst same; decide
  split at short
  · rename_i same; cases short; subst same; decide
  split at short
  · rename_i same; cases short; subst same; decide
  split at short
  · rename_i same; cases short; subst same; decide
  split at short
  · rename_i same; cases short; subst same; decide
  · cases short

theorem readChar_escapeChar (symbol : Char) (rest : List Char) :
    readChar (escapeChar symbol ++ rest) = some (symbol, rest) := by
  unfold escapeChar
  cases short : shortEscape symbol with
  | some letter =>
      obtain ⟨notUnit, escaped⟩ := shortEscaped_of_shortEscape short
      simp [readChar, notUnit, escaped]
  | none =>
      have notBackslash : symbol ≠ backslash := by
        intro same
        subst same
        revert short
        decide
      by_cases printable : isPrintable symbol = true
      · have notControl : ¬symbol.toNat < 32 := by
          simp only [isPrintable, Bool.and_eq_true, decide_eq_true_eq] at printable
          omega
        simp [printable, readChar, notBackslash, notControl]
      · by_cases basic : symbol.toNat < 65536
        · have read := readUnitChar_basic basic rest
          simp only [printable, basic, if_true]
          simpa [escapeUnit, readChar] using read
        · have read := readUnitChar_astral (Nat.le_of_not_lt basic) rest
          simp only [printable, basic, if_false]
          simpa [escapeUnit, readChar] using read

private theorem escapeChar_head (symbol : Char) :
    ∃ head tail, escapeChar symbol = head :: tail ∧ head ≠ quote := by
  unfold escapeChar
  cases short : shortEscape symbol with
  | some letter => exact ⟨backslash, [letter], rfl, by decide⟩
  | none =>
      have notQuote : symbol ≠ quote := by
        intro same
        subst same
        revert short
        decide
      by_cases printable : isPrintable symbol = true
      · exact ⟨symbol, [], by simp [printable], notQuote⟩
      · by_cases basic : symbol.toNat < 65536
        · exact ⟨backslash, (escapeUnit symbol.toNat).drop 1,
            by simp [printable, basic, escapeUnit], by decide⟩
        · exact ⟨backslash, _, by simp [printable, basic, escapeUnit]; rfl,
            by decide⟩

theorem readString_body
    (symbols : List Char) {fuel : Nat} (enough : symbols.length < fuel)
    (rest : List Char) :
    readString fuel (symbols.flatMap escapeChar ++ quote :: rest) =
      some (symbols, rest) := by
  induction symbols generalizing fuel with
  | nil =>
      obtain ⟨fuel, rfl⟩ := Nat.exists_eq_add_of_lt enough
      simp [readString]
  | cons symbol symbols induction =>
      cases fuel with
      | zero => simp at enough
      | succ fuel =>
          obtain ⟨head, tail, shape, notQuote⟩ := escapeChar_head symbol
          have read := readChar_escapeChar symbol
            (symbols.flatMap escapeChar ++ quote :: rest)
          have enoughLeft : symbols.length < fuel := by simpa using enough
          have others := induction enoughLeft
          simp only [List.flatMap_cons, List.append_assoc, shape,
            List.cons_append] at read ⊢
          simp [readString, notQuote, read, others]

private theorem toDigits_head
    {magnitude : Nat} (positive : 0 < magnitude) :
    ∃ head tail, Nat.toDigits 10 magnitude = head :: tail ∧ head ≠ '0' ∧
      head.isDigit = true ∧ ∀ symbol ∈ tail, symbol.isDigit = true := by
  induction magnitude using Nat.strong_induction_on with
  | h magnitude induction =>
      by_cases small : magnitude < 10
      · refine ⟨Nat.digitChar magnitude, [], Nat.toDigits_of_lt_base small, ?_, ?_,
          by simp⟩
        · simpa using Nat.ne_of_gt positive
        · simpa using small
      · obtain ⟨head, tail, shape, nonzero, digit, digits⟩ :=
          induction (magnitude / 10) (by omega) (by omega)
        refine ⟨head, tail ++ [Nat.digitChar (magnitude % 10)], ?_, nonzero,
          digit, ?_⟩
        · rw [Nat.toDigits_of_base_le (by decide) (by omega), shape]
          rfl
        · intro symbol member
          rcases List.mem_append.mp member with earlier | last
          · exact digits symbol earlier
          · have last : symbol = Nat.digitChar (magnitude % 10) := by
              simpa using last
            subst last
            simpa using Nat.mod_lt magnitude (by decide : 10 > 0)

private theorem afterMagnitude_toDigits
    (magnitude : Nat) {rest : List Char} (apart : afterDigits rest = rest) :
    afterInteger.afterMagnitude (Nat.toDigits 10 magnitude ++ rest) = some rest := by
  rcases Nat.eq_zero_or_pos magnitude with zero | positive
  · subst zero
    simp [afterInteger.afterMagnitude]
  · obtain ⟨head, tail, shape, nonzero, digit, digits⟩ := toDigits_head positive
    have consumed : afterDigits (tail ++ rest) = rest := by
      rw [afterDigits, List.dropWhile_append_of_pos digits]
      exact apart
    simp [shape, afterInteger.afterMagnitude, nonzero, digit, consumed]

private theorem toDigits_head_ne_minus (magnitude : Nat) :
    ∃ head tail, Nat.toDigits 10 magnitude = head :: tail ∧ head ≠ '-' ∧
      head.isDigit = true := by
  rcases Nat.eq_zero_or_pos magnitude with zero | positive
  · subst zero
    exact ⟨'0', [], by simp, by decide, by decide⟩
  · obtain ⟨head, tail, shape, -, digit, -⟩ := toDigits_head positive
    refine ⟨head, tail, shape, ?_, digit⟩
    intro minus
    subst minus
    revert digit
    decide

/-- A whole number is read up to what is no digit. -/
theorem afterInteger_renderInt_append
    (value : Int) {rest : List Char} (apart : afterDigits rest = rest) :
    afterInteger (renderInt value ++ rest) = some rest := by
  cases value with
  | ofNat magnitude =>
      obtain ⟨head, tail, shape, notMinus, -⟩ := toDigits_head_ne_minus magnitude
      have read := afterMagnitude_toDigits magnitude apart
      simp only [renderInt]
      rw [shape] at read ⊢
      unfold afterInteger
      split
      · rename_i same
        exact absurd (List.cons.inj same).1 notMinus
      · exact read
  | negSucc magnitude =>
      simpa [renderInt, afterInteger] using afterMagnitude_toDigits (magnitude + 1) apart

theorem afterInteger_renderInt (value : Int) :
    afterInteger (renderInt value) = some [] := by
  simpa using @afterInteger_renderInt_append value [] rfl

theorem integerOf_renderInt (value : Int) :
    integerOf (renderInt value) = value := by
  cases value with
  | ofNat magnitude =>
      obtain ⟨head, tail, shape, notMinus, -⟩ := toDigits_head_ne_minus magnitude
      have read := @Nat.ofDigitChars_ten_toDigits magnitude
      simp only [renderInt]
      rw [shape] at read ⊢
      unfold integerOf
      split
      · rename_i same
        exact absurd (List.cons.inj same).1 notMinus
      · rw [read]
        rfl
  | negSucc magnitude =>
      have read := @Nat.ofDigitChars_ten_toDigits (magnitude + 1)
      simp only [renderInt, integerOf, read]
      omega

private theorem isBare_of_isDigit {symbol : Char} (digit : symbol.isDigit = true) :
    isBare symbol = true := by
  simp [isBare, Char.isAlphanum, digit]

private theorem renderInt_bare (value : Int) :
    ∀ symbol ∈ renderInt value, isBare symbol = true := by
  have digits : ∀ magnitude : Nat, ∀ symbol ∈ Nat.toDigits 10 magnitude,
      isBare symbol = true := by
    intro magnitude symbol member
    exact isBare_of_isDigit
      (Nat.isDigit_of_mem_toDigits (by decide) (by decide) member)
  cases value with
  | ofNat magnitude => exact digits magnitude
  | negSucc magnitude =>
      intro symbol member
      rcases List.mem_cons.mp member with minus | later
      · subst minus
        decide
      · exact digits (magnitude + 1) symbol later

private theorem renderInt_ne_nil (value : Int) : renderInt value ≠ [] := by
  cases value with
  | ofNat magnitude => exact Nat.toDigits_ne_nil
  | negSucc magnitude => simp [renderInt]

/-- A text that begins with a whole number is none of the non-finite names. -/
private theorem finite_of_afterInteger
    {text rest : List Char} (integer : afterInteger text = some rest) :
    nonFiniteLiterals.contains text = false := by
  by_contra listed
  have member : text ∈ nonFiniteLiterals := by
    simpa using listed
  simp only [nonFiniteLiterals, List.mem_cons, List.not_mem_nil,
    or_false] at member
  rcases member with rfl | rfl | rfl <;> cases integer

private theorem readBare_renderInt (value : Int) :
    readBare (renderInt value) = some (.int value) := by
  have integer := afterInteger_renderInt value
  have finite := finite_of_afterInteger integer
  have notFloat : isFloatLiteral (renderInt value) = false := by
    simp only [isFloatLiteral, finite, integer]
    simp
  simp [readBare, notFloat, isIntegerLiteral, integer, integerOf_renderInt]

/-- The float of a whole number as it is printed. -/
def wholeFloat (value : Int) : FloatLiteral where
  text := renderInt value ++ ['.', '0']
  wellFormed := by
    have bare : ∀ symbol ∈ renderInt value ++ ['.', '0'], isBare symbol = true := by
      intro symbol member
      rcases List.mem_append.mp member with digit | point
      · exact renderInt_bare value symbol digit
      · exact List.all_eq_true.mp (by decide : ['.', '0'].all isBare = true) symbol point
    have integer : afterInteger (renderInt value ++ ['.', '0']) = some ['.', '0'] :=
      afterInteger_renderInt_append value (by decide)
    simp only [isFloatLiteral, integer, Bool.and_eq_true, List.all_eq_true]
    exact ⟨bare, Bool.or_eq_true_iff.mpr (.inr (by decide))⟩

theorem wholeFloat_isFinite (value : Int) : (wholeFloat value).isFinite = true := by
  have integer : afterInteger (renderInt value ++ ['.', '0']) = some ['.', '0'] :=
    afterInteger_renderInt_append value (by decide)
  rw [FloatLiteral.isFinite, wholeFloat, finite_of_afterInteger integer]
  rfl

private theorem readBare_float (literal : FloatLiteral) :
    readBare literal.text = some (.float literal) := by
  simp [readBare, literal.wellFormed]

/-- The documents printed as one token without quotes. -/
def Document.IsBare : Document → Prop
  | .string _ => False
  | .array _ => False
  | .object _ => False
  | _ => True

private theorem render_of_isBare
    (document : Document) (bare : document.IsBare) (spaced : Bool) :
    (∀ symbol ∈ render spaced document, isBare symbol = true) ∧
      render spaced document ≠ [] ∧
        readBare (render spaced document) = some document := by
  cases document with
  | null => exact ⟨by simp [render]; decide, by simp [render], rfl⟩
  | bool value =>
      cases value <;> exact ⟨by simp [render]; decide, by simp [render], rfl⟩
  | int value =>
      simp only [render]
      exact ⟨renderInt_bare value, renderInt_ne_nil value, readBare_renderInt value⟩
  | float literal =>
      have accepted := literal.wellFormed
      have allBare : ∀ symbol ∈ literal.text, isBare symbol = true := by
        simp only [isFloatLiteral, Bool.and_eq_true, List.all_eq_true] at accepted
        exact accepted.1
      refine ⟨by simpa [render] using allBare, ?_, by
        simpa [render] using readBare_float literal⟩
      intro empty
      simp only [render] at empty
      rw [empty] at accepted
      revert accepted
      decide
  | string value => exact bare.elim
  | array items => exact bare.elim
  | object fields => exact bare.elim

/-- A text that does not continue a bare token. -/
def EndsToken (rest : List Char) : Prop :=
  ∀ symbol ∈ rest.head?, isBare symbol = false

private theorem span_bare
    {token rest : List Char} (bare : ∀ symbol ∈ token, isBare symbol = true)
    (stop : EndsToken rest) :
    (token ++ rest).takeWhile isBare = token ∧
      (token ++ rest).dropWhile isBare = rest := by
  induction token with
  | nil =>
      cases rest with
      | nil => simp
      | cons symbol rest =>
          have refused : isBare symbol = false := stop symbol (by simp)
          simp [refused]
  | cons symbol token induction =>
      have accepted := bare symbol (by simp)
      have tail := induction (fun other member => bare other (by simp [member]))
      simp [accepted, tail]

theorem render_head (spaced : Bool) (document : Document) :
    ∃ head tail, render spaced document = head :: tail ∧
      isBlank head = false ∧ head ≠ ']' := by
  by_cases bare : document.IsBare
  · obtain ⟨allBare, nonempty, -⟩ := render_of_isBare _ bare spaced
    cases shape : render spaced document with
    | nil => exact absurd shape nonempty
    | cons head tail =>
        have accepted : isBare head = true := allBare head (by simp [shape])
        refine ⟨head, tail, rfl, ?_, ?_⟩
        · by_contra blank
          simp only [isBlank, Bool.not_eq_false, Bool.or_eq_true, beq_iff_eq] at blank
          rcases blank with ((same | same) | same) | same <;>
            · subst same
              revert accepted
              decide
        · intro same
          subst same
          revert accepted
          decide
  · cases document with
    | string value => exact ⟨quote, _, rfl, by decide, by decide⟩
    | array items => exact ⟨'[', _, rfl, by decide, by decide⟩
    | object fields => exact ⟨'{', _, rfl, by decide, by decide⟩
    | null => exact absurd trivial bare
    | bool value => exact absurd trivial bare
    | int value => exact absurd trivial bare
    | float value => exact absurd trivial bare

theorem skipBlank_head
    (head : Char) (tail : List Char) (solid : isBlank head = false) :
    skipBlank (head :: tail) = head :: tail := by
  simp [skipBlank, solid]

private theorem skipBlank_gap
    (spaced : Bool) {head : Char} (tail : List Char) (solid : isBlank head = false) :
    skipBlank (gap spaced ++ head :: tail) = head :: tail := by
  cases spaced
  · exact skipBlank_head head tail solid
  · simpa [gap, skipBlank, isBlank] using skipBlank_head head tail solid

private theorem escapeChar_length (symbol : Char) :
    0 < (escapeChar symbol).length := by
  obtain ⟨head, tail, shape, -⟩ := escapeChar_head symbol
  simp [shape]

private theorem length_le_flatMap_escapeChar (symbols : List Char) :
    symbols.length ≤ (symbols.flatMap escapeChar).length := by
  induction symbols with
  | nil => simp
  | cons symbol symbols induction =>
      have positive := escapeChar_length symbol
      simp only [List.flatMap_cons, List.length_append, List.length_cons]
      omega

theorem readString_renderString
    (value : String) {fuel : Nat}
    (enough : (renderString value).length ≤ fuel + 1) (rest : List Char) :
    readString fuel (value.toList.flatMap escapeChar ++ quote :: rest) =
      some (value.toList, rest) := by
  have shorter := length_le_flatMap_escapeChar value.toList
  apply readString_body
  simp only [renderString, List.length_cons, List.length_append,
    List.length_nil] at enough
  omega

theorem readKey_renderString
    (key : String) (fuel : Nat) (enough : (renderString key).length ≤ fuel + 1)
    (rest : List Char) :
    readKey fuel (renderString key ++ rest) = some (key, rest) := by
  have read := readString_renderString key enough rest
  simp only [renderString, readKey, List.cons_append, List.append_assoc,
    List.nil_append, if_true, read, Option.map_some, String.ofList_toList]

private theorem renderFields_head
    (spaced : Bool) (fields : List (String × Document)) (nonempty : fields ≠ []) :
    ∃ tail, renderFields spaced fields = quote :: tail := by
  match fields, nonempty with
  | [(key, value)], _ => exact ⟨_, rfl⟩
  | (key, value) :: field :: fields, _ => exact ⟨_, rfl⟩

private theorem renderItems_head
    (spaced : Bool) (items : List Document) (nonempty : items ≠ []) :
    ∃ head tail, renderItems spaced items = head :: tail ∧
      isBlank head = false ∧ head ≠ ']' := by
  match items, nonempty with
  | [item], _ =>
      obtain ⟨head, tail, shape, solid, open_⟩ := render_head spaced item
      exact ⟨head, tail ++ [']'], by simp [renderItems, shape], solid, open_⟩
  | item :: next :: items, _ =>
      obtain ⟨head, tail, shape, solid, open_⟩ := render_head spaced item
      refine ⟨head, tail ++ ',' :: (gap spaced ++ renderItems spaced (next :: items)),
        ?_, solid, open_⟩
      simp only [renderItems, shape, List.cons_append]

theorem readValue_bare
    (document : Document) (bare : document.IsBare) (spaced : Bool) {fuel : Nat}
    (enough : (render spaced document).length ≤ fuel) {rest : List Char}
    (stop : EndsToken rest) :
    readValue fuel (render spaced document ++ rest) = some (document.loaded, rest) := by
  have unchanged : document.loaded = document := by
    cases document <;> first | rfl | exact bare.elim
  obtain ⟨allBare, nonempty, read⟩ := render_of_isBare _ bare spaced
  obtain ⟨taken, dropped⟩ := span_bare allBare stop
  cases shape : render spaced document with
  | nil => exact absurd shape nonempty
  | cons head tail =>
      have accepted : isBare head = true := allBare head (by simp [shape])
      have notQuote : head ≠ quote := by
        intro same
        subst same
        revert accepted
        decide
      have notBracket : head ≠ '[' := by
        intro same
        subst same
        revert accepted
        decide
      have notBrace : head ≠ '{' := by
        intro same
        subst same
        revert accepted
        decide
      cases fuel with
      | zero => simp [shape] at enough
      | succ fuel =>
          rw [shape] at taken dropped read
          simp only [List.cons_append] at taken dropped ⊢
          simp only [readValue, notQuote, notBracket, notBrace, if_false, taken,
            dropped, read, Option.map_some, unchanged]

mutual

/-- Reading a printed document returns it together with what follows it. -/
theorem readValue_render
    (spaced : Bool) (document : Document)
    (fuel : Nat) (enough : (render spaced document).length ≤ fuel)
    (rest : List Char) (stop : EndsToken rest) :
    readValue fuel (render spaced document ++ rest) = some (document.loaded, rest) := by
  match document with
  | .null =>
      exact readValue_bare .null trivial spaced enough stop
  | .bool value =>
      exact readValue_bare (.bool value) trivial spaced enough stop
  | .int value =>
      exact readValue_bare (.int value) trivial spaced enough stop
  | .float value =>
      exact readValue_bare (.float value) trivial spaced enough stop
  | .string value =>
      cases fuel with
      | zero => simp [render, renderString] at enough
      | succ fuel =>
          have read := readString_renderString value
            (by simpa [render] using enough) rest
          simp only [render, renderString, List.cons_append, List.append_assoc,
            List.nil_append, readValue, if_true, read, Option.map_some,
            String.ofList_toList, Document.loaded]
  | .array items =>
      cases fuel with
      | zero => simp [render] at enough
      | succ fuel =>
          have fits : (renderItems spaced items).length ≤ fuel := by
            simpa [render] using enough
          by_cases empty : items = []
          · subst empty
            simp [render, renderItems, readValue, quote, skipBlank, isBlank,
              Document.loaded, Document.loadedItems]
          · obtain ⟨head, tail, shape, solid, open_⟩ := renderItems_head spaced _ empty
            have read := readItems_render spaced items empty fuel fits rest
            rw [shape, List.cons_append] at read
            simp only [render, shape, List.cons_append, readValue,
              skipBlank_head head (tail ++ rest) solid, if_true]
            rw [if_neg (by decide)]
            split
            · rename_i same
              exact absurd (List.cons.inj same).1 open_
            · simp [read, Document.loaded]
  | .object fields =>
      cases fuel with
      | zero => simp [render] at enough
      | succ fuel =>
          have fits : (renderFields spaced fields).length ≤ fuel := by
            simpa [render] using enough
          by_cases empty : fields = []
          · subst empty
            simp [render, renderFields, readValue, quote, skipBlank, isBlank,
              Document.loaded, Document.loadedFields, OrderedDict.ofPairs]
          · obtain ⟨tail, shape⟩ := renderFields_head spaced _ empty
            have read :=
              readFields_render spaced fields empty fuel fits rest
            rw [shape, List.cons_append] at read
            simp only [render, shape, List.cons_append, readValue,
              skipBlank_head quote (tail ++ rest) (by decide), if_true]
            rw [if_neg (by decide), if_neg (by decide)]
            split
            · rename_i same
              exact absurd (List.cons.inj same).1 (by decide)
            · simp [read, Document.loaded]

theorem readItems_render
    (spaced : Bool) (items : List Document) (nonempty : items ≠ [])
    (fuel : Nat) (enough : (renderItems spaced items).length ≤ fuel)
    (rest : List Char) :
    readItems fuel (renderItems spaced items ++ rest) =
      some (Document.loadedItems items, rest) := by
  match items, nonempty with
  | [item], _ =>
      cases fuel with
      | zero => simp [renderItems] at enough
      | succ fuel =>
          have fits : (render spaced item).length ≤ fuel := by
            simpa [renderItems] using enough
          have read := readValue_render spaced item fuel fits
            (']' :: rest) (by simp [EndsToken]; decide)
          simp [renderItems, readItems, read, skipBlank, isBlank, Document.loadedItems]
  | item :: next :: items, _ =>
      cases fuel with
      | zero => simp [renderItems] at enough
      | succ fuel =>
          have split : (render spaced item).length +
              (1 + ((gap spaced).length +
                (renderItems spaced (next :: items)).length)) ≤ fuel + 1 := by
            simpa only [renderItems, List.length_append, List.length_cons,
              Nat.add_comm 1] using enough
          obtain ⟨head, tail, shape, solid, -⟩ :=
            renderItems_head spaced (next :: items) (by simp)
          have read := readValue_render spaced item fuel (by omega)
            (',' :: (gap spaced ++ (renderItems spaced (next :: items) ++ rest)))
            (by simp [EndsToken]; decide)
          have others := readItems_render spaced (next :: items) (by simp)
            fuel (by omega) rest
          have skipped : skipBlank
              (gap spaced ++ (renderItems spaced (next :: items) ++ rest)) =
                renderItems spaced (next :: items) ++ rest := by
            rw [shape]
            exact skipBlank_gap spaced (tail ++ rest) solid
          simp only [renderItems, List.append_assoc, List.cons_append, readItems,
            read, Option.bind_eq_bind, Option.bind_some,
            skipBlank_head ',' _ (by decide), skipped, others,
            Document.loadedItems]

theorem readFields_render
    (spaced : Bool) (fields : List (String × Document)) (nonempty : fields ≠ [])
    (fuel : Nat) (enough : (renderFields spaced fields).length ≤ fuel)
    (rest : List Char) :
    readFields fuel (renderFields spaced fields ++ rest) =
      some (Document.loadedFields fields, rest) := by
  match fields, nonempty with
  | [(key, value)], _ =>
      cases fuel with
      | zero => simp [renderFields, renderString] at enough
      | succ fuel =>
          have fits : (renderString key).length +
              (1 + ((gap spaced).length + ((render spaced value).length + 1))) ≤
                fuel + 1 := by
            simpa only [renderFields, List.length_append, List.length_cons,
              List.length_nil, Nat.add_comm 1] using enough
          obtain ⟨head, tail, shape, solid, -⟩ := render_head spaced value
          have readName := readKey_renderString key fuel (by omega)
            (':' :: (gap spaced ++ (render spaced value ++ '}' :: rest)))
          have read := readValue_render spaced value fuel (by omega)
            ('}' :: rest) (by simp [EndsToken]; decide)
          have skipped : skipBlank (gap spaced ++ (render spaced value ++ '}' :: rest)) =
              render spaced value ++ '}' :: rest := by
            rw [shape]
            exact skipBlank_gap spaced (tail ++ '}' :: rest) solid
          simp only [renderFields, List.append_assoc, List.cons_append,
            List.nil_append, readFields, readName, Option.bind_eq_bind,
            Option.bind_some, skipBlank_head ':' _ (by decide), skipped,
            read, skipBlank_head '}' _ (by decide), Document.loadedFields]
  | (key, value) :: next :: fields, _ =>
      cases fuel with
      | zero => simp [renderFields, renderString] at enough
      | succ fuel =>
          have fits : (renderString key).length +
              (1 + ((gap spaced).length + ((render spaced value).length +
                (1 + ((gap spaced).length +
                  (renderFields spaced (next :: fields)).length))))) ≤ fuel + 1 := by
            simpa only [renderFields, List.length_append, List.length_cons,
              Nat.add_comm 1] using enough
          have named : 0 < (renderString key).length := by simp [renderString]
          obtain ⟨head, tail, shape, solid, -⟩ := render_head spaced value
          obtain ⟨others, othersShape⟩ :=
            renderFields_head spaced (next :: fields) (by simp)
          let after := ',' :: (gap spaced ++
            (renderFields spaced (next :: fields) ++ rest))
          have readName := readKey_renderString key fuel (by omega)
            (':' :: (gap spaced ++ (render spaced value ++ after)))
          have read := readValue_render spaced value fuel (by omega)
            after (by simp [EndsToken, after]; decide)
          have readOthers := readFields_render spaced (next :: fields) (by simp)
            fuel (by omega) rest
          have skippedValue : skipBlank (gap spaced ++ (render spaced value ++ after)) =
              render spaced value ++ after := by
            rw [shape]
            exact skipBlank_gap spaced (tail ++ after) solid
          have skippedOthers : skipBlank
              (gap spaced ++ (renderFields spaced (next :: fields) ++ rest)) =
                renderFields spaced (next :: fields) ++ rest := by
            rw [othersShape]
            exact skipBlank_gap spaced (others ++ rest) (by decide)
          simp only [after] at readName read skippedValue
          simp only [renderFields, List.append_assoc, List.cons_append, readFields,
            readName, Option.bind_eq_bind, Option.bind_some,
            skipBlank_head ':' _ (by decide), skippedValue, read,
            skipBlank_head ',' _ (by decide), skippedOthers, readOthers,
            Document.loadedFields]

end

/-- Reading a printed document merges its repeated keys. -/
theorem parse_render (spaced : Bool) (document : Document) :
    parse (render spaced document) = some document.loaded := by
  obtain ⟨head, tail, shape, solid, -⟩ := render_head spaced document
  have read := readValue_render spaced document
    ((render spaced document).length + 1) (by omega) [] (by simp [EndsToken])
  have skipped : skipBlank (render spaced document) = render spaced document := by
    rw [shape]
    exact skipBlank_head head tail solid
  simp only [List.append_nil] at read
  simp only [parse, skipped, read]
  simp [skipBlank]

/-- Printing then reading is the identity on documents with distinct keys. -/
theorem parse_render_of_distinctKeys
    (spaced : Bool) {document : Document} (distinct : document.DistinctKeys) :
    parse (render spaced document) = some document := by
  rw [parse_render, document.loaded_of_distinctKeys distinct]

private theorem isPrintable_digitChar (digit : Nat) :
    isPrintable (Nat.digitChar (digit % 16)) = true := by
  have small : digit % 16 < 16 := Nat.mod_lt _ (by decide)
  generalize digit % 16 = value at small
  revert value
  decide

private theorem escapeUnit_printable (unit : Nat) :
    ∀ symbol ∈ escapeUnit unit, isPrintable symbol = true := by
  intro symbol member
  simp only [escapeUnit, List.mem_cons, List.not_mem_nil, or_false] at member
  rcases member with same | same | same | same | same | same <;> subst same
  · decide
  · decide
  · exact isPrintable_digitChar _
  · exact isPrintable_digitChar _
  · exact isPrintable_digitChar _
  · exact isPrintable_digitChar _

private theorem shortEscape_printable
    {symbol letter : Char} (short : shortEscape symbol = some letter) :
    isPrintable letter = true := by
  have escaped := (shortEscaped_of_shortEscape short).2
  unfold shortEscaped at escaped
  split at escaped
  · rename_i same; subst same; decide
  split at escaped
  · rename_i same; subst same; decide
  split at escaped
  · rename_i same; subst same; decide
  split at escaped
  · rename_i same; subst same; decide
  split at escaped
  · rename_i same; subst same; decide
  split at escaped
  · rename_i same; subst same; decide
  split at escaped
  · rename_i same; subst same; decide
  split at escaped
  · rename_i same; subst same; decide
  · cases escaped

private theorem escapeChar_printable (symbol : Char) :
    ∀ escaped ∈ escapeChar symbol, isPrintable escaped = true := by
  unfold escapeChar
  intro escaped member
  cases short : shortEscape symbol with
  | some letter =>
      simp only [short, List.mem_cons, List.not_mem_nil, or_false] at member
      rcases member with same | same <;> subst same
      · decide
      · exact shortEscape_printable short
  | none =>
      simp only [short] at member
      by_cases printable : isPrintable symbol = true
      · have same : escaped = symbol := by simpa [printable] using member
        exact same ▸ printable
      · by_cases basic : symbol.toNat < 65536
        · simp only [printable, basic, if_true] at member
          exact escapeUnit_printable _ escaped member
        · simp only [printable, basic, if_false] at member
          rcases List.mem_append.mp member with high | low
          · exact escapeUnit_printable _ escaped high
          · exact escapeUnit_printable _ escaped low

private theorem renderString_printable (value : String) :
    ∀ symbol ∈ renderString value, isPrintable symbol = true := by
  intro symbol member
  simp only [renderString, List.mem_cons, List.mem_append, List.mem_flatMap,
    List.not_mem_nil, or_false] at member
  rcases member with same | ⟨source, -, inside⟩ | same
  · subst same; decide
  · exact escapeChar_printable source symbol inside
  · subst same; decide

theorem toNat_of_isBare
    {symbol : Char} (bare : isBare symbol = true) : 43 ≤ symbol.toNat ∧ symbol.toNat ≤ 122 := by
  simp only [isBare, Bool.or_eq_true, beq_iff_eq] at bare
  rcases bare with ((alphanumeric | rfl) | rfl) | rfl
  · delta Char.isAlphanum Char.isAlpha Char.isUpper Char.isLower Char.isDigit at alphanumeric
    simp only [Bool.or_eq_true, Bool.and_eq_true, decide_eq_true_eq, ge_iff_le,
      UInt32.le_iff_toNat_le] at alphanumeric
    have same : symbol.val.toNat = symbol.toNat := rfl
    simp at alphanumeric
    omega
  · decide
  · decide
  · decide

private theorem isPrintable_of_isBare
    {symbol : Char} (bare : isBare symbol = true) : isPrintable symbol = true := by
  obtain ⟨low, high⟩ := toNat_of_isBare bare
  simp only [isPrintable, Bool.and_eq_true, decide_eq_true_eq]
  omega

private theorem gap_printable (spaced : Bool) :
    ∀ symbol ∈ gap spaced, isPrintable symbol = true := by
  intro symbol member
  cases spaced with
  | false => simp [gap] at member
  | true =>
      obtain rfl : symbol = ' ' := by simpa [gap] using member
      decide

mutual

/-- A printed document stays inside printable ASCII. -/
theorem render_printable
    (spaced : Bool) (document : Document) :
    ∀ symbol ∈ render spaced document, isPrintable symbol = true := by
  intro symbol member
  match document with
  | .null =>
      exact isPrintable_of_isBare
        ((render_of_isBare .null trivial spaced).1 symbol member)
  | .bool value =>
      exact isPrintable_of_isBare
        ((render_of_isBare (.bool value) trivial spaced).1 symbol member)
  | .int value =>
      exact isPrintable_of_isBare
        ((render_of_isBare (.int value) trivial spaced).1 symbol member)
  | .float value =>
      exact isPrintable_of_isBare
        ((render_of_isBare (.float value) trivial spaced).1 symbol member)
  | .string value =>
      exact renderString_printable value symbol (by simpa [render] using member)
  | .array items =>
      rcases List.mem_cons.mp (by simpa [render] using member :
        symbol ∈ '[' :: renderItems spaced items) with same | inside
      · subst same; decide
      · exact renderItems_printable spaced items symbol inside
  | .object fields =>
      rcases List.mem_cons.mp (by simpa [render] using member :
        symbol ∈ '{' :: renderFields spaced fields) with same | inside
      · subst same; decide
      · exact renderFields_printable spaced fields symbol inside

theorem renderItems_printable
    (spaced : Bool) (items : List Document) :
    ∀ symbol ∈ renderItems spaced items, isPrintable symbol = true := by
  intro symbol member
  match items with
  | [] =>
      have same : symbol = ']' := by simpa [renderItems] using member
      subst same; decide
  | [item] =>
      simp only [renderItems, List.mem_append, List.mem_singleton] at member
      rcases member with inside | same
      · exact render_printable spaced item symbol inside
      · subst same; decide
  | item :: next :: items =>
      simp only [renderItems, List.mem_append, List.mem_cons] at member
      rcases member with inside | same | blank | others
      · exact render_printable spaced item symbol inside
      · subst same; decide
      · exact gap_printable spaced symbol blank
      · exact renderItems_printable spaced (next :: items) symbol others

theorem renderFields_printable
    (spaced : Bool) (fields : List (String × Document)) :
    ∀ symbol ∈ renderFields spaced fields, isPrintable symbol = true := by
  intro symbol member
  match fields with
  | [] =>
      have same : symbol = '}' := by simpa [renderFields] using member
      subst same; decide
  | [(key, value)] =>
      simp only [renderFields, List.mem_append, List.mem_cons,
        List.not_mem_nil, or_false] at member
      rcases member with named | same | blank | inside | same
      · exact renderString_printable key symbol named
      · subst same; decide
      · exact gap_printable spaced symbol blank
      · exact render_printable spaced value symbol inside
      · subst same; decide
  | (key, value) :: next :: fields =>
      simp only [renderFields, List.mem_append, List.mem_cons] at member
      rcases member with named | same | blank | inside | same | blank | others
      · exact renderString_printable key symbol named
      · subst same; decide
      · exact gap_printable spaced symbol blank
      · exact render_printable spaced value symbol inside
      · subst same; decide
      · exact gap_printable spaced symbol blank
      · exact renderFields_printable spaced (next :: fields) symbol others

end

end JsonText
