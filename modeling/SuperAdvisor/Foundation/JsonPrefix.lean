import SuperAdvisor.Foundation.JsonRoundTrip

/-!
# Texts that follow a document

Reading a value takes the beginning of a text, so it reads the same value when
more text follows, unless that continues a token.  Hence a text that is a whole
document is no document any more when another one is written behind it.
-/

namespace JsonText

/-- A text that neither continues a token nor starts with a blank. -/
structure Apart (later : List Char) : Prop where
  token : EndsToken later
  solid : ∀ symbol ∈ later.head?, isBlank symbol = false

variable {later : List Char}

theorem apart_brace (fields : List Char) : Apart ('{' :: fields) := by
  constructor <;> simp [EndsToken, isBare, isBlank]

theorem apart_nil : Apart [] := by
  constructor <;> simp [EndsToken]

theorem skipBlank_append (apart : Apart later) (text : List Char) :
    skipBlank (text ++ later) = skipBlank text ++ later := by
  induction text with
  | nil =>
      cases later with
      | nil => rfl
      | cons head tail => exact skipBlank_head head tail (apart.solid head rfl)
  | cons symbol text induction =>
      by_cases blank : isBlank symbol = true
      · simpa [skipBlank, blank] using induction
      · simp [skipBlank, blank]

private theorem readUnit_append
    {text rest : List Char} {unit : Nat} (read : readUnit text = some (unit, rest)) :
    readUnit (text ++ later) = some (unit, rest ++ later) := by
  unfold readUnit at read
  split at read
  next first second third fourth rest =>
    simp only [Option.bind_eq_bind, Option.bind_eq_some_iff, Option.some.injEq,
      Prod.mk.injEq] at read
    obtain ⟨high, isHigh, upper, isUpper, lower, isLower, low, isLow, rfl, rfl⟩ := read
    simp [readUnit, isHigh, isUpper, isLower, isLow]
  next => cases read

private theorem readLowSurrogate_append
    {text rest : List Char} {unit : Nat} (read : readLowSurrogate text = some (unit, rest)) :
    readLowSurrogate (text ++ later) = some (unit, rest ++ later) := by
  unfold readLowSurrogate at read
  split at read
  next first second tail =>
    split at read
    next escape =>
      obtain ⟨⟨low, after⟩, isLow, same⟩ := Option.bind_eq_some_iff.mp read
      simp only [readLowSurrogate, List.cons_append, escape, and_self, if_true,
        readUnit_append isLow, Option.bind_eq_bind, Option.bind_some]
      dsimp only at same
      split at same
      next range =>
        cases same
        simp [range]
      next => cases same
    next => cases read
  next => cases read

private theorem readUnitChar_append
    {text rest : List Char} {symbol : Char} (read : readUnitChar text = some (symbol, rest)) :
    readUnitChar (text ++ later) = some (symbol, rest ++ later) := by
  obtain ⟨⟨unit, after⟩, isUnit, read⟩ := Option.bind_eq_some_iff.mp read
  simp only [readUnitChar, readUnit_append isUnit, Option.bind_eq_bind, Option.bind_some]
  dsimp only at read
  split at read
  next high =>
    obtain ⟨⟨low, behind⟩, isLow, same⟩ := Option.bind_eq_some_iff.mp read
    simp only [Option.some.injEq, Prod.mk.injEq] at same
    obtain ⟨rfl, rfl⟩ := same
    simp [high, readLowSurrogate_append isLow]
  next high =>
    split at read
    · cases read
    next low =>
      cases read
      simp [high, low]

private theorem readChar_append
    {text rest : List Char} {symbol : Char} (read : readChar text = some (symbol, rest)) :
    readChar (text ++ later) = some (symbol, rest ++ later) := by
  cases text with
  | nil => cases read
  | cons first text =>
      simp only [readChar, List.cons_append] at read ⊢
      split at read
      next escape =>
        rw [if_pos escape]
        cases text with
        | nil => cases read
        | cons letter text =>
            simp only [List.cons_append] at read ⊢
            split at read
            next unit =>
              rw [if_pos unit]
              exact readUnitChar_append read
            next short =>
              rw [if_neg short]
              obtain ⟨escaped, found, same⟩ := Option.map_eq_some_iff.mp read
              cases same
              simp [found]
      next plain =>
        rw [if_neg plain]
        split at read
        · cases read
        next printable =>
          cases read
          simp [printable]

theorem readString_append
    {fuel more : Nat} (enough : fuel ≤ more) {text body rest : List Char}
    (read : readString fuel text = some (body, rest)) :
    readString more (text ++ later) = some (body, rest ++ later) := by
  induction fuel generalizing more text body with
  | zero => cases read
  | succ fuel induction =>
      obtain ⟨more, rfl⟩ : ∃ less, more = less + 1 := ⟨more - 1, by omega⟩
      cases text with
      | nil => cases read
      | cons symbol text =>
          simp only [readString, List.cons_append] at read ⊢
          split at read
          next closing =>
            cases read
            rw [if_pos closing]
          next inside =>
            rw [if_neg inside]
            obtain ⟨⟨first, after⟩, isFirst, read⟩ := Option.bind_eq_some_iff.mp read
            obtain ⟨⟨others, behind⟩, isRest, same⟩ := Option.bind_eq_some_iff.mp read
            cases same
            have head := @readChar_append later _ _ _ isFirst
            rw [List.cons_append] at head
            have tail := induction (Nat.le_of_succ_le_succ enough) isRest
            simp [head, tail]

theorem readKey_append
    {fuel more : Nat} (enough : fuel ≤ more) {text rest : List Char} {key : String}
    (read : readKey fuel text = some (key, rest)) :
    readKey more (text ++ later) = some (key, rest ++ later) := by
  cases text with
  | nil => cases read
  | cons symbol text =>
      simp only [readKey, List.cons_append] at read ⊢
      split at read
      next opening =>
        rw [if_pos opening]
        obtain ⟨⟨body, after⟩, isBody, same⟩ := Option.map_eq_some_iff.mp read
        cases same
        simp [readString_append enough isBody]
      next => cases read

private theorem readItems_nil (fuel : Nat) : readItems fuel [] = none := by
  cases fuel with
  | zero => rfl
  | succ fuel => cases fuel <;> rfl

private theorem readFields_nil (fuel : Nat) : readFields fuel [] = none := by
  cases fuel <;> rfl

section Values

variable (apart : Apart later)

include apart in
private theorem readBare_append
    {symbol : Char} {text rest : List Char} {document : Document}
    (read : (readBare ((symbol :: text).takeWhile isBare)).map
      (fun value => (value, (symbol :: text).dropWhile isBare)) = some (document, rest)) :
    (readBare ((symbol :: (text ++ later)).takeWhile isBare)).map
      (fun value => (value, (symbol :: (text ++ later)).dropWhile isBare)) =
        some (document, rest ++ later) := by
  obtain ⟨value, isToken, same⟩ := Option.map_eq_some_iff.mp read
  cases same
  have spans : ∀ symbols : List Char,
      (symbols ++ later).takeWhile isBare = symbols.takeWhile isBare ∧
        (symbols ++ later).dropWhile isBare = symbols.dropWhile isBare ++ later := by
    intro symbols
    induction symbols with
    | nil =>
        cases later with
        | nil => simp
        | cons head tail => simp [apart.token head rfl]
    | cons head symbols induction =>
        by_cases bare : isBare head = true
        · simpa [bare] using induction
        · simp [bare]
  rw [← List.cons_append, (spans _).1, (spans _).2, isToken]
  rfl

/-- What each reader reads it reads again when more fuel is left and more text follows. -/
structure ReadsOn (later : List Char) (fuel more : Nat) : Prop where
  value : ∀ {text document rest}, readValue fuel text = some (document, rest) →
    readValue more (text ++ later) = some (document, rest ++ later)
  items : ∀ {text items rest}, readItems fuel text = some (items, rest) →
    readItems more (text ++ later) = some (items, rest ++ later)
  fields : ∀ {text fields rest}, readFields fuel text = some (fields, rest) →
    readFields more (text ++ later) = some (fields, rest ++ later)

include apart in
private theorem readValue_next
    {fuel more : Nat} (enough : fuel ≤ more) (reads : ReadsOn later fuel more)
    {text rest : List Char} {document : Document}
    (read : readValue (fuel + 1) text = some (document, rest)) :
    readValue (more + 1) (text ++ later) = some (document, rest ++ later) := by
  cases text with
  | nil => cases read
  | cons symbol text =>
      simp only [readValue, List.cons_append] at read ⊢
      split at read
      next string =>
        rw [if_pos string]
        obtain ⟨⟨body, after⟩, isBody, same⟩ := Option.map_eq_some_iff.mp read
        cases same
        simp [readString_append enough isBody]
      next other =>
        rw [if_neg other, skipBlank_append apart]
        split at read
        next array =>
          rw [if_pos array]
          cases shape : skipBlank text with
          | nil =>
              simp only [shape, readItems_nil] at read
              cases read
          | cons head tail =>
              simp only [shape, List.cons_append] at read ⊢
              split at read
              next after closing =>
                obtain ⟨rfl, rfl⟩ := List.cons.inj closing
                cases read
                rfl
              next after open_ =>
                obtain ⟨⟨items, behind⟩, isItems, same⟩ := Option.map_eq_some_iff.mp read
                cases same
                have again := reads.items isItems
                rw [List.cons_append] at again
                split
                next closing =>
                  obtain ⟨rfl, -⟩ := List.cons.inj closing
                  exact absurd rfl (open_ tail)
                next => rw [again]; rfl
        next noArray =>
          rw [if_neg noArray]
          split at read
          next object =>
            rw [if_pos object]
            cases shape : skipBlank text with
            | nil =>
                simp only [shape, readFields_nil] at read
                cases read
            | cons head tail =>
                simp only [shape, List.cons_append] at read ⊢
                split at read
                next after closing =>
                  obtain ⟨rfl, rfl⟩ := List.cons.inj closing
                  cases read
                  rfl
                next after open_ =>
                  obtain ⟨⟨fields, behind⟩, isFields, same⟩ := Option.map_eq_some_iff.mp read
                  cases same
                  have again := reads.fields isFields
                  rw [List.cons_append] at again
                  split
                  next closing =>
                    obtain ⟨rfl, -⟩ := List.cons.inj closing
                    exact absurd rfl (open_ tail)
                  next => rw [again]; rfl
          next bare =>
            rw [if_neg bare]
            exact readBare_append apart read

include apart in
private theorem readItems_next
    {fuel more : Nat} (reads : ReadsOn later fuel more) {text rest : List Char}
    {items : List Document} (read : readItems (fuel + 1) text = some (items, rest)) :
    readItems (more + 1) (text ++ later) = some (items, rest ++ later) := by
  obtain ⟨⟨item, after⟩, isItem, read⟩ := Option.bind_eq_some_iff.mp read
  dsimp only at read
  simp only [readItems, reads.value isItem, Option.bind_eq_bind, Option.bind_some,
    skipBlank_append apart]
  split at read
  next tail shape =>
    obtain ⟨⟨others, behind⟩, isItems, same⟩ := Option.bind_eq_some_iff.mp read
    cases same
    simp [shape, skipBlank_append apart, reads.items isItems]
  next tail shape =>
    cases read
    simp [shape]
  next => cases read

include apart in
private theorem readFields_next
    {fuel more : Nat} (enough : fuel ≤ more) (reads : ReadsOn later fuel more)
    {text rest : List Char} {fields : List (String × Document)}
    (read : readFields (fuel + 1) text = some (fields, rest)) :
    readFields (more + 1) (text ++ later) = some (fields, rest ++ later) := by
  obtain ⟨⟨key, after⟩, isKey, read⟩ := Option.bind_eq_some_iff.mp read
  dsimp only at read
  simp only [readFields, readKey_append enough isKey, Option.bind_eq_bind, Option.bind_some,
    skipBlank_append apart]
  split at read
  next tail colon =>
    obtain ⟨⟨value, behind⟩, isValue, read⟩ := Option.bind_eq_some_iff.mp read
    dsimp only at read
    simp only [colon, List.cons_append, skipBlank_append apart, reads.value isValue,
      Option.bind_some]
    split at read
    next rest shape =>
      obtain ⟨⟨others, beyond⟩, isFields, same⟩ := Option.bind_eq_some_iff.mp read
      cases same
      simp [shape, skipBlank_append apart, reads.fields isFields]
    next rest shape =>
      cases read
      simp [shape]
    next => cases read
  next => cases read

include apart in
theorem readsOn {fuel more : Nat} (enough : fuel ≤ more) : ReadsOn later fuel more := by
  induction fuel generalizing more with
  | zero => exact ⟨by simp [readValue], by simp [readItems], by simp [readFields]⟩
  | succ fuel induction =>
      obtain ⟨more, rfl⟩ : ∃ less, more = less + 1 := ⟨more - 1, by omega⟩
      have reads := induction (Nat.le_of_succ_le_succ enough)
      exact ⟨readValue_next apart (Nat.le_of_succ_le_succ enough) reads,
        readItems_next apart reads,
        readFields_next apart (Nat.le_of_succ_le_succ enough) reads⟩

end Values

/-- What follows a whole document makes the text unreadable. -/
theorem parse_append
    {text : List Char} {document : Document} (read : parse text = some document)
    {head : Char} {tail : List Char} (apart : Apart (head :: tail)) :
    parse (text ++ head :: tail) = none := by
  unfold parse at read ⊢
  split at read
  next value rest isValue =>
    split at read
    next finished =>
      have enough : text.length + 1 ≤ (text ++ head :: tail).length + 1 := by simp
      have again := (readsOn apart enough).value isValue
      rw [skipBlank_append apart, again]
      dsimp only
      rw [skipBlank_append apart, List.isEmpty_iff.mp finished]
      rfl
    next => cases read
  next => cases read

/-- Blanks in front of a document do not matter. -/
theorem parse_blank_append
    {blank text : List Char} (blanks : ∀ symbol ∈ blank, isBlank symbol = true)
    {document : Document} (read : parse text = some document) :
    parse (blank ++ text) = some document := by
  have skipped : skipBlank (blank ++ text) = skipBlank text := by
    induction blank with
    | nil => rfl
    | cons symbol blank induction =>
        rw [List.cons_append, skipBlank, List.dropWhile_cons_of_pos (blanks symbol (by simp))]
        exact induction (fun other member => blanks other (by simp [member]))
  unfold parse at read ⊢
  split at read
  next value rest isValue =>
    have enough : text.length + 1 ≤ (blank ++ text).length + 1 := by simp
    have again := (readsOn apart_nil enough).value isValue
    simp only [List.append_nil] at again
    rw [skipped, again]
    exact read
  next => cases read

/-- No document starts with a symbol of none. -/
theorem parse_stray
    {blank : List Char} (blanks : ∀ symbol ∈ blank, isBlank symbol = true) {symbol : Char}
    (solid : isBlank symbol = false) (stray : isBare symbol = false)
    (opens : symbol ∉ [quote, '[', '{']) (rest : List Char) :
    parse (blank ++ symbol :: rest) = none := by
  have skipped : skipBlank (blank ++ symbol :: rest) = symbol :: rest := by
    induction blank with
    | nil => exact skipBlank_head symbol rest solid
    | cons first blank induction =>
        rw [List.cons_append, skipBlank, List.dropWhile_cons_of_pos (blanks first (by simp))]
        exact induction (fun other member => blanks other (by simp [member]))
  simp only [List.mem_cons, List.not_mem_nil, or_false, not_or] at opens
  have unread : readBare [] = none := by decide
  have none : ∀ fuel, readValue (fuel + 1) (symbol :: rest) = none := by
    intro fuel
    rw [readValue, if_neg opens.1, if_neg opens.2.1, if_neg opens.2.2,
      List.takeWhile_cons_of_neg (by simp [stray]), unread]
    rfl
  unfold parse
  rw [skipped, none]

end JsonText
