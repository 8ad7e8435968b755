import Mathlib.Data.List.Infix

/-!
# Lines of a text

Splitting a text at line boundaries and telling blank lines apart.  Lines that
contain no boundary come back unchanged from a text that ends each of them
with a newline.

A newline ends a line whatever stands before it, so a text is split before and
behind a newline separately, and no line contains a boundary.
-/

namespace Python

/-- The boundaries `splitlines` knows. -/
def isLineBreak (symbol : Char) : Bool :=
  [0x0a, 0x0b, 0x0c, 0x0d, 0x1c, 0x1d, 0x1e, 0x85, 0x2028, 0x2029].contains
    symbol.toNat

/-- The characters `strip` removes. -/
def isSpace (symbol : Char) : Bool :=
  [0x20, 0x85, 0xa0, 0x1680, 0x2028, 0x2029, 0x202f, 0x205f, 0x3000].contains
      symbol.toNat ||
    (decide (0x09 ≤ symbol.toNat) && decide (symbol.toNat ≤ 0x0d)) ||
    (decide (0x1c ≤ symbol.toNat) && decide (symbol.toNat ≤ 0x1f)) ||
    (decide (0x2000 ≤ symbol.toNat) && decide (symbol.toNat ≤ 0x200a))

def isBlankLine (line : List Char) : Bool :=
  line.all isSpace

/-- `text.strip()` -/
def strip (text : String) : String :=
  String.ofList ((text.toList.dropWhile isSpace).reverse.dropWhile isSpace).reverse

/-- `text.lower()` of an ASCII text -/
def asciiLower (text : String) : String :=
  String.ofList (text.toList.map Char.toLower)

/-- `part in text` -/
def isSubstring (part text : String) : Bool :=
  decide (part.toList <:+: text.toList)

/-- `text.replace(old, new)`, where the next `skip` characters belong to an
occurrence that was replaced. -/
def replaceFrom (old new : List Char) (skip : Nat) : List Char → List Char
  | [] => []
  | symbol :: rest =>
      if 0 < skip then replaceFrom old new (skip - 1) rest
      else if old <+: symbol :: rest then new ++ replaceFrom old new (old.length - 1) rest
      else symbol :: replaceFrom old new 0 rest

def replaceText (old new text : List Char) : List Char :=
  replaceFrom old new 0 text

/-- `current` is the reversed beginning of the line being read. -/
def splitLinesFrom (current : List Char) : List Char → List (List Char)
  | [] => if current.isEmpty then [] else [current.reverse]
  | '\r' :: '\n' :: rest => current.reverse :: splitLinesFrom [] rest
  | symbol :: rest =>
      if isLineBreak symbol then current.reverse :: splitLinesFrom [] rest
      else splitLinesFrom (symbol :: current) rest

def splitLines (text : List Char) : List (List Char) :=
  splitLinesFrom [] text

/-- Each line, ended by a newline. -/
def unlines (lines : List (List Char)) : List Char :=
  lines.flatMap (fun line => line ++ ['\n'])

/-- A text without spaces is left as it is. -/
theorem strip_of_solid
    {text : String} (solid : ∀ symbol ∈ text.toList, isSpace symbol = false) :
    strip text = text := by
  have kept : ∀ symbols : List Char, (∀ symbol ∈ symbols, isSpace symbol = false) →
      symbols.dropWhile isSpace = symbols := by
    intro symbols each
    cases symbols with
    | nil => rfl
    | cons symbol symbols => rw [List.dropWhile_cons_of_neg (by simp [each symbol])]
  rw [strip, kept _ solid, kept _ (fun symbol member => solid symbol (List.mem_reverse.mp member)),
    List.reverse_reverse, String.ofList_toList]

private theorem replaceFrom_length (old new text : List Char) :
    replaceFrom old new text.length text = [] := by
  induction text with
  | nil => rfl
  | cons symbol text induction => simpa [replaceFrom] using induction

/-- An occurrence at the end, whose first character does not occur before it. -/
theorem replaceText_last
    {first : Char} {before : List Char} (absent : first ∉ before) (others new : List Char) :
    replaceText (first :: others) new (before ++ first :: others) = before ++ new := by
  induction before with
  | nil =>
      simp [replaceText, replaceFrom, replaceFrom_length]
  | cons symbol before induction =>
      have different : first ≠ symbol := fun same => absent (by simp [same])
      have later := induction (fun member => absent (List.mem_cons_of_mem _ member))
      rw [replaceText] at later
      simp [replaceText, replaceFrom, List.cons_prefix_cons, different, later]

theorem unlines_append (first second : List (List Char)) :
    unlines (first ++ second) = unlines first ++ unlines second := by
  simp [unlines]

/-- A line without a boundary ends at the next newline. -/
theorem splitLinesFrom_line
    {line : List Char} (solid : ∀ symbol ∈ line, isLineBreak symbol = false)
    (current rest : List Char) :
    splitLinesFrom current (line ++ '\n' :: rest) =
      (current.reverse ++ line) :: splitLinesFrom [] rest := by
  induction line generalizing current with
  | nil => simp [splitLinesFrom, isLineBreak]
  | cons symbol line induction =>
      have notBreak : isLineBreak symbol = false := solid symbol (by simp)
      have notReturn : symbol ≠ '\r' := by
        rintro rfl
        simp [isLineBreak] at notBreak
      have tail := induction (fun other member => solid other (by simp [member]))
        (symbol :: current)
      rw [List.cons_append, splitLinesFrom.eq_3]
      · simp [notBreak, tail]
      · intro after same
        exact absurd same notReturn

/-- Lines without a boundary are read back. -/
theorem splitLines_unlines
    {lines : List (List Char)}
    (solid : ∀ line ∈ lines, ∀ symbol ∈ line, isLineBreak symbol = false) :
    splitLines (unlines lines) = lines := by
  induction lines with
  | nil => rfl
  | cons line lines induction =>
      have first := splitLinesFrom_line (solid line (by simp)) [] (unlines lines)
      have later := induction (fun other member => solid other (by simp [member]))
      rw [show splitLinesFrom [] (unlines lines) = lines from later] at first
      simpa [unlines, splitLines] using first

/-- A symbol that is no carriage return before a newline stays none. -/
private theorem notReturn_append
    {symbol : Char} {after : List Char}
    (notReturn : ∀ others, symbol = '\r' → after = '\n' :: others → False)
    (inside : ¬(symbol = '\r' ∧ after = [])) (rest : List Char) :
    ∀ others, symbol = '\r' → after ++ '\n' :: rest = '\n' :: others → False := by
  intro others isReturn same
  cases after with
  | nil => exact inside ⟨isReturn, rfl⟩
  | cons next after =>
      obtain ⟨rfl, -⟩ := List.cons.inj same
      exact notReturn after isReturn rfl

private theorem splitLinesFrom_newline (current rest : List Char) :
    splitLinesFrom current ('\n' :: rest) = current.reverse :: splitLinesFrom [] rest := by
  simpa using @splitLinesFrom_line [] (by simp) current rest

theorem splitLinesFrom_append (current text rest : List Char) :
    splitLinesFrom current (text ++ '\n' :: rest) =
      splitLinesFrom current (text ++ ['\n']) ++ splitLinesFrom [] rest := by
  induction current, text using splitLinesFrom.induct with
  | case1 current empty =>
      rw [List.nil_append, List.nil_append, splitLinesFrom_newline, splitLinesFrom_newline]
      rfl
  | case2 current notEmpty =>
      rw [List.nil_append, List.nil_append, splitLinesFrom_newline, splitLinesFrom_newline]
      rfl
  | case3 current after induction =>
      rw [List.cons_append, List.cons_append, splitLinesFrom, induction, List.cons_append,
        List.cons_append, splitLinesFrom, List.cons_append]
  | case4 current symbol after notReturn breaks induction =>
      by_cases last : symbol = '\r' ∧ after = []
      · obtain ⟨rfl, rfl⟩ := last
        rfl
      · rw [List.cons_append, splitLinesFrom.eq_3 _ _ _ (notReturn_append notReturn last rest),
          if_pos breaks, induction, List.cons_append,
          splitLinesFrom.eq_3 _ _ _ (notReturn_append notReturn last []), if_pos breaks,
          List.cons_append]
  | case5 current symbol after notReturn keeps induction =>
      have solid : ¬(symbol = '\r' ∧ after = []) := by
        rintro ⟨rfl, -⟩
        exact keeps rfl
      rw [List.cons_append, splitLinesFrom.eq_3 _ _ _ (notReturn_append notReturn solid rest),
        if_neg keeps, induction, List.cons_append,
        splitLinesFrom.eq_3 _ _ _ (notReturn_append notReturn solid []), if_neg keeps]

theorem splitLines_unlines_append (first second : List (List Char)) :
    splitLines (unlines (first ++ second)) =
      splitLines (unlines first) ++ splitLines (unlines second) := by
  rw [unlines_append]
  rcases List.eq_nil_or_concat first with rfl | ⟨early, last, rfl⟩
  · rfl
  · have ended : unlines (early.concat last) = (unlines early ++ last) ++ ['\n'] := by
      simp [unlines]
    rw [ended, List.append_assoc, List.singleton_append]
    exact splitLinesFrom_append [] _ _

private theorem solid_of_mem_splitLinesFrom
    {current text line : List Char} (solid : ∀ symbol ∈ current, isLineBreak symbol = false)
    (member : line ∈ splitLinesFrom current text) :
    ∀ symbol ∈ line, isLineBreak symbol = false := by
  have finished : ∀ {symbol}, symbol ∈ current.reverse → isLineBreak symbol = false :=
    fun inside => solid _ (List.mem_reverse.mp inside)
  induction current, text using splitLinesFrom.induct with
  | case1 current empty => simp [splitLinesFrom, empty] at member
  | case2 current notEmpty =>
      obtain rfl : line = current.reverse := by simpa [splitLinesFrom, notEmpty] using member
      exact fun symbol => finished
  | case3 current after induction =>
      rw [splitLinesFrom] at member
      rcases List.mem_cons.mp member with rfl | later
      · exact fun symbol => finished
      · exact induction (by simp) later (by simp)
  | case4 current symbol after notReturn breaks induction =>
      rw [splitLinesFrom.eq_3 _ _ _ notReturn, if_pos breaks] at member
      rcases List.mem_cons.mp member with rfl | later
      · exact fun symbol => finished
      · exact induction (by simp) later (by simp)
  | case5 current symbol after notReturn keeps induction =>
      rw [splitLinesFrom.eq_3 _ _ _ notReturn, if_neg keeps] at member
      have longer : ∀ other ∈ symbol :: current, isLineBreak other = false := by
        intro other inside
        rcases List.mem_cons.mp inside with rfl | inside
        · simpa using keeps
        · exact solid other inside
      exact induction longer member (fun inside => longer _ (List.mem_reverse.mp inside))

theorem not_isLineBreak_of_mem_splitLines
    {text line : List Char} (member : line ∈ splitLines text) :
    ∀ symbol ∈ line, isLineBreak symbol = false :=
  solid_of_mem_splitLinesFrom (by simp) member

end Python
