import SuperAdvisor.Foundation.Occurrences

/-!
# The filter of skill bodies

A line of a skill is searched for instructions once it is stripped and in lower
case.  The search wants no letter behind a phrase that ends with a blank, so it
misses the instructions such a phrase stands for; and stripping takes the blank
of a negation at the end of a line.
-/

namespace SuperAdvisor.Skills

open Python

def negations : List String :=
  ["do not", "don't", "never", "disabled", "reject", "forbidden", "no "]

/-- The lists of the three checks of a skill body. -/
inductive PhraseList where
  | execution
  | marketNumbers
  | scores
  deriving DecidableEq

def PhraseList.phrases : PhraseList → List String
  | .execution =>
      ["place order", "send order", "execute trade", "close position", "buy ", "sell "]
  | .marketNumbers => ["entry", "stop loss", "take profit", "tp", "sl"]
  | .scores =>
      ["raise score", "lower score", "change score", "recalculate score",
        "modify evidence score"]

/-- `[A-Za-z0-9_]` -/
def isWordSymbol (symbol : Char) : Bool :=
  symbol.isAlphanum || symbol == '_'

/-- The phrase stands at the beginning of the text, and no character of a word
before or behind it. -/
def standsHere (phrase : List Char) (previous : Option Char) (text : List Char) : Bool :=
  phrase.isPrefixOf text && !previous.any isWordSymbol &&
    !(text.drop phrase.length).head?.any isWordSymbol

/-- The search of the phrase; `previous` is the character before the text. -/
def searchFrom (phrase : List Char) (previous : Option Char) : List Char → Bool
  | [] => standsHere phrase previous []
  | symbol :: rest =>
      standsHere phrase previous (symbol :: rest) || searchFrom phrase (some symbol) rest

def hasNonNegatedPhrase (text : String) (phrases : List String) : Bool :=
  (splitLines text.toList).any (fun rawLine =>
    let line := lowerText (strip (String.ofList rawLine)).toList
    !line.isEmpty &&
      !negations.any (fun negation => decide (negation.toList <:+: line)) &&
      phrases.any (fun phrase => searchFrom phrase.toList none line))

/-! What the filter is to detect, on lines in lower case. -/

def FreeBefore (symbol : Char) : Prop :=
  isWordSymbol symbol = false

def FreeAfter (after : List Char) : Prop :=
  ∀ symbol ∈ after.head?, isWordSymbol symbol = false

/-- A phrase that ends with a blank has ended its word; anything may follow. -/
def EndsWord (phrase after : List Char) : Prop :=
  phrase.getLast? = some ' ' ∨ FreeAfter after

def Instructs (phrases : List String) (line : List Char) : Prop :=
  ∃ phrase ∈ phrases, Occurs FreeBefore (EndsWord phrase.toList) phrase.toList line

def Negated (line : List Char) : Prop :=
  ∃ negation ∈ negations, negation.toList <:+: line

/-- Some line gives an instruction and no negation. -/
def GivesInstruction (text : String) (phrases : List String) : Prop :=
  ∃ line ∈ splitLines text.toList, ¬Negated (lowerText line) ∧ Instructs phrases (lowerText line)

/-! What the search sees of a line. -/

/-- A phrase occurs with no character of a word behind it, and does not reach
into the trailing space. -/
def SetApart (phrases : List String) (line : List Char) : Prop :=
  ∃ phrase ∈ phrases, OccursWithin FreeBefore FreeAfter phrase.toList line

/-- A negation occurs that does not reach into the trailing space. -/
def NegatedWithin (line : List Char) : Prop :=
  ∃ negation ∈ negations, OccursWithin (fun _ => True) (fun _ => True) negation.toList line

/-- An instruction that only phrases with a blank give, each of them followed by
a word or by nothing. -/
def Unseen (phrases : List String) (line : List Char) : Prop :=
  ¬Negated line ∧ Instructs phrases line ∧ ¬SetApart phrases line

/-- The only negation is a last word `no` before trailing space. -/
def LosesNegation (phrases : List String) (line : List Char) : Prop :=
  Negated line ∧ ¬NegatedWithin line ∧ SetApart phrases line

private theorem phrases_begin (list : PhraseList) :
    ∀ phrase ∈ list.phrases,
      ∃ first, phrase.toList.head? = some first ∧ isSpace first = false := by
  have each : ∀ phrase ∈ list.phrases, phrase.toList.head?.any (!isSpace ·) = true := by
    cases list <;> decide +kernel
  intro phrase listed
  simpa [Option.any_eq_true] using each phrase listed

private theorem negations_begin :
    ∀ negation ∈ negations,
      ∃ first, negation.toList.head? = some first ∧ isSpace first = false := by
  have each : ∀ negation ∈ negations, negation.toList.head?.any (!isSpace ·) = true := by
    decide +kernel
  intro negation listed
  simpa [Option.any_eq_true] using each negation listed

theorem freeBefore_of_space {symbol : Char} (space : isSpace symbol = true) :
    FreeBefore symbol := by
  have code : symbol.val.toNat = symbol.toNat := rfl
  simp only [isSpace, List.contains_iff_mem, List.mem_cons, List.not_mem_nil, Bool.or_eq_true,
    Bool.and_eq_true, decide_eq_true_eq, or_false] at space
  have notUnderscore : symbol ≠ '_' := by
    rintro rfl
    revert space
    decide
  simp only [FreeBefore, isWordSymbol]
  delta Char.isAlphanum Char.isAlpha Char.isUpper Char.isLower Char.isDigit
  simp only [ge_iff_le, UInt32.le_iff_toNat_le, Bool.or_eq_false_iff, decide_eq_false_iff_not,
    Bool.and_eq_false_iff, code, beq_eq_false_iff_ne]
  refine ⟨⟨⟨?_, ?_⟩, ?_⟩, notUnderscore⟩ <;> simp <;> omega

private theorem any_eq_false_iff (symbol : Option Char) :
    symbol.any isWordSymbol = false ↔ ∀ one ∈ symbol, isWordSymbol one = false := by
  cases symbol <;> simp

private theorem standsHere_iff (phrase text : List Char) (previous : Option Char) :
    standsHere phrase previous text = true ↔
      ∃ after, text = phrase ++ after ∧ (∀ symbol ∈ previous, FreeBefore symbol) ∧
        FreeAfter after := by
  simp only [standsHere, Bool.and_eq_true, Bool.not_eq_true', List.isPrefixOf_iff_prefix,
    any_eq_false_iff]
  constructor
  · rintro ⟨⟨⟨after, rfl⟩, before⟩, free⟩
    rw [List.drop_left] at free
    exact ⟨after, rfl, before, free⟩
  · rintro ⟨after, rfl, before, free⟩
    rw [List.drop_left]
    exact ⟨⟨List.prefix_append phrase after, before⟩, free⟩

private theorem getLast_or (symbol : Char) (before : List Char) (previous : Option Char) :
    (symbol :: before).getLast?.or previous = before.getLast?.or (some symbol) := by
  cases before with
  | nil => rfl
  | cons next before =>
      rw [List.getLast?_cons_cons, List.getLast?_eq_some_getLast (List.cons_ne_nil next before)]
      rfl

theorem searchFrom_iff (phrase text : List Char) (previous : Option Char) :
    searchFrom phrase previous text = true ↔
      ∃ before after, text = before ++ phrase ++ after ∧
        (∀ symbol ∈ before.getLast?.or previous, FreeBefore symbol) ∧ FreeAfter after := by
  induction text generalizing previous with
  | nil =>
      rw [searchFrom, standsHere_iff]
      constructor
      · rintro ⟨after, same, before, free⟩
        exact ⟨[], after, same, before, free⟩
      · rintro ⟨before, after, same, allowed, free⟩
        obtain ⟨early, late⟩ := List.append_eq_nil_iff.mp same.symm
        obtain ⟨rfl, rfl⟩ := List.append_eq_nil_iff.mp early
        exact ⟨after, same, allowed, free⟩
  | cons symbol rest induction =>
      rw [searchFrom, Bool.or_eq_true, standsHere_iff, induction]
      constructor
      · rintro (⟨after, same, before, free⟩ | ⟨before, after, rfl, allowed, free⟩)
        · exact ⟨[], after, same, before, free⟩
        · exact ⟨symbol :: before, after, rfl, getLast_or symbol before previous ▸ allowed, free⟩
      · rintro ⟨before, after, same, allowed, free⟩
        cases before with
        | nil => exact .inl ⟨after, same, allowed, free⟩
        | cons next before =>
            obtain ⟨rfl, rfl⟩ := List.cons.inj same
            exact .inr ⟨before, after, rfl, getLast_or symbol before previous ▸ allowed, free⟩

/-! The filter by what it sees of a line. -/

private theorem freeAfter_trimmed (after : List Char) :
    FreeAfter (after.rdropWhile isSpace) ↔ FreeAfter after := by
  obtain ⟨rest, same⟩ := List.rdropWhile_prefix isSpace after
  cases kept : after.rdropWhile isSpace with
  | nil =>
      have spaces := List.rdropWhile_eq_nil_iff.mp kept
      refine iff_of_true (by simp [FreeAfter]) (fun symbol first => ?_)
      exact freeBefore_of_space (spaces symbol (List.mem_of_head? first))
  | cons symbol tail =>
      rw [← same, kept]
      rfl

/-- The filter passes the lines that have a phrase set apart, and no negation
before their trailing space. -/
theorem hasNonNegatedPhrase_iff (text : String) (list : PhraseList) :
    hasNonNegatedPhrase text list.phrases = true ↔
      ∃ line ∈ splitLines text.toList,
        ¬NegatedWithin (lowerText line) ∧ SetApart list.phrases (lowerText line) := by
  rw [hasNonNegatedPhrase, List.any_eq_true]
  refine exists_congr (fun line => and_congr_right (fun _ => ?_))
  have negated : negations.any (fun negation => decide (negation.toList <:+:
      lowerText (strip (String.ofList line)).toList)) = true ↔ NegatedWithin (lowerText line) := by
    rw [List.any_eq_true, NegatedWithin]
    refine exists_congr (fun negation => and_congr_right (fun listed => ?_))
    obtain ⟨first, begins, solid⟩ := negations_begin negation listed
    rw [decide_eq_true_eq, ← occurs_iff_infix, lowerText_strip,
      occurs_stripped_iff begins solid (fun _ _ => trivial) (fun _ => Iff.rfl)]
  have instructs : list.phrases.any (fun phrase => searchFrom phrase.toList none
      (lowerText (strip (String.ofList line)).toList)) = true ↔
        SetApart list.phrases (lowerText line) := by
    rw [List.any_eq_true, SetApart]
    refine exists_congr (fun phrase => and_congr_right (fun listed => ?_))
    obtain ⟨first, begins, solid⟩ := phrases_begin list phrase listed
    rw [searchFrom_iff, lowerText_strip, ← occurs_stripped_iff begins solid
      (fun _ => freeBefore_of_space) freeAfter_trimmed]
    simp only [Option.or_none, Occurs]
  have nonempty : SetApart list.phrases (lowerText line) →
      (lowerText (strip (String.ofList line)).toList).isEmpty = false := by
    rintro ⟨phrase, listed, occurs⟩
    by_contra notEmpty
    have empty := List.isEmpty_iff.mp (Bool.of_not_eq_false notEmpty)
    obtain ⟨first, begins, solid⟩ := phrases_begin list phrase listed
    rw [← occurs_stripped_iff begins solid (fun _ => freeBefore_of_space) freeAfter_trimmed,
      ← lowerText_strip, empty] at occurs
    obtain ⟨before, after, same, -⟩ := occurs
    have none : phrase.toList = [] :=
      (List.append_eq_nil_iff.mp (List.append_eq_nil_iff.mp same.symm).1).2
    rw [none] at begins
    cases begins
  simp only [Bool.and_eq_true, Bool.not_eq_true', ← Bool.not_eq_true, negated, instructs]
  constructor
  · rintro ⟨⟨-, free⟩, found⟩
    exact ⟨free, found⟩
  · rintro ⟨free, found⟩
    exact ⟨⟨by simpa using nonempty found, free⟩, found⟩

theorem instructs_of_setApart {phrases : List String} {line : List Char}
    (found : SetApart phrases line) : Instructs phrases line := by
  obtain ⟨phrase, listed, occurs⟩ := found
  exact ⟨phrase, listed, occurs.imp (fun _ known => .inr known.1)⟩

theorem negated_of_negatedWithin {line : List Char} (negated : NegatedWithin line) :
    Negated line := by
  obtain ⟨negation, listed, occurs⟩ := negated
  exact ⟨negation, listed, occurs_iff_infix.mp (occurs.imp (fun _ _ => trivial))⟩

/-- The filter detects what it is to detect exactly if some line without a
negation has an instruction set apart, or the text has lines of both kinds that
the filter misreads, or of neither. -/
theorem instructions_detected_iff (text : String) (list : PhraseList) :
    (hasNonNegatedPhrase text list.phrases = true ↔ GivesInstruction text list.phrases) ↔
      (∃ line ∈ splitLines text.toList,
        ¬Negated (lowerText line) ∧ SetApart list.phrases (lowerText line)) ∨
      ((∃ line ∈ splitLines text.toList, Unseen list.phrases (lowerText line)) ↔
        ∃ line ∈ splitLines text.toList, LosesNegation list.phrases (lowerText line)) := by
  rw [hasNonNegatedPhrase_iff]
  by_cases plain : ∃ line ∈ splitLines text.toList,
      ¬Negated (lowerText line) ∧ SetApart list.phrases (lowerText line)
  · obtain ⟨line, member, free, found⟩ := plain
    refine iff_of_true (iff_of_true ?_ ?_) (.inl ⟨line, member, free, found⟩)
    · exact ⟨line, member, fun negated => free (negated_of_negatedWithin negated), found⟩
    · exact ⟨line, member, free, instructs_of_setApart found⟩
  · rw [or_iff_right plain]
    have apart : ∀ line ∈ splitLines text.toList, SetApart list.phrases (lowerText line) →
        Negated (lowerText line) := by
      intro line member found
      by_contra free
      exact plain ⟨line, member, free, found⟩
    have seen : (∃ line ∈ splitLines text.toList,
        ¬NegatedWithin (lowerText line) ∧ SetApart list.phrases (lowerText line)) ↔
          ∃ line ∈ splitLines text.toList, LosesNegation list.phrases (lowerText line) :=
      exists_congr (fun line => and_congr_right (fun member =>
        ⟨fun known => ⟨apart line member known.2, known⟩, And.right⟩))
    have meant : GivesInstruction text list.phrases ↔
        ∃ line ∈ splitLines text.toList, Unseen list.phrases (lowerText line) :=
      exists_congr (fun line => and_congr_right (fun member =>
        ⟨fun known => ⟨known.1, known.2, fun found => known.1 (apart line member found)⟩,
          fun known => ⟨known.1, known.2.1⟩⟩))
    rw [seen, meant]
    exact iff_comm

theorem buyGold_unseen :
    ¬∀ (text : String) (list : PhraseList),
      (hasNonNegatedPhrase text list.phrases = true ↔ GivesInstruction text list.phrases) := by
  intro detected
  have given : GivesInstruction "buy gold" PhraseList.execution.phrases := by
    refine ⟨"buy gold".toList, by decide +kernel, ?_, "buy ", by decide, [], "gold".toList,
      by decide +kernel, by simp, .inl rfl⟩
    simp only [Negated]
    decide +kernel
  exact absurd ((detected "buy gold" .execution).mpr given) (by decide +kernel)

end SuperAdvisor.Skills
