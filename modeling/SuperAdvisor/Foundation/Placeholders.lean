import Mathlib.Data.List.Infix
import SuperAdvisor.Foundation.PythonJson

/-!
# Placeholders in a text

A placeholder is a name between two brackets.  A substitution goes through the
text from the left and replaces every placeholder it meets; it raises if a name
has no value.  A symbol that occurs in no placeholder cuts a text into parts
that are substituted on their own.

A second substitution goes over the result of a first one.  If the values of the
first one stand between two such symbols, then the second one sees the text
between the first placeholders, and each value, on their own.
-/

namespace Placeholders

open Python

variable {α ε : Type} [DecidableEq α]

structure Pattern (α : Type) where
  opening : List α
  closing : List α
  isName : α → Bool
  opens : opening ≠ []
  ends : ∃ symbol rest, closing = symbol :: rest ∧ isName symbol = false

/-- The placeholder of a name. -/
def Pattern.around (pattern : Pattern α) (name : List α) : List α :=
  pattern.opening ++ name ++ pattern.closing

/-- A name, which is not empty. -/
def Pattern.IsName (pattern : Pattern α) (name : List α) : Prop :=
  name ≠ [] ∧ ∀ symbol ∈ name, pattern.isName symbol = true

/-- The name of the placeholder that a text begins with, and what follows. -/
def Pattern.matchAt (pattern : Pattern α) (text : List α) : Option (List α × List α) :=
  let after := text.drop pattern.opening.length
  let name := after.takeWhile pattern.isName
  let rest := after.dropWhile pattern.isName
  if pattern.opening <+: text ∧ name ≠ [] ∧ pattern.closing <+: rest then
    some (name, rest.drop pattern.closing.length)
  else none

inductive Piece (α : Type) where
  | symbol (symbol : α)
  | hole (name : List α)

/-- The pieces of a text behind some symbols. -/
def piecesFrom (pattern : Pattern α) : Nat → List α → List (Piece α)
  | _, [] => []
  | skip + 1, _ :: text => piecesFrom pattern skip text
  | 0, symbol :: text =>
      match pattern.matchAt (symbol :: text) with
      | some (name, rest) => .hole name :: piecesFrom pattern (text.length - rest.length) text
      | none => .symbol symbol :: piecesFrom pattern 0 text

def pieces (pattern : Pattern α) (text : List α) : List (Piece α) :=
  piecesFrom pattern 0 text

def fill (value : List α → Except ε (List α)) : Piece α → Except ε (List α)
  | .symbol symbol => .ok [symbol]
  | .hole name => value name

def substitute (pattern : Pattern α) (value : List α → Except ε (List α)) (text : List α) :
    Except ε (List α) := do
  let parts ← (pieces pattern text).mapM (fill value)
  .ok parts.flatten

variable {pattern : Pattern α}

theorem matchAt_eq_some_iff {text name rest : List α} :
    pattern.matchAt text = some (name, rest) ↔
      text = pattern.around name ++ rest ∧ pattern.IsName name := by
  obtain ⟨mark, closing, shape, stops⟩ := pattern.ends
  constructor
  · intro found
    simp only [Pattern.matchAt] at found
    split at found
    next holds =>
      obtain ⟨⟨after, rfl⟩, some_, closed⟩ := holds
      simp only [List.drop_left] at found some_ closed
      obtain ⟨rfl, rfl⟩ := Prod.mk.inj (Option.some.inj found)
      refine ⟨?_, some_, fun symbol member => List.mem_takeWhile_imp member⟩
      rw [Pattern.around, List.append_assoc, List.append_assoc,
        List.prefix_iff_eq_append.mp closed, List.takeWhile_append_dropWhile]
    next => cases found
  · rintro ⟨rfl, some_, named⟩
    have after : (pattern.around name ++ rest).drop pattern.opening.length =
        name ++ (pattern.closing ++ rest) := by
      simp [Pattern.around]
    have taken : (name ++ (pattern.closing ++ rest)).takeWhile pattern.isName = name := by
      rw [List.takeWhile_append_of_pos named, shape]
      simp [stops]
    have dropped : (name ++ (pattern.closing ++ rest)).dropWhile pattern.isName =
        pattern.closing ++ rest := by
      rw [List.dropWhile_append_of_pos named, shape]
      simp [stops]
    simp only [Pattern.matchAt, after, taken, dropped]
    rw [if_pos ⟨by simp [Pattern.around], some_, by simp⟩]
    simp

theorem piecesFrom_eq (skip : Nat) (text : List α) :
    piecesFrom pattern skip text = pieces pattern (text.drop skip) := by
  induction text generalizing skip with
  | nil => simp [piecesFrom, pieces]
  | cons symbol text induction =>
      cases skip with
      | zero => rfl
      | succ skip => simpa [piecesFrom] using induction skip

@[simp] theorem pieces_nil : pieces pattern [] = [] := rfl

/-- A text that begins with a placeholder. -/
theorem pieces_around {name : List α} (named : pattern.IsName name) (rest : List α) :
    pieces pattern (pattern.around name ++ rest) = .hole name :: pieces pattern rest := by
  have found : pattern.matchAt (pattern.around name ++ rest) = some (name, rest) :=
    matchAt_eq_some_iff.mpr ⟨rfl, named⟩
  obtain ⟨first, opening, shape⟩ := List.exists_cons_of_ne_nil pattern.opens
  have whole : pattern.around name ++ rest =
      first :: (opening ++ name ++ pattern.closing ++ rest) := by
    simp [Pattern.around, shape]
  rw [whole] at found ⊢
  rw [pieces, piecesFrom]
  simp only [found]
  have between : (opening ++ name ++ pattern.closing ++ rest).length - rest.length =
      (opening ++ name ++ pattern.closing).length := by
    simp only [List.length_append]
    omega
  rw [piecesFrom_eq, between, List.drop_left]

/-- A text that begins with a symbol of its own. -/
theorem pieces_cons {symbol : α} {text : List α}
    (nothing : pattern.matchAt (symbol :: text) = none) :
    pieces pattern (symbol :: text) = .symbol symbol :: pieces pattern text := by
  rw [pieces, piecesFrom]
  simp only [nothing]
  rfl

variable (pattern) in
/-- A text is empty, begins with a placeholder, or with a symbol of its own. -/
theorem pieces_cases (text : List α) :
    text = [] ∨ (∃ name rest, pattern.IsName name ∧ text = pattern.around name ++ rest) ∨
      ∃ symbol rest, text = symbol :: rest ∧ pattern.matchAt text = none := by
  cases text with
  | nil => exact .inl rfl
  | cons symbol rest =>
      cases found : pattern.matchAt (symbol :: rest) with
      | none => exact .inr (.inr ⟨symbol, rest, rfl, rfl⟩)
      | some pair =>
          obtain ⟨shape, named⟩ := matchAt_eq_some_iff.mp found
          exact .inr (.inl ⟨pair.1, pair.2, named, shape⟩)

omit [DecidableEq α] in
theorem length_lt_around {name : List α} (rest : List α) :
    rest.length < (pattern.around name ++ rest).length := by
  have positive := List.length_pos_of_ne_nil pattern.opens
  simp only [Pattern.around, List.length_append]
  omega

/-- The symbol occurs in no placeholder. -/
structure Pattern.Avoids (pattern : Pattern α) (mark : α) : Prop where
  opening : mark ∉ pattern.opening
  closing : mark ∉ pattern.closing
  name : pattern.isName mark = false

omit [DecidableEq α] in
theorem Pattern.Avoids.not_mem_around
    {mark : α} (avoids : pattern.Avoids mark) {name : List α} (named : pattern.IsName name) :
    mark ∉ pattern.around name := by
  simp only [Pattern.around, List.mem_append, not_or]
  refine ⟨⟨avoids.opening, fun member => ?_⟩, avoids.closing⟩
  have named := named.2 mark member
  rw [avoids.name] at named
  cases named

omit [DecidableEq α] in
/-- What a text begins with does not reach a symbol behind it. -/
theorem prefix_of_prefix_append_mark
    {word text after : List α} {mark : α} (absent : mark ∉ word)
    (begins : word <+: text ++ mark :: after) : word <+: text := by
  induction word generalizing text with
  | nil => exact List.nil_prefix
  | cons symbol word induction =>
      rw [List.mem_cons, not_or] at absent
      cases text with
      | nil => exact absurd (List.cons_prefix_cons.mp begins).1.symm absent.1
      | cons first text =>
          obtain ⟨rfl, rest⟩ := List.cons_prefix_cons.mp begins
          exact List.cons_prefix_cons.mpr ⟨rfl, induction absent.2 rest⟩

/-- A symbol that is in no placeholder cuts the text. -/
theorem pieces_append_mark
    {mark : α} (avoids : pattern.Avoids mark) (text after : List α) :
    pieces pattern (text ++ mark :: after) =
      pieces pattern text ++ .symbol mark :: pieces pattern after := by
  have reaches : ∀ {name rest text : List α}, pattern.IsName name →
      text ++ mark :: after = pattern.around name ++ rest →
        ∃ between, text = pattern.around name ++ between ∧ rest = between ++ mark :: after := by
    intro name rest text named shape
    obtain ⟨between, rfl⟩ := prefix_of_prefix_append_mark (avoids.not_mem_around named)
      ⟨rest, shape.symm⟩
    rw [List.append_assoc] at shape
    exact ⟨between, rfl, (List.append_cancel_left shape).symm⟩
  induction size : text.length using Nat.strongRecOn generalizing text with
  | ind count induction =>
      rcases pieces_cases pattern text with
        rfl | ⟨name, rest, named, rfl⟩ | ⟨symbol, rest, rfl, nothing⟩
      · refine pieces_cons ?_
        cases found : pattern.matchAt (mark :: after) with
        | none => rfl
        | some pair =>
            obtain ⟨shape, named⟩ := matchAt_eq_some_iff.mp found
            have begins : [] ++ mark :: after = pattern.around pair.1 ++ pair.2 := shape
            obtain ⟨between, empty, -⟩ := reaches named begins
            have opening := (List.append_eq_nil_iff.mp empty.symm).1
            simp [Pattern.around, pattern.opens] at opening
      · have shorter := induction rest.length (size ▸ length_lt_around rest) rest rfl
        rw [List.append_assoc, pieces_around named, pieces_around named, shorter,
          List.cons_append]
      · have shorter := induction rest.length (by simp at size; omega) rest rfl
        have still : pattern.matchAt (symbol :: rest ++ mark :: after) = none := by
          cases found : pattern.matchAt (symbol :: rest ++ mark :: after) with
          | none => rfl
          | some pair =>
              obtain ⟨shape, named⟩ := matchAt_eq_some_iff.mp found
              obtain ⟨between, whole, -⟩ := reaches named shape
              rw [matchAt_eq_some_iff.mpr ⟨whole, named⟩] at nothing
              cases nothing
        rw [List.cons_append] at still ⊢
        rw [pieces_cons nothing, pieces_cons still, shorter, List.cons_append]

/-! Texts with no placeholder. -/

/-- There is a placeholder in the text. -/
def Pattern.OccursIn (pattern : Pattern α) (text : List α) : Prop :=
  ∃ name, pattern.IsName name ∧ pattern.around name <:+: text

theorem hole_of_occursIn {text : List α} (occurs : pattern.OccursIn text) :
    ∃ name, .hole name ∈ pieces pattern text := by
  obtain ⟨name, named, early, late, shape⟩ := occurs
  induction early generalizing text with
  | nil =>
      rw [List.nil_append] at shape
      rw [← shape, pieces_around named]
      exact ⟨name, List.mem_cons_self⟩
  | cons symbol early induction =>
      rcases pieces_cases pattern text with
        rfl | ⟨other, rest, known, rfl⟩ | ⟨first, rest, rfl, nothing⟩
      · simp at shape
      · rw [pieces_around known]
        exact ⟨other, List.mem_cons_self⟩
      · obtain ⟨found, inside⟩ := induction (List.cons.inj shape).2
        rw [pieces_cons nothing]
        exact ⟨found, List.mem_cons_of_mem _ inside⟩

theorem pieces_of_not_occursIn {text : List α} (plain : ¬pattern.OccursIn text) :
    pieces pattern text = text.map .symbol := by
  induction text with
  | nil => rfl
  | cons symbol text induction =>
      rcases pieces_cases pattern (symbol :: text) with
        empty | ⟨name, rest, named, shape⟩ | ⟨first, rest, shape, nothing⟩
      · cases empty
      · refine absurd ⟨name, named, [], rest, ?_⟩ plain
        rw [shape, List.nil_append]
      · rw [pieces_cons nothing, List.map_cons, induction]
        rintro ⟨name, named, early, late, inside⟩
        refine plain ⟨name, named, symbol :: early, late, ?_⟩
        rw [← inside, List.cons_append, List.cons_append]

/-- A symbol stands for itself, or for a text that no placeholder reaches or begins in. -/
structure Pattern.Kept (pattern : Pattern α) (mark : α) (escape : α → List α) : Prop where
  avoids : pattern.Avoids mark
  escaped : ∀ symbol, escape symbol = [symbol] ∨
    ∃ rest, escape symbol = mark :: rest ∧ ∀ other ∈ rest, pattern.opening.head? ≠ some other

omit [DecidableEq α] in
private theorem prefix_of_prefix_flatMap
    {mark : α} {escape : α → List α} (kept : pattern.Kept mark escape)
    {word text : List α} (absent : mark ∉ word) (begins : word <+: text.flatMap escape) :
    word <+: text := by
  induction text generalizing word with
  | nil => exact begins
  | cons symbol text induction =>
      cases word with
      | nil => exact List.nil_prefix
      | cons first word =>
          rw [List.mem_cons, not_or] at absent
          rw [List.flatMap_cons] at begins
          rcases kept.escaped symbol with same | ⟨rest, shape, -⟩
          · rw [same] at begins
            obtain ⟨rfl, later⟩ := List.cons_prefix_cons.mp begins
            exact List.cons_prefix_cons.mpr ⟨rfl, induction absent.2 later⟩
          · rw [shape] at begins
            exact absurd (List.cons_prefix_cons.mp begins).1.symm absent.1

omit [DecidableEq α] in
private theorem infix_of_infix_append
    {first : α} {word rest text : List α} (absent : first ∉ rest)
    (inside : first :: word <:+: rest ++ text) : first :: word <:+: text := by
  induction rest with
  | nil => exact inside
  | cons symbol rest induction =>
      rw [List.mem_cons, not_or] at absent
      rcases List.infix_cons_iff.mp inside with begins | later
      · exact absurd (List.cons_prefix_cons.mp begins).1 absent.1
      · exact induction absent.2 later

omit [DecidableEq α] in
/-- Escaping the symbols of a text makes no placeholder. -/
theorem occursIn_of_flatMap
    {mark : α} {escape : α → List α} (kept : pattern.Kept mark escape)
    {text : List α} (occurs : pattern.OccursIn (text.flatMap escape)) :
    pattern.OccursIn text := by
  obtain ⟨name, named, inside⟩ := occurs
  refine ⟨name, named, ?_⟩
  have absent := kept.avoids.not_mem_around named
  obtain ⟨first, opening, shape⟩ := List.exists_cons_of_ne_nil pattern.opens
  have around : pattern.around name = first :: (opening ++ name ++ pattern.closing) := by
    simp [Pattern.around, shape]
  rw [around] at inside absent ⊢
  induction text with
  | nil => exact inside
  | cons symbol text induction =>
      rw [List.flatMap_cons] at inside
      rcases kept.escaped symbol with same | ⟨rest, escaped, foreign⟩
      · rw [same, List.singleton_append] at inside
        rcases List.infix_cons_iff.mp inside with begins | later
        · have whole : first :: (opening ++ name ++ pattern.closing) <+:
              (symbol :: text).flatMap escape := by
            rw [List.flatMap_cons, same]
            exact begins
          exact (prefix_of_prefix_flatMap kept absent whole).isInfix
        · exact List.infix_cons (induction later)
      · have outside : first ∉ mark :: rest := by
          rw [List.mem_cons, not_or]
          refine ⟨fun same => absent (same ▸ List.mem_cons_self), fun member => ?_⟩
          exact foreign first member (by rw [shape]; rfl)
        rw [escaped] at inside
        exact List.infix_cons (induction (infix_of_infix_append outside inside))

omit [DecidableEq α] in
/-- A text between two symbols that are in no placeholder. -/
theorem occursIn_of_quoted
    {mark : α} (avoids : pattern.Avoids mark) {text : List α}
    (occurs : pattern.OccursIn (mark :: (text ++ [mark]))) : pattern.OccursIn text := by
  obtain ⟨name, named, inside⟩ := occurs
  have absent := avoids.not_mem_around named
  have positive : pattern.around name ≠ [] := by
    simp [Pattern.around, pattern.opens]
  refine ⟨name, named, ?_⟩
  rcases List.infix_cons_iff.mp inside with begins | later
  · obtain ⟨first, word, shape⟩ := List.exists_cons_of_ne_nil positive
    rw [shape] at begins absent
    exact absurd ((List.cons_prefix_cons.mp begins).1 ▸ List.mem_cons_self) absent
  · obtain ⟨early, late, shape⟩ := later
    rcases List.eq_nil_or_concat late with rfl | ⟨late, final, rfl⟩
    · rw [List.append_nil] at shape
      obtain ⟨word, final, around⟩ := (List.eq_nil_or_concat (pattern.around name)).resolve_left
        positive
      rw [around] at shape absent
      have same : final = mark := by
        have both := congrArg List.getLast? shape
        simpa using both
      exact absurd (same ▸ (by simp)) absent
    · have both : early ++ pattern.around name ++ late ++ [final] = text ++ [mark] := by
        simpa using shape
      exact ⟨early, late, (List.append_inj' both rfl).1⟩

/-! Substitutions. -/

section Substitutions

variable {value : List α → Except ε (List α)}

@[simp] theorem substitute_nil : substitute pattern value [] = .ok [] := rfl

theorem substitute_of_not_occursIn {text : List α} (plain : ¬pattern.OccursIn text) :
    substitute pattern value text = .ok text := by
  have copied : ∀ text : List α, (text.map Piece.symbol).mapM (fill value) =
      (.ok (text.map (fun symbol => [symbol])) : Except ε (List (List α))) := by
    intro text
    induction text with
    | nil => rfl
    | cons symbol text induction => simp [fill, induction, bind, Except.bind, pure, Except.pure]
  rw [substitute, pieces_of_not_occursIn plain, copied]
  simp [bind, Except.bind, ← List.flatMap_def]

/-- The parts at a cut are substituted on their own. -/
theorem substitute_append_mark
    {mark : α} (avoids : pattern.Avoids mark) {text after result : List α} :
    substitute pattern value (text ++ mark :: after) = .ok result ↔
      ∃ first second, substitute pattern value text = .ok first ∧
        substitute pattern value after = .ok second ∧ result = first ++ mark :: second := by
  simp only [substitute, pieces_append_mark avoids, List.mapM_append, List.mapM_cons, fill,
    except_bind_eq_ok, Except.ok.injEq, pure, Except.pure]
  constructor
  · rintro ⟨_, ⟨early, before, _, ⟨_, rfl, late, behind, rfl⟩, rfl⟩, built⟩
    refine ⟨_, _, ⟨early, before, rfl⟩, ⟨late, behind, rfl⟩, ?_⟩
    rw [← built]
    simp
  · rintro ⟨_, _, ⟨early, before, rfl⟩, ⟨late, behind, rfl⟩, rfl⟩
    refine ⟨_, ⟨early, before, _, ⟨_, rfl, late, behind, rfl⟩, rfl⟩, ?_⟩
    simp

/-- A value that begins and ends with such a symbol is substituted on its own. -/
theorem substitute_append_quoted
    {mark : α} (avoids : pattern.Avoids mark) {text body after result : List α} :
    substitute pattern value (text ++ (mark :: (body ++ [mark]) ++ after)) = .ok result ↔
      ∃ first middle second, substitute pattern value text = .ok first ∧
        substitute pattern value (mark :: (body ++ [mark])) = .ok middle ∧
        substitute pattern value after = .ok second ∧ result = first ++ (middle ++ second) := by
  have alone : ∀ {middle}, substitute pattern value (mark :: (body ++ [mark])) = .ok middle ↔
      ∃ inside, substitute pattern value body = .ok inside ∧
        middle = mark :: (inside ++ [mark]) := by
    intro middle
    have cut : mark :: (body ++ [mark]) = [] ++ mark :: (body ++ mark :: []) := rfl
    rw [cut, substitute_append_mark avoids]
    simp [substitute_append_mark avoids]
  have whole : text ++ (mark :: (body ++ [mark]) ++ after) =
      text ++ mark :: (body ++ mark :: after) := by simp
  simp only [whole, substitute_append_mark avoids, alone]
  constructor
  · rintro ⟨first, _, before, ⟨inside, second, between, behind, rfl⟩, rfl⟩
    exact ⟨first, _, second, before, ⟨inside, between, rfl⟩, behind, by simp⟩
  · rintro ⟨first, _, second, before, ⟨inside, between, rfl⟩, behind, rfl⟩
    exact ⟨first, _, before, ⟨inside, second, between, behind, rfl⟩, by simp⟩

end Substitutions

/-! Two substitutions, one after the other. -/

section Twice

/-- The text between two placeholders, or a placeholder. -/
inductive Segment (α : Type) where
  | text (text : List α)
  | hole (name : List α)

/-- The segments of some pieces behind a text. -/
def segmentsFrom (text : List α) : List (Piece α) → List (Segment α)
  | [] => [.text text]
  | .symbol symbol :: later => segmentsFrom (text ++ [symbol]) later
  | .hole name :: later => .text text :: .hole name :: segmentsFrom [] later

def segments (pattern : Pattern α) (text : List α) : List (Segment α) :=
  segmentsFrom [] (pieces pattern text)

variable (inner : Pattern α) (outerValue innerValue : List α → Except ε (List α))

/-- What both substitutions make of a segment. -/
def expand : Segment α → Except ε (List α)
  | .text text => substitute inner innerValue text
  | .hole name => outerValue name >>= substitute inner innerValue

variable {inner outerValue innerValue}

private theorem expand_segmentsFrom
    {mark : α} (avoids : inner.Avoids mark)
    (quoted : ∀ name result, outerValue name = .ok result →
      ∃ body, result = mark :: (body ++ [mark]))
    (text : List α) (later : List (Piece α)) (result : List α) :
    (∃ parts, later.mapM (fill outerValue) = .ok parts ∧
        substitute inner innerValue (text ++ parts.flatten) = .ok result) ↔
      ∃ parts, (segmentsFrom text later).mapM (expand inner outerValue innerValue) = .ok parts ∧
        result = parts.flatten := by
  induction later generalizing text result with
  | nil =>
      simp [segmentsFrom, expand, except_bind_eq_ok, pure, Except.pure]
  | cons piece later induction =>
      cases piece with
      | symbol symbol =>
          rw [segmentsFrom, ← induction]
          simp [fill, except_bind_eq_ok, pure, Except.pure]
      | hole name =>
          simp only [List.mapM_cons, segmentsFrom, expand, fill, except_bind_eq_ok, pure,
            Except.pure, Except.ok.injEq]
          constructor
          · rintro ⟨_, ⟨value, found, parts, filled, rfl⟩, made⟩
            obtain ⟨body, rfl⟩ := quoted name value found
            obtain ⟨first, middle, second, before, between, behind, rfl⟩ :=
              (substitute_append_quoted avoids).mp made
            obtain ⟨later, expanded, rfl⟩ :=
              (induction [] second).mp ⟨parts, filled, behind⟩
            exact ⟨_, ⟨first, before, _, ⟨middle, ⟨_, found, between⟩, later, expanded,
              rfl⟩, rfl⟩, by simp⟩
          · rintro ⟨_, ⟨first, before, _, ⟨middle, ⟨value, found, between⟩, later,
              expanded, rfl⟩, rfl⟩, rfl⟩
            obtain ⟨body, rfl⟩ := quoted name value found
            obtain ⟨parts, filled, behind⟩ := (induction [] later.flatten).mpr
              ⟨later, expanded, rfl⟩
            refine ⟨_, ⟨_, found, parts, filled, rfl⟩, ?_⟩
            exact (substitute_append_quoted avoids).mpr
              ⟨first, middle, _, before, between, behind, by simp⟩

/-- The second substitution sees every segment of the first one on its own. -/
theorem substitute_substitute_iff
    {outer : Pattern α} {mark : α} (avoids : inner.Avoids mark)
    (quoted : ∀ name result, outerValue name = .ok result →
      ∃ body, result = mark :: (body ++ [mark]))
    (text result : List α) :
    (substitute outer outerValue text >>= substitute inner innerValue) = .ok result ↔
      ∃ parts, (segments outer text).mapM (expand inner outerValue innerValue) = .ok parts ∧
        result = parts.flatten := by
  rw [segments, ← expand_segmentsFrom avoids quoted]
  simp [substitute, except_bind_eq_ok]

end Twice

end Placeholders
