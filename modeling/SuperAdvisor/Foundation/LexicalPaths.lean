import Mathlib.Data.List.Basic

/-!
# Lexical resolution of paths

A path is resolved component by component, with the names passed so far as a
stack.  Enough parent components lead a relative path outside any location.
A plain path has nothing to resolve, and lies within another one exactly if
the other text begins it up to a separator.
-/

namespace LexicalPath

abbrev Name := List Char

def current : Name := ['.']

def parent : Name := ['.', '.']

/-- Enters a component; the names passed so far stand last first. -/
def enter (absolute : Bool) (passed : List Name) (name : Name) : List Name :=
  if name = [] ∨ name = current then passed
  else if name = parent then
    match passed with
    | [] => if absolute then [] else [parent]
    | last :: earlier => if last = parent then parent :: last :: earlier else earlier
  else name :: passed

def walk (absolute : Bool) (passed names : List Name) : List Name :=
  names.foldl (enter absolute) passed

/-- What a path denotes from an unknown working directory. -/
structure Location where
  absolute : Bool
  names : List Name
  deriving DecidableEq

def resolve (path : List Char) : Location where
  absolute := path.head? == some '/'
  names := (walk (path.head? == some '/') [] (path.splitOn '/')).reverse

/-- The inner location is the outer one or below it. -/
def Location.Within (inner outer : Location) : Prop :=
  inner.absolute = outer.absolute ∧ outer.names <+: inner.names ∧
    parent ∉ inner.names.drop outer.names.length

instance (inner outer : Location) : Decidable (inner.Within outer) :=
  inferInstanceAs (Decidable (_ ∧ _ ∧ _))

theorem walk_append (absolute : Bool) (passed first second : List Name) :
    walk absolute passed (first ++ second) = walk absolute (walk absolute passed first) second :=
  List.foldl_append

/-! Parent components. -/

private theorem walk_parents (earlier : List Name) (count : Nat) :
    walk false (parent :: earlier) (List.replicate count parent) =
      List.replicate count parent ++ parent :: earlier := by
  induction count generalizing earlier with
  | zero => rfl
  | succ count induction =>
      have stepped : enter false (parent :: earlier) parent = parent :: parent :: earlier := rfl
      have later := induction (parent :: earlier)
      rw [walk] at later
      rw [walk, List.replicate_succ, List.foldl_cons, stepped, later,
        ← List.replicate_succ, List.replicate_succ', List.append_assoc, List.singleton_append]

/-- However many names have been passed, parent components lead as far above
them as one likes. -/
theorem exists_climb (passed : List Name) (count : Nat) :
    ∃ steps rest, walk false passed (List.replicate steps parent) =
      List.replicate count parent ++ rest := by
  induction passed with
  | nil => exact ⟨count + 1, [parent], walk_parents [] count⟩
  | cons name earlier induction =>
      by_cases above : name = parent
      · subst above
        exact ⟨count, parent :: earlier, walk_parents earlier count⟩
      · obtain ⟨steps, rest, climbed⟩ := induction
        refine ⟨steps + 1, rest, ?_⟩
        have stepped : enter false (name :: earlier) parent = earlier := by
          rw [enter, if_neg (by decide), if_pos rfl]
          exact if_neg above
        rw [← climbed, walk, List.replicate_succ, List.foldl_cons, stepped, walk]

/-- As many parent components, each behind a separator. -/
def climb (steps : Nat) : List Char :=
  (List.replicate steps ('/' :: parent)).flatten

theorem splitOn_climb (text : List Char) (steps : Nat) :
    (text ++ climb steps).splitOn '/' = text.splitOn '/' ++ List.replicate steps parent := by
  induction steps generalizing text with
  | zero => simp [climb]
  | succ steps induction =>
      have unfolded : climb (steps + 1) = '/' :: (parent ++ climb steps) := rfl
      have single : parent.splitOn '/' = [parent] := List.splitOn_eq_singleton (by decide)
      rw [unfolded, List.splitOn_append_cons_self, induction, single, List.replicate_succ,
        List.singleton_append]

/-- A relative path that is left again by parent components. -/
theorem exists_resolve_climb
    {text : List Char} (nonempty : text ≠ []) (relative : text.head? ≠ some '/') (count : Nat) :
    ∃ steps rest, resolve (text ++ climb steps) =
      ⟨false, rest ++ List.replicate count parent⟩ := by
  obtain ⟨steps, rest, climbed⟩ := exists_climb (walk false [] (text.splitOn '/')) count
  have head : ((text ++ climb steps).head? == some '/') = false := by
    cases text with
    | nil => exact absurd rfl nonempty
    | cons first text => simpa using relative
  refine ⟨steps, rest.reverse, ?_⟩
  rw [resolve, head, splitOn_climb, walk_append, climbed, List.reverse_append,
    List.reverse_replicate]

theorem not_within_of_climbed
    {outer : Location} {count : Nat} (above : outer.names.length < count) (rest : List Name) :
    ¬(Location.mk false (rest ++ List.replicate count parent)).Within outer := by
  rintro ⟨-, -, free⟩
  refine free ?_
  rw [List.drop_append, List.drop_replicate, List.mem_append, List.mem_replicate]
  exact .inr ⟨by omega, rfl⟩

/-! Plain paths. -/

/-- A relative path without empty, current or parent components. -/
structure Plain where
  names : List Name
  nonempty : names ≠ []
  plain : ∀ name ∈ names, name ≠ [] ∧ name ≠ current ∧ name ≠ parent ∧ '/' ∉ name

namespace Plain

variable (path : Plain)

def text : List Char :=
  ['/'].intercalate path.names

theorem splitOn_text : path.text.splitOn '/' = path.names :=
  List.splitOn_intercalate '/' (fun name member => (path.plain name member).2.2.2) path.nonempty

theorem text_head : path.text.head? ≠ some '/' := by
  obtain ⟨names, nonempty, plain⟩ := path
  cases names with
  | nil => exact absurd rfl nonempty
  | cons name names =>
      obtain ⟨solid, -, -, free⟩ := plain name (by simp)
      cases name with
      | nil => exact absurd rfl solid
      | cons symbol name =>
          have different : symbol ≠ '/' := fun same => free (by simp [same])
          cases names <;> simp [text, List.intercalate_cons_cons, different]

private theorem walk_plain
    (passed names : List Name)
    (plain : ∀ name ∈ names, name ≠ [] ∧ name ≠ current ∧ name ≠ parent ∧ '/' ∉ name) :
    walk false passed names = names.reverse ++ passed := by
  induction names generalizing passed with
  | nil => rfl
  | cons name names induction =>
      obtain ⟨solid, notCurrent, notParent, -⟩ := plain name (by simp)
      have entered : enter false passed name = name :: passed := by
        simp [enter, solid, notCurrent, notParent]
      have later := induction (name :: passed) (fun other member => plain other (by simp [member]))
      rw [walk] at later
      rw [walk, List.foldl_cons, entered, later, List.reverse_cons, List.append_assoc,
        List.singleton_append]

theorem resolve_text : resolve path.text = ⟨false, path.names⟩ := by
  have head : (path.text.head? == some '/') = false := by simpa using path.text_head
  rw [resolve, head, splitOn_text, walk_plain [] path.names path.plain, List.append_nil,
    List.reverse_reverse]

theorem within_iff (inner outer : Plain) :
    (resolve inner.text).Within (resolve outer.text) ↔ outer.names <+: inner.names := by
  rw [resolve_text, resolve_text]
  refine ⟨fun within => within.2.1, fun begins => ⟨rfl, begins, fun member => ?_⟩⟩
  exact (inner.plain parent (List.mem_of_mem_drop member)).2.2.1 rfl

/-- The names of a plain path begin another one's as the text does, up to a
separator. -/
theorem names_prefix_iff (inner outer : Plain) :
    outer.names <+: inner.names ↔
      inner.text = outer.text ∨ outer.text ++ ['/'] <+: inner.text := by
  constructor
  · rintro ⟨rest, same⟩
    cases rest with
    | nil => exact .inl (by rw [text, text, ← same, List.append_nil])
    | cons name rest =>
        refine .inr ⟨['/'].intercalate (name :: rest), ?_⟩
        have free : ∀ other ∈ name :: rest, '/' ∉ other := fun other member =>
          (inner.plain other (same ▸ List.mem_append_right _ member)).2.2.2
        have split : (outer.text ++ '/' :: ['/'].intercalate (name :: rest)).splitOn '/' =
            inner.names := by
          rw [List.splitOn_append_cons_self, splitOn_text,
            List.splitOn_intercalate '/' free (List.cons_ne_nil _ _), same]
        have joined : inner.text = outer.text ++ '/' :: ['/'].intercalate (name :: rest) := by
          rw [text, ← split, List.intercalate_splitOn]
        rw [joined, List.append_assoc, List.singleton_append]
  · rintro (same | ⟨rest, same⟩)
    · have names : outer.names = inner.names := by rw [← splitOn_text, ← splitOn_text, same]
      exact names ▸ List.prefix_refl _
    · refine ⟨rest.splitOn '/', ?_⟩
      rw [← splitOn_text inner, ← same, List.append_assoc, List.singleton_append,
        List.splitOn_append_cons_self, splitOn_text]

end Plain

end LexicalPath
