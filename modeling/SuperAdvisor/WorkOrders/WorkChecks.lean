import Mathlib.Algebra.Order.BigOperators.Group.List
import Mathlib.Algebra.Order.Group.Nat
import SuperAdvisor.Foundation.LexicalPaths
import SuperAdvisor.Foundation.LowerText
import SuperAdvisor.Foundation.PythonValue

/-!
# Checks of work orders

A path is accepted when its text begins with that of an entry of the scope.
Parent components lead an accepted path out of every scope that has an entry; a
plain path stays within unless each entry it begins with ends inside a component.

The check of a command line looks at its beginning only, once it is in lower
case and without surrounding space.  It catches a forbidden command that stands
first, with single blanks, and none that stands behind another command.
-/

namespace SuperAdvisor.WorkOrders

open LexicalPath

def validateFileScope (filePath : String) (scope : List String) : Bool :=
  scope.any (fun entry => decide (entry.toList <+: filePath.toList) || filePath == entry)

/-- The path denotes an entry, or something below one. -/
def InScope (path : String) (scope : List String) : Prop :=
  ∃ entry ∈ scope, (resolve path.toList).Within (resolve entry.toList)

/-- The path is not accepted unless it is in the scope. -/
def Enforced (scope : List String) (path : String) : Prop :=
  validateFileScope path scope = true → InScope path scope

/-- An entry of a scope. -/
structure RelativePath where
  text : String
  relative : text.toList.head? ≠ some '/'

/-- Some entry that begins the path ends where a component of the path does, or
no entry begins it. -/
def CutsNoComponent (scope : List Plain) (path : Plain) : Prop :=
  (∃ entry ∈ scope, entry.text <+: path.text) →
    ∃ entry ∈ scope, path.text = entry.text ∨ entry.text ++ ['/'] <+: path.text

theorem validateFileScope_iff (filePath : String) (scope : List String) :
    validateFileScope filePath scope = true ↔
      ∃ entry ∈ scope, entry.toList <+: filePath.toList := by
  rw [validateFileScope, List.any_eq_true]
  refine exists_congr (fun entry => and_congr_right (fun _ => ?_))
  rw [Bool.or_eq_true, decide_eq_true_eq, beq_iff_eq]
  refine ⟨?_, Or.inl⟩
  rintro (begins | rfl)
  · exact begins
  · exact List.prefix_refl _

/-- An accepted path outside the scope, for every scope with an entry. -/
private theorem exists_escape {scope : List RelativePath} (nonempty : scope ≠ []) :
    ∃ path, ¬Enforced (scope.map RelativePath.text) path := by
  obtain ⟨entry, member⟩ := List.exists_mem_of_ne_nil scope nonempty
  have listed : entry.text ∈ scope.map RelativePath.text := List.mem_map_of_mem member
  by_cases empty : entry.text = ""
  · -- The empty text begins absolute paths too.
    refine ⟨"/", fun enforced => ?_⟩
    have accepted : validateFileScope "/" (scope.map RelativePath.text) = true :=
      (validateFileScope_iff _ _).mpr ⟨entry.text, listed, by simp [empty]⟩
    obtain ⟨other, inside, within, -⟩ := enforced accepted
    obtain ⟨relative, -, rfl⟩ := List.mem_map.mp inside
    have absolute : (relative.text.toList.head? == some '/') = true := within.symm
    exact relative.relative (by simpa using absolute)
  · let lengths := scope.map (fun other => (resolve other.text.toList).names.length)
    obtain ⟨steps, rest, resolved⟩ := @exists_resolve_climb
      entry.text.toList (by simpa using empty) entry.relative (lengths.sum + 1)
    refine ⟨String.ofList (entry.text.toList ++ climb steps), fun enforced => ?_⟩
    have accepted : validateFileScope (String.ofList (entry.text.toList ++ climb steps))
        (scope.map RelativePath.text) = true :=
      (validateFileScope_iff _ _).mpr ⟨entry.text, listed, by simp⟩
    obtain ⟨other, inside, within⟩ := enforced accepted
    obtain ⟨relative, among, rfl⟩ := List.mem_map.mp inside
    rw [String.toList_ofList, resolved] at within
    have short : (resolve relative.text.toList).names.length ≤ lengths.sum :=
      List.le_sum_of_mem (List.mem_map_of_mem among)
    exact not_within_of_climbed (Nat.lt_succ_of_le short) rest within

private theorem enforced_plain_iff (scope : List Plain) (path : Plain) :
    Enforced (scope.map (fun entry => String.ofList entry.text)) (String.ofList path.text) ↔
      CutsNoComponent scope path := by
  rw [Enforced, validateFileScope_iff]
  simp only [InScope, List.mem_map, exists_exists_and_eq_and, String.toList_ofList,
    Plain.within_iff, Plain.names_prefix_iff, CutsNoComponent]

/-- A scope is enforced on every path only if it has no entry, and on plain
paths exactly if it cuts no component. -/
theorem file_scope_enforced_iff
    (scope : List RelativePath) (plainScope : List Plain) (plainPath : Plain) :
    ((∀ path, Enforced (scope.map RelativePath.text) path) ↔ scope = []) ∧
    (Enforced (plainScope.map (fun entry => String.ofList entry.text))
        (String.ofList plainPath.text) ↔
      CutsNoComponent plainScope plainPath) := by
  refine ⟨⟨fun enforced => ?_, ?_⟩, enforced_plain_iff plainScope plainPath⟩
  · by_contra nonempty
    obtain ⟨path, escapes⟩ := exists_escape nonempty
    exact escapes (enforced path)
  · rintro rfl path accepted
    cases accepted

/-- `state/.env` by way of the scope `engine/src`. -/
theorem parentPath_escapes :
    ¬∀ (scope : List RelativePath) (path : String),
      Enforced (scope.map RelativePath.text) path := by
  intro enforced
  obtain ⟨entry, member, within⟩ := enforced [⟨"engine/src", by decide +kernel⟩]
    "engine/src/../../state/.env" (by decide +kernel)
  obtain rfl : entry = "engine/src" := by simpa using member
  exact absurd within (by decide +kernel)

open Python

def forbiddenExecPatterns : List String :=
  ["git push", "git merge", "git rebase", "git reset --hard", "git branch -D", "git tag",
    "git release", "docker", "kubectl", "pip install", "pip uninstall", "rm -rf", "del /f"]

def stateEnvForbiddenPaths : List String :=
  ["state/.env", "state\\\\env", ".env", "state/credentials", "state\\\\credentials"]

/-- The violations, in the order of the lists; the sets of the source have none. -/
def validateExecCommand (command : String) : List String :=
  let cmdLower := (strip (String.ofList (lowerText command.toList))).toList
  ((forbiddenExecPatterns.filter (fun pattern => decide (pattern.toList <+: cmdLower))).map
      (fun pattern => "forbidden exec command: " ++ quotedText pattern)) ++
    ((stateEnvForbiddenPaths.filter (fun path => isSubstring path command)).map
      (fun path => "forbidden path access: " ++ quotedText path))

/-! Command lines, as lists of simple commands. -/

inductive Joiner where
  | sequence
  | and
  | or
  | pipe
  deriving DecidableEq

def Joiner.mark : Joiner → Char
  | .sequence => ';'
  | .and => '&'
  | .or => '|'
  | .pipe => '|'

/-- What follows the mark. -/
def Joiner.rest : Joiner → List Char
  | .and => ['&']
  | .or => ['|']
  | .sequence | .pipe => []

def Joiner.text (joiner : Joiner) : String :=
  String.ofList (joiner.mark :: joiner.rest)

/-- Simple commands, with what joins each to the one before. -/
structure CommandLine where
  first : String
  later : List (Joiner × String)

namespace CommandLine

variable (line : CommandLine)

def text : String :=
  line.first ++ String.join (line.later.map (fun entry => entry.1.text ++ entry.2))

def commands : List String :=
  line.first :: line.later.map Prod.snd

end CommandLine

def isBlank (symbol : Char) : Bool :=
  symbol == ' ' || symbol == '\t'

/-- The words of a command, with one blank between two of them. -/
def singleBlanks (command : List Char) : List Char :=
  [' '].intercalate ((command.splitOnP isBlank).filter (fun word => !word.isEmpty))

/-- The command begins with a forbidden pattern, blanks and case aside. -/
def ForbiddenCommand (command : String) : Prop :=
  ∃ pattern ∈ forbiddenExecPatterns,
    lowerText pattern.toList <+: lowerText (singleBlanks command.toList)

namespace CommandLine

variable (line : CommandLine)

def Forbidden : Prop :=
  ∃ command ∈ line.commands, ForbiddenCommand command

/-- The first command begins, case and leading space aside, with a pattern in
lower case as it is written. -/
def FirstCaught : Prop :=
  ∃ pattern ∈ forbiddenExecPatterns, pattern ≠ "git branch -D" ∧
    pattern.toList <+: (lowerText line.first.toList).dropWhile isSpace

/-- The line is caught at its first command or names a protected file. -/
def Caught : Prop :=
  line.FirstCaught ∨ ∃ path ∈ stateEnvForbiddenPaths, isSubstring path line.text

/-- The first command, and the mark behind it. -/
theorem text_cases :
    line.text = line.first ∨
      ∃ (joiner : Joiner) (after : List Char),
        line.text.toList = line.first.toList ++ joiner.mark :: after := by
  obtain ⟨first, later⟩ := line
  cases later with
  | nil => exact .inl (by simp [text])
  | cons entry later =>
      refine .inr ⟨entry.1, entry.1.rest ++ entry.2.toList ++
        (String.join (later.map (fun entry => entry.1.text ++ entry.2))).toList, ?_⟩
      simp [text, Joiner.text]

end CommandLine

private theorem pattern_ends :
    ∀ pattern ∈ forbiddenExecPatterns,
      ∃ last, pattern.toList.getLast? = some last ∧ isSpace last = false := by
  have each : ∀ pattern ∈ forbiddenExecPatterns,
      pattern.toList.getLast?.any (!isSpace ·) = true := by
    decide +kernel
  intro pattern listed
  simpa [Option.any_eq_true] using each pattern listed

private theorem pattern_unjoined (joiner : Joiner) :
    ∀ pattern ∈ forbiddenExecPatterns, joiner.mark ∉ pattern.toList := by
  cases joiner <;> decide +kernel

private theorem lowerText_mark (joiner : Joiner) (after : List Char) :
    lowerText (joiner.mark :: after) = joiner.mark :: lowerText after := by
  cases joiner <;> rfl

private theorem mark_solid (joiner : Joiner) : isSpace joiner.mark = false := by
  cases joiner <;> rfl

/-- Commands behind the first one do not bear on the beginning of a line. -/
private theorem begins_text_iff
    {pattern : String} (listed : pattern ∈ forbiddenExecPatterns) (line : CommandLine) :
    pattern.toList <+: (lowerText line.text.toList).dropWhile isSpace ↔
      pattern.toList <+: (lowerText line.first.toList).dropWhile isSpace := by
  rcases line.text_cases with same | ⟨joiner, after, same⟩
  · rw [same]
  · rw [same, lowerText_append, lowerText_mark, List.dropWhile_append]
    have unjoined := pattern_unjoined joiner pattern listed
    split
    case isTrue empty =>
      rw [List.isEmpty_iff.mp empty,
        List.dropWhile_cons_of_neg (by simp [mark_solid joiner])]
      exact ⟨fun begins => @prefix_of_prefix_append_cons _ _ [] _ _ unjoined begins,
        fun begins => begins.trans (List.nil_prefix)⟩
    case isFalse =>
      exact ⟨prefix_of_prefix_append_cons unjoined, List.prefix_append_of_prefix⟩

/-- No text in lower case begins with the pattern that has a capital letter. -/
private theorem not_begins_branch (text : List Char) :
    ¬"git branch -D".toList <+: (lowerText text).dropWhile isSpace := by
  intro begins
  have inside : 'D' ∈ lowerText text :=
    (List.dropWhile_sublist _).subset (begins.subset (by decide +kernel))
  simpa using isUpper_eq_false_of_mem_lowerText inside

/-- The beginnings that the check finds. -/
private theorem firstCaught_iff (line : CommandLine) :
    line.FirstCaught ↔
      ∃ pattern ∈ forbiddenExecPatterns,
        pattern.toList <+: (strip (String.ofList (lowerText line.text.toList))).toList := by
  refine exists_congr (fun pattern => and_congr_right (fun listed => ?_))
  obtain ⟨last, ends, stays⟩ := pattern_ends pattern listed
  rw [prefix_strip_iff ends stays, String.toList_ofList, begins_text_iff listed]
  refine ⟨And.right, fun begins => ⟨?_, begins⟩⟩
  rintro rfl
  exact not_begins_branch line.first.toList begins

theorem validateExecCommand_ne_nil_iff (line : CommandLine) :
    validateExecCommand line.text ≠ [] ↔ line.Caught := by
  rw [CommandLine.Caught, firstCaught_iff]
  simp only [validateExecCommand, ne_eq, List.append_eq_nil_iff, List.map_eq_nil_iff,
    List.filter_eq_nil_iff, decide_eq_true_eq, not_and_or, not_forall, not_not, exists_prop]

/-- A forbidden command is caught exactly if the line begins with one in the
form it is listed, or names a protected file. -/
theorem forbidden_command_caught_iff (line : CommandLine) :
    (line.Forbidden → validateExecCommand line.text ≠ []) ↔ (line.Forbidden → line.Caught) := by
  rw [validateExecCommand_ne_nil_iff]

/-- `ls && git push` -/
def listThenPush : CommandLine where
  first := "ls "
  later := [(.and, " git push")]

theorem listThenPush_missed :
    ¬(listThenPush.Forbidden → validateExecCommand listThenPush.text ≠ []) := by
  intro caught
  exact caught ⟨" git push", by decide +kernel, "git push", by decide +kernel, by decide +kernel⟩
    (by decide +kernel)

end SuperAdvisor.WorkOrders
