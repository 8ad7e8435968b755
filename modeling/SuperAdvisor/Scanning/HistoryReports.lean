import SuperAdvisor.Scanning.PatchStreams

/-!
# Secrets reported from the history

A changed line of a patch stream is reported with its commit, its file and its
number exactly if it is a line for Python too and the marks read back from it
name them.  The scan counts removed lines and skips context lines, takes an
added line for a file name, and does not see the end of a file's patch.
-/

namespace SuperAdvisor.Scanning

open Python FileTree

section Reports

variable (search : String → List Char → Option (List Char)) (root : Path)

/-- The scan of the lines of a stream, or of its beginning. -/
def scanEntries (entries : List Entry) : HistoryPlace × List SecretFinding :=
  (splitLines (textOf entries)).foldl (readHistory search root)
    ({ commit := none, file := "<unknown>", line := 0 }, [])

/-- The findings made while the entry behind the early ones is read. -/
def newFindings (early : List Entry) (entry : Entry) : List SecretFinding :=
  (scanEntries search root (early ++ [entry])).2.drop (scanEntries search root early).2.length

/-- Each match of the changed line is found with its commit, its file and, if
the line is added, its number. -/
def Reported (early : List Entry) (change : Change) : Prop :=
  ∀ pattern ∈ secretPatterns, ∀ found, search pattern.2 change.text = some found →
    ∃ finding ∈ newFindings search root early (.changed change),
      finding.scope = "history" ∧ finding.secretType = pattern.1 ∧
        finding.redactedFingerprint = fingerprint found ∧
        finding.commit = some change.commit ∧ finding.file = change.file ∧
        (change.added = true → finding.line = change.number)

end Reports

/-- The lines read back from the end of a stream. -/
def readBack (entries : List Entry) : List (List Char) :=
  (splitLines (textOf entries)).reverse

/-- The changed line is one line, is no file name, and the lines read back from
it name its commit, its file and, if it is added, its number. -/
structure Traceable (early : List Entry) (change : Change) : Prop where
  unbroken : ∀ symbol ∈ change.text, isLineBreak symbol = false
  notNamed : change.added = true → ¬"++ b/".toList <+: change.text
  commit : recordedCommit (readBack early) = some change.commit
  file : recordedFile (readBack early) = change.file
  number : change.added = true →
    recordedStart (readBack early) + countedLines (readBack early) = change.number

/-! The scan as a whole. -/

section Lines

variable (search : String → List Char → Option (List Char)) (root : Path)

/-- The findings of lines, with the lines read back from the first one. -/
def findingsBehind (back : List (List Char)) : List (List Char) → List SecretFinding
  | [] => []
  | line :: lines =>
      findingsAt search root (placeBehind back) line ++ findingsBehind (line :: back) lines

theorem foldl_readHistory
    (back lines : List (List Char)) (findings : List SecretFinding) :
    lines.foldl (readHistory search root) (placeBehind back, findings) =
      (placeBehind (lines.reverse ++ back),
        findings ++ findingsBehind search root back lines) := by
  induction lines generalizing back findings with
  | nil => simp [findingsBehind]
  | cons line lines induction =>
      rw [List.foldl_cons, readHistory_eq, placeAfter_placeBehind, induction, findingsBehind,
        List.append_assoc, List.reverse_cons, List.append_assoc, List.singleton_append]

theorem findingsBehind_append (back first second : List (List Char)) :
    findingsBehind search root back (first ++ second) =
      findingsBehind search root back first ++
        findingsBehind search root (first.reverse ++ back) second := by
  induction first generalizing back with
  | nil => rfl
  | cons line first induction =>
      rw [List.cons_append, findingsBehind, induction, findingsBehind, List.append_assoc,
        List.reverse_cons, List.append_assoc, List.singleton_append]

theorem scanEntries_findings (entries : List Entry) :
    (scanEntries search root entries).2 =
      findingsBehind search root [] (splitLines (textOf entries)) := by
  have folded := foldl_readHistory search root [] (splitLines (textOf entries)) []
  exact congrArg Prod.snd folded

theorem textOf_append (first second : List Entry) :
    splitLines (textOf (first ++ second)) =
      splitLines (textOf first) ++ splitLines (textOf second) := by
  rw [textOf, List.map_append, splitLines_unlines_append]
  rfl

theorem newFindings_eq (early : List Entry) (entry : Entry) :
    newFindings search root early entry =
      findingsBehind search root (readBack early) (splitLines (textOf [entry])) := by
  rw [newFindings, scanEntries_findings, scanEntries_findings, textOf_append,
    findingsBehind_append, List.drop_left, List.append_nil]
  rfl

/-- What is found at an entry is among the findings of the whole history. -/
theorem mem_scanGitHistory
    {project : Project} {early late : List Entry} {entry : Entry}
    (printed : project.history = splitLines (textOf (early ++ entry :: late)))
    {finding : SecretFinding} (found : finding ∈ newFindings search root early entry) :
    finding ∈ scanGitHistory search root project := by
  have scanned : scanGitHistory search root project =
      (scanEntries search root (early ++ ([entry] ++ late))).2 := by
    rw [scanGitHistory, printed]
    rfl
  rw [newFindings_eq] at found
  rw [scanned, scanEntries_findings, textOf_append, textOf_append, findingsBehind_append,
    findingsBehind_append, List.append_nil]
  exact List.mem_append_right _ (List.mem_append_left _ found)

end Lines

/-! One changed line. -/

section Line

variable {search : String → List Char → Option (List Char)} {root : Path} {early : List Entry}
  {change : Change}

private theorem isFileMark_line :
    isFileMark change.line = true ↔
      change.added = true ∧ "++ b/".toList <+: change.text := by
  rw [isFileMark, decide_eq_true_eq, Change.line]
  cases change.added with
  | true => simp
  | false =>
      refine iff_of_false (fun begins => ?_) (by simp)
      exact absurd (List.cons_prefix_cons.mp begins).1 (by decide)

private theorem isCounted_line :
    isCounted change.line = true ↔ (change.added = true → ¬"++ b/".toList <+: change.text) := by
  have signed : ['+'] <+: change.line ∨ ['-'] <+: change.line := by
    rw [Change.line]
    cases change.added <;> simp [List.cons_prefix_cons]
  rw [isCounted, decide_eq_true signed, Bool.true_and, Bool.not_eq_true', ← Bool.not_eq_true,
    isFileMark_line, not_and]

private theorem splitLines_line
    (unbroken : ∀ symbol ∈ change.text, isLineBreak symbol = false) :
    splitLines (textOf [.changed change]) = [change.line] := by
  refine @splitLines_unlines [change.line] (fun line member symbol inside => ?_)
  obtain rfl := List.mem_singleton.mp member
  rcases List.mem_cons.mp inside with rfl | inside
  · cases change.added <;> rfl
  · exact unbroken symbol inside

private theorem mem_lineSecrets
    {scope file : String} {line : Nat} {commit : Option String} {content : List Char}
    {finding : SecretFinding} :
    finding ∈ lineSecrets search scope file line commit content ↔
      ∃ pattern ∈ secretPatterns, ∃ found, search pattern.2 content = some found ∧
        finding = { scope := scope, file := file, line := line, secretType := pattern.1,
                    redactedFingerprint := fingerprint found, commit := commit } := by
  simp only [lineSecrets, List.mem_filterMap, Option.map_eq_some_iff]
  refine exists_congr (fun pattern => and_congr_right (fun _ => exists_congr (fun found => ?_)))
  exact and_congr_right (fun _ => eq_comm)

theorem reported_of_traceable
    (traceable : Traceable early change)
    (active : classifyPath (root ++ pathOf change.file) ≠ .testOnly) :
    Reported search root early change := by
  intro pattern listed found searched
  have counted : isCounted change.line = true := isCounted_line.mpr traceable.notNamed
  have kept : classifyPath (root ++ pathOf (placeBehind (readBack early)).file) ≠ .testOnly := by
    rw [show (placeBehind (readBack early)).file = change.file from traceable.file]
    exact active
  have news : newFindings search root early (.changed change) =
      lineSecrets search "history" (placeBehind (readBack early)).file
        (placeBehind (readBack early)).line (placeBehind (readBack early)).commit change.text := by
    rw [newFindings_eq, splitLines_line traceable.unbroken, findingsBehind, findingsAt,
      if_pos ⟨counted, kept⟩, findingsBehind, List.append_nil]
    rfl
  rw [news]
  exact ⟨_, mem_lineSecrets.mpr ⟨pattern, listed, found, searched, rfl⟩, rfl, rfl, rfl,
    traceable.commit, traceable.file, traceable.number⟩

/-- The search that matches one text. -/
private def searchText (text : List Char) : String → List Char → Option (List Char) :=
  fun _ line => if line = text then some line else none

/-- A text with a boundary in it is seen by no search. -/
private theorem newFindings_of_broken
    {symbol : Char} (inside : symbol ∈ change.text) (breaks : isLineBreak symbol = true) :
    newFindings (searchText change.text) root early (.changed change) = [] := by
  have unseen : ∀ (back lines : List (List Char)),
      (∀ line ∈ lines, line.drop 1 ≠ change.text) →
        findingsBehind (searchText change.text) root back lines = [] := by
    intro back lines different
    induction lines generalizing back with
    | nil => rfl
    | cons line lines induction =>
        have none : findingsAt (searchText change.text) root (placeBehind back) line = [] := by
          rw [findingsAt]
          split
          · have unmatched : ∀ name, searchText change.text name (line.drop 1) = none :=
              fun name => if_neg (different line (by simp))
            simp only [lineSecrets, unmatched, Option.map_none, List.filterMap_none]
          · rfl
        rw [findingsBehind, none, List.nil_append]
        exact induction _ (fun other member => different other (by simp [member]))
  rw [newFindings_eq]
  refine unseen _ _ (fun line member same => ?_)
  have solid := not_isLineBreak_of_mem_splitLines member symbol
    (List.mem_of_mem_drop (same ▸ inside))
  rw [breaks] at solid
  cases solid

theorem traceable_of_reported
    (reported : ∀ search, Reported search root early change) : Traceable early change := by
  have listed : (secretPatterns.head (by decide)) ∈ secretPatterns := List.head_mem _
  obtain ⟨finding, new, -, -, -, commit, file, number⟩ :=
    reported (searchText change.text) _ listed change.text (if_pos rfl)
  have unbroken : ∀ symbol ∈ change.text, isLineBreak symbol = false := by
    intro symbol inside
    by_contra breaks
    rw [newFindings_of_broken inside (Bool.of_not_eq_false breaks)] at new
    cases new
  rw [newFindings_eq, splitLines_line unbroken, findingsBehind, findingsAt, findingsBehind,
    List.append_nil] at new
  split at new
  case isFalse => cases new
  case isTrue seen =>
    obtain ⟨pattern, -, found, -, rfl⟩ := mem_lineSecrets.mp new
    exact ⟨unbroken, isCounted_line.mp seen.1, commit, file, number⟩

end Line

/-- One added line behind a line of context. -/
def contextThenSecret : Stream :=
  [{ hash := "5f2c"
     files := [{
       sides := .changed "app.py" "app.py"
       extended := []
       hunks := [{
         oldStart := 1
         newStart := 1
         heading := []
         lines := [(.context, "import os".toList), (.added, "sk-proj-0123456789".toList)] }] }] }]

end SuperAdvisor.Scanning
