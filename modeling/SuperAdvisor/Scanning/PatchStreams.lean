import SuperAdvisor.Foundation.PythonText
import SuperAdvisor.Scanning.SecurityScan

/-!
# The history as a stream of patches

What `git log -p` prints: commits with the patches of their files, in hunks of
context, removed and added lines.  Every changed line comes with its commit, its
file and, for an added line, its number in the new version.  The scan reads the
stream line by line; where it is at a line is said by the lines read back.
-/

namespace SuperAdvisor.Scanning

open Python FileTree

/-! Streams. -/

/-- A note says that a file does not end with a newline. -/
inductive LineKind where
  | context
  | removed
  | added
  | note
  deriving DecidableEq

def LineKind.mark : LineKind → Char
  | .context => ' '
  | .removed => '-'
  | .added => '+'
  | .note => '\\'

def LineKind.inOld : LineKind → Bool
  | .context | .removed => true
  | .added | .note => false

def LineKind.inNew : LineKind → Bool
  | .context | .added => true
  | .removed | .note => false

structure Hunk where
  oldStart : Nat
  newStart : Nat
  heading : List Char
  lines : List (LineKind × List Char)

/-- A range of lines; the length one is left out. -/
def rangeText (start length : Nat) : List Char :=
  Nat.toDigits 10 start ++ (if length = 1 then [] else ',' :: Nat.toDigits 10 length)

def Hunk.header (hunk : Hunk) : List Char :=
  "@@ -".toList ++ rangeText hunk.oldStart (hunk.lines.countP (fun line => line.1.inOld)) ++
    " +".toList ++ rangeText hunk.newStart (hunk.lines.countP (fun line => line.1.inNew)) ++
    " @@".toList ++ hunk.heading

inductive FileSides where
  | added (new : String)
  | deleted (old : String)
  | changed (old new : String)
  deriving DecidableEq

/-- The file a changed line belongs to. -/
def FileSides.file : FileSides → String
  | .added new => new
  | .deleted old => old
  | .changed _ new => new

/-- `extended` are the lines in front of the names, from `diff --git` on. -/
structure FilePatch where
  sides : FileSides
  extended : List (List Char)
  hunks : List Hunk

structure CommitPatch where
  hash : String
  files : List FilePatch

abbrev Stream := List CommitPatch

/-- An added or removed line; `number` is that of the next line of the new
version, and so of the line itself if it is added. -/
structure Change where
  commit : String
  file : String
  added : Bool
  number : Nat
  text : List Char

def Change.line (change : Change) : List Char :=
  (if change.added then '+' else '-') :: change.text

/-- A line of the stream. -/
inductive Entry where
  | other (line : List Char)
  | changed (change : Change)

def Entry.line : Entry → List Char
  | .other line => line
  | .changed change => change.line

def hunkEntries (commit file : String) (number : Nat) :
    List (LineKind × List Char) → List Entry
  | [] => []
  | (kind, text) :: lines =>
      let entry : Entry := match kind with
        | .removed => .changed ⟨commit, file, false, number, text⟩
        | .added => .changed ⟨commit, file, true, number, text⟩
        | kind => .other (kind.mark :: text)
      entry :: hunkEntries commit file (if kind.inNew then number + 1 else number) lines

section Names

-- how a name is written, with the letter of its side in front
variable (label : Char → String → List Char)

/-- The lines with the names of both sides. -/
def FileSides.names : FileSides → List Entry
  | .added new =>
      [.other ("--- /dev/null".toList), .other ("+++ ".toList ++ label 'b' new)]
  | .deleted old =>
      [.other ("--- ".toList ++ label 'a' old), .other ("+++ /dev/null".toList)]
  | .changed old new =>
      [.other ("--- ".toList ++ label 'a' old), .other ("+++ ".toList ++ label 'b' new)]

def FilePatch.entries (commit : String) (patch : FilePatch) : List Entry :=
  patch.extended.map Entry.other ++
    (if patch.hunks.isEmpty then [] else patch.sides.names label) ++
    patch.hunks.flatMap (fun hunk =>
      .other hunk.header :: hunkEntries commit patch.sides.file hunk.newStart hunk.lines)

def CommitPatch.entries (patch : CommitPatch) : List Entry :=
  .other ("COMMIT:".toList ++ patch.hash.toList) ::
    (if patch.files.isEmpty then [] else [.other []]) ++
    patch.files.flatMap (FilePatch.entries label patch.hash)

def Stream.entries (stream : Stream) : List Entry :=
  stream.flatMap (CommitPatch.entries label)

end Names

def textOf (entries : List Entry) : List Char :=
  unlines (entries.map Entry.line)

/-! The lines read back from a line, the last one first. -/

def isCommitMark (line : List Char) : Bool :=
  decide ("COMMIT:".toList <+: line)

def isFileMark (line : List Char) : Bool :=
  decide ("+++ b/".toList <+: line)

def isHunkMark (line : List Char) : Bool :=
  decide ("@@".toList <+: line)

/-- The line is counted as a changed one. -/
def isCounted (line : List Char) : Bool :=
  decide (['+'] <+: line ∨ ['-'] <+: line) && !isFileMark line

/-- The commit that the nearest mark names. -/
def recordedCommit (back : List (List Char)) : Option String :=
  (back.find? isCommitMark).map (fun line => String.ofList (line.drop 7))

/-- The file that the nearest mark of this commit names. -/
def recordedFile (back : List (List Char)) : String :=
  match (back.takeWhile (fun line => !isCommitMark line)).find? isFileMark with
  | some line => String.ofList (line.drop 6)
  | none => "<unknown>"

/-- The start that the nearest hunk of this commit gives. -/
def recordedStart (back : List (List Char)) : Nat :=
  match (back.takeWhile (fun line => !isCommitMark line)).find? isHunkMark with
  | some line => hunkStart line
  | none => 0

/-- The counted lines since the nearest hunk or commit. -/
def countedLines (back : List (List Char)) : Nat :=
  (back.takeWhile (fun line => !isCommitMark line && !isHunkMark line)).countP isCounted

/-- Where the reader is behind the lines read back. -/
def placeBehind (back : List (List Char)) : HistoryPlace where
  commit := recordedCommit back
  file := recordedFile back
  line := recordedStart back + countedLines back

/-! One line of the scan. -/

section Scan

variable (search : String → List Char → Option (List Char)) (root : Path)

def placeAfter (place : HistoryPlace) (line : List Char) : HistoryPlace :=
  if isCommitMark line then
    { commit := some (String.ofList (line.drop 7)), file := "<unknown>", line := 0 }
  else if isFileMark line then { place with file := String.ofList (line.drop 6) }
  else if isHunkMark line then { place with line := hunkStart line }
  else if isCounted line then { place with line := place.line + 1 }
  else place

/-- The findings of a line at a place. -/
def findingsAt (place : HistoryPlace) (line : List Char) : List SecretFinding :=
  if isCounted line = true ∧ classifyPath (root ++ pathOf place.file) ≠ .testOnly then
    lineSecrets search "history" place.file place.line place.commit (line.drop 1)
  else []

end Scan

private theorem head_of_begins
    {first : Char} {mark line : List Char} (begins : first :: mark <+: line) :
    line.head? = some first := by
  obtain ⟨rest, rfl⟩ := begins
  rfl

private theorem isCounted_of_head
    {first : Char} {line : List Char} (head : line.head? = some first) :
    isCounted line = ((first == '+' || first == '-') && !isFileMark line) := by
  obtain ⟨rest, rfl⟩ := List.head?_eq_some_iff.mp head
  simp only [isCounted, List.cons_prefix_cons, List.nil_prefix, and_true, beq_eq_decide,
    Bool.decide_or, eq_comm]

private theorem isCounted_of_commit {line : List Char} (mark : isCommitMark line = true) :
    isCounted line = false := by
  rw [isCounted_of_head (head_of_begins (of_decide_eq_true mark))]
  rfl

private theorem isCounted_of_hunk {line : List Char} (mark : isHunkMark line = true) :
    isCounted line = false := by
  rw [isCounted_of_head (head_of_begins (of_decide_eq_true mark))]
  rfl

private theorem isCounted_of_file {line : List Char} (mark : isFileMark line = true) :
    isCounted line = false := by
  rw [isCounted, mark, Bool.not_true, Bool.and_false]

private theorem isHunkMark_of_file {line : List Char} (mark : isFileMark line = true) :
    isHunkMark line = false := by
  by_contra other
  have first := head_of_begins (of_decide_eq_true mark)
  rw [head_of_begins (of_decide_eq_true (Bool.of_not_eq_false other))] at first
  exact absurd first (by decide)

theorem readHistory_eq
    (search : String → List Char → Option (List Char)) (root : Path) (place : HistoryPlace)
    (findings : List SecretFinding) (line : List Char) :
    readHistory search root (place, findings) line =
      (placeAfter place line, findings ++ findingsAt search root place line) := by
  cases commit : isCommitMark line with
  | true =>
      have marked : "COMMIT:".toList <+: line := of_decide_eq_true commit
      simp only [readHistory, placeAfter, findingsAt, if_pos marked, commit,
        isCounted_of_commit commit, if_true, Bool.false_eq_true, false_and, if_false,
        List.append_nil]
  | false =>
      have notCommit : ¬"COMMIT:".toList <+: line := of_decide_eq_false commit
      cases file : isFileMark line with
      | true =>
          have marked : "+++ b/".toList <+: line := of_decide_eq_true file
          simp only [readHistory, placeAfter, findingsAt, if_neg notCommit, commit,
            if_pos marked, file, isCounted_of_file file, if_true, Bool.false_eq_true, false_and,
            if_false, List.append_nil]
      | false =>
          have notFile : ¬"+++ b/".toList <+: line := of_decide_eq_false file
          cases hunk : isHunkMark line with
          | true =>
              have marked : "@@".toList <+: line := of_decide_eq_true hunk
              simp only [readHistory, placeAfter, findingsAt, if_neg notCommit, commit,
                if_neg notFile, file, if_pos marked, hunk, isCounted_of_hunk hunk, if_true,
                Bool.false_eq_true, false_and, if_false, List.append_nil]
          | false =>
              have notHunk : ¬"@@".toList <+: line := of_decide_eq_false hunk
              have counted : isCounted line = true ↔ ['+'] <+: line ∨ ['-'] <+: line := by
                rw [isCounted, file, Bool.not_false, Bool.and_true, decide_eq_true_eq]
              simp only [readHistory, placeAfter, findingsAt, if_neg notCommit, commit,
                if_neg notFile, file, if_neg notHunk, hunk, Bool.false_eq_true, if_false, counted]
              by_cases sign : ['+'] <+: line ∨ ['-'] <+: line
              · by_cases test : classifyPath (root ++ pathOf place.file) = .testOnly
                · simp only [if_pos sign, ne_eq, test, not_true, and_false, if_true, if_false,
                    List.append_nil]
                · simp only [ne_eq, sign, test, not_false_eq_true, and_self, if_true, if_false]
              · simp only [sign, false_and, if_false, List.append_nil]

theorem placeAfter_placeBehind (back : List (List Char)) (line : List Char) :
    placeAfter (placeBehind back) line = placeBehind (line :: back) := by
  unfold placeAfter
  cases commit : isCommitMark line with
  | true =>
      simp [placeBehind, recordedCommit, recordedFile, recordedStart, countedLines, commit]
  | false =>
      cases file : isFileMark line with
      | true =>
          simp [placeBehind, recordedCommit, recordedFile, recordedStart, countedLines, commit,
            file, isHunkMark_of_file file, isCounted_of_file file]
      | false =>
          cases hunk : isHunkMark line with
          | true =>
              simp [placeBehind, recordedCommit, recordedFile, recordedStart, countedLines, commit,
                file, hunk]
          | false =>
              cases counted : isCounted line with
              | true =>
                  simp [placeBehind, recordedCommit, recordedFile, recordedStart, countedLines,
                    commit, file, hunk, counted, Nat.add_assoc]
              | false =>
                  simp [placeBehind, recordedCommit, recordedFile, recordedStart, countedLines,
                    commit, file, hunk, counted]

end SuperAdvisor.Scanning
