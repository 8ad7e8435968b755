import SuperAdvisor.Foundation.ChainedLog

/-!
# Logs that end in the middle of a line

A text may end without a line boundary.  A line that is appended to it then
continues its open line.  A log is read with such a line as it is read before,
followed by the record of the longer line.
-/

namespace Python

/-- `current` is the reversed beginning of the line being read. -/
def openLineFrom (current : List Char) : List Char → List Char
  | [] => current.reverse
  | symbol :: rest =>
      if isLineBreak symbol then openLineFrom [] rest
      else openLineFrom (symbol :: current) rest

/-- What follows the last line boundary of a text. -/
def openLine (text : List Char) : List Char :=
  openLineFrom [] text

private theorem splitLinesFrom_open
    {line : List Char} (solid : ∀ symbol ∈ line, isLineBreak symbol = false)
    (nonempty : line ≠ []) (current text : List Char) :
    ∃ lines, splitLinesFrom current text =
        lines ++ (if (openLineFrom current text).isEmpty then [] else [openLineFrom current text]) ∧
      splitLinesFrom current (text ++ (line ++ ['\n'])) =
        lines ++ [openLineFrom current text ++ line] := by
  induction current, text using splitLinesFrom.induct with
  | case1 current blank =>
      have whole := splitLinesFrom_line solid current []
      refine ⟨[], by simp_all [splitLinesFrom, openLineFrom], ?_⟩
      simpa [splitLinesFrom, openLineFrom] using whole
  | case2 current full =>
      have whole := splitLinesFrom_line solid current []
      refine ⟨[], by simp_all [splitLinesFrom, openLineFrom], ?_⟩
      simpa [splitLinesFrom, openLineFrom] using whole
  | case3 current rest induction =>
      obtain ⟨lines, before, after⟩ := induction
      have reopened : openLineFrom current ('\r' :: '\n' :: rest) = openLineFrom [] rest := by
        simp [openLineFrom, isLineBreak]
      refine ⟨current.reverse :: lines, ?_, ?_⟩
      · rw [splitLinesFrom, before, reopened]
        rfl
      · rw [List.cons_append, List.cons_append, splitLinesFrom, after, reopened]
        rfl
  | case4 current symbol rest different isBreak induction =>
      obtain ⟨lines, before, after⟩ := induction
      have reopened : openLineFrom current (symbol :: rest) = openLineFrom [] rest := by
        simp [openLineFrom, isBreak]
      have still : ∀ others, symbol = '\r' → rest ++ (line ++ ['\n']) = '\n' :: others → False := by
        intro others isReturn shape
        cases rest with
        | nil =>
            cases line with
            | nil => exact nonempty rfl
            | cons first line =>
                obtain ⟨rfl, -⟩ := List.cons.inj shape
                exact absurd (solid '\n' (by simp)) (by decide)
        | cons next rest =>
            obtain ⟨rfl, -⟩ := List.cons.inj shape
            exact different rest isReturn rfl
      refine ⟨current.reverse :: lines, ?_, ?_⟩
      · rw [splitLinesFrom.eq_3 _ _ _ different, if_pos isBreak, before, reopened]
        rfl
      · rw [List.cons_append, splitLinesFrom.eq_3 _ _ _ still, if_pos isBreak, after, reopened]
        rfl
  | case5 current symbol rest different isBreak induction =>
      obtain ⟨lines, before, after⟩ := induction
      have same : openLineFrom current (symbol :: rest) = openLineFrom (symbol :: current) rest := by
        simp [openLineFrom, isBreak]
      have still : ∀ others, symbol = '\r' → rest ++ (line ++ ['\n']) = '\n' :: others → False := by
        rintro others rfl
        exact absurd (by decide) isBreak
      refine ⟨lines, ?_, ?_⟩
      · rw [splitLinesFrom.eq_3 _ _ _ different, if_neg isBreak, before, same]
      · rw [List.cons_append, splitLinesFrom.eq_3 _ _ _ still, if_neg isBreak, after, same]

/-- A line that is appended to a text continues its open line. -/
theorem splitLines_open
    {line : List Char} (solid : ∀ symbol ∈ line, isLineBreak symbol = false)
    (nonempty : line ≠ []) (text : List Char) :
    ∃ lines, splitLines text =
        lines ++ (if (openLine text).isEmpty then [] else [openLine text]) ∧
      splitLines (text ++ (line ++ ['\n'])) = lines ++ [openLine text ++ line] :=
  splitLinesFrom_open solid nonempty [] text

private theorem mem_splitLinesFrom
    {current text line : List Char} (member : line ∈ splitLinesFrom current text) :
    ∀ symbol ∈ line, symbol ∈ current ∨ symbol ∈ text := by
  induction current, text using splitLinesFrom.induct with
  | case1 current blank => simp_all [splitLinesFrom]
  | case2 current full =>
      obtain rfl : line = current.reverse := by simpa [splitLinesFrom, full] using member
      intro symbol found
      exact .inl (List.mem_reverse.mp found)
  | case3 current rest induction =>
      rw [splitLinesFrom] at member
      intro symbol found
      rcases List.mem_cons.mp member with rfl | later
      · exact .inl (List.mem_reverse.mp found)
      · rcases induction later symbol found with none | inRest
        · cases none
        · exact .inr (by simp [inRest])
  | case4 current first rest different isBreak induction =>
      rw [splitLinesFrom.eq_3 _ _ _ different, if_pos isBreak] at member
      intro symbol found
      rcases List.mem_cons.mp member with rfl | later
      · exact .inl (List.mem_reverse.mp found)
      · rcases induction later symbol found with none | inRest
        · cases none
        · exact .inr (by simp [inRest])
  | case5 current first rest different isBreak induction =>
      rw [splitLinesFrom.eq_3 _ _ _ different, if_neg isBreak] at member
      intro symbol found
      rcases induction member symbol found with early | inRest
      · rcases List.mem_cons.mp early with rfl | inCurrent
        · exact .inr (by simp)
        · exact .inl inCurrent
      · exact .inr (by simp [inRest])

end Python

namespace ChainedLog

open Python

/-- A blank text has no lines that hold records. -/
theorem storedLines_of_blank
    {file : Option (List Char)} (blank : isBlankLine (file.getD []) = true) :
    storedLines file = [] := by
  refine List.filter_eq_nil_iff.mpr ?_
  intro line member
  have spaces : isBlankLine line = true := by
    refine List.all_eq_true.mpr ?_
    intro symbol found
    rcases mem_splitLinesFrom member symbol found with none | inText
    · cases none
    · exact List.all_eq_true.mp blank symbol inText
  simp [spaces]

/-- Appending a line to a log replaces the open line by the longer one. -/
theorem storedLines_appended
    {line : List Char} (recordLine : IsRecordLine line) (file : Option (List Char)) :
    ∃ lines, storedLines file =
        lines ++ (if isBlankLine (openLine (file.getD [])) then [] else [openLine (file.getD [])]) ∧
      storedLines (some (appended file line)) = lines ++ [openLine (file.getD []) ++ line] := by
  have nonempty : line ≠ [] := by
    rintro rfl
    cases recordLine.notBlank
  obtain ⟨lines, before, after⟩ := splitLines_open recordLine.solid nonempty (file.getD [])
  refine ⟨lines.filter (fun line => !isBlankLine line), ?_, ?_⟩
  · rw [storedLines, before, List.filter_append]
    congr 1
    by_cases none : openLine (file.getD []) = []
    · simp [none, isBlankLine]
    · cases blank : isBlankLine (openLine (file.getD [])) <;> simp [none, blank]
  · have solid : isBlankLine (openLine (file.getD []) ++ line) = false := by
      have notBlank := recordLine.notBlank
      simp only [isBlankLine, List.all_append] at notBlank ⊢
      simp [notBlank]
    rw [storedLines, Option.getD_some, appended, List.append_assoc, after, List.filter_append]
    simp [solid]

namespace Format

variable {ε ρ : Type} {format : Format ε ρ}

/-- The records an append continues are those of the log. -/
theorem existing_eq (file : Option (List Char)) : format.existing file = format.records file := by
  unfold existing
  split
  next blank =>
    rw [Format.records, storedLines_of_blank blank]
    rfl
  next => rfl

/-- The last line is read after the others. -/
theorem readLines_snoc (previous : String) (lines : List (List Char)) (line : List Char) :
    format.readLines previous (lines ++ [line]) = (do
      let records ← format.readLines previous lines
      let record ← format.readLine ((format.lastHash? records).getD previous) line
      .ok (records ++ [record])) := by
  induction lines generalizing previous with
  | nil =>
      cases read : format.readLine previous line <;>
        simp [readLines, lastHash?, read, bind, Except.bind]
  | cons head lines induction =>
      simp only [List.cons_append, readLines, induction, bind, Except.bind]
      cases format.readLine previous head with
      | error problem => rfl
      | ok first =>
          dsimp only
          cases format.readLines (format.recordHash first) lines with
          | error problem => rfl
          | ok records =>
              dsimp only
              rw [lastHash?_cons]
              cases format.readLine
                ((format.lastHash? records).getD (format.recordHash first)) line <;> rfl

end Format

end ChainedLog
