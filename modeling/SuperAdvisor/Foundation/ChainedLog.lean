import SuperAdvisor.Foundation.PythonText

/-!
# Hash-chained logs

A log file holds one record a line.  A record names the hash of the record
before it and carries a hash of its own content; reading the file checks both.
A log is intact when its lines read back as a chain, and an intact log stays
intact when a line is appended that reads as the next record of the chain.
-/

namespace ChainedLog

open Python

/-- How one kind of log decodes, links and checks its records. -/
structure Format (ε ρ : Type) where
  decode : List Char → Except ε ρ
  previousHash : ρ → String
  recordHash : ρ → String
  chainMismatch : ε
  checkHash : ρ → Except ε Unit

/-- The lines of a file that hold records. -/
def storedLines (file : Option (List Char)) : List (List Char) :=
  (splitLines (file.getD [])).filter (fun line => !isBlankLine line)

/-- The text of a file after a line was appended. -/
def appended (file : Option (List Char)) (line : List Char) : List Char :=
  file.getD [] ++ line ++ ['\n']

/-- A line that a file gives back unchanged and that is not skipped. -/
structure IsRecordLine (line : List Char) : Prop where
  solid : ∀ symbol ∈ line, isLineBreak symbol = false
  notBlank : isBlankLine line = false

/-- The file is as it was, or it has one more line after all that it had. -/
def Extends (before after : Option (List Char)) : Prop :=
  after = before ∨ ∃ line, IsRecordLine line ∧ after = some (appended before line)

theorem storedLines_of_unlines
    {file : Option (List Char)} {lines : List (List Char)}
    (text : file.getD [] = unlines lines) (recordLines : ∀ line ∈ lines, IsRecordLine line) :
    storedLines file = lines := by
  rw [storedLines, text, splitLines_unlines (fun line member => (recordLines line member).solid)]
  refine List.filter_eq_self.mpr ?_
  intro line member
  simp [(recordLines line member).notBlank]

theorem isBlankLine_unlines
    {lines : List (List Char)} (recordLines : ∀ line ∈ lines, IsRecordLine line)
    (blank : isBlankLine (unlines lines) = true) : lines = [] := by
  cases lines with
  | nil => rfl
  | cons line lines =>
      have notBlank := (recordLines line (by simp)).notBlank
      simp only [isBlankLine, unlines, List.flatMap_cons, List.all_append,
        Bool.and_eq_true] at blank notBlank
      rw [blank.1.1] at notBlank
      cases notBlank

namespace Format

variable {ε ρ : Type} (format : Format ε ρ)

/-- Read a line that follows a record with the hash `previous`. -/
def readLine (previous : String) (line : List Char) : Except ε ρ := do
  let record ← format.decode line
  if format.previousHash record ≠ previous then .error format.chainMismatch
  else do
    format.checkHash record
    .ok record

def readLines (previous : String) : List (List Char) → Except ε (List ρ)
  | [] => .ok []
  | line :: lines => do
      let record ← format.readLine previous line
      let records ← readLines (format.recordHash record) lines
      .ok (record :: records)

/-- The records of a log; a file that does not exist has none. -/
def records (file : Option (List Char)) : Except ε (List ρ) :=
  format.readLines "" (storedLines file)

/-- The records an append continues. -/
def existing (file : Option (List Char)) : Except ε (List ρ) :=
  if isBlankLine (file.getD []) then .ok [] else format.records file

def lastHash? (records : List ρ) : Option String :=
  records.getLast?.map format.recordHash

/-- The hash the next record names. -/
def headHash (records : List ρ) : String :=
  (format.lastHash? records).getD ""

theorem lastHash?_cons (first : ρ) (others : List ρ) (previous : String) :
    (format.lastHash? (first :: others)).getD previous =
      (format.lastHash? others).getD (format.recordHash first) := by
  cases others with
  | nil => rfl
  | cons other others =>
      rw [lastHash?, lastHash?, List.getLast?_cons_cons, List.getLast?_cons]
      rfl

private theorem readLines_append_from
    {previous : String} {lines : List (List Char)} {records : List ρ}
    (read : format.readLines previous lines = .ok records)
    {line : List Char} {record : ρ}
    (next : format.readLine ((format.lastHash? records).getD previous) line = .ok record) :
    format.readLines previous (lines ++ [line]) = .ok (records ++ [record]) := by
  induction lines generalizing previous records with
  | nil =>
      cases read
      have first : format.readLine previous line = .ok record := next
      simp [readLines, first, bind, Except.bind]
  | cons head lines induction =>
      simp only [readLines, bind, Except.bind] at read
      split at read
      · cases read
      · next first accepted =>
          split at read
          · cases read
          · next others rest =>
              cases read
              rw [lastHash?_cons] at next
              have later := induction rest next
              simp [readLines, accepted, later, bind, Except.bind]

/-- The file consists of complete lines that read as this chain of records. -/
def Intact (file : Option (List Char)) (records : List ρ) : Prop :=
  ∃ lines, file.getD [] = unlines lines ∧ (∀ line ∈ lines, IsRecordLine line) ∧
    format.readLines "" lines = .ok records

variable {format} {file : Option (List Char)} {records : List ρ}

theorem intact_none : format.Intact none [] := by
  refine ⟨[], rfl, ?_, rfl⟩
  simp

theorem records_of_intact (intact : format.Intact file records) :
    format.records file = .ok records := by
  obtain ⟨lines, text, recordLines, read⟩ := intact
  rw [Format.records, storedLines_of_unlines text recordLines, read]

theorem existing_of_intact (intact : format.Intact file records) :
    format.existing file = .ok records := by
  unfold existing
  split
  next blank =>
    obtain ⟨lines, text, recordLines, read⟩ := intact
    rw [text] at blank
    obtain rfl := isBlankLine_unlines recordLines blank
    exact read
  next => exact records_of_intact intact

private theorem decode_of_readLine
    {previous : String} {line : List Char} {record : ρ}
    (read : format.readLine previous line = .ok record) : format.decode line = .ok record := by
  simp only [readLine, bind, Except.bind] at read
  split at read
  · cases read
  · next found decoded =>
      split at read
      · cases read
      · split at read
        · cases read
        · cases read
          exact decoded

private theorem decode_getLast_of_readLines
    {previous : String} {lines : List (List Char)}
    (read : format.readLines previous lines = .ok records) {line : List Char}
    (last : lines.getLast? = some line) :
    ∃ record, records.getLast? = some record ∧ format.decode line = .ok record := by
  induction lines generalizing previous records with
  | nil => cases last
  | cons head lines induction =>
      simp only [readLines, bind, Except.bind] at read
      split at read
      · cases read
      · next record accepted =>
          split at read
          · cases read
          · next others rest =>
              cases read
              cases lines with
              | nil =>
                  cases rest
                  cases last
                  exact ⟨record, rfl, decode_of_readLine accepted⟩
              | cons second lines =>
                  rw [List.getLast?_cons_cons] at last
                  obtain ⟨found, isLast, decoded⟩ := induction rest last
                  refine ⟨found, ?_, decoded⟩
                  rw [List.getLast?_cons, isLast]
                  rfl

/-- The last line of an intact log holds its last record. -/
theorem decode_last_of_intact
    (intact : format.Intact file records) :
    (storedLines file = [] ∧ records = []) ∨
      ∃ line record, (storedLines file).getLast? = some line ∧
        records.getLast? = some record ∧ format.decode line = .ok record := by
  obtain ⟨lines, text, recordLines, read⟩ := intact
  rw [storedLines_of_unlines text recordLines]
  cases last : lines.getLast? with
  | none =>
      obtain rfl := List.getLast?_eq_none_iff.mp last
      cases read
      exact .inl ⟨rfl, rfl⟩
  | some line =>
      obtain ⟨record, isLast, decoded⟩ := decode_getLast_of_readLines read last
      exact .inr ⟨line, record, rfl, isLast, decoded⟩

private theorem length_of_readLines
    {previous : String} {lines : List (List Char)}
    (read : format.readLines previous lines = .ok records) :
    records.length = lines.length := by
  induction lines generalizing previous records with
  | nil =>
      cases read
      rfl
  | cons line lines induction =>
      simp only [readLines, bind, Except.bind] at read
      split at read
      · cases read
      · split at read
        · cases read
        · next others rest =>
            cases read
            simp [induction rest]

/-- Every stored line counts as one record. -/
theorem length_of_intact (intact : format.Intact file records) :
    records.length = (storedLines file).length := by
  obtain ⟨lines, text, recordLines, read⟩ := intact
  rw [storedLines_of_unlines text recordLines]
  exact length_of_readLines read

/-- Appending a line that continues the chain keeps the log intact. -/
theorem intact_appended
    (intact : format.Intact file records) {line : List Char} {record : ρ}
    (recordLine : IsRecordLine line)
    (next : format.readLine (format.headHash records) line = .ok record) :
    format.Intact (some (appended file line)) (records ++ [record]) := by
  obtain ⟨lines, text, recordLines, read⟩ := intact
  refine ⟨lines ++ [line], ?_, ?_, format.readLines_append_from read next⟩
  · simp [appended, text, unlines]
  · intro other member
    rcases List.mem_append.mp member with earlier | last
    · exact recordLines other earlier
    · rw [List.mem_singleton.mp last]
      exact recordLine

end Format

end ChainedLog
