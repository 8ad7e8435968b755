import SuperAdvisor.Foundation.JsonPrefix
import SuperAdvisor.Foundation.OpenLines
import SuperAdvisor.Persistence.ArchiveProgram
import SuperAdvisor.Persistence.StoredLogs

/-!
# Archives with one more line

The line of a new record is written behind whatever the file holds, and the
file is then read again.  The reading succeeds exactly if the line does not
continue another one and the event keeps its fingerprint when it is read back.
-/

namespace SuperAdvisor.Persistence

open Python ChainedLog JsonText Events

/-- The last line of the file is ended, or open and blank for JSON. -/
def EndsLine (file : Option (List Char)) : Prop :=
  ∀ symbol ∈ openLine (file.getD []), isBlank symbol = true

/-- The event has the same fingerprint when it was read back. -/
def KeepsFingerprint (sha256Hex : List Char → String) (event : List (Key × Value)) : Prop :=
  ∃ text, canonicalJson (.dict event) = .ok text ∧
    SignsEvent sha256Hex (fingerprint sha256Hex text) ((Value.dict event).reload canonicalOptions)

/-- The canonical JSON of a dictionary starts with a brace. -/
theorem braced_of_canonicalJson
    {entries : List (Key × Value)} {line : List Char}
    (dumped : canonicalJson (.dict entries) = .ok line) : ∃ tail, line = '{' :: tail := by
  obtain ⟨document, converted, rfl⟩ := except_map_eq_ok.mp dumped
  simp only [Value.toDocument, except_bind_eq_ok] at converted
  obtain ⟨arranged, -, fields, -, built⟩ := converted
  cases built
  exact ⟨_, rfl⟩

theorem isBlankLine_of_blanks
    {text : List Char} (blanks : ∀ symbol ∈ text, isBlank symbol = true) :
    isBlankLine text = true := by
  refine List.all_eq_true.mpr ?_
  intro symbol member
  have blank := blanks symbol member
  simp only [isBlank, Bool.or_eq_true, beq_iff_eq] at blank
  rcases blank with ((rfl | rfl) | rfl) | rfl <;> decide

private theorem stray_of_isSpace
    {symbol : Char} (space : isSpace symbol = true) :
    isBare symbol = false ∧ symbol ∉ [quote, '[', '{'] := by
  constructor
  · by_contra bare
    have range := toNat_of_isBare (by simpa using bare)
    simp [isSpace] at space
    omega
  · intro member
    simp only [List.mem_cons, List.not_mem_nil, or_false] at member
    rcases member with rfl | rfl | rfl <;> cases space

/-- A line that continues anything but JSON blanks cannot be decoded. -/
theorem parse_continued
    {before line : List Char} (braced : ∃ tail, line = '{' :: tail)
    (filled : ¬∀ symbol ∈ before, isBlank symbol = true)
    (readable : isBlankLine before = true ∨ (parse before).isSome = true) :
    parse (before ++ line) = none := by
  obtain ⟨tail, rfl⟩ := braced
  rcases readable with spaces | whole
  · cases shape : before.dropWhile isBlank with
    | nil => exact absurd (List.dropWhile_eq_nil_iff.mp shape) filled
    | cons symbol rest =>
        have split := List.takeWhile_append_dropWhile (p := isBlank) (l := before)
        have blanks : ∀ other ∈ before.takeWhile isBlank, isBlank other = true :=
          List.all_eq_true.mp List.all_takeWhile
        have solid := List.head?_dropWhile_not isBlank before
        rw [shape] at split solid
        have space : isSpace symbol = true := by
          refine List.all_eq_true.mp spaces symbol ?_
          rw [← split]
          simp
        obtain ⟨stray, opens⟩ := stray_of_isSpace space
        rw [← split, List.append_assoc]
        exact parse_stray blanks solid stray opens (rest ++ '{' :: tail)
  · obtain ⟨document, read⟩ := Option.isSome_iff_exists.mp whole
    exact parse_append read (apart_brace tail)

section Records

variable {sha256Hex : List Char → String} {file : Option (List Char)}
  {records : List ArchiveRecord} {event : List (Key × Value)} {createdAt : String}
  {fields : List (String × Value)} {line : List Char}

/-- The line of a record decodes to a record with the event as it is read back. -/
theorem decodeRecord_of_recordLine
    (made : recordLine sha256Hex event records createdAt = .ok (fields, line)) :
    (∃ tail, line = '{' :: tail) ∧ IsRecordLine line ∧
      ∃ recordId text, lookupEntry event (.str "event_id") = some recordId ∧
        canonicalJson (.dict event) = .ok text ∧
        decodeRecord line = .ok
          { recordId := (recordId.reload canonicalOptions).text
            createdAtUtc := createdAt
            event := (Value.dict event).reload canonicalOptions
            recordHash := fingerprint sha256Hex text
            previousHash := (archiveFormat sha256Hex).headHash records } := by
  simp only [recordLine, except_bind_eq_ok, printed_eq_ok] at made
  obtain ⟨recordId, identified, text, hashed, dumpedLine, dumped, same⟩ := made
  cases same
  exact ⟨braced_of_canonicalJson dumped, isRecordLine_of_canonicalJson dumped, recordId, text,
    lookupEntry_of_field identified, hashed, decodeRecord_of_printed dumped⟩

private theorem decodeRecord_congr
    {other : List Char} (same : parse other = parse line) :
    decodeRecord other = decodeRecord line := by
  simp only [decodeRecord, decodeLine, loads, same]

private theorem exists_parse
    {record : ArchiveRecord} (decoded : decodeRecord line = .ok record) :
    ∃ document, parse line = some document := by
  obtain ⟨payload, read, -⟩ := decodeRecord_eq_ok.mp decoded
  unfold decodeLine loads at read
  cases whole : parse line with
  | none => simp [whole] at read
  | some document => exact ⟨document, rfl⟩

/-- A line is read behind blanks as it is read by itself. -/
theorem decodeRecord_behind_blanks
    {before : List Char} {record : ArchiveRecord} (decoded : decodeRecord line = .ok record)
    (blanks : ∀ symbol ∈ before, isBlank symbol = true) :
    decodeRecord (before ++ line) = .ok record := by
  obtain ⟨document, whole⟩ := exists_parse decoded
  rw [← decoded]
  exact decodeRecord_congr ((parse_blank_append blanks whole).trans whole.symm)

/-- No record is read behind anything else. -/
theorem decodeRecord_behind_text
    {before : List Char} (braced : ∃ tail, line = '{' :: tail)
    (filled : ¬∀ symbol ∈ before, isBlank symbol = true)
    (readable : isBlankLine before = true ∨ ∃ other, decodeRecord before = .ok other)
    (record : ArchiveRecord) : decodeRecord (before ++ line) ≠ .ok record := by
  have none : parse (before ++ line) = none := by
    refine parse_continued braced filled (readable.imp_right ?_)
    rintro ⟨other, known⟩
    exact Option.isSome_iff_exists.mpr (exists_parse known)
  simp [decodeRecord, decodeLine, loads, none, bind, Except.bind]

private theorem readLine_undecodable
    {previous : String} (undecodable : ∀ record, decodeRecord line ≠ .ok record)
    (record : ArchiveRecord) : (archiveFormat sha256Hex).readLine previous line ≠ .ok record := by
  intro read
  obtain ⟨other, decoded, -⟩ := except_bind_eq_ok.mp read
  exact undecodable other decoded

private theorem record_unique
    {recordId : Value} {text : List Char} {previous : String} {record : ArchiveRecord}
    (identified : lookupEntry event (.str "event_id") = some recordId)
    (hashed : canonicalJson (.dict event) = .ok text)
    (isRecord : IsRecordOf sha256Hex event createdAt record)
    (linked : record.previousHash = previous) :
    record =
      { recordId := (recordId.reload canonicalOptions).text
        createdAtUtc := createdAt
        event := (Value.dict event).reload canonicalOptions
        recordHash := fingerprint sha256Hex text
        previousHash := previous } := by
  obtain ⟨-, ⟨other, found, sameId⟩, created, content, again, rehashed, sameHash⟩ := isRecord
  obtain rfl := Option.some.inj (identified.symm.trans found)
  obtain rfl := Except.ok.inj (hashed.symm.trans rehashed)
  obtain ⟨id, createdAtUtc, stored, hash, link⟩ := record
  simp only at sameId created content sameHash linked
  rw [sameId, created, content, sameHash, linked]

/-- The longer log is read, with one more record, exactly if the line is not continued
and the event keeps its fingerprint. -/
theorem records_appended_iff
    (valid : IsValidEvent sha256Hex event)
    (read : (archiveFormat sha256Hex).records file = .ok records)
    (made : recordLine sha256Hex event records createdAt = .ok (fields, line))
    {after : List ArchiveRecord} :
    (archiveFormat sha256Hex).records (some (appended file line)) = .ok after ↔
      (EndsLine file ∧ KeepsFingerprint sha256Hex event) ∧
        ∃ record, IsRecordOf sha256Hex event createdAt record ∧
          record.previousHash = (archiveFormat sha256Hex).headHash records ∧
          after = records ++ [record] := by
  obtain ⟨braced, solid, recordId, text, identified, hashed, decoded⟩ :=
    decodeRecord_of_recordLine made
  obtain ⟨lines, before, longer⟩ := storedLines_appended solid file
  rw [Format.records, longer, Format.readLines_snoc]
  rw [Format.records, before] at read
  cases blank : isBlankLine (openLine (file.getD [])) with
  | false =>
      have unended : ¬EndsLine file := by
        intro ends
        rw [isBlankLine_of_blanks ends] at blank
        cases blank
      rw [blank, if_neg (by decide), Format.readLines_snoc] at read
      simp only [except_bind_eq_ok] at read
      obtain ⟨earlier, -, other, readOpen, -⟩ := read
      obtain ⟨_, decodedOpen, -⟩ := except_bind_eq_ok.mp readOpen
      have continued := decodeRecord_behind_text braced unended (.inr ⟨_, decodedOpen⟩)
      refine iff_of_false ?_ (fun holds => unended holds.1.1)
      simp only [except_bind_eq_ok]
      rintro ⟨_, -, record, readLine, -⟩
      exact readLine_undecodable continued record readLine
  | true =>
      rw [blank, if_pos rfl, List.append_nil] at read
      rw [read]
      by_cases ends : EndsLine file
      · have continued := decodeRecord_behind_blanks decoded ends
        simp only [except_bind_eq_ok]
        constructor
        · rintro ⟨_, same, record, readLine, result⟩
          cases same
          cases result
          obtain ⟨rfl, -, checked⟩ := (Format.readLine_eq_ok continued).mp readLine
          exact ⟨⟨ends, text, hashed, checkRecordHash_eq_ok.mp checked⟩, _,
            ⟨valid, ⟨recordId, identified, rfl⟩, rfl, rfl, text, hashed, rfl⟩, rfl, rfl⟩
        · rintro ⟨⟨-, again, rehashed, signs⟩, record, isRecord, linked, rfl⟩
          obtain rfl := Except.ok.inj (hashed.symm.trans rehashed)
          refine ⟨records, rfl, record, (Format.readLine_eq_ok continued).mpr ⟨?_, ?_, ?_⟩, rfl⟩
          · exact record_unique identified hashed isRecord linked
          · rfl
          · exact checkRecordHash_eq_ok.mpr signs
      · have continued := decodeRecord_behind_text braced ends (.inl blank)
        refine iff_of_false ?_ (fun holds => ends holds.1.1)
        simp only [except_bind_eq_ok]
        rintro ⟨_, -, record, readLine, -⟩
        exact readLine_undecodable continued record readLine

theorem exists_records_appended
    (valid : IsValidEvent sha256Hex event)
    (read : (archiveFormat sha256Hex).records file = .ok records)
    (made : recordLine sha256Hex event records createdAt = .ok (fields, line))
    (ends : EndsLine file) (keeps : KeepsFingerprint sha256Hex event) :
    ∃ after, (archiveFormat sha256Hex).records (some (appended file line)) = .ok after := by
  obtain ⟨-, -, recordId, text, identified, hashed, -⟩ := decodeRecord_of_recordLine made
  refine ⟨_, (records_appended_iff valid read made).mpr ⟨⟨ends, keeps⟩,
    ⟨(recordId.reload canonicalOptions).text, createdAt, (Value.dict event).reload canonicalOptions,
      fingerprint sha256Hex text, (archiveFormat sha256Hex).headHash records⟩, ?_, rfl, rfl⟩⟩
  exact ⟨valid, ⟨recordId, identified, rfl⟩, rfl, rfl, text, hashed, rfl⟩

end Records

end SuperAdvisor.Persistence
