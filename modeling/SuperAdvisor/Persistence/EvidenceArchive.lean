import SuperAdvisor.Persistence.LogLines

/-!
# The evidence archive

`EvidenceArchive` keeps valid events in a hash-chained log.  An append checks
the whole log, writes the file anew with one more line and then reads the log
again for the manifest.  The hash of a record is taken over the event in memory
and checked over the event that was read back.
-/

namespace SuperAdvisor.Persistence

open Python ChainedLog Events

structure ArchiveRecord where
  recordId : String
  createdAtUtc : String
  event : Value
  recordHash : String
  previousHash : String

def decodeRecord (line : List Char) : Except LogProblem ArchiveRecord := do
  let payload ← decodeLine line
  let recordId ← fieldText payload "record_id"
  let createdAtUtc ← fieldText payload "created_at_utc"
  let event ← field payload "event"
  let recordHash ← fieldText payload "record_hash"
  let previousHash ← fieldText payload "previous_hash"
  .ok
    { recordId := recordId
      createdAtUtc := createdAtUtc
      event := event
      recordHash := recordHash
      previousHash := previousHash }

structure EvidenceArchive where
  archiveDir : String
  file : Option (List Char)
  manifest : Option (List Char)

/-- An append, with the times its clock gives. -/
structure ArchiveCall where
  event : List (Key × Value)
  createdAt : String
  updatedAt : String

/-- What `verify` of either log returns; `error` is the exception whose text it
reports. -/
structure Verification where
  directory : String
  count : Nat
  lastRecordHash : Option String
  valid : Bool
  error : Option LogProblem

section Digest

variable (sha256Hex : List Char → String)

def checkRecordHash (record : ArchiveRecord) : Except LogProblem Unit := do
  let text ← printed record.event
  if record.recordHash ≠ fingerprint sha256Hex text then
    .error (.python (.valueError "evidence archive record hash mismatch"))
  else .ok ()

def archiveFormat : Format LogProblem ArchiveRecord :=
  { decode := decodeRecord
    previousHash := ArchiveRecord.previousHash
    recordHash := ArchiveRecord.recordHash
    chainMismatch := .python (.valueError "evidence archive hash chain mismatch")
    checkHash := checkRecordHash sha256Hex }

/-- The dictionary an append stores. -/
def recordFields (recordId : Value) (createdAt : String) (event : List (Key × Value))
    (previousHash recordHash : String) : List (String × Value) :=
  [("record_id", recordId),
    ("created_at_utc", .str createdAt),
    ("event", .dict event),
    ("previous_hash", .str previousHash),
    ("record_hash", .str recordHash)]

/-- The record of an event and its line, or the exception before the write. -/
def EvidenceArchive.nextRecord (archive : EvidenceArchive) (event : List (Key × Value))
    (createdAt : String) : Except LogProblem (List (String × Value) × List Char) := do
  let validation ← (validateEventEnvelope sha256Hex event).mapError .envelope
  if !validation.valid then
    .error (.python (.valueError ("; ".intercalate
      (validation.issues.map (fun issue => issue.path ++ ": " ++ issue.message)))))
  else do
    let records ← (archiveFormat sha256Hex).existing archive.file
    let eventPayload := validation.event.getD []
    let recordId ← field (.dict eventPayload) "event_id"
    let text ← printed (.dict eventPayload)
    let record := recordFields recordId createdAt eventPayload
      ((archiveFormat sha256Hex).headHash records) (fingerprint sha256Hex text)
    let line ← printed (.dict (named record))
    .ok (record, line)

/-- The text `_write_manifest` writes. -/
def EvidenceArchive.manifestText (archive : EvidenceArchive) (updatedAt : String) :
    Except LogProblem (List Char) := do
  let records ← (archiveFormat sha256Hex).records archive.file
  let text ← printed (.dict (named
    [("archive_dir", .str archive.archiveDir),
      ("record_count", .int records.length),
      ("hash_chain_head", .str ((archiveFormat sha256Hex).headHash records)),
      ("updated_at_utc", .str updatedAt)]))
  .ok (text ++ ['\n'])

/-- The manifest is written after the file, so an exception there leaves the
new line in place. -/
def EvidenceArchive.append (archive : EvidenceArchive) (event : List (Key × Value))
    (createdAt updatedAt : String) :
    Except LogProblem (List (String × Value)) × EvidenceArchive :=
  match archive.nextRecord sha256Hex event createdAt with
  | .error problem => (.error problem, archive)
  | .ok (record, line) =>
      let written := { archive with file := some (appended archive.file line) }
      match written.manifestText sha256Hex updatedAt with
      | .error problem => (.error problem, written)
      | .ok manifest => (.ok record, { written with manifest := some manifest })

def EvidenceArchive.verify (archive : EvidenceArchive) : Verification :=
  match (archiveFormat sha256Hex).records archive.file with
  | .error problem =>
      { directory := archive.archiveDir
        count := 0
        lastRecordHash := none
        valid := false
        error := some problem }
  | .ok records =>
      { directory := archive.archiveDir
        count := records.length
        lastRecordHash := (archiveFormat sha256Hex).lastHash? records
        valid := true
        error := none }

end Digest

variable {sha256Hex : List Char → String}

/-- What the archive needs of an event. -/
structure IsArchivable (event : List (Key × Value)) : Prop where
  identified : ∃ eventId document, lookupEntry event (.str "event_id") = some eventId ∧
    eventId.toDocument canonicalOptions = .ok document
  converted : ∃ document, (Value.dict event).toDocument canonicalOptions = .ok document

/-- A candidate for hashing has a form, hence so has the event with its hash. -/
private theorem converted_of_candidate
    {fields : List (String × Value)} {integrityHash : String}
    (signed : lookupEntry (named fields) (.str "integrity_hash") = some (.str integrityHash))
    (distinct : (OrderedDict.keys fields).Nodup) {text : List Char}
    (hashed : canonicalJson (.dict (setEntry (named fields) (.str "integrity_hash") (.str ""))) =
      .ok text) :
    ∃ document, (Value.dict (named fields)).toDocument canonicalOptions = .ok document := by
  obtain ⟨candidate, converted, -⟩ := except_map_eq_ok.mp hashed
  rw [setEntry_named] at converted
  apply toDocument_named_ok rfl
  intro entry member
  by_cases isHash : entry.1 = "integrity_hash"
  · have found := OrderedDict.get?_eq_some_of_mem distinct member
    rw [lookupEntry_named, ← isHash, found] at signed
    rw [Option.some.inj signed]
    exact ⟨.string integrityHash, rfl⟩
  · have kept : entry ∈ OrderedDict.set fields "integrity_hash" (.str "") :=
      (OrderedDict.set_perm distinct _ _).mem_iff.mpr (by simp [member, isHash])
    exact toDocument_named_field rfl converted kept

theorem isArchivable_of_valid
    {event : List (Key × Value)} {validation : EventValidationReport}
    (validated : validateEventEnvelope sha256Hex event = .ok validation)
    (valid : validation.valid = true) (stable : (Value.dict event).KeyOrderStable) :
    IsArchivable event ∧ validation.event = some event := by
  simp only [validateEventEnvelope, except_bind_eq_ok, except_mapError_eq_ok] at validated
  obtain ⟨eventType, -, integrity, signed, same⟩ := validated
  cases same
  refine ⟨?_, if_pos valid⟩
  simp only [List.isEmpty_iff] at valid
  simp only [List.append_eq_nil_iff, List.map_eq_nil_iff, List.filter_eq_nil_iff] at valid
  obtain ⟨⟨⟨⟨⟨⟨present, -⟩, -⟩, known⟩, -⟩, -⟩, clean⟩ := valid
  have texts : ∀ entry ∈ event, entry.1.isStr = true := by
    intro entry member
    have listed : isOneOf entry.1.asValue requiredEventFields = true := by
      simpa using known entry member
    obtain ⟨name, -, isName⟩ := isOneOf_iff.mp listed
    cases key : entry.1 <;> simp_all [Key.asValue, Key.isStr]
  have found := present "event_id" (by simp [requiredEventFields])
  rw [Option.isNone_iff_eq_none] at found
  obtain ⟨eventId, identified⟩ := Option.ne_none_iff_exists'.mp found
  obtain ⟨fields, rfl⟩ := exists_named texts
  have converted : ∃ document,
      (Value.dict (named fields)).toDocument canonicalOptions = .ok document := by
    unfold integrityIssues at signed
    split at signed
    next integrityHash found =>
      obtain ⟨text, hashed, -⟩ := except_bind_eq_ok.mp signed
      exact converted_of_candidate (lookupEntry_of_getOr found (by simp))
        (keyOrderStable_named stable).1 hashed
    next => cases clean.symm.trans (Except.ok.inj signed).symm
  refine ⟨?_, converted⟩
  rw [lookupEntry_named] at identified
  obtain ⟨document, whole⟩ := converted
  obtain ⟨part, partConverted⟩ :=
    toDocument_named_field rfl whole (OrderedDict.mem_of_get? identified)
  exact ⟨eventId, part, by rw [lookupEntry_named, identified], partConverted⟩

/-- A line printed from the fields of a record decodes to this record. -/
theorem decodeRecord_of_printed
    {recordId : Value} {createdAt previous hash : String} {event : List (Key × Value)}
    {line : List Char}
    (dumped : canonicalJson (.dict (named (recordFields recordId createdAt event previous
      hash))) = .ok line) :
    decodeRecord line = .ok
      { recordId := (recordId.reload canonicalOptions).text
        createdAtUtc := createdAt
        event := (Value.dict event).reload canonicalOptions
        recordHash := hash
        previousHash := previous } := by
  have distinct : (OrderedDict.keys
      (recordFields recordId createdAt event previous hash)).Nodup := by
    simp [recordFields, OrderedDict.keys]
  obtain ⟨payload, decoded, reading⟩ := field_of_printed distinct dumped
  have recordIdRead := reading "record_id" _ rfl
  have createdAtRead := reading "created_at_utc" _ rfl
  have eventRead := reading "event" _ rfl
  have previousRead := reading "previous_hash" _ rfl
  have hashRead := reading "record_hash" _ rfl
  simp [decodeRecord, fieldText, decoded, recordIdRead, createdAtRead, eventRead, previousRead,
    hashRead, Except.map, bind, Except.bind, Value.text]

/-- The line reads back as the next record, if the event keeps its hash when it
is loaded. -/
private theorem readLine_of_record
    {recordId : Value} {createdAt previous : String} {event : List (Key × Value)}
    {text line : List Char} (hashed : canonicalJson (.dict event) = .ok text)
    (stable : (Value.dict event).KeyOrderStable)
    (dumped : canonicalJson (.dict (named (recordFields recordId createdAt event previous
      (fingerprint sha256Hex text)))) = .ok line) :
    ∃ record, (archiveFormat sha256Hex).readLine previous line = .ok record := by
  have again : printed ((Value.dict event).reload canonicalOptions) = .ok text :=
    printed_eq_ok.mpr (dumps_reload rfl hashed stable)
  simp [Format.readLine, archiveFormat, decodeRecord_of_printed dumped, checkRecordHash, again,
    bind, Except.bind]

/-- A valid event whose keys keep their order becomes the next record of an
intact archive. -/
theorem nextRecord_of_valid
    {archive : EvidenceArchive} {records : List ArchiveRecord}
    (intact : (archiveFormat sha256Hex).Intact archive.file records)
    {event : List (Key × Value)} {validation : EventValidationReport}
    (validated : validateEventEnvelope sha256Hex event = .ok validation)
    (valid : validation.valid = true) (stable : (Value.dict event).KeyOrderStable)
    (createdAt : String) :
    ∃ record line next, archive.nextRecord sha256Hex event createdAt = .ok (record, line) ∧
      (archiveFormat sha256Hex).Intact (some (appended archive.file line)) (records ++ [next]) := by
  obtain ⟨⟨⟨eventId, idDocument, identified, idConverted⟩, document, converted⟩, same⟩ :=
    isArchivable_of_valid validated valid stable
  have hashed := canonicalJson_of_toDocument converted
  have idRead : field (.dict event) "event_id" = .ok eventId := by
    simp [field, getItem, identified, Except.mapError]
  have fieldwise : ∀ entry ∈ recordFields eventId createdAt event
      ((archiveFormat sha256Hex).headHash records)
      (fingerprint sha256Hex (JsonText.render false document)),
      ∃ converted, entry.2.toDocument canonicalOptions = .ok converted := by
    simp [recordFields, idConverted, converted]
  obtain ⟨recordDocument, recordConverted⟩ := toDocument_named_ok rfl fieldwise
  have dumped := canonicalJson_of_toDocument recordConverted
  obtain ⟨next, read⟩ := readLine_of_record hashed stable dumped
  refine ⟨recordFields eventId createdAt event ((archiveFormat sha256Hex).headHash records)
      (fingerprint sha256Hex (JsonText.render false document)), _, next, ?_,
    Format.intact_appended intact (isRecordLine_of_canonicalJson dumped) read⟩
  simp [EvidenceArchive.nextRecord, validated, valid, same, Format.existing_of_intact intact,
    idRead, printed_eq_ok.mpr hashed, printed_eq_ok.mpr dumped, Except.mapError, bind,
    Except.bind]

namespace EvidenceArchive

/-- A log that is read has a manifest. -/
theorem exists_manifestText
    {archive : EvidenceArchive} {records : List ArchiveRecord}
    (read : (archiveFormat sha256Hex).records archive.file = .ok records) (updatedAt : String) :
    ∃ text, archive.manifestText sha256Hex updatedAt = .ok text := by
  obtain ⟨document, converted⟩ := @toDocument_named_ok canonicalOptions rfl
    [("archive_dir", .str archive.archiveDir),
      ("record_count", .int records.length),
      ("hash_chain_head", .str ((archiveFormat sha256Hex).headHash records)),
      ("updated_at_utc", .str updatedAt)] (by simp)
  have dumped := printed_eq_ok.mpr (canonicalJson_of_toDocument converted)
  refine ⟨JsonText.render false document ++ ['\n'], ?_⟩
  simp only [EvidenceArchive.manifestText, read, bind, Except.bind, dumped]

/-- An intact archive accepts every valid event whose keys keep their order. -/
theorem append_of_valid
    {archive : EvidenceArchive} {records : List ArchiveRecord}
    (intact : (archiveFormat sha256Hex).Intact archive.file records)
    {event : List (Key × Value)} {validation : EventValidationReport}
    (validated : validateEventEnvelope sha256Hex event = .ok validation)
    (valid : validation.valid = true) (stable : (Value.dict event).KeyOrderStable)
    (createdAt updatedAt : String) :
    ∃ record next, (archive.append sha256Hex event createdAt updatedAt).1 = .ok record ∧
      (archiveFormat sha256Hex).Intact
        (archive.append sha256Hex event createdAt updatedAt).2.file (records ++ [next]) := by
  obtain ⟨record, line, next, made, longer⟩ :=
    nextRecord_of_valid intact validated valid stable createdAt
  obtain ⟨manifest, written⟩ := @exists_manifestText _
    { archive with file := some (appended archive.file line) } _
    (Format.records_of_intact longer) updatedAt
  refine ⟨record, next, ?_, ?_⟩
  · simp [EvidenceArchive.append, made, written]
  · simpa [EvidenceArchive.append, made, written] using longer

private theorem nextRecord_eq_ok
    {archive : EvidenceArchive} {event : List (Key × Value)} {createdAt : String}
    {record : List (String × Value)} {line : List Char}
    (made : archive.nextRecord sha256Hex event createdAt = .ok (record, line)) :
    IsRecordLine line ∧
      ∃ validation, validateEventEnvelope sha256Hex event = .ok validation ∧
        validation.valid = true := by
  simp only [EvidenceArchive.nextRecord, except_bind_eq_ok, except_mapError_eq_ok] at made
  obtain ⟨validation, validated, made⟩ := made
  split at made
  next => cases made
  next valid =>
    simp only [except_bind_eq_ok, printed_eq_ok] at made
    obtain ⟨_, -, _, -, _, -, printedLine, dumped, same⟩ := made
    cases same
    exact ⟨isRecordLine_of_canonicalJson dumped, validation, validated, by simpa using valid⟩

/-- Whatever an append returns or raises, the file keeps what it had. -/
theorem append_extends
    (archive : EvidenceArchive) (event : List (Key × Value)) (createdAt updatedAt : String) :
    Extends archive.file (archive.append sha256Hex event createdAt updatedAt).2.file := by
  unfold EvidenceArchive.append
  split
  next => exact .inl rfl
  next record line made =>
    refine .inr ⟨line, (nextRecord_eq_ok made).1, ?_⟩
    dsimp only
    split <;> rfl

/-- An append of an event whose keys keep their order leaves the archive
intact, whether it is accepted or not. -/
theorem append_intact
    {archive : EvidenceArchive} {records : List ArchiveRecord}
    (intact : (archiveFormat sha256Hex).Intact archive.file records)
    {event : List (Key × Value)} (stable : (Value.dict event).KeyOrderStable)
    (createdAt updatedAt : String) :
    ∃ after, (archiveFormat sha256Hex).Intact
      (archive.append sha256Hex event createdAt updatedAt).2.file after := by
  cases made : archive.nextRecord sha256Hex event createdAt with
  | error problem => exact ⟨records, by simpa [EvidenceArchive.append, made] using intact⟩
  | ok next =>
      obtain ⟨-, validation, validated, valid⟩ := nextRecord_eq_ok made
      obtain ⟨-, last, -, longer⟩ :=
        append_of_valid intact validated valid stable createdAt updatedAt
      exact ⟨records ++ [last], longer⟩

theorem verify_of_intact
    {archive : EvidenceArchive} {records : List ArchiveRecord}
    (intact : (archiveFormat sha256Hex).Intact archive.file records) :
    (archive.verify sha256Hex).valid = true ∧
      (archive.verify sha256Hex).count = (storedLines archive.file).length := by
  simp [EvidenceArchive.verify, Format.records_of_intact intact, Format.length_of_intact intact]

end EvidenceArchive

end SuperAdvisor.Persistence
