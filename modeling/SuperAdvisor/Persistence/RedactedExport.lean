import SuperAdvisor.Events.Redaction
import SuperAdvisor.Persistence.StoredLogs

/-!
# Redacted exports

`export_redacted` writes every record with its event redacted, but with the
hashes that were made from the event as it was.  The exports of two archives
whose events differ only in redacted values agree in everything but these
hashes.
-/

namespace SuperAdvisor.Persistence

open Python ChainedLog Machine Events

/-- The dictionary that is exported for a record. -/
def exportFields (record : ArchiveRecord) (event : List (Key × Value)) :
    List (String × Value) :=
  [("record_id", .str record.recordId),
    ("created_at_utc", .str record.createdAtUtc),
    ("event", .dict event),
    ("record_hash", .str record.recordHash),
    ("previous_hash", .str record.previousHash)]

def freshArchive (archiveDir : String) : EvidenceArchive :=
  { archiveDir := archiveDir, file := none, manifest := none }

section Digest

variable (sha256Hex : List Char → String)

def exportLine (record : ArchiveRecord) : Except LogProblem (List Char) := do
  let event ← (redactEvent sha256Hex record.event).mapError .envelope
  printed (.dict (named (exportFields record event)))

/-- The text of the exported file. -/
def EvidenceArchive.exportRedacted (archive : EvidenceArchive) : Except LogProblem (List Char) := do
  let records ← (archiveFormat sha256Hex).records archive.file
  let exportLines ← records.mapM (exportLine sha256Hex)
  .ok (['\n'].intercalate exportLines ++ (if exportLines.isEmpty then [] else ['\n']))

def EvidenceArchive.step (archive : EvidenceArchive) (call : ArchiveCall) :
    Except LogProblem (List (String × Value)) × EvidenceArchive :=
  archive.append sha256Hex call.event call.createdAt call.updatedAt

/-- The hash `append` gives the record of an event. -/
def eventHash (event : List (Key × Value)) : Except JsonError String :=
  (canonicalJson (.dict event)).map (fingerprint sha256Hex)

/-- All these appends to a fresh archive return. -/
def Succeed (archiveDir : String) (calls : List ArchiveCall) : Prop :=
  ∀ event ∈ trace (EvidenceArchive.step sha256Hex) (freshArchive archiveDir) calls,
    ∃ reply, event.reply = .ok reply

def archiveAfter (archiveDir : String) (calls : List ArchiveCall) : EvidenceArchive :=
  final (EvidenceArchive.step sha256Hex) (freshArchive archiveDir) calls

end Digest

/-- An event as Python has it: no key stands twice in it or in its payload. -/
structure IsDictionary (event : List (Key × Value)) : Prop where
  keys : (event.map Prod.fst).Nodup
  payload : ∀ value, lookupEntry event (.str "payload") = some value → UniqueKeys value

/-- Two appends at one time of events that differ only in the values that are
redacted and in the integrity hash. -/
structure DifferInSecrets (first second : ArchiveCall) : Prop where
  created : first.createdAt = second.createdAt
  dictionaries : IsDictionary first.event ∧ IsDictionary second.event
  same : withoutSecrets first.event = withoutSecrets second.event

section Rules

variable {sha256Hex : List Char → String}

/-- The records that the calls have made. -/
def AreRecordsOf (sha256Hex : List Char → String) (calls : List ArchiveCall)
    (records : List ArchiveRecord) : Prop :=
  List.Forall₂ (fun call record => IsRecordOf sha256Hex call.event call.createdAt record)
    calls records

/-- A stored event: its fields have different names, among them those that a
redaction writes, and it has a JSON form. -/
theorem exists_fields_of_record
    {event : List (Key × Value)} {createdAt : String} {record : ArchiveRecord}
    (isRecord : IsRecordOf sha256Hex event createdAt record) (dictionary : IsDictionary event) :
    ∃ fields document, event = named fields ∧ IsSigned fields ∧
      (∀ value, OrderedDict.get? fields "payload" = some value → UniqueKeys value) ∧
      (Value.dict (named fields)).toDocument canonicalOptions = .ok document := by
  have texts : ∀ entry ∈ event, entry.1.isStr = true := by
    intro entry member
    obtain ⟨name, -, isName⟩ := isRecord.valid.known entry member
    rw [isName]
    rfl
  obtain ⟨fields, rfl⟩ := exists_named texts
  obtain ⟨text, hashed, -⟩ := isRecord.signed
  obtain ⟨document, converted, -⟩ := except_map_eq_ok.mp hashed
  have present : ∀ name ∈ requiredEventFields, name ∈ OrderedDict.keys fields := by
    intro name required
    obtain ⟨value, found⟩ := isRecord.valid.present name required
    rw [lookupEntry_named] at found
    exact List.mem_map_of_mem (OrderedDict.mem_of_get? found)
  refine ⟨fields, document, rfl, ?_, ?_, converted⟩
  · exact
      { distinct := keys_named_nodup dictionary.keys
        hashed := present _ (by simp [requiredEventFields])
        classified := present _ (by simp [requiredEventFields]) }
  · intro value found
    exact dictionary.payload value (by rw [lookupEntry_named, found])

theorem lookupEntry_withoutSecrets (fields : List (String × Value)) :
    lookupEntry (withoutSecrets (named fields)) (.str "event_id") =
      lookupEntry (named fields) (.str "event_id") := by
  rw [withoutSecrets_named, lookupEntry_named, lookupEntry_named, publicFields,
    OrderedDict.get?_set_of_ne _ _ (by decide), get?_payloadFields]
  simp

/-- An exported record has a line, which gives its hashes back. -/
theorem exists_printed_export (record : ArchiveRecord) {event : List (Key × Value)}
    {document : JsonText.Document}
    (converted : (Value.dict event).toDocument canonicalOptions = .ok document) :
    ∃ line, printed (.dict (named (exportFields record event))) = .ok line ∧ IsRecordLine line ∧
      ∃ payload, decodeLine line = .ok payload ∧
        field payload "record_hash" = .ok (.str record.recordHash) ∧
        field payload "previous_hash" = .ok (.str record.previousHash) := by
  obtain ⟨whole, accepted⟩ := @toDocument_named_ok canonicalOptions rfl
    (exportFields record event) (by simp [exportFields, converted])
  have dumped := canonicalJson_of_toDocument accepted
  obtain ⟨payload, decoded, reading⟩ :=
    field_of_printed (by simp [exportFields, OrderedDict.keys]) dumped
  exact ⟨_, printed_eq_ok.mpr dumped, isRecordLine_of_canonicalJson dumped, payload, decoded,
    reading "record_hash" _ rfl, reading "previous_hash" _ rfl⟩

/-- The exported lines of two records of events that differ in secrets are
equal if their hashes are. -/
theorem exportLines_eq_iff
    {first second : ArchiveCall} (differ : DifferInSecrets first second)
    {one other : ArchiveRecord}
    (isOne : IsRecordOf sha256Hex first.event first.createdAt one)
    (isOther : IsRecordOf sha256Hex second.event second.createdAt other) :
    ∃ line otherLine, exportLine sha256Hex one = .ok line ∧
      exportLine sha256Hex other = .ok otherLine ∧ IsRecordLine line ∧
      IsRecordLine otherLine ∧
      (line = otherLine ↔
        one.recordHash = other.recordHash ∧ one.previousHash = other.previousHash) := by
  obtain ⟨dictionary, otherDictionary⟩ := differ.dictionaries
  obtain ⟨fields, document, shape, signed, unique, converted⟩ :=
    exists_fields_of_record isOne dictionary
  obtain ⟨others, otherDocument, otherShape, otherSigned, otherUnique, otherConverted⟩ :=
    exists_fields_of_record isOther otherDictionary
  have remaining : named (publicFields fields) = named (publicFields others) := by
    rw [← withoutSecrets_named, ← withoutSecrets_named, ← shape, ← otherShape, differ.same]
  obtain ⟨redacted, again, redaction, redactedConverted⟩ :=
    @exists_redactEvent _ sha256Hex _ signed.distinct converted
  have otherRedaction : redactEvent sha256Hex
      ((Value.dict (named others)).reload canonicalOptions) = .ok redacted := by
    rw [← redactEvent_public otherSigned otherUnique otherConverted, ← remaining,
      redactEvent_public signed unique converted, redaction]
  have sameId : one.recordId = other.recordId := by
    obtain ⟨eventId, found, isId⟩ := isOne.id
    obtain ⟨otherId, otherFound, isOtherId⟩ := isOther.id
    rw [shape, ← lookupEntry_withoutSecrets, ← shape, differ.same, otherShape,
      lookupEntry_withoutSecrets, ← otherShape, otherFound] at found
    rw [isId, isOtherId, Option.some.inj found]
  have sameTime : one.createdAtUtc = other.createdAtUtc := by
    rw [isOne.created, isOther.created, differ.created]
  obtain ⟨line, printedLine, solid, payload, decoded, hash, previous⟩ :=
    exists_printed_export one redactedConverted
  obtain ⟨otherLine, otherPrinted, otherSolid, otherPayload, otherDecoded, otherHash,
    otherPrevious⟩ := exists_printed_export other redactedConverted
  refine ⟨line, otherLine, ?_, ?_, solid, otherSolid, ?_, ?_⟩
  · simp [exportLine, isOne.content, shape, redaction, printedLine, Except.mapError, bind,
      Except.bind]
  · simp [exportLine, isOther.content, otherShape, otherRedaction, otherPrinted, Except.mapError,
      bind, Except.bind]
  · rintro rfl
    obtain rfl : payload = otherPayload := Except.ok.inj (decoded.symm.trans otherDecoded)
    exact ⟨Value.str.inj (Except.ok.inj (hash.symm.trans otherHash)),
      Value.str.inj (Except.ok.inj (previous.symm.trans otherPrevious))⟩
  · rintro ⟨sameHash, samePrevious⟩
    have sameFields : exportFields one redacted = exportFields other redacted := by
      simp [exportFields, sameId, sameTime, sameHash, samePrevious]
    rw [sameFields, otherPrinted] at printedLine
    exact (Except.ok.inj printedLine).symm

theorem eventHash_eq_iff
    {first second : ArchiveCall} {one other : ArchiveRecord}
    (isOne : IsRecordOf sha256Hex first.event first.createdAt one)
    (isOther : IsRecordOf sha256Hex second.event second.createdAt other) :
    eventHash sha256Hex first.event = eventHash sha256Hex second.event ↔
      one.recordHash = other.recordHash := by
  obtain ⟨text, hashed, isHash⟩ := isOne.signed
  obtain ⟨otherText, otherHashed, isOtherHash⟩ := isOther.signed
  rw [eventHash, eventHash, hashed, otherHashed, isHash, isOtherHash]
  simp [Except.map]

/-- Chains from one hash of events that differ in secrets are exported alike if
all their events have the same hashes. -/
theorem exportAll_eq_iff {pairs : List (ArchiveCall × ArchiveCall)}
    (differ : ∀ pair ∈ pairs, DifferInSecrets pair.1 pair.2) {records others : List ArchiveRecord}
    (areRecords : AreRecordsOf sha256Hex (pairs.map Prod.fst) records)
    (areOthers : AreRecordsOf sha256Hex (pairs.map Prod.snd) others) {previous : String}
    (linked : (archiveFormat sha256Hex).Links previous records)
    {otherPrevious : String} (otherLinked : (archiveFormat sha256Hex).Links otherPrevious others) :
    ∃ exported otherExported, records.mapM (exportLine sha256Hex) = .ok exported ∧
      others.mapM (exportLine sha256Hex) = .ok otherExported ∧
      (∀ line ∈ exported, IsRecordLine line) ∧ (∀ line ∈ otherExported, IsRecordLine line) ∧
      (previous = otherPrevious →
        (exported = otherExported ↔
          ∀ pair ∈ pairs, eventHash sha256Hex pair.1.event = eventHash sha256Hex pair.2.event)) := by
  induction pairs generalizing records others previous otherPrevious with
  | nil =>
      cases areRecords
      cases areOthers
      exact ⟨[], [], rfl, rfl, by simp⟩
  | cons pair pairs induction =>
      cases areRecords with
      | @cons _ record _ records isRecord areRecords =>
          cases areOthers with
          | @cons _ other _ others isOther areOthers =>
              obtain ⟨named, linked⟩ := linked
              obtain ⟨otherNamed, otherLinked⟩ := otherLinked
              obtain ⟨line, otherLine, printedLine, otherPrinted, solid, otherSolid, sameLine⟩ :=
                exportLines_eq_iff (differ pair List.mem_cons_self) isRecord isOther
              obtain ⟨exported, otherExported, exportedRest, otherRest, solids, otherSolids,
                sameRest⟩ :=
                induction (fun pair member => differ pair (List.mem_cons_of_mem _ member))
                  areRecords areOthers linked otherLinked
              refine ⟨line :: exported, otherLine :: otherExported, ?_, ?_, ?_, ?_, ?_⟩
              · simp [List.mapM_cons, printedLine, exportedRest, bind, Except.bind, pure,
                  Except.pure]
              · simp [List.mapM_cons, otherPrinted, otherRest, bind, Except.bind, pure,
                  Except.pure]
              · simpa [solid] using solids
              · simpa [otherSolid] using otherSolids
              · rintro rfl
                have samePrevious : record.previousHash = other.previousHash :=
                  named.trans otherNamed.symm
                rw [List.cons.injEq, sameLine, and_iff_left samePrevious, List.forall_mem_cons,
                  eventHash_eq_iff isRecord isOther]
                exact and_congr_right sameRest

theorem exportRedacted_text (lines : List (List Char)) :
    ['\n'].intercalate lines ++ (if lines.isEmpty then [] else ['\n']) = unlines lines := by
  induction lines with
  | nil => rfl
  | cons line lines induction =>
      cases lines with
      | nil => simp [unlines]
      | cons next lines =>
          simp only [List.isEmpty_cons, Bool.false_eq_true, if_false] at induction ⊢
          rw [List.intercalate_cons_cons, List.append_assoc, List.append_assoc, induction]
          simp [unlines]

/-- Appends that return add the records of their events. -/
theorem stored_final {archive : EvidenceArchive} {entries : List (List Char × ArchiveRecord)}
    {early calls : List ArchiveCall}
    (stored : (archiveFormat sha256Hex).Stored archive.file entries)
    (signed : ∀ entry ∈ entries, SignsEvent sha256Hex entry.2.recordHash entry.2.event)
    (areRecords : AreRecordsOf sha256Hex early (entries.map Prod.snd))
    (succeeded : ∀ event ∈ trace (EvidenceArchive.step sha256Hex) archive calls,
      ∃ reply, event.reply = .ok reply) :
    ∃ after, (archiveFormat sha256Hex).Stored
        (final (EvidenceArchive.step sha256Hex) archive calls).file after ∧
      (∀ entry ∈ after, SignsEvent sha256Hex entry.2.recordHash entry.2.event) ∧
      AreRecordsOf sha256Hex (early ++ calls) (after.map Prod.snd) := by
  induction calls generalizing archive entries early with
  | nil => exact ⟨entries, stored, signed, by simpa using areRecords⟩
  | cons call calls induction =>
      obtain ⟨reply, accepted⟩ :=
        succeeded (eventOf (EvidenceArchive.step sha256Hex) archive call) (by simp [trace])
      obtain ⟨line, record, isRecord, longer, signedAfter⟩ :=
        EvidenceArchive.stored_append stored accepted
      have longerRecords : AreRecordsOf sha256Hex (early ++ [call])
          ((entries ++ [(line, record)]).map Prod.snd) := by
        rw [List.map_append]
        exact List.rel_append areRecords (.cons isRecord .nil)
      have later := induction longer signedAfter longerRecords
        (fun event member => succeeded event (by simp [trace, EvidenceArchive.step, member]))
      simpa [final, EvidenceArchive.step] using later

/-- An archive that appends built holds the records of their events. -/
theorem records_archiveAfter {archiveDir : String} {calls : List ArchiveCall}
    (succeed : Succeed sha256Hex archiveDir calls) :
    ∃ records, (archiveFormat sha256Hex).records
        (archiveAfter sha256Hex archiveDir calls).file = .ok records ∧
      AreRecordsOf sha256Hex calls records ∧ (archiveFormat sha256Hex).Links "" records := by
  have start : (archiveFormat sha256Hex).Stored (freshArchive archiveDir).file [] :=
    Format.stored_none
  obtain ⟨entries, stored, signed, areRecords⟩ :=
    @stored_final sha256Hex _ _ [] calls start (by simp) .nil succeed
  refine ⟨entries.map Prod.snd, ?_, by simpa using areRecords, stored.linked⟩
  rw [archiveAfter, Format.records_eq_ok_of_stored stored]
  exact ⟨rfl, fun entry member => checkRecordHash_eq_ok.mpr (signed entry member)⟩

theorem exportRedacted_eq_ok {archive : EvidenceArchive} {records : List ArchiveRecord}
    {exported : List (List Char)}
    (read : (archiveFormat sha256Hex).records archive.file = .ok records)
    (mapped : records.mapM (exportLine sha256Hex) = .ok exported) :
    archive.exportRedacted sha256Hex = .ok (unlines exported) := by
  simp [EvidenceArchive.exportRedacted, read, mapped, ← exportRedacted_text, bind, Except.bind]

theorem unlines_eq_iff {lines others : List (List Char)}
    (solid : ∀ line ∈ lines, IsRecordLine line)
    (otherSolid : ∀ line ∈ others, IsRecordLine line) :
    unlines lines = unlines others ↔ lines = others := by
  constructor
  · intro sameText
    rw [← splitLines_unlines (fun line member => (solid line member).solid), sameText,
      splitLines_unlines (fun line member => (otherSolid line member).solid)]
  · exact congrArg unlines

/-- One append of a valid event whose keys keep their order. -/
theorem succeed_of_valid {archiveDir : String} {call : ArchiveCall}
    (valid : IsValidEvent sha256Hex call.event)
    (stable : (Value.dict call.event).KeyOrderStable) : Succeed sha256Hex archiveDir [call] := by
  obtain ⟨validation, validated, isValid⟩ := isValidEvent_iff.mpr valid
  have intact : (archiveFormat sha256Hex).Intact (freshArchive archiveDir).file [] :=
    Format.intact_none
  obtain ⟨reply, -, accepted, -⟩ :=
    EvidenceArchive.append_of_valid intact validated isValid stable call.createdAt call.updatedAt
  simp only [Succeed, trace, List.mem_singleton, forall_eq]
  exact ⟨reply, accepted⟩

end Rules

theorem redacted_exports_agree_iff
    (sha256Hex : List Char → String) (firstDir secondDir : String)
    (pairs : List (ArchiveCall × ArchiveCall))
    (differ : ∀ pair ∈ pairs, DifferInSecrets pair.1 pair.2)
    (firstSucceed : Succeed sha256Hex firstDir (pairs.map Prod.fst))
    (secondSucceed : Succeed sha256Hex secondDir (pairs.map Prod.snd)) :
    ∃ first second,
      (archiveAfter sha256Hex firstDir (pairs.map Prod.fst)).exportRedacted sha256Hex = .ok first ∧
      (archiveAfter sha256Hex secondDir (pairs.map Prod.snd)).exportRedacted sha256Hex =
        .ok second ∧
      (first = second ↔
        ∀ pair ∈ pairs, eventHash sha256Hex pair.1.event = eventHash sha256Hex pair.2.event) := by
  obtain ⟨records, read, areRecords, linked⟩ := records_archiveAfter firstSucceed
  obtain ⟨others, otherRead, areOthers, otherLinked⟩ := records_archiveAfter secondSucceed
  obtain ⟨exported, otherExported, mapped, otherMapped, solid, otherSolid, same⟩ :=
    exportAll_eq_iff differ areRecords areOthers linked otherLinked
  refine ⟨unlines exported, unlines otherExported, exportRedacted_eq_ok read mapped,
    exportRedacted_eq_ok otherRead otherMapped, ?_⟩
  rw [unlines_eq_iff solid otherSolid, same rfl]

section Priced

/-- An event with a price in its payload. -/
def pricedArguments (price : String) : EnvelopeArguments :=
  { eventType := "SYSTEM_INCIDENT"
    payload := [(.str "price", .str price)]
    sourceComponent := "engine"
    sourceAgent := "advisor"
    evidenceReference := "ev-1" }

def pricedFields (price hash : String) : List (String × Value) :=
  envelopeFields (pricedArguments price) "event-1" "correlation-1" "now" hash

def pricedHash (price : String) : String :=
  match canonicalJson (.dict (named (pricedFields price ""))) with
  | .ok text => sha256Hex text
  | .error _ => ""

def pricedCall (price : String) : ArchiveCall :=
  { event := named (pricedFields price (pricedHash price))
    createdAt := "now"
    updatedAt := "now" }

theorem withoutSecrets_priced (price hash : String) :
    withoutSecrets (named (pricedFields price hash)) = named (pricedFields "UNKNOWN" "") := by
  rw [withoutSecrets_named, publicFields]
  rfl

theorem names_priced (price hash : String) :
    (named (pricedFields price hash)).map Prod.fst = requiredEventFields.map Key.str := by
  rw [← @keys_envelopeFields (pricedArguments price) "event-1" "correlation-1" "now" hash]
  simp [named, pricedFields, OrderedDict.keys]

theorem pricedCall_isDictionary (price : String) : IsDictionary (pricedCall price).event := by
  constructor
  · rw [pricedCall, names_priced]
    decide
  · intro value found
    rw [pricedCall, lookupEntry_named] at found
    obtain rfl := Option.some.inj found
    simp [UniqueKeys, pricedArguments]

theorem pricedCalls_differ (first second : String) :
    DifferInSecrets (pricedCall first) (pricedCall second) :=
  { created := rfl
    dictionaries := ⟨pricedCall_isDictionary first, pricedCall_isDictionary second⟩
    same := by rw [pricedCall, pricedCall, withoutSecrets_priced, withoutSecrets_priced] }

theorem pricedCall_valid (price : String) : IsValidEvent sha256Hex (pricedCall price).event := by
  have fieldwise : ∀ field ∈ pricedFields price "",
      ∃ document, field.2.toDocument canonicalOptions = .ok document := by
    have payload : ∃ document, (Value.dict (named [("price", .str price)])).toDocument
        canonicalOptions = .ok document := toDocument_named_ok rfl (by simp)
    have provenance : ∃ document, (Value.dict (named [])).toDocument canonicalOptions =
        .ok document := toDocument_named_ok rfl (by simp)
    simpa [pricedFields, envelopeFields, pricedArguments] using ⟨payload, provenance⟩
  obtain ⟨document, converted⟩ := toDocument_named_ok rfl fieldwise
  have dumped := canonicalJson_of_toDocument converted
  refine isValidEvent_of_built (buildEventEnvelope_eq_ok.mpr ⟨_, dumped, ?_⟩) ?_ rfl
  · rw [pricedCall, pricedHash, dumped]
    rfl
  · simp [pricedArguments, allowedEventTypes]

theorem pricedCall_stable (price : String) :
    (Value.dict (pricedCall price).event).KeyOrderStable := by
  have names : namesAscend (requiredEventFields.map Key.str) := by
    unfold namesAscend
    decide +kernel
  refine ⟨by rw [pricedCall, names_priced]; exact names, ?_⟩
  simp [pricedCall, pricedFields, envelopeFields, pricedArguments, named,
    Value.KeyOrderStable, Value.KeyOrderStableEntries, namesAscend, sortKeys]

theorem pricedCall_succeeds (price : String) :
    Succeed sha256Hex "archive" [pricedCall price] :=
  succeed_of_valid (pricedCall_valid price) (pricedCall_stable price)

theorem prices_exports_agree_iff :
    ∃ first second,
      (archiveAfter sha256Hex "archive" [pricedCall "2300"]).exportRedacted sha256Hex = .ok first ∧
      (archiveAfter sha256Hex "archive" [pricedCall "2400"]).exportRedacted sha256Hex =
        .ok second ∧
      (first = second ↔
        ∀ pair ∈ [(pricedCall "2300", pricedCall "2400")],
          eventHash sha256Hex pair.1.event = eventHash sha256Hex pair.2.event) :=
  redacted_exports_agree_iff sha256Hex "archive" "archive"
    [(pricedCall "2300", pricedCall "2400")] (by simp [pricedCalls_differ])
    (pricedCall_succeeds "2300") (pricedCall_succeeds "2400")

/-- The exports of two archives that differ in a price are different files. -/
theorem prices_exports_differ :
    DifferInSecrets (pricedCall "2300") (pricedCall "2400") ∧
      Succeed sha256Hex "archive" [pricedCall "2300"] ∧
      Succeed sha256Hex "archive" [pricedCall "2400"] ∧
      ∃ first second,
        (archiveAfter sha256Hex "archive" [pricedCall "2300"]).exportRedacted sha256Hex =
          .ok first ∧
        (archiveAfter sha256Hex "archive" [pricedCall "2400"]).exportRedacted sha256Hex =
          .ok second ∧
        first ≠ second := by
  have hashes : eventHash sha256Hex (pricedCall "2300").event ≠
      eventHash sha256Hex (pricedCall "2400").event := by
    decide +kernel
  have differ : ∀ pair ∈ [(pricedCall "2300", pricedCall "2400")],
      DifferInSecrets pair.1 pair.2 := by
    simp [pricedCalls_differ]
  obtain ⟨records, read, areRecords, linked⟩ :=
    records_archiveAfter (pricedCall_succeeds "2300")
  obtain ⟨others, otherRead, areOthers, otherLinked⟩ :=
    records_archiveAfter (pricedCall_succeeds "2400")
  obtain ⟨exported, otherExported, mapped, otherMapped, solid, otherSolid, same⟩ :=
    exportAll_eq_iff differ areRecords areOthers linked otherLinked
  refine ⟨pricedCalls_differ _ _, pricedCall_succeeds _, pricedCall_succeeds _,
    unlines exported, unlines otherExported, exportRedacted_eq_ok read mapped,
    exportRedacted_eq_ok otherRead otherMapped, ?_⟩
  rw [Ne, unlines_eq_iff solid otherSolid, same rfl]
  simpa using hashes

end Priced

end SuperAdvisor.Persistence
