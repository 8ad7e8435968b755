import SuperAdvisor.Foundation.LogEdits
import SuperAdvisor.Persistence.HashChains

/-!
# The logs that successful appends leave

The lines of both logs decode to linked records.  The archive has read all its
hashes after an append that returned; the ledger has not read the hash of its
last entry yet.
-/

namespace SuperAdvisor.Persistence

open Python ChainedLog Machine Events

section Digest

variable (sha256Hex : List Char → String)

/-- The hash is the fingerprint of the event. -/
def SignsEvent (hash : String) (event : Value) : Prop :=
  ∃ text, canonicalJson event = .ok text ∧ hash = fingerprint sha256Hex text

/-- The hash is the fingerprint of the payload with the kind. -/
def SignsPayload (hash kind : String) (payload : Value) : Prop :=
  ∃ fields text, payload = .dict fields ∧ canonicalJson (.dict (withKind fields kind)) = .ok text ∧
    hash = fingerprint sha256Hex text

def LedgerEntry.Signed (entry : LedgerEntry) : Prop :=
  SignsPayload sha256Hex entry.recordHash entry.kind entry.payload

/-- The record of an event, as it is read. -/
structure IsRecordOf (event : List (Key × Value)) (createdAt : String)
    (record : ArchiveRecord) : Prop where
  valid : IsValidEvent sha256Hex event
  id : ∃ eventId, lookupEntry event (.str "event_id") = some eventId ∧
    record.recordId = (eventId.reload canonicalOptions).text
  created : record.createdAtUtc = createdAt
  content : record.event = (Value.dict event).reload canonicalOptions
  signed : SignsEvent sha256Hex record.recordHash (.dict event)

/-- Both logs are stored chains, and the archive has right hashes. -/
def Stores.Linked (stores : Stores) : Prop :=
  (∃ entries, (archiveFormat sha256Hex).Stored stores.archive.file entries ∧
      ∀ entry ∈ entries, SignsEvent sha256Hex entry.2.recordHash entry.2.event) ∧
    ∃ entries, (ledgerFormat sha256Hex).Stored stores.ledger.file entries

end Digest

variable {sha256Hex : List Char → String}

theorem checkRecordHash_eq_ok {record : ArchiveRecord} :
    checkRecordHash sha256Hex record = .ok () ↔
      SignsEvent sha256Hex record.recordHash record.event := by
  simp only [checkRecordHash, except_bind_eq_ok, printed_eq_ok, SignsEvent]
  refine exists_congr fun text => and_congr_right fun _ => ?_
  by_cases same : record.recordHash = fingerprint sha256Hex text <;> simp [same]

theorem checkEntryHash_eq_ok {entry : LedgerEntry} :
    checkEntryHash sha256Hex entry = .ok () ↔ entry.Signed sha256Hex := by
  unfold checkEntryHash LedgerEntry.Signed SignsPayload
  split
  next fields shape =>
    simp only [except_bind_eq_ok, printed_eq_ok, shape, Value.dict.injEq]
    constructor
    · rintro ⟨text, hashed, checked⟩
      refine ⟨fields, text, rfl, hashed, ?_⟩
      by_contra other
      simp [other] at checked
    · rintro ⟨_, text, rfl, hashed, same⟩
      exact ⟨text, hashed, by simp [same]⟩
  next other =>
    refine iff_of_false (by simp) ?_
    rintro ⟨fields, -, shape, -⟩
    exact other fields shape

/-- A line decodes to the record of its fields. -/
theorem decodeRecord_eq_ok {line : List Char} {record : ArchiveRecord} :
    decodeRecord line = .ok record ↔
      ∃ payload, decodeLine line = .ok payload ∧
        fieldText payload "record_id" = .ok record.recordId ∧
        fieldText payload "created_at_utc" = .ok record.createdAtUtc ∧
        field payload "event" = .ok record.event ∧
        fieldText payload "record_hash" = .ok record.recordHash ∧
        fieldText payload "previous_hash" = .ok record.previousHash := by
  simp only [decodeRecord, except_bind_eq_ok, Except.ok.injEq]
  constructor
  · rintro ⟨payload, read, _, recordId, _, createdAt, _, event, _, hash, _, previous, rfl⟩
    exact ⟨payload, read, recordId, createdAt, event, hash, previous⟩
  · rintro ⟨payload, read, recordId, createdAt, event, hash, previous⟩
    exact ⟨payload, read, _, recordId, _, createdAt, _, event, _, hash, _, previous, rfl⟩

theorem decodeEntry_eq_ok {line : List Char} {entry : LedgerEntry} :
    decodeEntry line = .ok entry ↔
      ∃ payload, decodeLine line = .ok payload ∧
        fieldText payload "entry_id" = .ok entry.entryId ∧
        fieldText payload "created_at_utc" = .ok entry.createdAtUtc ∧
        fieldText payload "kind" = .ok entry.kind ∧
        field payload "payload" = .ok entry.payload ∧
        fieldText payload "previous_hash" = .ok entry.previousHash ∧
        fieldText payload "record_hash" = .ok entry.recordHash := by
  simp only [decodeEntry, except_bind_eq_ok, Except.ok.injEq]
  constructor
  · rintro ⟨payload, read, _, entryId, _, createdAt, _, kind, _, outcome, _, previous, _, hash,
      rfl⟩
    exact ⟨payload, read, entryId, createdAt, kind, outcome, previous, hash⟩
  · rintro ⟨payload, read, entryId, createdAt, kind, outcome, previous, hash⟩
    exact ⟨payload, read, _, entryId, _, createdAt, _, kind, _, outcome, _, previous, _, hash,
      rfl⟩

theorem lookupEntry_of_field
    {entries : List (Key × Value)} {name : String} {value : Value}
    (found : field (.dict entries) name = .ok value) :
    lookupEntry entries (.str name) = some value := by
  unfold field getItem at found
  cases looked : lookupEntry entries (.str name) <;> simp_all [Except.mapError]

namespace EvidenceArchive

theorem verify_valid_iff {archive : EvidenceArchive} :
    (archive.verify sha256Hex).valid = true ↔
      ∃ records, (archiveFormat sha256Hex).records archive.file = .ok records := by
  unfold verify
  cases (archiveFormat sha256Hex).records archive.file <;> simp

variable {archive : EvidenceArchive} {entries : List (List Char × ArchiveRecord)}

/-- The line of a new record continues the chain. -/
theorem stored_nextRecord
    (stored : (archiveFormat sha256Hex).Stored archive.file entries)
    {event : List (Key × Value)} {createdAt : String} {fields : List (String × Value)}
    {line : List Char}
    (made : archive.nextRecord sha256Hex event createdAt = .ok (fields, line)) :
    ∃ record, IsRecordOf sha256Hex event createdAt record ∧
      (archiveFormat sha256Hex).Stored (some (appended archive.file line))
        (entries ++ [(line, record)]) := by
  simp only [nextRecord, except_bind_eq_ok, except_mapError_eq_ok] at made
  obtain ⟨validation, validated, made⟩ := made
  split at made
  next => cases made
  next notInvalid =>
    have valid : validation.valid = true := by simpa using notInvalid
    rw [event_of_valid validated valid] at made
    simp only [except_bind_eq_ok, printed_eq_ok, Option.getD_some] at made
    obtain ⟨records, read, recordId, identified, text, hashed, dumpedLine, dumped, same⟩ := made
    cases same
    obtain rfl := Format.existing_of_stored stored read
    refine ⟨_, ?_, Format.stored_appended stored (isRecordLine_of_canonicalJson dumped)
      (decodeRecord_of_printed dumped) rfl⟩
    exact
      { valid := isValidEvent_iff.mp ⟨validation, validated, valid⟩
        id := ⟨recordId, lookupEntry_of_field identified, rfl⟩
        created := rfl
        content := rfl
        signed := ⟨text, hashed, rfl⟩ }

/-- An append that returns has read the new log with all its hashes. -/
theorem stored_append
    (stored : (archiveFormat sha256Hex).Stored archive.file entries)
    {event : List (Key × Value)} {createdAt updatedAt : String}
    {reply : List (String × Value)}
    (accepted : (archive.append sha256Hex event createdAt updatedAt).1 = .ok reply) :
    ∃ line record, IsRecordOf sha256Hex event createdAt record ∧
      (archiveFormat sha256Hex).Stored
        (archive.append sha256Hex event createdAt updatedAt).2.file
        (entries ++ [(line, record)]) ∧
      ∀ entry ∈ entries ++ [(line, record)],
        SignsEvent sha256Hex entry.2.recordHash entry.2.event := by
  unfold append at accepted ⊢
  cases made : archive.nextRecord sha256Hex event createdAt with
  | error problem => simp [made] at accepted
  | ok next =>
      obtain ⟨fields, line⟩ := next
      obtain ⟨record, isRecord, longer⟩ := stored_nextRecord stored made
      simp only [made] at accepted ⊢
      split at accepted
      next => cases accepted
      next manifest written =>
        refine ⟨line, record, isRecord, by simpa [written] using longer, ?_⟩
        simp only [manifestText, except_bind_eq_ok] at written
        obtain ⟨records, read, -⟩ := written
        intro entry member
        exact checkRecordHash_eq_ok.mp
          (((Format.records_eq_ok_of_stored longer).mp read).2 entry member)

end EvidenceArchive

namespace OutcomeLedger

theorem verify_valid_iff {ledger : OutcomeLedger} :
    (ledger.verify sha256Hex).valid = true ↔
      ∃ entries, (ledgerFormat sha256Hex).records ledger.file = .ok entries := by
  unfold verify
  cases (ledgerFormat sha256Hex).records ledger.file <;> simp

variable {ledger : OutcomeLedger} {entries : List (List Char × LedgerEntry)}

theorem stored_append
    (stored : (ledgerFormat sha256Hex).Stored ledger.file entries)
    {kind : String} {payload : List (Key × Value)} {createdAt : String}
    {reply : List (String × Value)}
    (accepted : (ledger.append sha256Hex kind payload createdAt).1 = .ok reply) :
    ∃ after, (ledgerFormat sha256Hex).Stored
      (ledger.append sha256Hex kind payload createdAt).2.file after := by
  unfold append at accepted ⊢
  cases made : ledger.nextEntry sha256Hex kind payload createdAt with
  | error problem => simp [made] at accepted
  | ok next =>
      simp only [nextEntry, except_bind_eq_ok, printed_eq_ok] at made
      obtain ⟨earlier, read, text, -, line, dumped, same⟩ := made
      cases same
      obtain rfl := Format.existing_of_stored stored read
      exact ⟨_, Format.stored_appended stored (isRecordLine_of_canonicalJson dumped)
        (decodeEntry_of_printed dumped) rfl⟩

end OutcomeLedger

theorem linked_step {stores : Stores} (linked : stores.Linked sha256Hex) {call : StoreCall}
    (succeeded : ∃ reply, (stores.step sha256Hex call).1 = .ok reply) :
    (stores.step sha256Hex call).2.Linked sha256Hex := by
  obtain ⟨⟨records, archive, signed⟩, entries, ledger⟩ := linked
  obtain ⟨reply, accepted⟩ := succeeded
  cases call with
  | appendEvent event createdAt updatedAt =>
      obtain ⟨line, record, -, longer, signed⟩ := EvidenceArchive.stored_append archive accepted
      exact ⟨⟨_, longer, signed⟩, entries, ledger⟩
  | appendEntry kind payload createdAt =>
      exact ⟨⟨records, archive, signed⟩, OutcomeLedger.stored_append ledger accepted⟩

/-- Admissible appends whose keys keep their order all succeed. -/
theorem succeeded_of_ordered {stores : Stores} (intact : stores.Intact sha256Hex)
    (calls : List StoreCall)
    (ordered : ∀ call ∈ calls, call.KeysKeepOrder ∧ call.Admissible sha256Hex) :
    ∀ event ∈ trace (Stores.step sha256Hex) stores calls,
      ∃ reply, event.reply = .ok reply := by
  refine (run_of_guard (Stores.step sha256Hex) (Stores.Intact sha256Hex)
    (fun event => event.call.KeysKeepOrder ∧ event.call.Admissible sha256Hex)
    (fun event => ∃ reply, event.reply = .ok reply)
    (fun stores call intact guard => ⟨intact_step intact guard.1,
      accepted_of_intact intact guard.1 guard.2⟩) intact calls ?_).2
  intro event member
  obtain ⟨early, call, later, shape, rfl⟩ := (mem_trace_iff _).mp member
  exact ordered call (by simp [shape])

end SuperAdvisor.Persistence
