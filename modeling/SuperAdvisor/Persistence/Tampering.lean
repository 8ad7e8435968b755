import SuperAdvisor.Persistence.StoredLogs

/-!
# Tampering with the logs

What `verify` makes of a log in which the value of one field was changed, or a
line was deleted, duplicated or swapped with another.  The hash of a record
covers its event, or the kind and the payload of an entry, but neither the ids,
nor the time, nor the hash before it; and nothing tells where a log ends.
-/

namespace SuperAdvisor.Persistence

open Python ChainedLog Machine

def archiveNames : List String :=
  ["record_id", "created_at_utc", "event", "previous_hash", "record_hash"]

def ledgerNames : List String :=
  ["entry_id", "created_at_utc", "kind", "payload", "previous_hash", "record_hash"]

/-- A line that differs from an old one in the value of one field. -/
structure SetsField (names : List String) (old : List Char) (name : String) (value : Value)
    (line : List Char) : Prop where
  solid : IsRecordLine line
  listed : name ∈ names
  reads : ∃ before after, decodeLine old = .ok before ∧ decodeLine line = .ok after ∧
    field after name = .ok value ∧
    ∀ other ∈ names, other ≠ name → field after other = field before other

/-- A change of a log by somebody who edits its file. -/
inductive Tampering where
  | setField (position : Nat) (name : String) (value : Value) (line : List Char)
  | rearrange (change : Rearrangement)

def Tampering.Fits (names : List String) (lines : List (List Char)) : Tampering → Prop
  | .setField position name value line =>
      ∃ old, lines[position]? = some old ∧ SetsField names old name value line
  | .rearrange change => change.Fits lines.length

def Tampering.apply (lines : List (List Char)) : Tampering → List (List Char)
  | .setField position _ _ line => lines.set position line
  | .rearrange change => change.apply lines

def EvidenceArchive.tampered (archive : EvidenceArchive) (change : Tampering) :
    EvidenceArchive :=
  { archive with file := some (unlines (change.apply (storedLines archive.file))) }

def OutcomeLedger.tampered (ledger : OutcomeLedger) (change : Tampering) : OutcomeLedger :=
  { ledger with file := some (unlines (change.apply (storedLines ledger.file))) }

def ArchiveRecord.setField (record : ArchiveRecord) (value : Value) : String → ArchiveRecord
  | "record_id" => { record with recordId := value.text }
  | "created_at_utc" => { record with createdAtUtc := value.text }
  | "event" => { record with event := value }
  | "previous_hash" => { record with previousHash := value.text }
  | "record_hash" => { record with recordHash := value.text }
  | _ => record

def LedgerEntry.setField (entry : LedgerEntry) (value : Value) : String → LedgerEntry
  | "entry_id" => { entry with entryId := value.text }
  | "created_at_utc" => { entry with createdAtUtc := value.text }
  | "kind" => { entry with kind := value.text }
  | "payload" => { entry with payload := value }
  | "previous_hash" => { entry with previousHash := value.text }
  | "record_hash" => { entry with recordHash := value.text }
  | _ => entry

section Conditions

variable (sha256Hex : List Char → String)

/-- The values a field of a record can be given unnoticed. -/
def ArchiveRecord.Hides (record : ArchiveRecord) (value : Value) : String → Prop
  | "event" => SignsEvent sha256Hex record.recordHash value
  | "previous_hash" => value.text = record.previousHash
  | "record_hash" => value.text = record.recordHash
  | _ => True

/-- The values a field of an entry can be given unnoticed. -/
def LedgerEntry.Hides (entry : LedgerEntry) (isLast : Prop) (value : Value) : String → Prop
  | "kind" => SignsPayload sha256Hex entry.recordHash value.text entry.payload
  | "payload" => SignsPayload sha256Hex entry.recordHash entry.kind value
  | "previous_hash" => value.text = entry.previousHash ∧ entry.Signed sha256Hex
  | "record_hash" =>
      SignsPayload sha256Hex value.text entry.kind entry.payload ∧
        (isLast ∨ value.text = entry.recordHash)
  | _ => entry.Signed sha256Hex

/-- The changes of an archive that its hashes do not show. -/
def archiveHides (records : List ArchiveRecord) : Tampering → Prop
  | .setField position name value _ =>
      ∃ record, records[position]? = some record ∧ record.Hides sha256Hex value name
  | .rearrange change => (archiveFormat sha256Hex).Hides records change

/-- The changes of a ledger that its hashes do not show. -/
def ledgerHides (entries : List LedgerEntry) : Tampering → Prop
  | .setField position name value _ =>
      ∃ entry, entries[position]? = some entry ∧
        entry.Hides sha256Hex (position + 1 = entries.length) value name ∧
        ∀ other ∈ entries.eraseIdx position, other.Signed sha256Hex
  | .rearrange change =>
      (ledgerFormat sha256Hex).Hides entries change ∧
        ∀ entry ∈ change.apply entries, entry.Signed sha256Hex

end Conditions

section Rules

variable {sha256Hex : List Char → String}

theorem decodeRecord_setField
    {old line : List Char} {record : ArchiveRecord} (decoded : decodeRecord old = .ok record)
    {name : String} {value : Value} (sets : SetsField archiveNames old name value line) :
    decodeRecord line = .ok (record.setField value name) := by
  obtain ⟨before, after, readBefore, readAfter, written, kept⟩ := sets.reads
  obtain ⟨payload, read, recordId, createdAt, event, hash, previous⟩ :=
    decodeRecord_eq_ok.mp decoded
  obtain rfl : before = payload := Except.ok.inj (readBefore.symm.trans read)
  have listed := sets.listed
  simp only [fieldText, archiveNames, List.mem_cons, List.not_mem_nil, or_false,
    forall_eq_or_imp, forall_eq] at listed kept recordId createdAt hash previous
  refine decodeRecord_eq_ok.mpr ⟨after, readAfter, ?_⟩
  rcases listed with rfl | rfl | rfl | rfl | rfl <;>
    simp_all [ArchiveRecord.setField, fieldText, Except.map]

theorem decodeEntry_setField
    {old line : List Char} {entry : LedgerEntry} (decoded : decodeEntry old = .ok entry)
    {name : String} {value : Value} (sets : SetsField ledgerNames old name value line) :
    decodeEntry line = .ok (entry.setField value name) := by
  obtain ⟨before, after, readBefore, readAfter, written, kept⟩ := sets.reads
  obtain ⟨payload, read, entryId, createdAt, kind, outcome, previous, hash⟩ :=
    decodeEntry_eq_ok.mp decoded
  obtain rfl : before = payload := Except.ok.inj (readBefore.symm.trans read)
  have listed := sets.listed
  simp only [fieldText, ledgerNames, List.mem_cons, List.not_mem_nil, or_false,
    forall_eq_or_imp, forall_eq] at listed kept entryId createdAt kind hash previous
  refine decodeEntry_eq_ok.mpr ⟨after, readAfter, ?_⟩
  rcases listed with rfl | rfl | rfl | rfl | rfl | rfl <;>
    simp_all [LedgerEntry.setField, fieldText, Except.map]

/-- Where a stored log has the line that a change replaces. -/
theorem split_of_getElem? {ρ : Type} {entries : List (List Char × ρ)} {position : Nat}
    {old : List Char} (found : (entries.map Prod.fst)[position]? = some old) :
    ∃ early record later, entries = early ++ (old, record) :: later ∧
      early.length = position := by
  have within : position < entries.length := by
    simpa using (List.getElem?_eq_some_iff.mp found).1
  obtain ⟨early, entry, later, rfl, rfl⟩ := exists_split within
  obtain rfl : entry.1 = old := by simpa using found
  exact ⟨early, entry.2, later, rfl, rfl⟩

namespace EvidenceArchive

variable {archive : EvidenceArchive} {entries : List (List Char × ArchiveRecord)}

theorem setField_unnoticed_iff {record : ArchiveRecord} {isLast : Prop}
    (signed : SignsEvent sha256Hex record.recordHash record.event)
    {name : String} (listed : name ∈ archiveNames) (value : Value) :
    ((record.setField value name).previousHash = record.previousHash ∧
        (isLast ∨ (record.setField value name).recordHash = record.recordHash)) ∧
      SignsEvent sha256Hex (record.setField value name).recordHash
        (record.setField value name).event ↔
      record.Hides sha256Hex value name := by
  simp only [archiveNames, List.mem_cons, List.not_mem_nil, or_false] at listed
  rcases listed with rfl | rfl | rfl | rfl | rfl
  · simpa [ArchiveRecord.setField, ArchiveRecord.Hides] using signed
  · simpa [ArchiveRecord.setField, ArchiveRecord.Hides] using signed
  · simp [ArchiveRecord.setField, ArchiveRecord.Hides]
  · simp [ArchiveRecord.setField, ArchiveRecord.Hides, signed]
  · obtain ⟨text, hashed, same⟩ := signed
    simpa [ArchiveRecord.setField, ArchiveRecord.Hides, SignsEvent, hashed, same] using .inr

/-- A change of an archive that verifies goes unnoticed if the hashes hide it. -/
theorem verify_tampered_iff
    (stored : (archiveFormat sha256Hex).Stored archive.file entries)
    (signed : ∀ entry ∈ entries, SignsEvent sha256Hex entry.2.recordHash entry.2.event)
    {change : Tampering} (fits : change.Fits archiveNames (storedLines archive.file)) :
    ((archive.tampered change).verify sha256Hex).valid = true ↔
      archiveHides sha256Hex (entries.map Prod.snd) change := by
  have lines := Format.storedLines_of_stored stored
  rw [verify_valid_iff]
  cases change with
  | rearrange change =>
      rw [tampered, Tampering.apply, Format.read_rearranged_iff stored
        (by simpa [Tampering.Fits, lines] using fits)]
      refine and_iff_left ?_
      intro entry member
      exact checkRecordHash_eq_ok.mpr (signed entry (Rearrangement.mem_of_mem_apply member))
  | setField position name value line =>
      obtain ⟨old, found, sets⟩ := fits
      rw [lines] at found
      obtain ⟨early, record, later, rfl, rfl⟩ := split_of_getElem? found
      have member : (old, record) ∈ early ++ (old, record) :: later := by simp
      have others : ∀ entry ∈ early ++ later,
          (archiveFormat sha256Hex).checkHash entry.2 = .ok () :=
        fun entry inside => checkRecordHash_eq_ok.mpr (signed entry (by
          simp only [List.mem_append, List.mem_cons] at inside ⊢
          tauto))
      have decoded : decodeRecord old = .ok record := stored.decoded _ member
      rw [tampered, Tampering.apply,
        Format.read_replaced_iff stored sets.solid (decodeRecord_setField decoded sets),
        ← and_assoc, and_iff_left others]
      have hides := @setField_unnoticed_iff sha256Hex record (later = []) (signed _ member) name
        sets.listed value
      simpa [archiveHides, archiveFormat, checkRecordHash_eq_ok] using hides

end EvidenceArchive

namespace OutcomeLedger

variable {ledger : OutcomeLedger} {entries : List (List Char × LedgerEntry)}

theorem setField_unnoticed_iff {entry : LedgerEntry} {isLast : Prop} {name : String}
    (listed : name ∈ ledgerNames) (value : Value) :
    ((entry.setField value name).previousHash = entry.previousHash ∧
        (isLast ∨ (entry.setField value name).recordHash = entry.recordHash)) ∧
      (entry.setField value name).Signed sha256Hex ↔
      entry.Hides sha256Hex isLast value name := by
  simp only [ledgerNames, List.mem_cons, List.not_mem_nil, or_false] at listed
  rcases listed with rfl | rfl | rfl | rfl | rfl | rfl <;>
    simp [LedgerEntry.setField, LedgerEntry.Hides, LedgerEntry.Signed, and_comm]

theorem verify_tampered_iff
    (stored : (ledgerFormat sha256Hex).Stored ledger.file entries)
    {change : Tampering} (fits : change.Fits ledgerNames (storedLines ledger.file)) :
    ((ledger.tampered change).verify sha256Hex).valid = true ↔
      ledgerHides sha256Hex (entries.map Prod.snd) change := by
  have lines := Format.storedLines_of_stored stored
  have checks : ∀ {some : List (List Char × LedgerEntry)},
      (∀ entry ∈ some, (ledgerFormat sha256Hex).checkHash entry.2 = .ok ()) ↔
        ∀ entry ∈ some.map Prod.snd, entry.Signed sha256Hex := by
    intro some
    simp only [List.forall_mem_map, ledgerFormat, checkEntryHash_eq_ok]
  rw [verify_valid_iff]
  cases change with
  | rearrange change =>
      rw [tampered, Tampering.apply, Format.read_rearranged_iff stored
        (by simpa [Tampering.Fits, lines] using fits), checks, Rearrangement.map_apply]
      rfl
  | setField position name value line =>
      obtain ⟨old, found, sets⟩ := fits
      rw [lines] at found
      obtain ⟨early, entry, later, rfl, rfl⟩ := split_of_getElem? found
      have decoded : decodeEntry old = .ok entry := stored.decoded (old, entry) (by simp)
      have hides := @setField_unnoticed_iff sha256Hex entry (later = []) name sets.listed value
      rw [tampered, Tampering.apply,
        Format.read_replaced_iff stored sets.solid (decodeEntry_setField decoded sets),
        ← and_assoc, checks]
      have erased : ((early ++ (old, entry) :: later).map Prod.snd).eraseIdx early.length =
          (early ++ later).map Prod.snd := by
        simp [List.eraseIdx_append_of_length_le]
      have found : ((early ++ (old, entry) :: later).map Prod.snd)[early.length]? =
          some entry := by
        simp
      have last : early.length + 1 = ((early ++ (old, entry) :: later).map Prod.snd).length ↔
          later = [] := by
        simp
      simp only [ledgerHides, found, erased, last, Option.some.injEq, exists_eq_left',
        ← hides]
      refine and_congr_left' ?_
      simp [ledgerFormat, checkEntryHash_eq_ok]

end OutcomeLedger

/-- `verify` reports exactly the changes that the hashes of a log do not hide. -/
structure Stores.NoticesExactly (sha256Hex : List Char → String) (stores : Stores) : Prop where
  archive : ∃ records, (storedLines stores.archive.file).map decodeRecord = records.map .ok ∧
    ∀ change : Tampering, change.Fits archiveNames (storedLines stores.archive.file) →
      (((stores.archive.tampered change).verify sha256Hex).valid = false ↔
        ¬archiveHides sha256Hex records change)
  ledger : ∃ entries, (storedLines stores.ledger.file).map decodeEntry = entries.map .ok ∧
    ∀ change : Tampering, change.Fits ledgerNames (storedLines stores.ledger.file) →
      (((stores.ledger.tampered change).verify sha256Hex).valid = false ↔
        ¬ledgerHides sha256Hex entries change)

theorem noticesExactly_of_linked {stores : Stores} (linked : stores.Linked sha256Hex) :
    stores.NoticesExactly sha256Hex := by
  obtain ⟨⟨records, archive, signed⟩, entries, ledger⟩ := linked
  refine ⟨⟨records.map Prod.snd, ?_, ?_⟩, entries.map Prod.snd, ?_, ?_⟩
  · rw [Format.storedLines_of_stored archive, List.map_map, List.map_map]
    exact List.map_congr_left archive.decoded
  · intro change fits
    rw [← EvidenceArchive.verify_tampered_iff archive signed fits, Bool.not_eq_true]
  · rw [Format.storedLines_of_stored ledger, List.map_map, List.map_map]
    exact List.map_congr_left ledger.decoded
  · intro change fits
    rw [← OutcomeLedger.verify_tampered_iff ledger fits, Bool.not_eq_true]

end Rules

theorem freshStores_intact (sha256Hex : List Char → String) (archiveDir ledgerDir : String) :
    (freshStores archiveDir ledgerDir).Intact sha256Hex :=
  ⟨⟨[], Format.intact_none⟩, [], Format.intact_none⟩

/-- Appends of two empty payloads. -/
def twoAppends : List StoreCall :=
  [.appendEntry "outcome" [] "now", .appendEntry "alert" [] "later"]

def twoEntries : Stores :=
  final (Stores.step sha256Hex) (freshStores "archive" "ledger") twoAppends

end SuperAdvisor.Persistence
