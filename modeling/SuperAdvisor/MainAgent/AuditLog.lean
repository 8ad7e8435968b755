import SuperAdvisor.MainAgent.Runtime
import SuperAdvisor.Persistence.LogLines

/-!
# The records of the audit log

An audit event is printed on one line of the log and read back from it.  The
log is a chain: an event names the hash of the event before it, and its own
hash is the digest of the event with an empty hash.  The manager reads only the
hash of the last line, which is the hash the next event of an intact log names.
-/

namespace SuperAdvisor.MainAgent

open Python ChainedLog

/-- What can be wrong with a line of the audit log. -/
inductive AuditDefect where
  | undecodable
  | chainMismatch
  | hashMismatch
  deriving DecidableEq

/-- `record[name]`, which has to be a text -/
def textField (record : Value) (name : String) : Except AuditDefect String :=
  match getItem record name with
  | .ok (.str text) => .ok text
  | _ => .error .undecodable

def decodeAuditEvent (line : List Char) : Except AuditDefect AuditEvent := do
  let record ←
    match loads line with
    | some record => .ok record
    | none => .error .undecodable
  let createdAtUtc ← textField record "created_at_utc"
  let eventType ← textField record "event_type"
  let taskId ← textField record "task_id"
  let detail ← textField record "detail"
  let previousHash ← textField record "previous_hash"
  let recordHash ← textField record "record_hash"
  .ok
    { createdAtUtc := createdAtUtc
      eventType := eventType
      taskId := taskId
      detail := detail
      previousHash := previousHash
      recordHash := recordHash }

def AuditEvent.unhashed (event : AuditEvent) : AuditEvent :=
  { event with recordHash := "" }

section Digest

variable (sha256Hex : List Char → String)

def checkAuditHash (event : AuditEvent) : Except AuditDefect Unit :=
  match canonicalJson event.unhashed.toValue with
  | .ok text =>
      if event.recordHash = sha256Hex text then .ok () else .error .hashMismatch
  | .error _ => .error .undecodable

def auditFormat : Format AuditDefect AuditEvent :=
  { decode := decodeAuditEvent
    previousHash := AuditEvent.previousHash
    recordHash := AuditEvent.recordHash
    chainMismatch := .chainMismatch
    checkHash := checkAuditHash sha256Hex }

end Digest

theorem AuditEvent.exists_canonicalJson (event : AuditEvent) :
    ∃ line, canonicalJson event.toValue = .ok line := by
  obtain ⟨document, converted⟩ : ∃ document,
      event.toValue.toDocument canonicalOptions = .ok document := by
    refine toDocument_named_ok rfl ?_
    intro field member
    simp only [List.mem_cons, List.not_mem_nil, or_false] at member
    rcases member with rfl | rfl | rfl | rfl | rfl | rfl <;> exact ⟨_, rfl⟩
  exact ⟨_, Persistence.canonicalJson_of_toDocument converted⟩

private theorem textField_of_printed
    {fields : List (String × Value)} (distinct : (OrderedDict.keys fields).Nodup)
    {line : List Char} (printed : canonicalJson (.dict (named fields)) = .ok line) :
    ∃ record, loads line = some record ∧
      ∀ name text, OrderedDict.get? fields name = some (.str text) →
        textField record name = .ok text := by
  obtain ⟨document, converted, -⟩ := except_map_eq_ok.mp printed
  have loaded := loads_dumps printed
  rw [reload_named rfl distinct converted] at loaded
  refine ⟨_, loaded, ?_⟩
  intro name text found
  rw [textField, getItem_named, OrderedDict.get?_map, get?_sortByName distinct, found]
  rfl

/-- A printed event is read back as it was. -/
theorem decodeAuditEvent_of_printed
    {event : AuditEvent} {line : List Char} (printed : canonicalJson event.toValue = .ok line) :
    decodeAuditEvent line = .ok event := by
  obtain ⟨record, loaded, read⟩ :=
    textField_of_printed (by simp [OrderedDict.keys]) printed
  simp only [decodeAuditEvent, loaded, bind, Except.bind,
    read "created_at_utc" _ rfl, read "event_type" _ rfl, read "task_id" _ rfl,
    read "detail" _ rfl, read "previous_hash" _ rfl, read "record_hash" _ rfl]

private theorem getItem_of_textField
    {record : Value} {name text : String} (read : textField record name = .ok text) :
    getItem record name = .ok (.str text) := by
  unfold textField at read
  split at read
  · next found =>
      cases read
      exact found
  · cases read

/-- What is read as an event holds the hash of the event. -/
theorem recordHash_of_decodeAuditEvent
    {line : List Char} {event : AuditEvent} (decoded : decodeAuditEvent line = .ok event) :
    ∃ record, loads line = some record ∧
      getItem record "record_hash" = .ok (.str event.recordHash) := by
  cases loaded : loads line with
  | none => simp [decodeAuditEvent, loaded, bind, Except.bind] at decoded
  | some record =>
      simp only [decodeAuditEvent, loaded, except_bind_eq_ok] at decoded
      obtain ⟨_, same, _, -, _, -, _, -, _, -, _, -, hash, read, built⟩ := decoded
      cases same
      cases built
      exact ⟨record, rfl, getItem_of_textField read⟩

variable {sha256Hex : List Char → String} {file : Option (List Char)} {events : List AuditEvent}

/-- The hash of the last line is the one the next event of an intact log names. -/
theorem previousHash_of_intact (intact : (auditFormat sha256Hex).Intact file events) :
    previousHash file = .ok ((auditFormat sha256Hex).headHash events) := by
  cases file with
  | none =>
      obtain ⟨-, rfl⟩ | ⟨line, event, stored, -⟩ := Format.decode_last_of_intact intact
      · rfl
      · cases stored
  | some text =>
      obtain ⟨stored, rfl⟩ | ⟨line, event, stored, last, decoded⟩ :=
        Format.decode_last_of_intact intact
      · rw [storedLines, Option.getD_some] at stored
        simp [previousHash, stored, Format.headHash, Format.lastHash?]
      · obtain ⟨record, loaded, found⟩ := recordHash_of_decodeAuditEvent decoded
        rw [storedLines, Option.getD_some] at stored
        simp only [previousHash, stored, loaded, found, Format.headHash, Format.lastHash?, last]
        rfl

/-- The event that names the last hash of the log and then its own digest continues the log. -/
theorem intact_next
    (intact : (auditFormat sha256Hex).Intact file events) {now eventType taskId detail : String}
    {text line : List Char}
    (unhashed : canonicalJson (AuditEvent.toValue
      ⟨now, eventType, taskId, detail, (auditFormat sha256Hex).headHash events, ""⟩) = .ok text)
    (printed : canonicalJson (AuditEvent.toValue
      ⟨now, eventType, taskId, detail, (auditFormat sha256Hex).headHash events, sha256Hex text⟩) =
        .ok line) :
    ∃ event : AuditEvent, event.eventType = eventType ∧ event.taskId = taskId ∧
      event.detail = detail ∧
      (auditFormat sha256Hex).Intact (some (file.getD [] ++ (line ++ ['\n']))) (events ++ [event]) := by
  refine ⟨⟨now, eventType, taskId, detail, (auditFormat sha256Hex).headHash events,
    sha256Hex text⟩, rfl, rfl, rfl, ?_⟩
  rw [← List.append_assoc]
  apply Format.intact_appended intact (Persistence.isRecordLine_of_canonicalJson printed)
  generalize (auditFormat sha256Hex).headHash events = previous at unhashed printed ⊢
  simp [Format.readLine, auditFormat, decodeAuditEvent_of_printed printed, checkAuditHash,
    AuditEvent.unhashed, unhashed, bind, Except.bind]

end SuperAdvisor.MainAgent
