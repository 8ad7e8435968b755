import SuperAdvisor.Persistence.EvidenceArchive

/-!
# The outcome ledger

`OutcomeLedger` keeps a kind and a payload in a hash-chained log.  The hash of
an entry is taken over the payload with the kind written into it.
-/

namespace SuperAdvisor.Persistence

open Python ChainedLog

structure LedgerEntry where
  entryId : String
  createdAtUtc : String
  kind : String
  payload : Value
  previousHash : String
  recordHash : String

def decodeEntry (line : List Char) : Except LogProblem LedgerEntry := do
  let payload ← decodeLine line
  let entryId ← fieldText payload "entry_id"
  let createdAtUtc ← fieldText payload "created_at_utc"
  let kind ← fieldText payload "kind"
  let outcome ← field payload "payload"
  let previousHash ← fieldText payload "previous_hash"
  let recordHash ← fieldText payload "record_hash"
  .ok
    { entryId := entryId
      createdAtUtc := createdAtUtc
      kind := kind
      payload := outcome
      previousHash := previousHash
      recordHash := recordHash }

/-- `payload | {"kind": kind}` for a dictionary -/
def withKind (payload : List (Key × Value)) (kind : String) : List (Key × Value) :=
  setEntry payload (.str "kind") (.str kind)

structure OutcomeLedger where
  ledgerDir : String
  file : Option (List Char)

/-- `payload.get("event_id") or payload.get("entry_id") or "ledger-<position>"` -/
def entryIdOf (payload : List (Key × Value)) (position : Nat) : Value :=
  let eventId := getOr payload "event_id" .none
  let entryId := getOr payload "entry_id" .none
  if eventId.truthy then eventId
  else if entryId.truthy then entryId
  else .str ("ledger-" ++ intText position)

/-- The dictionary an append stores. -/
def entryFields (entryId : Value) (createdAt kind : String) (payload : List (Key × Value))
    (previousHash recordHash : String) : List (String × Value) :=
  [("entry_id", entryId),
    ("created_at_utc", .str createdAt),
    ("kind", .str kind),
    ("payload", .dict payload),
    ("previous_hash", .str previousHash),
    ("record_hash", .str recordHash)]

section Digest

variable (sha256Hex : List Char → String)

def checkEntryHash (entry : LedgerEntry) : Except LogProblem Unit :=
  match entry.payload with
  | .dict payload => do
      let text ← printed (.dict (withKind payload entry.kind))
      if entry.recordHash ≠ fingerprint sha256Hex text then
        .error (.python (.valueError "ledger record hash mismatch"))
      else .ok ()
  | payload =>
      .error (.python (.typeError ("unsupported operand type(s) for |: " ++
        quotedText payload.typeName ++ " and " ++ quotedText "dict")))

def ledgerFormat : Format LogProblem LedgerEntry :=
  { decode := decodeEntry
    previousHash := LedgerEntry.previousHash
    recordHash := LedgerEntry.recordHash
    chainMismatch := .python (.valueError "ledger hash chain mismatch")
    checkHash := checkEntryHash sha256Hex }

/-- The entry and its line, or the exception before the file is replaced. -/
def OutcomeLedger.nextEntry (ledger : OutcomeLedger) (kind : String)
    (payload : List (Key × Value)) (createdAt : String) :
    Except LogProblem (List (String × Value) × List Char) := do
  let entries ← (ledgerFormat sha256Hex).existing ledger.file
  let text ← printed (.dict (withKind payload kind))
  let entry := entryFields (entryIdOf payload (entries.length + 1)) createdAt kind payload
    ((ledgerFormat sha256Hex).headHash entries) (fingerprint sha256Hex text)
  let line ← printed (.dict (named entry))
  .ok (entry, line)

def OutcomeLedger.append (ledger : OutcomeLedger) (kind : String)
    (payload : List (Key × Value)) (createdAt : String) :
    Except LogProblem (List (String × Value)) × OutcomeLedger :=
  match ledger.nextEntry sha256Hex kind payload createdAt with
  | .error problem => (.error problem, ledger)
  | .ok (entry, line) =>
      (.ok entry, { ledger with file := some (appended ledger.file line) })

def OutcomeLedger.verify (ledger : OutcomeLedger) : Verification :=
  match (ledgerFormat sha256Hex).records ledger.file with
  | .error problem =>
      { directory := ledger.ledgerDir
        count := 0
        lastRecordHash := none
        valid := false
        error := some problem }
  | .ok entries =>
      { directory := ledger.ledgerDir
        count := entries.length
        lastRecordHash := (ledgerFormat sha256Hex).lastHash? entries
        valid := true
        error := none }

end Digest

variable {sha256Hex : List Char → String}

/-- The keys of a payload are texts, and the payload with its kind keeps the
order of its keys. -/
structure IsRecordable (kind : String) (payload : List (Key × Value)) : Prop where
  texts : ∀ entry ∈ payload, entry.1.isStr = true
  stable : (Value.dict (withKind payload kind)).KeyOrderStable

/-- Writing a text into a record that has a form gives one that has a form. -/
private theorem setEntry_converted
    {fields : List (String × Value)} {document : JsonText.Document}
    (converted : (Value.dict (named fields)).toDocument canonicalOptions = .ok document)
    (name text : String) :
    ∃ document, (Value.dict (setEntry (named fields) (.str name) (.str text))).toDocument
      canonicalOptions = .ok document := by
  rw [setEntry_named]
  apply toDocument_named_ok rfl
  intro entry member
  rcases OrderedDict.mem_set member with written | old
  · rw [written]
    exact ⟨.string text, rfl⟩
  · exact toDocument_named_field rfl converted old

/-- A line printed from the fields of an entry decodes to this entry. -/
theorem decodeEntry_of_printed
    {entryId : Value} {createdAt kind previous hash : String} {payload : List (Key × Value)}
    {line : List Char}
    (dumped : canonicalJson (.dict (named (entryFields entryId createdAt kind payload previous
      hash))) = .ok line) :
    decodeEntry line = .ok
      { entryId := (entryId.reload canonicalOptions).text
        createdAtUtc := createdAt
        kind := kind
        payload := (Value.dict payload).reload canonicalOptions
        previousHash := previous
        recordHash := hash } := by
  have distinct : (OrderedDict.keys
      (entryFields entryId createdAt kind payload previous hash)).Nodup := by
    simp [entryFields, OrderedDict.keys]
  obtain ⟨loaded, decoded, reading⟩ := field_of_printed distinct dumped
  have entryIdRead := reading "entry_id" _ rfl
  have createdAtRead := reading "created_at_utc" _ rfl
  have kindRead := reading "kind" _ rfl
  have payloadRead := reading "payload" _ rfl
  have previousRead := reading "previous_hash" _ rfl
  have hashRead := reading "record_hash" _ rfl
  simp [decodeEntry, fieldText, decoded, entryIdRead, createdAtRead, kindRead, payloadRead,
    previousRead, hashRead, Except.map, bind, Except.bind, Value.text]

/-- The line reads back as the next entry, if the payload with its kind keeps
its hash when it is loaded. -/
private theorem readLine_of_entry
    {entryId : Value} {createdAt kind previous : String} {fields : List (String × Value)}
    {document : JsonText.Document} {text line : List Char}
    (converted : (Value.dict (named fields)).toDocument canonicalOptions = .ok document)
    (hashed : canonicalJson (.dict (withKind (named fields) kind)) = .ok text)
    (stable : (Value.dict (withKind (named fields) kind)).KeyOrderStable)
    (dumped : canonicalJson (.dict (named (entryFields entryId createdAt kind (named fields)
      previous (fingerprint sha256Hex text)))) = .ok line) :
    ∃ entry, (ledgerFormat sha256Hex).readLine previous line = .ok entry := by
  have decoded := decodeEntry_of_printed dumped
  rw [reload_dict converted] at decoded
  have again : printed (.dict (withKind (reloadEntries canonicalOptions (named fields)) kind)) =
      .ok text :=
    printed_eq_ok.mpr (dumps_setEntry_reload rfl "kind" kind stable converted hashed)
  simp [Format.readLine, ledgerFormat, decoded, checkEntryHash, again, bind, Except.bind]

private theorem entryIdOf_converted
    {fields : List (String × Value)} {document : JsonText.Document}
    (converted : (Value.dict (named fields)).toDocument canonicalOptions = .ok document)
    (position : Nat) :
    ∃ document, (entryIdOf (named fields) position).toDocument canonicalOptions =
      .ok document := by
  have chosen : ∀ name, (getOr (named fields) name .none).truthy = true →
      ∃ document, (getOr (named fields) name .none).toDocument canonicalOptions =
        .ok document := by
    intro name truthy
    rw [getOr, lookupEntry_named] at truthy ⊢
    cases found : OrderedDict.get? fields name with
    | none => simp [found, Value.truthy] at truthy
    | some value => exact toDocument_named_field rfl converted (OrderedDict.mem_of_get? found)
  unfold entryIdOf
  dsimp only
  split
  next truthy => exact chosen "event_id" truthy
  next =>
    split
    next truthy => exact chosen "entry_id" truthy
    next => exact ⟨_, rfl⟩

/-- A payload with a form becomes the next entry of an intact ledger. -/
theorem nextEntry_of_converted
    {ledger : OutcomeLedger} {entries : List LedgerEntry}
    (intact : (ledgerFormat sha256Hex).Intact ledger.file entries)
    {kind : String} {payload : List (Key × Value)} (recordable : IsRecordable kind payload)
    {document : JsonText.Document}
    (converted : (Value.dict payload).toDocument canonicalOptions = .ok document)
    (createdAt : String) :
    ∃ entry line next, ledger.nextEntry sha256Hex kind payload createdAt = .ok (entry, line) ∧
      (ledgerFormat sha256Hex).Intact (some (appended ledger.file line)) (entries ++ [next]) := by
  obtain ⟨texts, stable⟩ := recordable
  obtain ⟨fields, rfl⟩ := exists_named texts
  obtain ⟨withKindDocument, withKindConverted⟩ := setEntry_converted converted "kind" kind
  have hashed : canonicalJson (.dict (withKind (named fields) kind)) =
      .ok (JsonText.render false withKindDocument) :=
    canonicalJson_of_toDocument withKindConverted
  obtain ⟨idDocument, idConverted⟩ := entryIdOf_converted converted (entries.length + 1)
  have fieldwise : ∀ entry ∈ entryFields (entryIdOf (named fields) (entries.length + 1))
      createdAt kind (named fields) ((ledgerFormat sha256Hex).headHash entries)
      (fingerprint sha256Hex (JsonText.render false withKindDocument)),
      ∃ converted, entry.2.toDocument canonicalOptions = .ok converted := by
    simp [entryFields, idConverted, converted]
  obtain ⟨entryDocument, entryConverted⟩ := toDocument_named_ok rfl fieldwise
  have dumped := canonicalJson_of_toDocument entryConverted
  obtain ⟨next, read⟩ := readLine_of_entry converted hashed stable dumped
  refine ⟨entryFields (entryIdOf (named fields) (entries.length + 1)) createdAt kind
      (named fields) ((ledgerFormat sha256Hex).headHash entries)
      (fingerprint sha256Hex (JsonText.render false withKindDocument)), _, next, ?_,
    Format.intact_appended intact (isRecordLine_of_canonicalJson dumped) read⟩
  simp [OutcomeLedger.nextEntry, Format.existing_of_intact intact, printed_eq_ok.mpr hashed,
    printed_eq_ok.mpr dumped, bind, Except.bind]

namespace OutcomeLedger

/-- An intact ledger accepts every payload with a canonical JSON form whose
keys keep their order. -/
theorem append_of_printed
    {ledger : OutcomeLedger} {entries : List LedgerEntry}
    (intact : (ledgerFormat sha256Hex).Intact ledger.file entries)
    {kind : String} {payload : List (Key × Value)} (recordable : IsRecordable kind payload)
    {text : List Char} (dumped : canonicalJson (.dict payload) = .ok text) (createdAt : String) :
    ∃ entry next, (ledger.append sha256Hex kind payload createdAt).1 = .ok entry ∧
      (ledgerFormat sha256Hex).Intact
        (ledger.append sha256Hex kind payload createdAt).2.file (entries ++ [next]) := by
  obtain ⟨document, converted, -⟩ := except_map_eq_ok.mp dumped
  obtain ⟨entry, line, next, made, longer⟩ :=
    nextEntry_of_converted intact recordable converted createdAt
  refine ⟨entry, next, ?_, ?_⟩
  · simp [append, made]
  · simpa [append, made] using longer

private theorem nextEntry_eq_ok
    {ledger : OutcomeLedger} {kind createdAt : String} {payload : List (Key × Value)}
    {entry : List (String × Value)} {line : List Char}
    (made : ledger.nextEntry sha256Hex kind payload createdAt = .ok (entry, line)) :
    IsRecordLine line ∧
      ∃ document, (Value.dict payload).toDocument canonicalOptions = .ok document := by
  simp only [nextEntry, except_bind_eq_ok, printed_eq_ok] at made
  obtain ⟨_, -, _, -, printedLine, dumped, same⟩ := made
  cases same
  obtain ⟨document, converted, -⟩ := except_map_eq_ok.mp dumped
  refine ⟨isRecordLine_of_canonicalJson dumped, ?_⟩
  exact @toDocument_named_field _ rfl _ _ converted ("payload", .dict payload)
    (by simp [entryFields])

theorem append_extends
    (ledger : OutcomeLedger) (kind : String) (payload : List (Key × Value))
    (createdAt : String) :
    Extends ledger.file (ledger.append sha256Hex kind payload createdAt).2.file := by
  unfold append
  split
  next => exact .inl rfl
  next entry line made => exact .inr ⟨line, (nextEntry_eq_ok made).1, rfl⟩

theorem append_intact
    {ledger : OutcomeLedger} {entries : List LedgerEntry}
    (intact : (ledgerFormat sha256Hex).Intact ledger.file entries)
    {kind : String} {payload : List (Key × Value)} (recordable : IsRecordable kind payload)
    (createdAt : String) :
    ∃ after, (ledgerFormat sha256Hex).Intact
      (ledger.append sha256Hex kind payload createdAt).2.file after := by
  cases made : ledger.nextEntry sha256Hex kind payload createdAt with
  | error problem => exact ⟨entries, by simpa [append, made] using intact⟩
  | ok next =>
      obtain ⟨-, document, converted⟩ := nextEntry_eq_ok made
      obtain ⟨-, last, -, longer⟩ :=
        append_of_printed intact recordable (canonicalJson_of_toDocument converted) createdAt
      exact ⟨entries ++ [last], longer⟩

theorem verify_of_intact
    {ledger : OutcomeLedger} {entries : List LedgerEntry}
    (intact : (ledgerFormat sha256Hex).Intact ledger.file entries) :
    (ledger.verify sha256Hex).valid = true ∧
      (ledger.verify sha256Hex).count = (storedLines ledger.file).length := by
  simp [verify, Format.records_of_intact intact, Format.length_of_intact intact]

end OutcomeLedger

end SuperAdvisor.Persistence
