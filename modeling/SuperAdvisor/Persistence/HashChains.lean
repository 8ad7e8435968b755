import SuperAdvisor.Foundation.Machine
import SuperAdvisor.Foundation.Sha256
import SuperAdvisor.Persistence.OutcomeLedger

/-!
# Runs of the two logs

In every run of appends whose dictionaries keep the order of their keys when
the keys become texts, both logs verify with one record a line and accept every
further append.  A payload with number keys whose order changes makes the
ledger unusable.
-/

namespace SuperAdvisor.Persistence

open Python ChainedLog Machine

structure Stores where
  archive : EvidenceArchive
  ledger : OutcomeLedger

inductive StoreCall where
  | appendEvent (event : List (Key × Value)) (createdAt updatedAt : String)
  | appendEntry (kind : String) (payload : List (Key × Value)) (createdAt : String)

/-- Stores whose log files do not exist yet. -/
def freshStores (archiveDir ledgerDir : String) : Stores :=
  { archive := { archiveDir := archiveDir, file := none, manifest := none }
    ledger := { ledgerDir := ledgerDir, file := none } }

/-- The event or the payload with its kind keeps the order of its keys, and a
payload has texts as keys. -/
def StoreCall.KeysKeepOrder : StoreCall → Prop
  | .appendEvent event _ _ => (Value.dict event).KeyOrderStable
  | .appendEntry kind payload _ => IsRecordable kind payload

section Digest

variable (sha256Hex : List Char → String)

def Stores.step (stores : Stores) :
    StoreCall → Except LogProblem (List (String × Value)) × Stores
  | .appendEvent event createdAt updatedAt =>
      let (reply, archive) := stores.archive.append sha256Hex event createdAt updatedAt
      (reply, { stores with archive := archive })
  | .appendEntry kind payload createdAt =>
      let (reply, ledger) := stores.ledger.append sha256Hex kind payload createdAt
      (reply, { stores with ledger := ledger })

/-- A valid event, or a payload that canonical JSON can print. -/
def StoreCall.Admissible : StoreCall → Prop
  | .appendEvent event _ _ => ∃ validation,
      Events.validateEventEnvelope sha256Hex event = .ok validation ∧ validation.valid = true
  | .appendEntry _ payload _ => ∃ text, canonicalJson (.dict payload) = .ok text

/-- Both logs verify, with as many records as there are lines. -/
structure Stores.Verifies (stores : Stores) : Prop where
  archive : (stores.archive.verify sha256Hex).valid = true ∧
    (stores.archive.verify sha256Hex).count = (storedLines stores.archive.file).length
  ledger : (stores.ledger.verify sha256Hex).valid = true ∧
    (stores.ledger.verify sha256Hex).count = (storedLines stores.ledger.file).length

/-- Both logs read as chains. -/
def Stores.Intact (stores : Stores) : Prop :=
  (∃ records, (archiveFormat sha256Hex).Intact stores.archive.file records) ∧
    ∃ entries, (ledgerFormat sha256Hex).Intact stores.ledger.file entries

end Digest

section Rules

variable {sha256Hex : List Char → String}

theorem verifies_of_intact {stores : Stores} (intact : stores.Intact sha256Hex) :
    stores.Verifies sha256Hex := by
  obtain ⟨⟨records, archive⟩, entries, ledger⟩ := intact
  exact ⟨EvidenceArchive.verify_of_intact archive, OutcomeLedger.verify_of_intact ledger⟩

theorem intact_step
    {stores : Stores} (intact : stores.Intact sha256Hex) {call : StoreCall}
    (ordered : call.KeysKeepOrder) : (stores.step sha256Hex call).2.Intact sha256Hex := by
  obtain ⟨⟨records, archive⟩, entries, ledger⟩ := intact
  cases call with
  | appendEvent event createdAt updatedAt =>
      exact ⟨EvidenceArchive.append_intact archive ordered createdAt updatedAt, entries, ledger⟩
  | appendEntry kind payload createdAt =>
      exact ⟨⟨records, archive⟩, OutcomeLedger.append_intact ledger ordered createdAt⟩

theorem accepted_of_intact
    {stores : Stores} (intact : stores.Intact sha256Hex) {call : StoreCall}
    (ordered : call.KeysKeepOrder) (admissible : call.Admissible sha256Hex) :
    ∃ stored, (stores.step sha256Hex call).1 = .ok stored := by
  obtain ⟨⟨records, archive⟩, entries, ledger⟩ := intact
  cases call with
  | appendEvent event createdAt updatedAt =>
      obtain ⟨validation, validated, valid⟩ := admissible
      obtain ⟨record, -, accepted, -⟩ := EvidenceArchive.append_of_valid archive validated valid
        ordered createdAt updatedAt
      exact ⟨record, accepted⟩
  | appendEntry kind payload createdAt =>
      obtain ⟨text, dumped⟩ := admissible
      obtain ⟨entry, -, accepted, -⟩ :=
        OutcomeLedger.append_of_printed ledger ordered dumped createdAt
      exact ⟨entry, accepted⟩

/-- Whatever a call returns or raises, both files keep all that they had. -/
theorem extends_step (stores : Stores) (call : StoreCall) :
    Extends stores.archive.file (stores.step sha256Hex call).2.archive.file ∧
      Extends stores.ledger.file (stores.step sha256Hex call).2.ledger.file := by
  cases call with
  | appendEvent event createdAt updatedAt =>
      exact ⟨EvidenceArchive.append_extends _ _ _ _, .inl rfl⟩
  | appendEntry kind payload createdAt =>
      exact ⟨.inl rfl, OutcomeLedger.append_extends _ _ _ _⟩

end Rules

theorem logs_verify_after_ordered_appends
    (sha256Hex : List Char → String) (archiveDir ledgerDir : String) (calls : List StoreCall)
    (ordered : ∀ call ∈ calls, call.KeysKeepOrder) :
    (final (Stores.step sha256Hex) (freshStores archiveDir ledgerDir) calls).Verifies
        sha256Hex ∧
      (∀ call : StoreCall, call.KeysKeepOrder → call.Admissible sha256Hex →
        ∃ stored, (Stores.step sha256Hex
          (final (Stores.step sha256Hex) (freshStores archiveDir ledgerDir) calls) call).1 =
            .ok stored) ∧
      ∀ event ∈ trace (Stores.step sha256Hex) (freshStores archiveDir ledgerDir) calls,
        Extends event.before.archive.file event.after.archive.file ∧
          Extends event.before.ledger.file event.after.ledger.file := by
  have initial : (freshStores archiveDir ledgerDir).Intact sha256Hex :=
    ⟨⟨[], Format.intact_none⟩, [], Format.intact_none⟩
  have guarded : ∀ event ∈ trace (Stores.step sha256Hex) (freshStores archiveDir ledgerDir)
      calls, event.call.KeysKeepOrder := by
    intro event member
    obtain ⟨early, call, later, shape, rfl⟩ := (mem_trace_iff _).mp member
    exact ordered call (by simp [shape])
  have whole := run_of_guard (Stores.step sha256Hex) (Stores.Intact sha256Hex)
    (fun event => event.call.KeysKeepOrder)
    (fun event => Extends event.before.archive.file event.after.archive.file ∧
      Extends event.before.ledger.file event.after.ledger.file)
    (fun stores call intact guard => ⟨intact_step intact guard, extends_step stores call⟩)
    initial calls guarded
  refine ⟨verifies_of_intact whole.1, ?_, whole.2⟩
  intro call keeps admissible
  exact accepted_of_intact whole.1 keeps admissible

/-- A payload with one nested key. -/
def nestedPayload : List (Key × Value) :=
  [(.str "d", .dict [(.int 2, .str "a")])]

theorem nestedPayload_recordable : IsRecordable "outcome" nestedPayload := by
  constructor
  · simp [nestedPayload, Key.isStr]
  · have shape : withKind nestedPayload "outcome" =
        nestedPayload ++ [(.str "kind", .str "outcome")] := by
      simp [nestedPayload, withKind, setEntry, Key.same, Key.number?]
    have names : namesAscend [.str "d", .str "kind"] := by
      unfold namesAscend
      decide +kernel
    rw [shape]
    refine ⟨names, ?_⟩
    simp [nestedPayload, Value.KeyOrderStable, Value.KeyOrderStableEntries, namesAscend,
      sortKeys]

theorem nestedPayload_appends_verify :
    (final (Stores.step sha256Hex) (freshStores "archive" "ledger")
      [.appendEntry "outcome" nestedPayload "now", .appendEntry "outcome" nestedPayload "later"]
      ).Verifies sha256Hex :=
  (logs_verify_after_ordered_appends sha256Hex "archive" "ledger"
    [.appendEntry "outcome" nestedPayload "now", .appendEntry "outcome" nestedPayload "later"]
    (by simp [StoreCall.KeysKeepOrder, nestedPayload_recordable])).1

/-- A payload whose number keys change their order when they become texts. -/
def reorderedPayload : List (Key × Value) :=
  [(.str "d", .dict [(.int 2, .str "a"), (.int 10, .str "b")])]

/-- The stores after one append of the payload. -/
def reorderedStores : Stores :=
  final (Stores.step sha256Hex) (freshStores "archive" "ledger")
    [.appendEntry "outcome" reorderedPayload "now"]

/-- The ledger accepts the payload, then fails to verify and refuses the next
append. -/
theorem reorderedPayload_breaks_ledger :
    (canonicalJson (.dict reorderedPayload)).toOption =
        some "\x7b\"d\":\x7b\"2\":\"a\",\"10\":\"b\"\x7d\x7d".toList ∧
      (reorderedStores.ledger.verify sha256Hex).valid = false ∧
      (storedLines reorderedStores.ledger.file).length = 1 ∧
      (canonicalJson (.dict [])).toOption = some "\x7b\x7d".toList ∧
      (reorderedStores.step sha256Hex (.appendEntry "outcome" [] "later")).1.toOption.isNone =
        true := by
  decide +kernel

end SuperAdvisor.Persistence
