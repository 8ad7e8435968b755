import SuperAdvisor.Foundation.PlainDump
import SuperAdvisor.Foundation.Raising
import SuperAdvisor.Foundation.Sha256
import SuperAdvisor.Persistence.AppendedRecords

/-!
# Appends whose file operations fail

`EvidenceArchive.append` publishes the new log before it writes the manifest,
and for the manifest it reads the published log again.  A failure up to the
replacement leaves both files as they were; after the replacement the record is
in the log whatever happens, so the append is atomic exactly if it then fails
neither at a file operation nor at the second reading.
-/

namespace SuperAdvisor.Persistence

open Python ChainedLog Events Raising

/-- The file operations of an append, in their order.  Seeing whether a file
exists is part of reading it. -/
inductive AppendStep where
  | probe
  | readRecords
  | makeDirectory
  | readExisting
  | writeTemp
  | replace
  | findTemp
  | unlinkTemp
  | verifyRecords
  | writeManifest
  deriving DecidableEq

/-- An operation raises before it does anything, or while it writes a file that
then holds this many characters. -/
inductive Fault where
  | before
  | writing (count : Nat)

abbrev Faults := AppendStep → Option Fault

inductive AppendProblem where
  | log (problem : LogProblem)
  | failed (step : AppendStep)

abbrev Appending := EStateM AppendProblem ArchiveFiles

section Operations

variable (faults : Faults)

def look (step : AppendStep) : Appending (Option (List Char)) := fun files =>
  match faults step with
  | none => .ok files.file files
  | some _ => .error (.failed step) files

/-- An operation that changes the files at once or not at all. -/
def alter (step : AppendStep) (change : ArchiveFiles → ArchiveFiles) : Appending Unit := fun files =>
  match faults step with
  | none => .ok () (change files)
  | some _ => .error (.failed step) files

def storeText (step : AppendStep) (store : List Char → ArchiveFiles → ArchiveFiles)
    (text : List Char) : Appending Unit := fun files =>
  match faults step with
  | none => .ok () (store text files)
  | some .before => .error (.failed step) files
  | some (.writing count) => .error (.failed step) (store (text.take count) files)

def findTemp : Appending Bool := fun files =>
  match faults .findTemp with
  | none => .ok files.temp.isSome files
  | some _ => .error (.failed .findTemp) files

/-- `os.replace` of the temporary file -/
def replaceFile : Appending Unit := fun files =>
  match faults .replace, files.temp with
  | none, some text => .ok () { files with file := some text, temp := none }
  | _, _ => .error (.failed .replace) files

def raisesLog {α : Type} (result : Except LogProblem α) : Appending α :=
  ofExcept (result.mapError .log)

/-- What `atomic_write` does with an exception. -/
def cleanUp (problem : AppendProblem) : Appending Unit := do
  let left ← findTemp faults
  if left then
    alter faults .unlinkTemp (fun files => { files with temp := none })
    throw problem
  else throw problem

/-- `atomic_write`, with the writer of the new log. -/
def atomicWriteUnder (line : List Char) : Appending Unit := do
  alter faults .makeDirectory id
  tryCatch
    (do
      let existing ← look faults .readExisting
      storeText faults .writeTemp (fun text files => { files with temp := some text })
        (appended existing line)
      replaceFile faults)
    (cleanUp faults)

variable (sha256Hex : List Char → String)

/-- The records an append continues: none, if the file is missing or blank. -/
def existingRecordsUnder : Appending (List ArchiveRecord) := do
  let found ← look faults .probe
  if isBlankLine (found.getD []) then pure []
  else do
    let file ← look faults .readRecords
    raisesLog ((archiveFormat sha256Hex).records file)

/-- `_write_manifest` -/
def writeManifestUnder (archiveDir updatedAt : String) : Appending Unit := do
  let file ← look faults .verifyRecords
  let text ← raisesLog
    ((EvidenceArchive.mk archiveDir file none).manifestText sha256Hex updatedAt)
  storeText faults .writeManifest (fun text files => { files with manifest := some text }) text

/-- `EvidenceArchive.append` -/
def appendUnder (archiveDir : String) (call : ArchiveCall) :
    Appending (List (String × Value)) := do
  let validation ← raisesLog ((validateEventEnvelope sha256Hex call.event).mapError .envelope)
  if !validation.valid then
    throw (.log (.python (.valueError ("; ".intercalate
      (validation.issues.map (fun issue => issue.path ++ ": " ++ issue.message))))))
  else do
    let records ← existingRecordsUnder faults sha256Hex
    let made ← raisesLog
      (recordLine sha256Hex (validation.event.getD []) records call.createdAt)
    atomicWriteUnder faults made.2
    writeManifestUnder faults sha256Hex archiveDir call.updatedAt
    pure made.1

end Operations

section Faultless

variable {sha256Hex : List Char → String} {files : ArchiveFiles} {α β : Type}

private theorem run_raisesLog_bind
    (result : Except LogProblem α) (next : α → Appending β) :
    (raisesLog result >>= next).run files =
      match result with
      | .ok value => (next value).run files
      | .error problem => .error (.log problem) files := by
  cases result <;> rfl

private theorem run_existingRecordsUnder_bind (next : List ArchiveRecord → Appending β) :
    (existingRecordsUnder (fun _ => none) sha256Hex >>= next).run files =
      match (archiveFormat sha256Hex).existing files.file with
      | .ok records => (next records).run files
      | .error problem => .error (.log problem) files := by
  have read : (existingRecordsUnder (fun _ => none) sha256Hex).run files =
      match (archiveFormat sha256Hex).existing files.file with
      | .ok records => .ok records files
      | .error problem => .error (.log problem) files := by
    unfold existingRecordsUnder Format.existing
    rw [run_bind]
    show (if isBlankLine (files.file.getD []) then pure [] else _ : Appending _).run files = _
    split
    · rfl
    · rw [run_bind]
      show (raisesLog _ : Appending _).run files = _
      cases (archiveFormat sha256Hex).records files.file <;> rfl
  rw [run_bind, read]
  cases (archiveFormat sha256Hex).existing files.file <;> rfl

private theorem run_writeManifestUnder (archiveDir updatedAt : String) :
    (writeManifestUnder (fun _ => none) sha256Hex archiveDir updatedAt).run files =
      match (files.archive archiveDir).manifestText sha256Hex updatedAt with
      | .ok text => .ok () { files with manifest := some text }
      | .error problem => .error (.log problem) files := by
  have looked : (look (fun _ => none) .verifyRecords).run files = .ok files.file files := rfl
  have same : (EvidenceArchive.mk archiveDir files.file none).manifestText sha256Hex updatedAt =
      (files.archive archiveDir).manifestText sha256Hex updatedAt := rfl
  unfold writeManifestUnder
  rw [run_bind, looked]
  dsimp only
  rw [run_raisesLog_bind, same]
  cases (files.archive archiveDir).manifestText sha256Hex updatedAt <;> rfl

private theorem run_atomicWriteUnder (line : List Char) :
    (atomicWriteUnder (fun _ => none) line).run files =
      .ok () { file := some (appended files.file line), temp := none, manifest := files.manifest } :=
  rfl

/-- Without faults the append does what an append does in one go. -/
theorem run_appendUnder_faultless (archiveDir : String) (call : ArchiveCall) :
    let (reply, archive) := (files.archive archiveDir).append sha256Hex call.event call.createdAt
      call.updatedAt
    ∃ temp, (appendUnder (fun _ => none) sha256Hex archiveDir call).run files =
      match reply with
      | .ok record => .ok record ⟨archive.file, temp, archive.manifest⟩
      | .error problem => .error (.log problem) ⟨archive.file, temp, archive.manifest⟩ := by
  unfold appendUnder EvidenceArchive.append
  rw [run_raisesLog_bind]
  cases validated : (validateEventEnvelope sha256Hex call.event).mapError LogProblem.envelope with
  | error problem =>
      rw [nextRecord_eq, validated]
      exact ⟨files.temp, rfl⟩
  | ok validation =>
      cases valid : validation.valid with
      | false =>
          refine ⟨files.temp, ?_⟩
          rw [nextRecord_eq, validated]
          simp only [valid, Bool.not_false, if_true, Bind.bind, Except.bind]
          rfl
      | true =>
          have next : (files.archive archiveDir).nextRecord sha256Hex call.event call.createdAt =
              ((archiveFormat sha256Hex).existing files.file >>= fun records =>
                recordLine sha256Hex (validation.event.getD []) records call.createdAt) :=
            nextRecord_of_validated validated valid
          simp only [valid, Bool.not_true, Bool.false_eq_true, if_false]
          rw [run_existingRecordsUnder_bind, next]
          cases (archiveFormat sha256Hex).existing files.file with
          | error problem => exact ⟨files.temp, rfl⟩
          | ok records =>
              rw [show (Except.ok records >>= fun records =>
                recordLine sha256Hex (validation.event.getD []) records call.createdAt) =
                  recordLine sha256Hex (validation.event.getD []) records call.createdAt from rfl]
              dsimp only
              rw [run_raisesLog_bind]
              cases recordLine sha256Hex (validation.event.getD []) records call.createdAt with
              | error problem => exact ⟨files.temp, rfl⟩
              | ok made =>
                  refine ⟨none, ?_⟩
                  dsimp only
                  rw [run_bind, run_atomicWriteUnder]
                  dsimp only
                  rw [run_bind, run_writeManifestUnder]
                  have same : (ArchiveFiles.archive ⟨some (appended files.file made.2), none,
                        files.manifest⟩ archiveDir).manifestText sha256Hex call.updatedAt =
                      ({ files.archive archiveDir with
                        file := some (appended (files.archive archiveDir).file made.2) } :
                          EvidenceArchive).manifestText sha256Hex call.updatedAt := rfl
                  rw [same]
                  cases ({ files.archive archiveDir with
                    file := some (appended (files.archive archiveDir).file made.2) } :
                      EvidenceArchive).manifestText sha256Hex call.updatedAt <;> rfl

end Faultless

/-- The manifest gives the number of the records and the hash of the last one. -/
def Describes (sha256Hex : List Char → String) (records : List ArchiveRecord)
    (manifest : Option (List Char)) : Prop :=
  ∃ text payload, manifest = some text ∧ loads text = some payload ∧
    getItem payload "record_count" = .ok (.int records.length) ∧
    getItem payload "hash_chain_head" = .ok (.str ((archiveFormat sha256Hex).headHash records))

/-- An append that raises leaves both files alone, and one that returns adds one
record of the event and the manifest of the new file. -/
def AppendsAtomically (sha256Hex : List Char → String) (files : ArchiveFiles)
    (call : ArchiveCall) :
    EStateM.Result AppendProblem ArchiveFiles (List (String × Value)) → Prop
  | .error _ after => after.file = files.file ∧ after.manifest = files.manifest
  | .ok _ after => ∃ records record,
      (archiveFormat sha256Hex).records files.file = .ok records ∧
      (archiveFormat sha256Hex).records after.file = .ok (records ++ [record]) ∧
      IsRecordOf sha256Hex call.event call.createdAt record ∧
      Describes sha256Hex (records ++ [record]) after.manifest

/-- The operations that read the old log do not fail. -/
def ReadsFreely (faults : Faults) (files : ArchiveFiles) : Prop :=
  faults .probe = none ∧
    (isBlankLine (files.file.getD []) = false → faults .readRecords = none)

/-- The operations that put the new log in place do not fail. -/
def WritesFreely (faults : Faults) : Prop :=
  ∀ step ∈ [AppendStep.makeDirectory, .readExisting, .writeTemp, .replace], faults step = none

/-- The append gets as far as to replace the log. -/
structure Replaces (sha256Hex : List Char → String) (faults : Faults) (files : ArchiveFiles)
    (call : ArchiveCall) : Prop where
  valid : IsValidEvent sha256Hex call.event
  printable : ∃ records made, (archiveFormat sha256Hex).records files.file = .ok records ∧
    recordLine sha256Hex call.event records call.createdAt = .ok made
  reads : ReadsFreely faults files
  writes : WritesFreely faults

/-- Nothing fails once the log is replaced. -/
structure Completes (sha256Hex : List Char → String) (faults : Faults) (files : ArchiveFiles)
    (call : ArchiveCall) : Prop where
  undisturbed : faults .verifyRecords = none ∧ faults .writeManifest = none
  endsLine : EndsLine files.file
  keepsFingerprint : KeepsFingerprint sha256Hex call.event

section Rules

variable {faults : Faults} {files : ArchiveFiles} {step : AppendStep}
  {sha256Hex : List Char → String}

theorem ensures_look :
    Ensures (· = files) (look faults step)
      (fun found state => (found = files.file ∧ faults step = none) ∧ state = files)
      (fun _ state => faults step ≠ none ∧ state = files) := by
  rintro state rfl
  simp only [look, EStateM.run]
  cases fault : faults step <;> simp

theorem ensures_alter {pre : ArchiveFiles → Prop} {change : ArchiveFiles → ArchiveFiles} :
    Ensures pre (alter faults step change)
      (fun _ state => faults step = none ∧ ∃ earlier, pre earlier ∧ state = change earlier)
      (fun _ state => faults step ≠ none ∧ pre state) := by
  intro state known
  simp only [alter, EStateM.run]
  cases fault : faults step with
  | none => exact ⟨rfl, state, known, rfl⟩
  | some fault => exact ⟨by simp, known⟩

theorem ensures_storeText
    {store : List Char → ArchiveFiles → ArchiveFiles} {text : List Char} :
    Ensures (· = files) (storeText faults step store text)
      (fun _ state => faults step = none ∧ state = store text files)
      (fun _ state => faults step ≠ none ∧
        (state = files ∨ ∃ part, state = store part files)) := by
  rintro state rfl
  simp only [storeText, EStateM.run]
  cases faulty : faults step with
  | none => simp
  | some fault =>
      cases fault with
      | before => simp
      | writing count => exact ⟨by simp, .inr ⟨_, rfl⟩⟩

theorem ensures_raisesLog {α : Type} {result : Except LogProblem α} {pre : ArchiveFiles → Prop} :
    Ensures pre (raisesLog result)
      (fun value state => result = .ok value ∧ pre state)
      (fun _ state => (∀ value, result ≠ .ok value) ∧ pre state) := by
  unfold raisesLog
  cases result with
  | error problem => exact ensures_throw (fun state known => ⟨by simp, known⟩)
  | ok value => exact ensures_pure (fun state known => ⟨rfl, known⟩)

/-- The temporary file aside, nothing has changed. -/
def Untouched (files state : ArchiveFiles) : Prop :=
  state.file = files.file ∧ state.manifest = files.manifest

/-- Whatever the handler does, it raises and touches neither file. -/
theorem ensures_cleanUp {problem : AppendProblem} {returns : Unit → ArchiveFiles → Prop} :
    Ensures (Untouched files) (cleanUp faults problem) returns (fun _ => Untouched files) := by
  unfold cleanUp
  have found : Ensures (Untouched files) (findTemp faults) (fun _ => Untouched files)
      (fun _ => Untouched files) := by
    intro state untouched
    simp only [findTemp, EStateM.run]
    cases faults .findTemp <;> exact untouched
  refine ensures_bind found ?_
  intro left
  split
  · have unlinked : Ensures (Untouched files)
        (alter faults .unlinkTemp (fun files => { files with temp := none }))
        (fun _ => Untouched files) (fun _ => Untouched files) := by
      refine ensures_weaken ensures_alter (fun _ known => known) ?_ (fun _ _ known => known.2)
      rintro _ state ⟨-, earlier, untouched, rfl⟩
      exact untouched
    exact ensures_bind unlinked (fun _ => ensures_throw (fun _ untouched => untouched))
  · exact ensures_throw (fun _ untouched => untouched)

theorem ensures_atomicWriteUnder {line : List Char} :
    Ensures (· = files) (atomicWriteUnder faults line)
      (fun _ state => WritesFreely faults ∧
        state.file = some (appended files.file line) ∧ state.manifest = files.manifest)
      (fun _ state => ¬WritesFreely faults ∧ Untouched files state) := by
  have disturbed : ∀ step ∈ [AppendStep.makeDirectory, .readExisting, .writeTemp, .replace],
      faults step ≠ none → ¬WritesFreely faults :=
    fun step member fault freely => fault (freely step member)
  unfold atomicWriteUnder
  refine ensures_bind (ensures_weaken ensures_alter (fun _ known => known) (fun _ _ known => known)
    ?_) ?_
  · rintro _ state ⟨fault, rfl⟩
    exact ⟨disturbed _ (by simp) fault, rfl, rfl⟩
  intro _
  refine ensures_of_fact (fun made => ?_)
  refine @ensures_weaken _ _ _ (· = files) _ _ _ _ _ _ ?_
    (by rintro state ⟨earlier, rfl, rfl⟩; rfl) (fun _ _ known => known) (fun _ _ known => known)
  refine ensures_tryCatch ?_ (fun _ => ensures_of_fact (fun disturbed => ensures_weaken
    ensures_cleanUp (fun _ known => known) (fun _ _ known => known) (fun _ _ known => ⟨disturbed, known⟩)))
  refine ensures_bind (ensures_weaken ensures_look (fun _ known => known) (fun _ _ known => known)
    ?_) ?_
  · rintro _ state ⟨fault, rfl⟩
    exact ⟨disturbed _ (by simp) fault, rfl, rfl⟩
  intro existing
  refine ensures_of_fact ?_
  rintro ⟨rfl, looked⟩
  refine ensures_bind (ensures_weaken ensures_storeText (fun _ known => known)
    (fun _ _ known => known) ?_) ?_
  · rintro _ state ⟨fault, same | ⟨part, same⟩⟩
    · exact ⟨disturbed _ (by simp) fault, by rw [same], by rw [same]⟩
    · exact ⟨disturbed _ (by simp) fault, by rw [same], by rw [same]⟩
  intro _
  refine ensures_of_fact (fun wrote => ?_)
  rintro state rfl
  simp only [replaceFile, EStateM.run]
  cases faulty : faults .replace with
  | none =>
      refine ⟨?_, rfl, rfl⟩
      intro step member
      simp only [List.mem_cons, List.not_mem_nil, or_false] at member
      rcases member with rfl | rfl | rfl | rfl <;> assumption
  | some fault => exact ⟨disturbed .replace (by simp) (by simp [faulty]), rfl, rfl⟩

/-- The records that are read, unless reading the log fails. -/
theorem ensures_existingRecordsUnder :
    Ensures (· = files) (existingRecordsUnder faults sha256Hex)
      (fun records state => (ReadsFreely faults files ∧
        (archiveFormat sha256Hex).records files.file = .ok records) ∧ state = files)
      (fun _ state => ¬(ReadsFreely faults files ∧
        ∃ records, (archiveFormat sha256Hex).records files.file = .ok records) ∧ state = files) := by
  unfold existingRecordsUnder
  refine ensures_bind (ensures_weaken ensures_look (fun _ known => known) (fun _ _ known => known)
    ?_) ?_
  · rintro _ state ⟨fault, rfl⟩
    exact ⟨fun freely => fault freely.1.1, rfl⟩
  intro found
  refine ensures_of_fact ?_
  rintro ⟨rfl, looked⟩
  split
  next blank =>
    have none : (archiveFormat sha256Hex).records files.file = .ok [] := by
      rw [← Format.existing_eq, Format.existing, if_pos blank]
    refine ensures_pure ?_
    rintro state rfl
    exact ⟨⟨⟨looked, by simp [blank]⟩, none⟩, rfl⟩
  next filled =>
    have filled : isBlankLine (files.file.getD []) = false := by simpa using filled
    refine ensures_bind (ensures_weaken ensures_look (fun _ known => known)
      (fun _ _ known => known) ?_) ?_
    · rintro _ state ⟨fault, rfl⟩
      exact ⟨fun freely => fault (freely.1.2 filled), rfl⟩
    intro file
    refine ensures_of_fact ?_
    rintro ⟨rfl, read⟩
    refine ensures_weaken ensures_raisesLog (fun _ known => known) ?_ ?_
    · rintro records state ⟨known, rfl⟩
      exact ⟨⟨⟨looked, fun _ => read⟩, known⟩, rfl⟩
    · rintro _ state ⟨unread, rfl⟩
      exact ⟨fun freely => unread _ freely.2.choose_spec, rfl⟩

/-- A manifest describes the log that was read for it. -/
theorem describes_of_manifestText
    {archive : EvidenceArchive} {updatedAt : String} {text : List Char}
    (written : archive.manifestText sha256Hex updatedAt = .ok text) :
    ∃ records, (archiveFormat sha256Hex).records archive.file = .ok records ∧
      Describes sha256Hex records (some text) := by
  simp only [EvidenceArchive.manifestText, except_bind_eq_ok, printed_eq_ok] at written
  obtain ⟨records, read, line, dumped, same⟩ := written
  cases same
  obtain ⟨document, converted⟩ := toDocument_of_dumps dumped
  have loaded := loads_dumps_line dumped
  have distinct : (OrderedDict.keys
      [("archive_dir", Value.str archive.archiveDir),
        ("record_count", .int records.length),
        ("hash_chain_head", .str ((archiveFormat sha256Hex).headHash records)),
        ("updated_at_utc", .str updatedAt)]).Nodup := by
    simp [OrderedDict.keys]
  rw [reload_named rfl distinct converted] at loaded
  refine ⟨records, read, _, _, rfl, loaded, ?_, ?_⟩
  · rw [getItem_named, OrderedDict.get?_map, get?_sortByName distinct]
    rfl
  · rw [getItem_named, OrderedDict.get?_map, get?_sortByName distinct]
    rfl

/-- The manifest is written if the log can be read, and the log stays as it is. -/
theorem ensures_writeManifestUnder {archiveDir updatedAt : String} :
    Ensures (· = files) (writeManifestUnder faults sha256Hex archiveDir updatedAt)
      (fun _ state => (faults .verifyRecords = none ∧ faults .writeManifest = none) ∧
        ∃ records, (archiveFormat sha256Hex).records files.file = .ok records ∧
          state.file = files.file ∧ Describes sha256Hex records state.manifest)
      (fun _ state => state.file = files.file ∧
        ((faults .verifyRecords = none ∧ faults .writeManifest = none) →
          ∀ records, (archiveFormat sha256Hex).records files.file ≠ .ok records)) := by
  unfold writeManifestUnder
  refine ensures_bind (ensures_weaken ensures_look (fun _ known => known) (fun _ _ known => known)
    ?_) ?_
  · rintro _ state ⟨fault, rfl⟩
    exact ⟨rfl, fun freely => absurd freely.1 fault⟩
  intro file
  refine ensures_of_fact ?_
  rintro ⟨rfl, read⟩
  refine ensures_bind (ensures_weaken ensures_raisesLog (fun _ known => known)
    (fun _ _ known => known) ?_) ?_
  · rintro _ state ⟨unwritten, rfl⟩
    refine ⟨rfl, fun _ records known => ?_⟩
    obtain ⟨text, written⟩ := @EvidenceArchive.exists_manifestText _
      (EvidenceArchive.mk archiveDir state.file none) _ known updatedAt
    exact unwritten text written
  intro text
  refine ensures_of_fact (fun written => ?_)
  obtain ⟨records, known, describes⟩ := describes_of_manifestText written
  refine ensures_weaken ensures_storeText (fun _ known => known) ?_ ?_
  · rintro _ state ⟨wrote, rfl⟩
    exact ⟨⟨read, wrote⟩, records, known, rfl, describes⟩
  · rintro _ state ⟨fault, rfl | ⟨part, rfl⟩⟩
    · exact ⟨rfl, fun freely => absurd freely.2 fault⟩
    · exact ⟨rfl, fun freely => absurd freely.2 fault⟩

theorem appended_ne (file : Option (List Char)) (line : List Char) :
    some (appended file line) ≠ file := by
  cases file with
  | none => simp
  | some text =>
      intro same
      have lengths := congrArg (fun file : Option (List Char) => (file.getD []).length) same
      simp [appended] at lengths

/-- How an append ends, and what it has done. -/
theorem ensures_appendUnder {archiveDir : String} {call : ArchiveCall} :
    Ensures (· = files) (appendUnder faults sha256Hex archiveDir call)
      (fun reply state => AppendsAtomically sha256Hex files call (.ok reply state) ∧
        Completes sha256Hex faults files call)
      (fun _ state => (Untouched files state ∧ ¬Replaces sha256Hex faults files call) ∨
        (state.file ≠ files.file ∧ Replaces sha256Hex faults files call ∧
          ¬Completes sha256Hex faults files call)) := by
  unfold appendUnder
  refine ensures_bind (ensures_weaken ensures_raisesLog (fun _ known => known)
    (fun _ _ known => known) ?_) ?_
  · rintro _ state ⟨invalid, rfl⟩
    refine .inl ⟨⟨rfl, rfl⟩, fun replaces => ?_⟩
    obtain ⟨report, validated, -⟩ := isValidEvent_iff.mpr replaces.valid
    exact invalid report (except_mapError_eq_ok.mpr validated)
  intro validation
  refine ensures_of_fact (fun validated => ?_)
  have validated := except_mapError_eq_ok.mp validated
  split
  next refused =>
    refine ensures_throw ?_
    rintro state rfl
    refine .inl ⟨⟨rfl, rfl⟩, fun replaces => ?_⟩
    obtain ⟨report, again, valid⟩ := isValidEvent_iff.mpr replaces.valid
    obtain rfl := Except.ok.inj (validated.symm.trans again)
    simp [valid] at refused
  next accepted =>
    have accepted : validation.valid = true := by simpa using accepted
    have valid : IsValidEvent sha256Hex call.event :=
      isValidEvent_iff.mp ⟨validation, validated, accepted⟩
    rw [event_of_valid validated accepted, Option.getD_some]
    refine ensures_bind (ensures_weaken ensures_existingRecordsUnder (fun _ known => known)
      (fun _ _ known => known) ?_) ?_
    · rintro _ state ⟨unread, rfl⟩
      refine .inl ⟨⟨rfl, rfl⟩, fun replaces => unread ⟨replaces.reads, ?_⟩⟩
      obtain ⟨records, -, read, -⟩ := replaces.printable
      exact ⟨records, read⟩
    intro records
    refine ensures_of_fact ?_
    rintro ⟨reads, read⟩
    refine ensures_bind (ensures_weaken ensures_raisesLog (fun _ known => known)
      (fun _ _ known => known) ?_) ?_
    · rintro _ state ⟨unprinted, rfl⟩
      refine .inl ⟨⟨rfl, rfl⟩, fun replaces => ?_⟩
      obtain ⟨others, made, again, printed⟩ := replaces.printable
      obtain rfl := Except.ok.inj (read.symm.trans again)
      exact unprinted made printed
    rintro ⟨reply, line⟩
    refine ensures_of_fact (fun made => ?_)
    refine ensures_bind (ensures_weaken ensures_atomicWriteUnder (fun _ known => known)
      (fun _ _ known => known) ?_) ?_
    · rintro _ state ⟨disturbed, untouched⟩
      exact .inl ⟨untouched, fun replaces => disturbed replaces.writes⟩
    intro _
    refine ensures_of_fact (fun writes => ?_)
    have replaces : Replaces sha256Hex faults files call :=
      ⟨valid, ⟨records, _, read, made⟩, reads, writes⟩
    rintro written ⟨file, -⟩
    refine @ensures_bind _ _ _ _ (· = written) _ _ _ _ _ (ensures_weaken
      ensures_writeManifestUnder (fun _ known => known) (fun _ _ known => known) ?_) ?_ written rfl
    · rintro _ state ⟨kept, unread⟩
      refine .inr ⟨?_, replaces, fun completes => ?_⟩
      · rw [kept, file]
        exact appended_ne _ _
      · obtain ⟨after, again⟩ := exists_records_appended valid read made completes.endsLine
          completes.keepsFingerprint
        exact unread completes.undisturbed after (file ▸ again)
    · intro _
      refine ensures_pure ?_
      rintro state ⟨undisturbed, after, again, kept, describes⟩
      rw [file] at again
      obtain ⟨⟨ends, keeps⟩, record, isRecord, -, rfl⟩ :=
        (records_appended_iff valid read made).mp again
      refine ⟨⟨records, record, read, ?_, isRecord, describes⟩, undisturbed, ends, keeps⟩
      rw [kept, file]
      exact again

end Rules

/-- Whatever fails, an append is atomic exactly if nothing fails after the log was replaced. -/
theorem append_atomic_iff
    (sha256Hex : List Char → String) (faults : Faults) (archiveDir : String)
    (files : ArchiveFiles) (call : ArchiveCall) :
    AppendsAtomically sha256Hex files call
        ((appendUnder faults sha256Hex archiveDir call).run files) ↔
      (Replaces sha256Hex faults files call → Completes sha256Hex faults files call) := by
  have known := @ensures_appendUnder faults files sha256Hex archiveDir call files rfl
  cases ran : (appendUnder faults sha256Hex archiveDir call).run files with
  | ok reply after =>
      rw [ran] at known
      exact iff_of_true known.1 (fun _ => known.2)
  | error problem after =>
      rw [ran] at known
      obtain ⟨untouched, short⟩ | ⟨changed, replaces, incomplete⟩ := known
      · exact iff_of_true untouched (fun replaces => absurd replaces short)
      · exact iff_of_false (fun atomic => changed atomic.1) (fun implies => incomplete (implies replaces))

/-- An append that gets to the manifest and cannot write it is not atomic. -/
private theorem not_atomic_of_manifestFault
    {sha256Hex : List Char → String} {faults : Faults} {files : ArchiveFiles}
    {call : ArchiveCall} (replaces : Replaces sha256Hex faults files call)
    (fault : faults .writeManifest ≠ none) (archiveDir : String) :
    ¬AppendsAtomically sha256Hex files call
      ((appendUnder faults sha256Hex archiveDir call).run files) := by
  have known := @ensures_appendUnder faults files sha256Hex archiveDir call files rfl
  cases ran : (appendUnder faults sha256Hex archiveDir call).run files with
  | ok reply after =>
      rw [ran] at known
      exact absurd known.2.undisturbed.2 fault
  | error problem after =>
      rw [ran] at known
      obtain ⟨-, short⟩ | ⟨changed, -⟩ := known
      · exact absurd replaces short
      · exact fun atomic => changed atomic.1

/-- A data quality warning, with its integrity hash. -/
def firstEvent : List (Key × Value) :=
  named
    [("schema_version", .str "p2.4-event-v1"),
      ("event_id", .str "event"),
      ("event_type", .str "DATA_QUALITY_WARNING"),
      ("created_at_utc", .str "now"),
      ("correlation_id", .str "correlation"),
      ("causation_id", .str ""),
      ("source_component", .str "component"),
      ("source_agent", .str "agent"),
      ("symbol", .str "UNKNOWN"),
      ("timeframe", .str "UNKNOWN"),
      ("evidence_reference", .str "evidence"),
      ("payload", .dict []),
      ("provenance", .dict [(.str "source", .str "s")]),
      ("redaction_status", .str "REDACTED"),
      ("integrity_hash",
        .str "0b6cba37301d589d604db7b06fb0e43d02bd454ed6f12275fd6679ba1bbb2594")]

def firstAppend : ArchiveCall :=
  { event := firstEvent
    createdAt := "now"
    updatedAt := "now" }

/-- Only the manifest cannot be written. -/
def manifestFault : Faults
  | .writeManifest => some .before
  | _ => none

private theorem firstAppend_replaces :
    Replaces sha256Hex manifestFault ⟨none, none, none⟩ firstAppend := by
  have accepted : (validateEventEnvelope sha256Hex firstEvent).toOption.any
      EventValidationReport.valid = true := by
    decide +kernel
  have printable : (recordLine sha256Hex firstEvent [] "now").toOption.isSome = true := by
    decide +kernel
  constructor
  · apply isValidEvent_iff.mp
    cases validated : validateEventEnvelope sha256Hex firstEvent with
    | error problem =>
        rw [validated] at accepted
        cases accepted
    | ok report =>
        rw [validated] at accepted
        exact ⟨report, validated, accepted⟩
  · have read := Format.records_of_intact (@Format.intact_none _ _ (archiveFormat sha256Hex))
    cases made : recordLine sha256Hex firstEvent [] "now" with
    | error problem =>
        rw [made] at printable
        cases printable
    | ok line => exact ⟨[], line, read, made⟩
  · exact ⟨rfl, fun _ => rfl⟩
  · simp [WritesFreely, manifestFault]

/-- The append raises, and its record is in the log. -/
theorem failedAppend_recorded :
    ¬AppendsAtomically sha256Hex ⟨none, none, none⟩ firstAppend
      ((appendUnder manifestFault sha256Hex "archive" firstAppend).run ⟨none, none, none⟩) :=
  not_atomic_of_manifestFault firstAppend_replaces (by simp [manifestFault]) "archive"

end SuperAdvisor.Persistence
