import SuperAdvisor.Foundation.Program
import SuperAdvisor.Persistence.EvidenceArchive

/-!
# An append, one file operation at a time

`EvidenceArchive.append` reads the log for the previous hash, reads it again for
the new text, writes that to a temporary file whose name all appends share, and
moves it into place.  Alone on an archive the program does what the append does
in one go.
-/

namespace SuperAdvisor.Persistence

open Python ChainedLog Events Program

/-- The files of an archive; `temp` is `.tmp-evidence.ndjson`. -/
structure ArchiveFiles where
  file : Option (List Char)
  temp : Option (List Char)
  manifest : Option (List Char)
  deriving DecidableEq

def ArchiveFiles.archive (files : ArchiveFiles) (archiveDir : String) : EvidenceArchive :=
  { archiveDir := archiveDir
    file := files.file
    manifest := files.manifest }

/-- Operations on the files.  The log is read for three purposes: to see whether
it is blank, for its records, and for the text that the new one continues. -/
inductive ArchiveOp where
  | probe
  | readRecords
  | readExisting
  | writeTemp (text : List Char)
  | replace
  | tempExists
  | unlinkTemp
  | writeManifest (text : List Char)

@[reducible] def ArchiveOp.Reply : ArchiveOp → Type
  | .probe | .readRecords | .readExisting => Option (List Char)
  | .replace | .tempExists => Bool
  | .writeTemp _ | .unlinkTemp | .writeManifest _ => Unit

inductive ArchiveProblem where
  | log (problem : LogProblem)
  | fileNotFound
  deriving DecidableEq

/-- `os.replace` of a file that is not there raises. -/
def ArchiveFiles.answer (files : ArchiveFiles) (_ : Unit) :
    (op : ArchiveOp) → Except ArchiveProblem op.Reply × ArchiveFiles
  | .probe => (.ok files.file, files)
  | .readRecords => (.ok files.file, files)
  | .readExisting => (.ok files.file, files)
  | .writeTemp text => (.ok (), { files with temp := some text })
  | .replace =>
      match files.temp with
      | none => (.ok false, files)
      | some text => (.ok true, { files with file := some text, temp := none })
  | .tempExists => (.ok files.temp.isSome, files)
  | .unlinkTemp => (.ok (), { files with temp := none })
  | .writeManifest text => (.ok (), { files with manifest := some text })

abbrev ArchiveProgram := Program ArchiveOp ArchiveOp.Reply ArchiveProblem

section Digest

variable (sha256Hex : List Char → String)

def raising {α : Type} (result : Except LogProblem α) : ArchiveProgram α :=
  .ofExcept (result.mapError .log)

/-- `_records` -/
def readRecords : ArchiveProgram (List ArchiveRecord) := do
  let file ← request ArchiveOp.readRecords
  raising ((archiveFormat sha256Hex).records file)

/-- The record that continues the records, and its line. -/
def recordLine (event : List (Key × Value)) (records : List ArchiveRecord)
    (createdAt : String) : Except LogProblem (List (String × Value) × List Char) := do
  let recordId ← field (.dict event) "event_id"
  let text ← printed (.dict event)
  let record := recordFields recordId createdAt event
    ((archiveFormat sha256Hex).headHash records) (fingerprint sha256Hex text)
  let line ← printed (.dict (named record))
  .ok (record, line)

/-- `atomic_write`, with the writer of the new log. -/
def atomicWrite (line : List Char) : ArchiveProgram Unit := do
  let existing ← request ArchiveOp.readExisting
  let _ ← request (ArchiveOp.writeTemp (appended existing line))
  let replaced ← request ArchiveOp.replace
  if replaced then .done ()
  else do
    let left ← request ArchiveOp.tempExists
    if left then do
      let _ ← request ArchiveOp.unlinkTemp
      .raised .fileNotFound
    else .raised .fileNotFound

/-- `_write_manifest` -/
def writeManifest (archiveDir updatedAt : String) : ArchiveProgram Unit := do
  let file ← request ArchiveOp.readRecords
  let text ← raising ((EvidenceArchive.mk archiveDir file none).manifestText sha256Hex updatedAt)
  request (ArchiveOp.writeManifest text)

/-- The part of an append after it has read the records. -/
def storeRecord (archiveDir updatedAt : String)
    (made : List (String × Value) × List Char) : ArchiveProgram (List (String × Value)) := do
  atomicWrite made.2
  writeManifest sha256Hex archiveDir updatedAt
  .done made.1

/-- The records an append continues: none, if the file is missing or blank. -/
def existingRecords : ArchiveProgram (List ArchiveRecord) := do
  let found ← request ArchiveOp.probe
  if isBlankLine (found.getD []) then .done []
  else readRecords sha256Hex

/-- `EvidenceArchive.append` -/
def appendProgram (archiveDir : String) (call : ArchiveCall) :
    ArchiveProgram (List (String × Value)) := do
  let validation ← raising ((validateEventEnvelope sha256Hex call.event).mapError .envelope)
  if !validation.valid then
    .raised (.log (.python (.valueError ("; ".intercalate
      (validation.issues.map (fun issue => issue.path ++ ": " ++ issue.message))))))
  else do
    let records ← existingRecords sha256Hex
    let made ← raising
      (recordLine sha256Hex (validation.event.getD []) records call.createdAt)
    storeRecord sha256Hex archiveDir call.updatedAt made

end Digest

variable {sha256Hex : List Char → String}

/-- An append alone reads the same log each time. -/
theorem nextRecord_eq (archive : EvidenceArchive) (event : List (Key × Value))
    (createdAt : String) :
    archive.nextRecord sha256Hex event createdAt = (do
      let validation ← (validateEventEnvelope sha256Hex event).mapError .envelope
      if !validation.valid then
        .error (.python (.valueError ("; ".intercalate
          (validation.issues.map (fun issue => issue.path ++ ": " ++ issue.message)))))
      else do
        let records ← (archiveFormat sha256Hex).existing archive.file
        recordLine sha256Hex (validation.event.getD []) records createdAt) :=
  rfl

theorem nextRecord_of_validated
    {archive : EvidenceArchive} {event : List (Key × Value)} {createdAt : String}
    {validation : EventValidationReport}
    (validated : (validateEventEnvelope sha256Hex event).mapError LogProblem.envelope =
      .ok validation)
    (valid : validation.valid = true) :
    archive.nextRecord sha256Hex event createdAt = (do
      let records ← (archiveFormat sha256Hex).existing archive.file
      recordLine sha256Hex (validation.event.getD []) records createdAt) := by
  rw [nextRecord_eq, validated]
  simp [valid, Bind.bind, Except.bind]

section Alone

/-- How a run ends. -/
def ends {α : Type} (program : ArchiveProgram α) (script : List Unit) (files : ArchiveFiles) :
    Outcome ArchiveProblem α × ArchiveFiles :=
  let ran := run ArchiveFiles.answer program script files
  (ran.outcome, ran.state)

variable {α β : Type} {files : ArchiveFiles} {script : List Unit}

private theorem ends_done (value : α) :
    ends (.done value) script files = (.returned value, files) := by
  cases script <;> rfl

private theorem ends_raised (problem : ArchiveProblem) :
    ends (.raised problem : ArchiveProgram α) script files = (.raised problem, files) := by
  cases script <;> rfl

private theorem ends_perform
    {op : ArchiveOp} {next : op.Reply → ArchiveProgram α} {reply : op.Reply}
    {after : ArchiveFiles} (answered : files.answer () op = (.ok reply, after)) :
    ends (.perform op next) (() :: script) files = ends (next reply) script after := by
  simp only [ends, run, actOf, answered]

private theorem ends_raising (result : Except LogProblem α) (next : α → ArchiveProgram β) :
    ends (raising result >>= next) script files =
      match result with
      | .ok value => ends (next value) script files
      | .error problem => (.raised (.log problem), files) := by
  cases result with
  | ok value => rfl
  | error problem => exact ends_raised _

private theorem ends_storeRecord
    (sha256Hex : List Char → String) (archiveDir updatedAt : String)
    (made : List (String × Value) × List Char) :
    let written := some (appended files.file made.2)
    ends (storeRecord sha256Hex archiveDir updatedAt made)
        (() :: () :: () :: () :: () :: script) files =
      match (EvidenceArchive.mk archiveDir written files.manifest).manifestText sha256Hex
          updatedAt with
      | .ok text => (.returned made.1, ⟨written, none, some text⟩)
      | .error problem => (.raised (.log problem), ⟨written, none, files.manifest⟩) := by
  intro written
  simp only [storeRecord, atomicWrite, request_bind, perform_bind]
  rw [ends_perform rfl, ends_perform rfl, ends_perform rfl]
  simp only [if_true, done_bind, writeManifest, request_bind, perform_bind]
  rw [ends_perform rfl, bind_assoc, ends_raising]
  have same : (EvidenceArchive.mk archiveDir written none).manifestText sha256Hex updatedAt =
      (EvidenceArchive.mk archiveDir written files.manifest).manifestText sha256Hex updatedAt :=
    rfl
  rw [same]
  cases (EvidenceArchive.mk archiveDir written files.manifest).manifestText sha256Hex
      updatedAt with
  | error problem => rfl
  | ok text => exact (ends_perform rfl).trans (ends_done made.1)

private theorem ends_existingRecords
    (sha256Hex : List Char → String) (next : List ArchiveRecord → ArchiveProgram α) :
    ∃ later, ends (existingRecords sha256Hex >>= next)
        (() :: () :: () :: () :: () :: () :: () :: script) files =
      match (archiveFormat sha256Hex).existing files.file with
      | .ok records => ends (next records) (() :: () :: () :: () :: () :: later) files
      | .error problem => (.raised (.log problem), files) := by
  simp only [existingRecords, request_bind, perform_bind]
  rw [ends_perform rfl]
  unfold Format.existing
  split
  next blank => exact ⟨() :: script, rfl⟩
  next filled =>
    refine ⟨script, ?_⟩
    simp only [readRecords, request_bind, perform_bind]
    rw [ends_perform rfl, ends_raising]
    cases (archiveFormat sha256Hex).records files.file <;> rfl

private theorem ends_nextRecord
    (sha256Hex : List Char → String) (archiveDir : String) (call : ArchiveCall) :
    ∃ later, ends (appendProgram sha256Hex archiveDir call)
        (() :: () :: () :: () :: () :: () :: () :: script) files =
      match (files.archive archiveDir).nextRecord sha256Hex call.event call.createdAt with
      | .ok made => ends (storeRecord sha256Hex archiveDir call.updatedAt made)
          (() :: () :: () :: () :: () :: later) files
      | .error problem => (.raised (.log problem), files) := by
  unfold appendProgram
  rw [ends_raising]
  cases validated : (validateEventEnvelope sha256Hex call.event).mapError
      LogProblem.envelope with
  | error problem => exact ⟨script, by rw [nextRecord_eq, validated]; rfl⟩
  | ok validation =>
      cases valid : validation.valid with
      | false =>
          refine ⟨script, ?_⟩
          rw [nextRecord_eq, validated]
          simp [valid, ends_raised, Bind.bind, Except.bind]
      | true =>
          obtain ⟨later, ended⟩ := @ends_existingRecords _ files script sha256Hex
            (fun records => raising (recordLine sha256Hex (validation.event.getD []) records
              call.createdAt) >>= storeRecord sha256Hex archiveDir call.updatedAt)
          refine ⟨later, ?_⟩
          rw [nextRecord_of_validated validated valid]
          simp only [valid, Bool.not_true, Bool.false_eq_true, if_false]
          rw [ended, show (files.archive archiveDir).file = files.file from rfl]
          cases (archiveFormat sha256Hex).existing files.file with
          | error problem => rfl
          | ok records =>
              dsimp only
              rw [ends_raising]
              simp only [Bind.bind, Except.bind]
              cases recordLine sha256Hex (validation.event.getD []) records call.createdAt <;> rfl

/-- Alone, an append of single operations does what an append does. -/
theorem ends_appendProgram
    (sha256Hex : List Char → String) (archiveDir : String) (call : ArchiveCall)
    (files : ArchiveFiles) (script : List Unit) :
    let (reply, after) := (files.archive archiveDir).append sha256Hex call.event call.createdAt
      call.updatedAt
    ∃ temp, ends (appendProgram sha256Hex archiveDir call)
        (() :: () :: () :: () :: () :: () :: () :: script) files =
      (match reply with
        | .ok record => .returned record
        | .error problem => .raised (.log problem),
        { file := after.file, temp := temp, manifest := after.manifest }) := by
  obtain ⟨later, ended⟩ := @ends_nextRecord files script sha256Hex archiveDir call
  unfold EvidenceArchive.append
  cases made : (files.archive archiveDir).nextRecord sha256Hex call.event call.createdAt with
  | error problem =>
      rw [made] at ended
      exact ⟨files.temp, ended⟩
  | ok next =>
      obtain ⟨record, line⟩ := next
      rw [made] at ended
      dsimp only at ended ⊢
      rw [ends_storeRecord] at ended
      refine ⟨none, ended.trans ?_⟩
      have same : (EvidenceArchive.mk archiveDir (some (appended files.file line))
            files.manifest).manifestText sha256Hex call.updatedAt =
          ({ files.archive archiveDir with
            file := some (appended (files.archive archiveDir).file line) } :
              EvidenceArchive).manifestText sha256Hex call.updatedAt := rfl
      dsimp only
      rw [same]
      cases ({ files.archive archiveDir with
          file := some (appended (files.archive archiveDir).file line) } :
            EvidenceArchive).manifestText sha256Hex call.updatedAt <;> rfl

end Alone

end SuperAdvisor.Persistence
