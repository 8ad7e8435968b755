import SuperAdvisor.Foundation.Interleaving
import SuperAdvisor.Persistence.ArchiveProgram
import SuperAdvisor.Persistence.RedactedExport

/-!
# Two appends at once

An append takes the hash of the last record from one reading of the log and the
text it continues from a later one, and it moves a temporary file into place
that the other append may have written.  As long as no replacement falls between
a reading of the records and the replacement that rests on it, and every
replacement moves the file of its own side, the log stays a chain and holds
every event whose append has returned.
-/

namespace SuperAdvisor.Persistence

open Python ChainedLog Events Program
open Interleaving (Side Race Move since Guarded)

abbrev ArchiveMove := Move ArchiveFiles ArchiveOp ArchiveOp.Reply ArchiveProblem

/-- A side reads the records that its new record continues. -/
def readsRecords (side : Side) (move : ArchiveMove) : Bool :=
  decide (move.1 = side) &&
    match move.2.op with
    | .probe | .readRecords => true
    | _ => false

def writesTemp (move : ArchiveMove) : Bool :=
  match move.2.op with
  | .writeTemp _ => true
  | _ => false

/-- The log is replaced: there is a temporary file to move. -/
def replaces (move : ArchiveMove) : Bool :=
  match move.2.op with
  | .replace => move.2.before.temp.isSome
  | _ => false

/-- Whose records the log was replaced with, in order. -/
def replacers (past : List ArchiveMove) : List Side :=
  (past.filter replaces).map Prod.fst

/-- The log has not been replaced since the side last read the records. -/
def isCurrent (side : Side) (past : List ArchiveMove) : Bool :=
  since (readsRecords side) replaces past

/-- The temporary file was last written by the side. -/
def hasOwnTemp (side : Side) (past : List ArchiveMove) : Bool :=
  since (fun move => writesTemp move && decide (move.1 = side)) writesTemp past

/-- A side replaces the log that it has read, with its own file. -/
def Undisturbed (past : List ArchiveMove) (move : ArchiveMove) : Prop :=
  replaces move = true → isCurrent move.1 past = true ∧ hasOwnTemp move.1 past = true

instance (past : List ArchiveMove) (move : ArchiveMove) : Decidable (Undisturbed past move) :=
  inferInstanceAs (Decidable (_ → _ ∧ _))

section Races

variable (sha256Hex : List Char → String) (archiveDir : String)

/-- The log holds these lines and records, whose hashes are right. -/
structure SoundLog (file : Option (List Char)) (entries : List (List Char × ArchiveRecord)) :
    Prop where
  stored : (archiveFormat sha256Hex).Stored file entries
  signed : ∀ entry ∈ entries, SignsEvent sha256Hex entry.2.recordHash entry.2.event

abbrev AppendRace :=
  Race ArchiveFiles ArchiveOp ArchiveOp.Reply ArchiveProblem (List (String × Value))
    (List (String × Value))

def appendRace (calls : Side → ArchiveCall) (files : ArchiveFiles) : AppendRace :=
  { left := appendProgram sha256Hex archiveDir (calls .left)
    right := appendProgram sha256Hex archiveDir (calls .right)
    state := files }

/-- The race after the turns of a schedule. -/
def raceFinal (calls : Side → ArchiveCall) (files : ArchiveFiles) (schedule : List Side) :
    AppendRace :=
  Machine.final (Interleaving.step ArchiveFiles.answer)
    (appendRace sha256Hex archiveDir calls files) (schedule.map (fun side => (side, ())))

/-- The moves of the race so far; irreducible, as a race is never run by unfolding it. -/
@[irreducible] def raceHistory (calls : Side → ArchiveCall) (files : ArchiveFiles) (schedule : List Side) :
    List ArchiveMove :=
  Interleaving.history (Machine.trace (Interleaving.step ArchiveFiles.answer)
    (appendRace sha256Hex archiveDir calls files) (schedule.map (fun side => (side, ()))))

/-- The append of the side has returned. -/
def Returned (race : AppendRace) : Side → Prop
  | .left => race.left.value?.isSome
  | .right => race.right.value?.isSome

/-- The archive verifies, and after the records it had it holds one for each
event whose append has returned, and at most one for any. -/
structure Usable (calls : Side → ArchiveCall) (records : List ArchiveRecord)
    (race : AppendRace) : Prop where
  verifies : ((race.state.archive archiveDir).verify sha256Hex).valid = true
  stored : ∃ sides added, (archiveFormat sha256Hex).records race.state.file =
      .ok (records ++ added) ∧
    List.Forall₂ (fun side => IsRecordOf sha256Hex (calls side).event (calls side).createdAt)
      sides added ∧
    sides.Nodup ∧ ∀ side, Returned race side → side ∈ sides

/-! What is known between two operations. -/

/-- The next record of this log, and its line. -/
def NextIs (file : Option (List Char)) (call : ArchiveCall)
    (made : List (String × Value) × List Char) : Prop :=
  (EvidenceArchive.mk archiveDir file none).nextRecord sha256Hex call.event call.createdAt =
    .ok made

/-- The rest of an append that has read the records. -/
def recordAfter (call : ArchiveCall) (event : List (Key × Value)) (records : List ArchiveRecord) :
    ArchiveProgram (List (String × Value)) :=
  raising (recordLine sha256Hex event records call.createdAt) >>=
    storeRecord sha256Hex archiveDir call.updatedAt

/-- The rest of an append that has written its file. -/
def replaceWith (call : ArchiveCall) (record : List (String × Value)) :
    ArchiveProgram (List (String × Value)) :=
  .perform .replace (fun replaced =>
    (if replaced then .done ()
      else .perform .tempExists (fun left =>
        if left then .perform .unlinkTemp (fun _ => .raised .fileNotFound)
        else .raised .fileNotFound)) >>= fun _ =>
    writeManifest sha256Hex archiveDir call.updatedAt >>= fun _ => .done record)

/-- Where an append stands and what it knows of the files, unless the other side
has replaced the log or written the temporary file since. -/
inductive Stage (call : ArchiveCall) (side : Side) (past : List ArchiveMove)
    (files : ArchiveFiles) : ArchiveProgram (List (String × Value)) → Prop
  | probing {validation : EventValidationReport}
      (validated : (validateEventEnvelope sha256Hex call.event).mapError LogProblem.envelope =
        .ok validation)
      (valid : validation.valid = true) (unstored : side ∉ replacers past) :
      Stage call side past files (existingRecords sha256Hex >>=
        recordAfter sha256Hex archiveDir call (validation.event.getD []))
  | reading {validation : EventValidationReport}
      (validated : (validateEventEnvelope sha256Hex call.event).mapError LogProblem.envelope =
        .ok validation)
      (valid : validation.valid = true) (unstored : side ∉ replacers past) :
      Stage call side past files (readRecords sha256Hex >>=
        recordAfter sha256Hex archiveDir call (validation.event.getD []))
  | copying {made : List (String × Value) × List Char} (unstored : side ∉ replacers past)
      (next : isCurrent side past = true → NextIs sha256Hex archiveDir files.file call made) :
      Stage call side past files (storeRecord sha256Hex archiveDir call.updatedAt made)
  | writing {made : List (String × Value) × List Char} (existing : Option (List Char))
      (unstored : side ∉ replacers past)
      (next : isCurrent side past = true →
        NextIs sha256Hex archiveDir files.file call made ∧ existing = files.file) :
      Stage call side past files (.perform (.writeTemp (appended existing made.2)) (fun _ =>
        replaceWith sha256Hex archiveDir call made.1))
  | replacing {made : List (String × Value) × List Char} (existing : Option (List Char))
      (unstored : side ∉ replacers past)
      (next : isCurrent side past = true →
        NextIs sha256Hex archiveDir files.file call made ∧ existing = files.file)
      (kept : hasOwnTemp side past = true →
        files.temp = none ∨ files.temp = some (appended existing made.2)) :
      Stage call side past files (replaceWith sha256Hex archiveDir call made.1)
  | indexing {record : List (String × Value)} (stored : side ∈ replacers past) :
      Stage call side past files
        (writeManifest sha256Hex archiveDir call.updatedAt >>= fun _ => .done record)
  | saving {record : List (String × Value)} {text : List Char}
      (stored : side ∈ replacers past) :
      Stage call side past files (.perform (.writeManifest text) (fun _ => .done record))
  | returned {record : List (String × Value)} (stored : side ∈ replacers past) :
      Stage call side past files (.done record)
  | checking (unstored : side ∉ replacers past)
      (rest : Unit → ArchiveProgram (List (String × Value))) :
      Stage call side past files (.perform .tempExists (fun left =>
        (if left then .perform .unlinkTemp (fun _ => .raised .fileNotFound)
          else .raised .fileNotFound) >>= rest))
  | discarding (unstored : side ∉ replacers past) :
      Stage call side past files (.perform .unlinkTemp (fun _ => .raised .fileNotFound))
  | raised {problem : ArchiveProblem} : Stage call side past files (.raised problem)

end Races

section Moves

variable {side other : Side} {past : List ArchiveMove} {files : ArchiveFiles}
  {op : ArchiveOp}

theorem replacers_snoc (past : List ArchiveMove) (move : ArchiveMove) :
    replacers (past ++ [move]) =
      replacers past ++ if replaces move then [move.1] else [] := by
  by_cases replacing : replaces move <;> simp [replacers, replacing]

theorem isCurrent_snoc (side : Side) (past : List ArchiveMove) (move : ArchiveMove) :
    isCurrent side (past ++ [move]) =
      (readsRecords side move || (isCurrent side past && !replaces move)) :=
  Interleaving.since_snoc _ _ _ _

theorem hasOwnTemp_snoc (side : Side) (past : List ArchiveMove) (move : ArchiveMove) :
    hasOwnTemp side (past ++ [move]) =
      ((writesTemp move && decide (move.1 = side)) ||
        (hasOwnTemp side past && !writesTemp move)) :=
  Interleaving.since_snoc _ _ _ _

/-- Only a replacement changes the log. -/
theorem file_of_not_replaces
    (quiet : replaces (side, actOf ArchiveFiles.answer files () op) = false) :
    (actOf ArchiveFiles.answer files () op).after.file = files.file := by
  cases op with
  | replace =>
      have none : files.temp = none := by simpa [replaces, actOf] using quiet
      simp [actOf, ArchiveFiles.answer, none]
  | _ => rfl

/-- Only a write puts something in the temporary file. -/
theorem temp_of_not_writesTemp
    (quiet : writesTemp (side, actOf ArchiveFiles.answer files () op) = false) :
    (actOf ArchiveFiles.answer files () op).after.temp = files.temp ∨
      (actOf ArchiveFiles.answer files () op).after.temp = none := by
  cases op with
  | writeTemp text => simp [writesTemp, actOf] at quiet
  | replace => cases found : files.temp <;> simp [actOf, ArchiveFiles.answer, found]
  | unlinkTemp => exact .inr rfl
  | _ => exact .inl rfl

end Moves

section Rules

variable {sha256Hex : List Char → String} {archiveDir : String} {call : ArchiveCall}
  {side other : Side} {past : List ArchiveMove} {files : ArchiveFiles}
  {program : ArchiveProgram (List (String × Value))}

theorem appendProgram_of_validated
    {validation : EventValidationReport}
    (validated : (validateEventEnvelope sha256Hex call.event).mapError LogProblem.envelope =
      .ok validation)
    (valid : validation.valid = true) :
    appendProgram sha256Hex archiveDir call = existingRecords sha256Hex >>=
      recordAfter sha256Hex archiveDir call (validation.event.getD []) := by
  unfold appendProgram
  rw [validated]
  show (if !validation.valid then _ else _) = _
  rw [valid]
  rfl

theorem stage_start :
    Stage sha256Hex archiveDir call side [] files (appendProgram sha256Hex archiveDir call) := by
  cases validated : (validateEventEnvelope sha256Hex call.event).mapError
      LogProblem.envelope with
  | error problem =>
      unfold appendProgram
      rw [validated]
      exact .raised
  | ok validation =>
      cases valid : validation.valid with
      | false =>
          unfold appendProgram
          rw [validated]
          show Stage _ _ _ _ _ _ (if !validation.valid then _ else _)
          rw [valid]
          exact .raised
      | true =>
          rw [appendProgram_of_validated validated valid]
          exact .probing validated valid (by simp [replacers])

/-- An append returns only after it has replaced the log. -/
theorem stored_of_returned
    (stage : Stage sha256Hex archiveDir call side past files program)
    (returned : program.value?.isSome = true) : side ∈ replacers past := by
  cases stage with
  | returned stored => exact stored
  | _ => exact (Bool.false_ne_true returned).elim

/-- What an append knows does not depend on the moves of the other side. -/
theorem stage_stable (different : side ≠ other) (op : ArchiveOp)
    (stage : Stage sha256Hex archiveDir call side past files program) :
    Stage sha256Hex archiveDir call side
      (past ++ [(other, actOf ArchiveFiles.answer files () op)])
      (actOf ArchiveFiles.answer files () op).after program := by
  have stillUnstored : side ∉ replacers past →
      side ∉ replacers (past ++ [(other, actOf ArchiveFiles.answer files () op)]) := by
    intro unstored
    rw [replacers_snoc]
    split <;> simp [unstored, different]
  have stillStored : side ∈ replacers past →
      side ∈ replacers (past ++ [(other, actOf ArchiveFiles.answer files () op)]) := by
    intro stored
    rw [replacers_snoc]
    exact List.mem_append_left _ stored
  have notRead : readsRecords side (other, actOf ArchiveFiles.answer files () op) = false := by
    simp [readsRecords, different.symm]
  have current : isCurrent side (past ++ [(other, actOf ArchiveFiles.answer files () op)]) =
      true → isCurrent side past = true ∧
        (actOf ArchiveFiles.answer files () op).after.file = files.file := by
    intro still
    simp only [isCurrent_snoc, notRead, Bool.false_or, Bool.and_eq_true,
      Bool.not_eq_true'] at still
    exact ⟨still.1, file_of_not_replaces still.2⟩
  have ownTemp : hasOwnTemp side (past ++ [(other, actOf ArchiveFiles.answer files () op)]) =
      true → hasOwnTemp side past = true ∧
        ((actOf ArchiveFiles.answer files () op).after.temp = files.temp ∨
          (actOf ArchiveFiles.answer files () op).after.temp = none) := by
    intro still
    simp only [hasOwnTemp_snoc, decide_eq_false different.symm, Bool.and_false, Bool.false_or,
      Bool.and_eq_true, Bool.not_eq_true'] at still
    exact ⟨still.1, temp_of_not_writesTemp still.2⟩
  cases stage with
  | probing validated valid unstored =>
      exact .probing validated valid (stillUnstored unstored)
  | reading validated valid unstored =>
      exact .reading validated valid (stillUnstored unstored)
  | copying unstored next =>
      refine .copying (stillUnstored unstored) (fun still => ?_)
      obtain ⟨before, same⟩ := current still
      rw [same]
      exact next before
  | writing existing unstored next =>
      refine .writing existing (stillUnstored unstored) (fun still => ?_)
      obtain ⟨before, same⟩ := current still
      rw [same]
      exact next before
  | replacing existing unstored next kept =>
      refine .replacing existing (stillUnstored unstored) (fun still => ?_) (fun still => ?_)
      · obtain ⟨before, same⟩ := current still
        rw [same]
        exact next before
      · obtain ⟨before, same | none⟩ := ownTemp still
        · rw [same]
          exact kept before
        · exact .inl none
  | indexing stored => exact .indexing (stillStored stored)
  | saving stored => exact .saving (stillStored stored)
  | returned stored => exact .returned (stillStored stored)
  | checking unstored rest => exact .checking (stillUnstored unstored) rest
  | discarding unstored => exact .discarding (stillUnstored unstored)
  | raised => exact .raised

/-- The log is sound and holds the records of the sides that have replaced it. -/
structure HoldsReplacers (sha256Hex : List Char → String) (calls : Side → ArchiveCall)
    (entries : List (List Char × ArchiveRecord)) (past : List ArchiveMove)
    (files : ArchiveFiles) : Prop where
  once : (replacers past).Nodup
  log : ∃ added, SoundLog sha256Hex files.file (entries ++ added) ∧
    List.Forall₂ (fun side entry =>
      IsRecordOf sha256Hex (calls side).event (calls side).createdAt entry.2)
      (replacers past) added

/-- The next record of a sound log keeps it sound, if its keys keep their order. -/
theorem soundLog_next
    {file : Option (List Char)} {entries : List (List Char × ArchiveRecord)}
    (sound : SoundLog sha256Hex file entries)
    (ordered : (Value.dict call.event).KeyOrderStable)
    {made : List (String × Value) × List Char} (next : NextIs sha256Hex archiveDir file call made) :
    ∃ record, IsRecordOf sha256Hex call.event call.createdAt record ∧
      SoundLog sha256Hex (some (appended file made.2)) (entries ++ [(made.2, record)]) := by
  obtain ⟨record, isRecord, longer⟩ := EvidenceArchive.stored_nextRecord sound.stored next
  refine ⟨record, isRecord, longer, ?_⟩
  intro entry member
  rcases List.mem_append.mp member with earlier | last
  · exact sound.signed entry earlier
  · obtain rfl := List.mem_singleton.mp last
    obtain ⟨text, hashed, same⟩ := isRecord.signed
    exact ⟨text, by rw [isRecord.content]; exact dumps_reload rfl hashed ordered, same⟩

section Own

variable {calls : Side → ArchiveCall} {entries : List (List Char × ArchiveRecord)}

/-- A move that does not replace the log keeps what is shared. -/
private theorem holdsReplacers_quiet
    (holds : HoldsReplacers sha256Hex calls entries past files) {op : ArchiveOp}
    (quiet : replaces (side, actOf ArchiveFiles.answer files () op) = false) :
    HoldsReplacers sha256Hex calls entries
      (past ++ [(side, actOf ArchiveFiles.answer files () op)])
      (actOf ArchiveFiles.answer files () op).after := by
  have same : replacers (past ++ [(side, actOf ArchiveFiles.answer files () op)]) =
      replacers past := by
    rw [replacers_snoc, quiet]
    simp
  obtain ⟨once, added, sound, records⟩ := holds
  refine ⟨by rw [same]; exact once, added, ?_, by rw [same]; exact records⟩
  rw [file_of_not_replaces quiet]
  exact sound

/-- A side that replaces the log that it knows adds its record. -/
private theorem holdsReplacers_replace
    (holds : HoldsReplacers sha256Hex calls entries past files)
    (ordered : (Value.dict (calls side).event).KeyOrderStable)
    (unstored : side ∉ replacers past) {made : List (String × Value) × List Char}
    (next : NextIs sha256Hex archiveDir files.file (calls side) made)
    (found : files.temp = some (appended files.file made.2)) :
    HoldsReplacers sha256Hex calls entries
      (past ++ [(side, actOf ArchiveFiles.answer files () .replace)])
      (actOf ArchiveFiles.answer files () .replace).after := by
  have replacing : replaces (side, actOf ArchiveFiles.answer files () .replace) = true := by
    simp [replaces, actOf, found]
  have longer : replacers (past ++ [(side, actOf ArchiveFiles.answer files () .replace)]) =
      replacers past ++ [side] := by
    rw [replacers_snoc, replacing]
    rfl
  have moved : (actOf ArchiveFiles.answer files () .replace).after.file =
      some (appended files.file made.2) := by
    simp [actOf, ArchiveFiles.answer, found]
  obtain ⟨once, added, sound, records⟩ := holds
  obtain ⟨record, isRecord, grown⟩ := soundLog_next sound ordered next
  refine ⟨?_, added ++ [(made.2, record)], ?_, ?_⟩
  · rw [longer]
    exact List.nodup_append'.mpr ⟨once, by simp, by simpa using unstored⟩
  · rw [moved, ← List.append_assoc]
    exact grown
  · rw [longer]
    exact List.rel_append records (.cons isRecord .nil)

/-- The next record, once the records of the log are known. -/
private theorem stage_recordAfter
    {validation : EventValidationReport}
    (validated : (validateEventEnvelope sha256Hex call.event).mapError LogProblem.envelope =
      .ok validation)
    (valid : validation.valid = true) (unstored : side ∉ replacers past)
    {records : List ArchiveRecord}
    (read : (archiveFormat sha256Hex).existing files.file = .ok records) :
    Stage sha256Hex archiveDir call side past files
      (recordAfter sha256Hex archiveDir call (validation.event.getD []) records) := by
  unfold recordAfter
  cases made : recordLine sha256Hex (validation.event.getD []) records call.createdAt with
  | error problem => exact .raised
  | ok next =>
      refine .copying unstored (fun _ => ?_)
      unfold NextIs
      rw [nextRecord_of_validated validated valid]
      simp [read, made, Bind.bind, Except.bind]

/-- Every undisturbed operation keeps what is shared and what its side knows. -/
private theorem keepsOwn_stage
    (ordered : ∀ side, (Value.dict (calls side).event).KeyOrderStable) :
    Interleaving.KeepsOwn ArchiveFiles.answer (HoldsReplacers sha256Hex calls entries)
      (fun side => Stage sha256Hex archiveDir (calls side) side) Undisturbed := by
  intro side past files choice op next holds stage guarded
  -- operations that leave the log and the list of replacements alone
  have quiet : ∀ {op : ArchiveOp}, replaces (side, actOf ArchiveFiles.answer files () op) = false →
      replacers (past ++ [(side, actOf ArchiveFiles.answer files () op)]) = replacers past := by
    intro op still
    rw [replacers_snoc, still]
    simp
  obtain ⟨added, sound, -⟩ := holds.log
  have existing := Format.existing_eq_records sound.stored
  cases stage with
  | probing validated valid unstored =>
      refine ⟨holdsReplacers_quiet holds rfl, ?_⟩
      have still : side ∉ replacers (past ++ [(side, actOf ArchiveFiles.answer files () .probe)]) := by
        rwa [quiet rfl]
      show Stage _ _ _ _ _ files
        ((if isBlankLine (files.file.getD []) then _ else _) >>= recordAfter _ _ _ _)
      split
      next blank =>
        exact stage_recordAfter validated valid still (by simp [Format.existing, blank])
      next => exact .reading validated valid still
  | reading validated valid unstored =>
      refine ⟨holdsReplacers_quiet holds rfl, ?_⟩
      have still : side ∉ replacers
          (past ++ [(side, actOf ArchiveFiles.answer files () .readRecords)]) := by
        rwa [quiet rfl]
      show Stage _ _ _ _ _ files
        (raising ((archiveFormat sha256Hex).records files.file) >>= recordAfter _ _ _ _)
      cases read : (archiveFormat sha256Hex).records files.file with
      | error problem => exact .raised
      | ok records => exact stage_recordAfter validated valid still (existing.trans read)
  | @copying made unstored next =>
      refine ⟨holdsReplacers_quiet holds rfl, ?_⟩
      refine .writing files.file (by rwa [quiet rfl]) (fun current => ⟨?_, rfl⟩)
      exact next (by simpa [isCurrent_snoc, readsRecords, replaces, actOf] using current)
  | @writing made before unstored next =>
      refine ⟨holdsReplacers_quiet holds rfl, ?_⟩
      refine .replacing before (by rwa [quiet rfl]) (fun current => ?_) (fun _ => .inr rfl)
      exact next (by simpa [isCurrent_snoc, readsRecords, replaces, actOf] using current)
  | @replacing made before unstored next kept =>
      obtain ⟨file, temp, manifest⟩ := files
      cases temp with
      | none => exact ⟨holdsReplacers_quiet holds rfl, .checking (by rwa [quiet rfl]) _⟩
      | some text =>
          obtain ⟨current, ownTemp⟩ := guarded rfl
          obtain ⟨nextIs, rfl⟩ := next current
          have own : some text = some (appended before made.2) := by simpa using kept ownTemp
          refine ⟨holdsReplacers_replace holds (ordered side) unstored nextIs own, .indexing ?_⟩
          rw [replacers_snoc]
          exact List.mem_append_right _ List.mem_cons_self
  | indexing stored =>
      refine ⟨holdsReplacers_quiet holds rfl, ?_⟩
      have moved : side ∈ replacers
          (past ++ [(side, actOf ArchiveFiles.answer files () .readRecords)]) := by
        rwa [quiet rfl]
      show Stage _ _ _ _ _ files
        ((raising ((EvidenceArchive.mk archiveDir files.file none).manifestText sha256Hex
          (calls side).updatedAt) >>= _) >>= _)
      cases (EvidenceArchive.mk archiveDir files.file none).manifestText sha256Hex
          (calls side).updatedAt with
      | error problem => exact .raised
      | ok text => exact .saving moved
  | saving stored => exact ⟨holdsReplacers_quiet holds rfl, .returned (by rwa [quiet rfl])⟩
  | checking unstored rest =>
      refine ⟨holdsReplacers_quiet holds rfl, ?_⟩
      have still : side ∉ replacers
          (past ++ [(side, actOf ArchiveFiles.answer files () .tempExists)]) := by
        rwa [quiet rfl]
      show Stage _ _ _ _ _ files ((if files.temp.isSome then _ else _) >>= rest)
      split
      next => exact .discarding still
      next => exact .raised
  | discarding unstored => exact ⟨holdsReplacers_quiet holds rfl, .raised⟩

end Own

end Rules

/-- A race of two appends whose replacements are undisturbed leaves a usable
archive, wherever it stops. -/
theorem undisturbed_appends_usable
    (sha256Hex : List Char → String) (archiveDir : String) (calls : Side → ArchiveCall)
    (files : ArchiveFiles) (entries : List (List Char × ArchiveRecord))
    (sound : SoundLog sha256Hex files.file entries)
    (ordered : ∀ side, (Value.dict (calls side).event).KeyOrderStable) (schedule : List Side)
    (undisturbed : Guarded Undisturbed []
      (raceHistory sha256Hex archiveDir calls files schedule)) :
    Usable sha256Hex archiveDir calls (entries.map Prod.snd)
      (raceFinal sha256Hex archiveDir calls files schedule) := by
  have stable : Interleaving.StableUnderOther ArchiveFiles.answer
      (fun side => Stage sha256Hex archiveDir (calls side) side) :=
    fun side other past files _ op program different stage => stage_stable different op stage
  have initial : Interleaving.Known (HoldsReplacers sha256Hex calls entries)
      (fun side => Stage sha256Hex archiveDir (calls side) side) []
      (appendRace sha256Hex archiveDir calls files) :=
    { shared := ⟨.nil, [], by rw [List.append_nil]; exact sound, .nil⟩
      left := stage_start
      right := stage_start }
  unfold raceHistory at undisturbed
  obtain ⟨⟨once, added, whole, records⟩, left, right⟩ :=
    Interleaving.known_of_guarded (keepsOwn_stage ordered) stable initial _ undisturbed
  have read := (Format.records_eq_ok_of_stored whole.stored).mpr
    ⟨rfl, fun entry member => checkRecordHash_eq_ok.mpr (whole.signed entry member)⟩
  refine ⟨EvidenceArchive.verify_valid_iff.mpr ⟨_, read⟩, _, added.map Prod.snd, ?_, ?_, once, ?_⟩
  · rw [← List.map_append]
    exact read
  · exact List.forall₂_map_right_iff.mpr records
  · intro side returned
    cases side with
    | left => exact stored_of_returned left returned
    | right => exact stored_of_returned right returned

section Empty

variable {archiveDir : String}

/-- An append to an empty archive finds it blank and goes on to store its record. -/
theorem appendProgram_of_next
    {call : ArchiveCall} {made : List (String × Value) × List Char}
    (next : NextIs sha256Hex archiveDir none call made) :
    ∃ probed, appendProgram sha256Hex archiveDir call = .perform .probe probed ∧
      probed none = storeRecord sha256Hex archiveDir call.updatedAt made := by
  unfold NextIs at next
  rw [nextRecord_eq] at next
  obtain ⟨validation, validated, rest⟩ := except_bind_eq_ok.mp next
  split at rest
  next => cases rest
  next valid =>
    obtain ⟨records, read, line⟩ := except_bind_eq_ok.mp rest
    obtain rfl : [] = records := Except.ok.inj read
    refine ⟨_, appendProgram_of_validated validated (by simpa using valid), ?_⟩
    show recordAfter sha256Hex archiveDir call (validation.event.getD []) [] = _
    unfold recordAfter
    rw [line]
    rfl

theorem exists_next
    {call : ArchiveCall} (valid : IsValidEvent sha256Hex call.event)
    (ordered : (Value.dict call.event).KeyOrderStable) :
    ∃ made, NextIs sha256Hex archiveDir none call made := by
  obtain ⟨validation, validated, isValid⟩ := isValidEvent_iff.mpr valid
  obtain ⟨record, line, -, next, -⟩ := nextRecord_of_valid
    (show (archiveFormat sha256Hex).Intact (EvidenceArchive.mk archiveDir none none).file [] from
      Format.intact_none) validated isValid ordered call.createdAt
  exact ⟨_, next⟩

def noFiles : ArchiveFiles :=
  { file := none, temp := none, manifest := none }

/-- Both sides find the archive empty before either of them stores its record. -/
def bothProbeFirst : List Side :=
  [.left, .right, .left, .left, .left, .left, .left, .right, .right, .right, .right]

theorem file_of_bothProbeFirst
    {calls : Side → ArchiveCall} {made other : List (String × Value) × List Char}
    (next : NextIs sha256Hex archiveDir none (calls .left) made)
    (otherNext : NextIs sha256Hex archiveDir none (calls .right) other) :
    (raceFinal sha256Hex archiveDir calls noFiles bothProbeFirst).state.file =
      some (appended (some (appended none made.2)) other.2) := by
  obtain ⟨probed, shape, rest⟩ := appendProgram_of_next next
  obtain ⟨otherProbed, otherShape, otherRest⟩ := appendProgram_of_next otherNext
  have leftProbes : (Interleaving.step ArchiveFiles.answer
      { left := .perform .probe probed, right := .perform .probe otherProbed, state := noFiles }
      (Side.left, ())).2 =
      { left := probed none, right := .perform .probe otherProbed, state := noFiles } := rfl
  have rightProbes : (Interleaving.step ArchiveFiles.answer
      { left := probed none, right := .perform .probe otherProbed, state := noFiles }
      (Side.right, ())).2 =
      { left := probed none, right := otherProbed none, state := noFiles } := rfl
  unfold raceFinal appendRace bothProbeFirst
  rw [shape, otherShape, List.map_cons, List.map_cons, Machine.final, leftProbes, Machine.final,
    rightProbes, rest, otherRest]
  cases written : (EvidenceArchive.mk archiveDir (some (appended none made.2)) none).manifestText
      sha256Hex (calls .left).updatedAt <;>
    simp [noFiles, Machine.final, Interleaving.step, Interleaving.advance, storeRecord,
      atomicWrite, writeManifest, actOf, ArchiveFiles.answer, written, raising, Except.mapError,
      Program.ofExcept]

theorem soundLog_none : SoundLog sha256Hex none [] :=
  ⟨Format.stored_none, by simp⟩

theorem fingerprint_ne_empty (text : List Char) : fingerprint sha256Hex text ≠ "" := by
  intro empty
  have short := congrArg (fun hash : String => hash.toList.length) empty
  simp [fingerprint, length_sha256Hex] at short

/-- The second of two records that were both made for an empty archive does not
continue the first. -/
theorem unverified_of_lines
    {first second : ArchiveCall} {made other : List (String × Value) × List Char}
    (ordered : (Value.dict first.event).KeyOrderStable)
    (otherOrdered : (Value.dict second.event).KeyOrderStable)
    (next : NextIs sha256Hex archiveDir none first made)
    (otherNext : NextIs sha256Hex archiveDir none second other) {files : ArchiveFiles}
    (file : files.file = some (appended (some (appended none made.2)) other.2)) :
    ((files.archive archiveDir).verify sha256Hex).valid ≠ true := by
  obtain ⟨record, isRecord, before⟩ := soundLog_next soundLog_none ordered next
  obtain ⟨otherRecord, -, after⟩ := soundLog_next soundLog_none otherOrdered otherNext
  have lines : (files.archive archiveDir).file =
      some (unlines ([(made.2, record), (other.2, otherRecord)].map Prod.fst)) := by
    simp [ArchiveFiles.archive, file, appended, unlines]
  have solid := before.stored.solid (made.2, record) (by simp)
  have otherSolid := after.stored.solid (other.2, otherRecord) (by simp)
  have decoded := before.stored.decoded (made.2, record) (by simp)
  have otherDecoded := after.stored.decoded (other.2, otherRecord) (by simp)
  rw [Ne, EvidenceArchive.verify_valid_iff, lines,
    Format.read_unlines_iff (by simp [solid, otherSolid]) (by simp [decoded, otherDecoded])]
  rintro ⟨⟨-, follows, -⟩, -⟩
  obtain ⟨text, -, hash⟩ := isRecord.signed
  have starts : otherRecord.previousHash = "" := after.stored.linked.1
  refine fingerprint_ne_empty text ?_
  rw [← hash, ← starts]
  exact follows.symm

/-- Two records that were both made for an empty archive do not verify. -/
theorem unusable_of_bothProbeFirst
    {calls : Side → ArchiveCall}
    (valid : ∀ side, IsValidEvent sha256Hex (calls side).event)
    (ordered : ∀ side, (Value.dict (calls side).event).KeyOrderStable) :
    ¬Usable sha256Hex archiveDir calls []
      (raceFinal sha256Hex archiveDir calls noFiles bothProbeFirst) := by
  obtain ⟨made, next⟩ := @exists_next archiveDir _ (valid .left) (ordered .left)
  obtain ⟨other, otherNext⟩ := @exists_next archiveDir _ (valid .right) (ordered .right)
  intro usable
  have file := file_of_bothProbeFirst next otherNext
  exact unverified_of_lines (ordered .left) (ordered .right) next otherNext file usable.verifies

/-- The second side has looked at the archive, and waits while the first one
stores its record. -/
def firstStores : List Side :=
  [.right, .left, .left, .left, .left]

theorem undisturbed_firstStores
    {calls : Side → ArchiveCall}
    (valid : ∀ side, IsValidEvent sha256Hex (calls side).event)
    (ordered : ∀ side, (Value.dict (calls side).event).KeyOrderStable) :
    Guarded Undisturbed [] (raceHistory sha256Hex archiveDir calls noFiles firstStores) := by
  obtain ⟨made, next⟩ := @exists_next archiveDir _ (valid .left) (ordered .left)
  obtain ⟨other, otherNext⟩ := @exists_next archiveDir _ (valid .right) (ordered .right)
  obtain ⟨probed, shape, rest⟩ := appendProgram_of_next next
  obtain ⟨otherProbed, otherShape, -⟩ := appendProgram_of_next otherNext
  have started : raceHistory sha256Hex archiveDir calls noFiles firstStores =
      Interleaving.history (Machine.trace (Interleaving.step ArchiveFiles.answer)
        { left := .perform .probe probed, right := .perform .probe otherProbed, state := noFiles }
        (firstStores.map (fun side => (side, ())))) := by
    unfold raceHistory appendRace
    rw [shape, otherShape]
  rw [started]
  simp [firstStores, noFiles, Machine.trace, Machine.eventOf, Interleaving.step,
    Interleaving.advance, Interleaving.history, rest, storeRecord, atomicWrite, actOf,
    ArchiveFiles.answer, Guarded, Undisturbed, replaces, isCurrent, hasOwnTemp,
    Interleaving.since, readsRecords, writesTemp]

end Empty

def pricedCalls : Side → ArchiveCall
  | .left => pricedCall "2300"
  | .right => pricedCall "2400"

theorem pricedCalls_ordered : ∀ side, (Value.dict (pricedCalls side).event).KeyOrderStable
  | .left => pricedCall_stable _
  | .right => pricedCall_stable _

theorem pricedCalls_valid : ∀ side, IsValidEvent sha256Hex (pricedCalls side).event
  | .left => pricedCall_valid _
  | .right => pricedCall_valid _

/-- Two appends to an empty archive, the second of which takes the hash before
the first has stored its record. -/
theorem bothProbeFirst_unusable :
    SoundLog sha256Hex noFiles.file [] ∧
      (∀ side, IsValidEvent sha256Hex (pricedCalls side).event) ∧
      (∀ side, (Value.dict (pricedCalls side).event).KeyOrderStable) ∧
      ¬Usable sha256Hex "archive" pricedCalls []
        (raceFinal sha256Hex "archive" pricedCalls noFiles bothProbeFirst) :=
  ⟨soundLog_none, pricedCalls_valid, pricedCalls_ordered,
    unusable_of_bothProbeFirst pricedCalls_valid pricedCalls_ordered⟩

theorem firstStores_usable :
    Usable sha256Hex "archive" pricedCalls []
      (raceFinal sha256Hex "archive" pricedCalls noFiles firstStores) :=
  undisturbed_appends_usable sha256Hex "archive" pricedCalls noFiles [] soundLog_none
    pricedCalls_ordered firstStores
    (undisturbed_firstStores pricedCalls_valid pricedCalls_ordered)

end SuperAdvisor.Persistence
