import SuperAdvisor.Foundation.Interleaving
import SuperAdvisor.Storage.AtomicWrite

/-!
# Two atomic writes of one target

Both writers use the same temporary name, so the second of them truncates the
file of the first, writes over it, or has it moved to the target while it is
still writing.  As long as a writer moves a file that only it has touched since
it opened it, and no writer goes on writing into the target, the target holds
its old content or the whole content of the last writer that has returned.
-/

namespace SuperAdvisor.Storage

open Program
open Interleaving (Side Race Move since since_snoc Guarded)

abbrev WriteMove := Move FileSystem WriteOp WriteOp.Reply WriteProblem

/-- The file an operation has opened, and emptied. -/
def openedFile (move : WriteMove) : Option Nat :=
  match move.2 with
  | { op := .openTemp, reply := .ok opened, .. } => opened
  | _ => none

def writtenFile (move : WriteMove) : Option Nat :=
  match move.2.op with
  | .write inode _ _ => some inode
  | _ => none

/-- The file an operation has moved to the target. -/
def movedFile (move : WriteMove) : Option Nat :=
  match move.2 with
  | { op := .replace, reply := .ok true, before, .. } => before.temp
  | _ => none

/-- Whose files were moved to the target, in order. -/
def movers (past : List WriteMove) : List Side :=
  (past.filter (fun move => (movedFile move).isSome)).map Prod.fst

def opens (side : Side) (inode : Nat) (move : WriteMove) : Bool :=
  decide (move.1 = side ∧ openedFile move = some inode)

/-- Another writer opens the file or writes to it. -/
def intrudes (side : Side) (inode : Nat) (move : WriteMove) : Bool :=
  decide (move.1 ≠ side ∧ (openedFile move = some inode ∨ writtenFile move = some inode))

/-- The side has opened the file, and nobody else has touched it since. -/
def holdsFile (side : Side) (inode : Nat) (past : List WriteMove) : Bool :=
  since (opens side inode) (intrudes side inode) past

/-- A writer does not write into the target, and moves a file of its own. -/
def Exclusive (past : List WriteMove) (move : WriteMove) : Prop :=
  (∀ inode ∈ writtenFile move, move.2.before.target ≠ some inode) ∧
    ∀ inode ∈ movedFile move, holdsFile move.1 inode past = true

instance (past : List WriteMove) (move : WriteMove) : Decidable (Exclusive past move) :=
  inferInstanceAs (Decidable (_ ∧ _))

abbrev WriteRace :=
  Race FileSystem WriteOp WriteOp.Reply WriteProblem Unit Unit

def writeRace (pieces : Side → List Bytes) (files : FileSystem) : WriteRace :=
  { left := atomicWrite (pieces .left)
    right := atomicWrite (pieces .right)
    state := files }

/-- The race after the turns of a schedule, each with the fault it meets. -/
def raceFinal (pieces : Side → List Bytes) (files : FileSystem)
    (schedule : List (Side × Option Nat)) : WriteRace :=
  Machine.final (Interleaving.step FileSystem.answer) (writeRace pieces files) schedule

def raceHistory (pieces : Side → List Bytes) (files : FileSystem)
    (schedule : List (Side × Option Nat)) : List WriteMove :=
  Interleaving.history
    (Machine.trace (Interleaving.step FileSystem.answer) (writeRace pieces files) schedule)

/-- The call of the side has returned. -/
def Returned (race : WriteRace) : Side → Prop
  | .left => race.left.value?.isSome
  | .right => race.right.value?.isSome

instance (race : WriteRace) : (side : Side) → Decidable (Returned race side)
  | .left => inferInstanceAs (Decidable (_ = true))
  | .right => inferInstanceAs (Decidable (_ = true))

/-- The target holds what it held before or the whole content of one writer, and
the content of a call that has returned is there unless another call that has
returned has replaced it. -/
structure Atomic (pieces : Side → List Bytes) (files : FileSystem) (race : WriteRace) :
    Prop where
  whole : race.state.targetContent = files.targetContent ∨
    ∃ side, race.state.targetContent = some (pieces side).flatten
  kept : ∀ side, Returned race side →
    ∃ winner, Returned race winner ∧ race.state.targetContent = some (pieces winner).flatten

/-! What is known between two operations. -/

/-- The target holds what the last mover has written. -/
def HoldsLast (pieces : Side → List Bytes) (before : FileSystem) (past : List WriteMove)
    (files : FileSystem) : Prop :=
  files.targetContent =
    match (movers past).getLast? with
    | none => before.targetContent
    | some side => some (pieces side).flatten

/-- The only file a side can hold is this one, and as long as it holds it, it
knows the content. -/
structure Holding (side : Side) (inode : Nat) (content : Bytes) (past : List WriteMove)
    (files : FileSystem) : Prop where
  only : ∀ other, holdsFile side other past = true → other = inode
  content : holdsFile side inode past = true → files.contents inode = content

/-- Where a call stands and what it knows of the files. -/
inductive Stage (pieces : List Bytes) (side : Side) (past : List WriteMove)
    (files : FileSystem) : WriteProgram Unit → Prop
  | starting (unmoved : side ∉ movers past) (holdsNone : ∀ inode, holdsFile side inode past = false) :
      Stage pieces side past files (atomicWrite pieces)
  | opening (unmoved : side ∉ movers past) (holdsNone : ∀ inode, holdsFile side inode past = false) :
      Stage pieces side past files (writer pieces >>= putInPlace)
  | writing {inode : Nat} {piece : Bytes} {written rest : List Bytes}
      (unmoved : side ∉ movers past) (whole : written ++ piece :: rest = pieces)
      (holding : Holding side inode written.flatten past files) :
      Stage pieces side past files
        (.perform (.write inode written.flatten.length piece) (fun wrote =>
          (if wrote then writePieces inode (written.flatten.length + piece.length) rest
            else .done false) >>= putInPlace))
  | finishing {inode : Nat} (unmoved : side ∉ movers past)
      (holding : Holding side inode pieces.flatten past files) :
      Stage pieces side past files (.perform (.finish inode) putInPlace)
  | replacing {inode : Nat} (unmoved : side ∉ movers past)
      (holding : Holding side inode pieces.flatten past files) :
      Stage pieces side past files (putInPlace true)
  | checking {problem : WriteProblem} (unmoved : side ∉ movers past) :
      Stage pieces side past files (cleanUp problem)
  | discarding {problem : WriteProblem} (unmoved : side ∉ movers past) :
      Stage pieces side past files (.perform .unlinkTemp (fun removed =>
        .raised (if removed then problem else .notCleanedUp)))
  | raised {problem : WriteProblem} (unmoved : side ∉ movers past) :
      Stage pieces side past files (.raised problem)
  | returned (moved : side ∈ movers past) : Stage pieces side past files (.done ())

section Moves

variable {side other : Side} {inode : Nat} {content : Bytes} {past : List WriteMove}
  {files : FileSystem} {op : WriteOp} {fault : Option Nat}

theorem movers_snoc (past : List WriteMove) (move : WriteMove) :
    movers (past ++ [move]) =
      movers past ++ if (movedFile move).isSome then [move.1] else [] := by
  by_cases moves : (movedFile move).isSome <;> simp [movers, moves]

theorem holdsFile_snoc (side : Side) (inode : Nat) (past : List WriteMove) (move : WriteMove) :
    holdsFile side inode (past ++ [move]) =
      (opens side inode move || (holdsFile side inode past && !intrudes side inode move)) :=
  since_snoc _ _ _ _

/-- An operation that neither opens nor writes a file leaves its content. -/
theorem contents_of_untouched
    (unopened : openedFile (side, actOf FileSystem.answer files fault op) ≠ some inode)
    (unwritten : writtenFile (side, actOf FileSystem.answer files fault op) ≠ some inode) :
    (actOf FileSystem.answer files fault op).after.contents inode = files.contents inode := by
  cases op with
  | openTemp =>
      cases fault with
      | some count => simp [actOf, FileSystem.answer]
      | none =>
          cases temp : files.temp with
          | some opened =>
              have different : inode ≠ opened := by
                rintro rfl
                exact unopened (by simp [openedFile, actOf, FileSystem.answer, temp])
              simp [actOf, FileSystem.answer, temp, FileSystem.setContent, different]
          | none =>
              have different : inode ≠ files.fresh := by
                rintro rfl
                exact unopened (by simp [openedFile, actOf, FileSystem.answer, temp])
              simp [actOf, FileSystem.answer, temp, FileSystem.createTemp, different]
  | write opened offset piece =>
      have different : inode ≠ opened := by
        rintro rfl
        exact unwritten rfl
      simp [actOf, FileSystem.answer, FileSystem.setContent, different]
  | replace =>
      cases fault <;> rfl
  | unlinkTemp =>
      cases fault <;> rfl
  | _ => rfl

/-- What a side holds after an operation of the other it held before, untouched. -/
theorem holding_stable (different : side ≠ other)
    (holding : Holding side inode content past files) (op : WriteOp) (fault : Option Nat) :
    Holding side inode content (past ++ [(other, actOf FileSystem.answer files fault op)])
      (actOf FileSystem.answer files fault op).after := by
  have before : ∀ file,
      holdsFile side file (past ++ [(other, actOf FileSystem.answer files fault op)]) = true →
        holdsFile side file past = true ∧
          openedFile (other, actOf FileSystem.answer files fault op) ≠ some file ∧
          writtenFile (other, actOf FileSystem.answer files fault op) ≠ some file := by
    intro file still
    simpa [holdsFile_snoc, opens, intrudes, different.symm, not_or] using still
  constructor
  · intro file still
    exact holding.only file (before file still).1
  · intro still
    obtain ⟨held, unopened, unwritten⟩ := before inode still
    rw [contents_of_untouched unopened unwritten]
    exact holding.content held

theorem holdsNone_stable (different : side ≠ other)
    (holdsNone : ∀ inode, holdsFile side inode past = false) (act : Act FileSystem WriteOp
      WriteOp.Reply WriteProblem) :
    ∀ inode, holdsFile side inode (past ++ [(other, act)]) = false := by
  intro inode
  simp [holdsFile_snoc, opens, different.symm, holdsNone]

/-- An operation of the side itself that opens nothing changes nothing of what it holds. -/
theorem holdsFile_own
    (unopened : openedFile (side, actOf FileSystem.answer files fault op) = none) :
    holdsFile side inode (past ++ [(side, actOf FileSystem.answer files fault op)]) =
      holdsFile side inode past := by
  simp [holdsFile_snoc, opens, intrudes, unopened]

theorem movers_own
    (quiet : movedFile (side, actOf FileSystem.answer files fault op) = none) :
    movers (past ++ [(side, actOf FileSystem.answer files fault op)]) = movers past := by
  simp [movers_snoc, quiet]

/-- Without a move the target keeps its content, unless somebody writes into it. -/
theorem targetContent_of_not_moved
    (unmoved : movedFile (side, actOf FileSystem.answer files fault op) = none)
    (outside : ∀ inode ∈ writtenFile (side, actOf FileSystem.answer files fault op),
      files.target ≠ some inode) :
    (actOf FileSystem.answer files fault op).after.targetContent = files.targetContent := by
  have sameTarget : (actOf FileSystem.answer files fault op).after.target = files.target := by
    cases op with
    | openTemp =>
        cases fault with
        | some count => rfl
        | none => cases temp : files.temp <;>
            simp [actOf, FileSystem.answer, temp, FileSystem.setContent, FileSystem.createTemp]
    | replace =>
        cases fault with
        | some count => rfl
        | none =>
            cases temp : files.temp with
            | some inode => simp [movedFile, actOf, FileSystem.answer, temp] at unmoved
            | none => simp [actOf, FileSystem.answer, FileSystem.moveTemp, temp]
    | unlinkTemp => cases fault <;> rfl
    | _ => rfl
  unfold FileSystem.targetContent
  rw [sameTarget]
  cases target : files.target with
  | none => rfl
  | some inode =>
      -- the temporary file is never the target, and a new file is none of the two
      have unopened :
          openedFile (side, actOf FileSystem.answer files fault op) ≠ some inode := by
        intro opened
        cases op with
        | openTemp =>
            cases fault with
            | some count => simp [openedFile, actOf, FileSystem.answer] at opened
            | none =>
                cases temp : files.temp with
                | some other =>
                    obtain rfl : other = inode := by
                      simpa [openedFile, actOf, FileSystem.answer, temp] using opened
                    exact files.apart other temp target
                | none =>
                    obtain rfl : files.fresh = inode := by
                      simpa [openedFile, actOf, FileSystem.answer, temp] using opened
                    exact Nat.lt_irrefl _ (files.used files.fresh (.inl target))
        | _ => cases opened
      have unwritten :
          writtenFile (side, actOf FileSystem.answer files fault op) ≠ some inode := by
        intro written
        exact outside inode written target
      exact congrArg some (contents_of_untouched unopened unwritten)

theorem holdsLast_quiet
    {pieces : Side → List Bytes} {before : FileSystem}
    (holds : HoldsLast pieces before past files)
    (unmoved : movedFile (side, actOf FileSystem.answer files fault op) = none)
    (outside : ∀ inode ∈ writtenFile (side, actOf FileSystem.answer files fault op),
      files.target ≠ some inode) :
    HoldsLast pieces before (past ++ [(side, actOf FileSystem.answer files fault op)])
      (actOf FileSystem.answer files fault op).after := by
  unfold HoldsLast
  rw [movers_own unmoved, targetContent_of_not_moved unmoved outside]
  exact holds

end Moves

section Rules

variable {pieces : List Bytes} {side other : Side} {past : List WriteMove}
  {files : FileSystem} {program : WriteProgram Unit}

/-- What a call knows does not depend on the operations of the other. -/
theorem stage_stable (different : side ≠ other) (op : WriteOp) (fault : Option Nat)
    (stage : Stage pieces side past files program) :
    Stage pieces side (past ++ [(other, actOf FileSystem.answer files fault op)])
      (actOf FileSystem.answer files fault op).after program := by
  have sameMovers : ∀ act, side ∈ movers (past ++ [(other, act)]) ↔ side ∈ movers past := by
    intro act
    rw [movers_snoc]
    split <;> simp [different]
  have stillUnmoved : ∀ act, side ∉ movers past → side ∉ movers (past ++ [(other, act)]) :=
    fun act => mt (sameMovers act).mp
  cases stage with
  | starting unmoved holdsNone =>
      exact .starting (stillUnmoved _ unmoved) (holdsNone_stable different holdsNone _)
  | opening unmoved holdsNone =>
      exact .opening (stillUnmoved _ unmoved) (holdsNone_stable different holdsNone _)
  | writing unmoved whole holding =>
      exact .writing (stillUnmoved _ unmoved) whole (holding_stable different holding op fault)
  | finishing unmoved holding =>
      exact .finishing (stillUnmoved _ unmoved) (holding_stable different holding op fault)
  | replacing unmoved holding =>
      exact .replacing (stillUnmoved _ unmoved) (holding_stable different holding op fault)
  | checking unmoved => exact .checking (stillUnmoved _ unmoved)
  | discarding unmoved => exact .discarding (stillUnmoved _ unmoved)
  | raised unmoved => exact .raised (stillUnmoved _ unmoved)
  | returned moved => exact .returned ((sameMovers _).mpr moved)

theorem stage_putInPlace_false (unmoved : side ∉ movers past) :
    Stage pieces side past files (putInPlace false) :=
  .checking unmoved

theorem stage_writePieces
    {inode : Nat} {written rest : List Bytes} (unmoved : side ∉ movers past)
    (whole : written ++ rest = pieces)
    (holding : Holding side inode written.flatten past files) :
    Stage pieces side past files
      (writePieces inode written.flatten.length rest >>= putInPlace) := by
  cases rest with
  | nil =>
      obtain rfl : written = pieces := by simpa using whole
      exact .finishing unmoved holding
  | cons piece rest => exact .writing unmoved whole holding

/-- Opening gives a side the only file it holds, and the file is empty. -/
theorem holding_openTemp
    (holdsNone : ∀ inode, holdsFile side inode past = false) {fault : Option Nat} {inode : Nat}
    (opened : openedFile (side, actOf FileSystem.answer files fault .openTemp) = some inode) :
    Holding side inode [] (past ++ [(side, actOf FileSystem.answer files fault .openTemp)])
      (actOf FileSystem.answer files fault .openTemp).after := by
  constructor
  · intro other held
    rw [holdsFile_snoc, holdsNone other] at held
    simpa [opens, opened, eq_comm] using held
  · intro _
    cases fault with
    | some count => simp [openedFile, actOf, FileSystem.answer] at opened
    | none =>
        cases temp : files.temp with
        | some existing =>
            obtain rfl : existing = inode := by
              simpa [openedFile, actOf, FileSystem.answer, temp] using opened
            simp [actOf, FileSystem.answer, temp, FileSystem.setContent]
        | none =>
            obtain rfl : files.fresh = inode := by
              simpa [openedFile, actOf, FileSystem.answer, temp] using opened
            simp [actOf, FileSystem.answer, temp, FileSystem.createTemp]

/-- What a side holds after an operation of its own that opens and writes nothing. -/
theorem holding_own
    {inode : Nat} {content : Bytes} (holding : Holding side inode content past files)
    {op : WriteOp} {fault : Option Nat}
    (unopened : openedFile (side, actOf FileSystem.answer files fault op) = none)
    (unwritten : writtenFile (side, actOf FileSystem.answer files fault op) = none) :
    Holding side inode content (past ++ [(side, actOf FileSystem.answer files fault op)])
      (actOf FileSystem.answer files fault op).after := by
  constructor
  · intro other held
    rw [holdsFile_own unopened] at held
    exact holding.only other held
  · intro held
    rw [holdsFile_own unopened] at held
    have notOpened : openedFile (side, actOf FileSystem.answer files fault op) ≠ some inode := by
      simp [unopened]
    have notWritten : writtenFile (side, actOf FileSystem.answer files fault op) ≠ some inode := by
      simp [unwritten]
    rw [contents_of_untouched notOpened notWritten]
    exact holding.content held

/-- A piece that is written without a fault continues what the side has written. -/
theorem holding_write
    {inode : Nat} {content : Bytes} (holding : Holding side inode content past files)
    (piece : Bytes) :
    Holding side inode (content ++ piece)
      (past ++ [(side, actOf FileSystem.answer files none (.write inode content.length piece))])
      (actOf FileSystem.answer files none (.write inode content.length piece)).after := by
  constructor
  · intro other held
    rw [holdsFile_own rfl] at held
    exact holding.only other held
  · intro held
    rw [holdsFile_own rfl] at held
    simp [actOf, FileSystem.answer, FileSystem.setContent, holding.content held,
      FileSystem.overlay_length]

end Rules

section Own

variable {pieces : Side → List Bytes} {before : FileSystem}

/-- The move of a file that its writer holds puts the whole content in the target. -/
theorem holdsLast_replace
    {side : Side} {inode : Nat} {past : List WriteMove} {files : FileSystem}
    (holding : Holding side inode (pieces side).flatten past files)
    (temp : files.temp = some inode) (held : holdsFile side inode past = true) :
    HoldsLast pieces before (past ++ [(side, actOf FileSystem.answer files none .replace)])
      (actOf FileSystem.answer files none .replace).after := by
  have moved : movedFile (side, actOf FileSystem.answer files none .replace) = some inode := by
    simp [movedFile, actOf, FileSystem.answer, temp]
  unfold HoldsLast
  rw [movers_snoc, moved]
  simp [FileSystem.targetContent, actOf, FileSystem.answer, FileSystem.moveTemp, temp,
    holding.content held]

/-- Every exclusive operation keeps what is shared and what its side knows. -/
theorem keepsOwn_writer :
    Interleaving.KeepsOwn FileSystem.answer (HoldsLast pieces before)
      (fun side => Stage (pieces side) side) Exclusive := by
  intro side past files fault op next holds stage exclusive
  have outside := exclusive.1
  cases stage with
  | starting unmoved holdsNone =>
      refine ⟨holdsLast_quiet holds rfl outside, ?_⟩
      have still : side ∉ movers
          (past ++ [(side, actOf FileSystem.answer files fault .makeDirectory)]) := by
        rwa [movers_own rfl]
      cases fault with
      | some count => exact .raised still
      | none =>
          refine .opening still (fun inode => ?_)
          rw [holdsFile_own rfl]
          exact holdsNone inode
  | opening unmoved holdsNone =>
      refine ⟨holdsLast_quiet holds rfl outside, ?_⟩
      have still : side ∉ movers
          (past ++ [(side, actOf FileSystem.answer files fault .openTemp)]) := by
        rwa [movers_own rfl]
      cases opened : openedFile (side, actOf FileSystem.answer files fault .openTemp) with
      | none =>
          cases fault with
          | some count => exact stage_putInPlace_false still
          | none => cases temp : files.temp <;>
              simp [openedFile, actOf, FileSystem.answer, temp] at opened
      | some inode =>
          have holding := holding_openTemp holdsNone opened
          have reply :
              (actOf FileSystem.answer files fault .openTemp).reply = .ok (some inode) := by
            cases fault with
            | some count => simp [openedFile, actOf, FileSystem.answer] at opened
            | none =>
                cases temp : files.temp <;>
                  simpa [openedFile, actOf, FileSystem.answer, temp] using opened
          rw [reply]
          exact stage_writePieces still (List.nil_append _) holding
  | @writing inode piece written rest unmoved whole holding =>
      refine ⟨holdsLast_quiet holds rfl outside, ?_⟩
      have still : side ∉ movers (past ++
          [(side, actOf FileSystem.answer files fault
            (.write inode written.flatten.length piece))]) := by
        rwa [movers_own rfl]
      cases fault with
      | some count => exact stage_putInPlace_false still
      | none =>
          show Stage _ _ _ _
            (writePieces inode (written.flatten.length + piece.length) rest >>= putInPlace)
          have flatten : (written ++ [piece]).flatten = written.flatten ++ piece := by simp
          rw [← List.length_append, ← flatten]
          refine stage_writePieces still (by simpa using whole) ?_
          rw [flatten]
          exact holding_write holding piece
  | @finishing inode unmoved holding =>
      refine ⟨holdsLast_quiet holds rfl outside, ?_⟩
      have still : side ∉ movers
          (past ++ [(side, actOf FileSystem.answer files fault (.finish inode))]) := by
        rwa [movers_own rfl]
      cases fault with
      | some count => exact stage_putInPlace_false still
      | none => exact .replacing still (holding_own holding rfl rfl)
  | @replacing inode unmoved holding =>
      cases moved : movedFile (side, actOf FileSystem.answer files fault .replace) with
      | none =>
          refine ⟨holdsLast_quiet holds moved outside, ?_⟩
          have still : side ∉ movers
              (past ++ [(side, actOf FileSystem.answer files fault .replace)]) := by
            rwa [movers_own moved]
          cases fault with
          | some count => exact .checking still
          | none =>
              cases temp : files.temp with
              | some file => simp [movedFile, actOf, FileSystem.answer, temp] at moved
              | none =>
                  have reply : (actOf FileSystem.answer files none .replace).reply = .ok false := by
                    simp [actOf, FileSystem.answer, temp]
                  rw [reply]
                  exact .checking still
      | some file =>
          have held : holdsFile side file past = true := exclusive.2 file moved
          obtain rfl := holding.only file held
          have returned : side ∈ movers
              (past ++ [(side, actOf FileSystem.answer files fault .replace)]) := by
            rw [movers_snoc, moved]
            exact List.mem_append_right _ List.mem_cons_self
          cases fault with
          | some count => simp [movedFile, actOf, FileSystem.answer] at moved
          | none =>
              cases temp : files.temp with
              | none => simp [movedFile, actOf, FileSystem.answer, temp] at moved
              | some other =>
                  obtain rfl : other = file := by
                    simpa [movedFile, actOf, FileSystem.answer, temp] using moved
                  have reply : (actOf FileSystem.answer files none .replace).reply = .ok true := by
                    simp [actOf, FileSystem.answer, temp]
                  refine ⟨holdsLast_replace holding temp held, ?_⟩
                  rw [reply]
                  exact .returned returned
  | checking unmoved =>
      refine ⟨holdsLast_quiet holds rfl outside, ?_⟩
      have still : side ∉ movers
          (past ++ [(side, actOf FileSystem.answer files fault .tempExists)]) := by
        rwa [movers_own rfl]
      cases fault with
      | some count => exact .raised still
      | none =>
          cases temp : files.temp with
          | none =>
              have reply : (actOf FileSystem.answer files none .tempExists).reply =
                  .ok (some false) := by
                simp [actOf, FileSystem.answer, temp]
              rw [reply]
              exact .raised still
          | some file =>
              have reply : (actOf FileSystem.answer files none .tempExists).reply =
                  .ok (some true) := by
                simp [actOf, FileSystem.answer, temp]
              rw [reply]
              exact .discarding still
  | discarding unmoved =>
      refine ⟨holdsLast_quiet holds (by cases fault <;> rfl) outside, ?_⟩
      have still : side ∉ movers
          (past ++ [(side, actOf FileSystem.answer files fault .unlinkTemp)]) := by
        rwa [movers_own (by cases fault <;> rfl)]
      cases fault <;> exact .raised still

/-- A call has returned exactly when it has moved a file to the target. -/
theorem returned_iff_moved
    {content : List Bytes} {side : Side} {past : List WriteMove} {files : FileSystem}
    {program : WriteProgram Unit} (stage : Stage content side past files program) :
    program.value?.isSome = true ↔ side ∈ movers past := by
  cases stage with
  | returned moved => exact iff_of_true rfl moved
  | starting unmoved | opening unmoved | writing unmoved | finishing unmoved
  | replacing unmoved | checking unmoved | discarding unmoved | raised unmoved =>
      exact iff_of_false Bool.false_ne_true unmoved

end Own

/-- Two atomic writes whose operations are exclusive, each with the fault it
meets, are atomic wherever they stop. -/
theorem exclusive_writes_atomic
    (pieces : Side → List Bytes) (files : FileSystem) (schedule : List (Side × Option Nat))
    (exclusive : Guarded Exclusive [] (raceHistory pieces files schedule)) :
    Atomic pieces files (raceFinal pieces files schedule) := by
  have stable : Interleaving.StableUnderOther FileSystem.answer
      (fun side => Stage (pieces side) side) :=
    fun side other past files fault op program different stage =>
      stage_stable different op fault stage
  have starting : ∀ side, Stage (pieces side) side [] files (atomicWrite (pieces side)) :=
    fun side => .starting List.not_mem_nil (fun inode => rfl)
  have initial : Interleaving.Known (HoldsLast pieces files)
      (fun side => Stage (pieces side) side) [] (writeRace pieces files) :=
    { shared := rfl
      left := starting .left
      right := starting .right }
  obtain ⟨holds, left, right⟩ :=
    Interleaving.known_of_guarded keepsOwn_writer stable initial schedule exclusive
  rw [List.nil_append] at holds left right
  have returned : ∀ side, Returned (raceFinal pieces files schedule) side ↔
      side ∈ movers (raceHistory pieces files schedule)
    | .left => returned_iff_moved left
    | .right => returned_iff_moved right
  have holdsLast : HoldsLast pieces files (raceHistory pieces files schedule)
      (raceFinal pieces files schedule).state := holds
  unfold HoldsLast at holdsLast
  have last : ∀ side, (movers (raceHistory pieces files schedule)).getLast? = some side →
      (raceFinal pieces files schedule).state.targetContent = some (pieces side).flatten := by
    intro side moved
    rw [holdsLast, moved]
  constructor
  · cases moved : (movers (raceHistory pieces files schedule)).getLast? with
    | none =>
        rw [moved] at holdsLast
        exact .inl holdsLast
    | some side => exact .inr ⟨side, last side moved⟩
  · intro side hasReturned
    have moved := (returned side).mp hasReturned
    have isLast := List.getLast?_eq_some_getLast (List.ne_nil_of_mem moved)
    exact ⟨_, (returned _).mpr (List.mem_of_getLast? isLast), last _ isLast⟩

/-! Two runs: one call after the other, and two calls that share the temporary file. -/

def noFiles : FileSystem :=
  { contents := fun _ => []
    fresh := 0
    target := none
    temp := none
    used := by simp
    apart := by simp }

/-- One long content in two pieces, one short content. -/
def twoContents : Side → List Bytes
  | .left => [[1, 1], [1, 1]]
  | .right => [[2]]

/-- The second call starts when the first has returned; its replacement fails. -/
def oneAfterTheOther : List (Side × Option Nat) :=
  List.replicate 6 (.left, none) ++ List.replicate 4 (.right, none) ++
    [(.right, some 0)] ++ List.replicate 2 (.right, none)

theorem oneAfterTheOther_atomic :
    Atomic twoContents noFiles (raceFinal twoContents noFiles oneAfterTheOther) :=
  exclusive_writes_atomic twoContents noFiles oneAfterTheOther (by decide +kernel)

/-- The second call opens the temporary file while the first is writing. -/
def opensAmid : List (Side × Option Nat) :=
  [(.left, none), (.right, none), (.left, none), (.left, none), (.right, none),
    (.right, none), (.left, none), (.left, none), (.right, none), (.left, none)]

/-- The first call returns with a target that neither call has written. -/
theorem opensAmid_torn :
    Returned (raceFinal twoContents noFiles opensAmid) .left ∧
      (raceFinal twoContents noFiles opensAmid).state.targetContent = some [2, 0, 1, 1] ∧
      ¬Atomic twoContents noFiles (raceFinal twoContents noFiles opensAmid) := by
  have torn : (raceFinal twoContents noFiles opensAmid).state.targetContent =
      some [2, 0, 1, 1] := by
    decide +kernel
  refine ⟨by decide +kernel, torn, ?_⟩
  rintro ⟨same | ⟨side, whole⟩, -⟩
  · rw [torn] at same
    revert same
    decide +kernel
  · rw [torn] at whole
    cases side <;> revert whole <;> decide +kernel

end SuperAdvisor.Storage
