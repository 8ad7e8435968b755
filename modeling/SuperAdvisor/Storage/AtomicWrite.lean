import SuperAdvisor.Foundation.Program
import Mathlib.Logic.Function.Basic

/-!
# The atomic write

The writer is called with the path of a temporary file beside the target; when
it returns the temporary file is moved over the target, and when it raises the
temporary file is removed.  The name of the temporary file depends on the target
alone.

A name leads to an inode.  A writer keeps the inode it has opened, also when the
name is moved, removed or opened again by somebody else, and goes on writing at
its own offset.
-/

namespace SuperAdvisor.Storage

abbrev Bytes := List UInt8

/-- The two names of an atomic write: the target and its temporary file. -/
structure FileSystem where
  contents : Nat → Bytes
  fresh : Nat
  target : Option Nat
  temp : Option Nat
  used : ∀ inode, target = some inode ∨ temp = some inode → inode < fresh
  apart : ∀ inode, temp = some inode → target ≠ some inode

namespace FileSystem

def targetContent (files : FileSystem) : Option Bytes :=
  files.target.map files.contents

/-- Write at an offset; a gap before it is filled with zeros. -/
def overlay (content : Bytes) (offset : Nat) (piece : Bytes) : Bytes :=
  content.take offset ++ List.replicate (offset - content.length) 0 ++ piece ++
    content.drop (offset + piece.length)

theorem overlay_length (content piece : Bytes) :
    overlay content content.length piece = content ++ piece := by
  simp [overlay]

def setContent (files : FileSystem) (inode : Nat) (content : Bytes) : FileSystem :=
  { files with contents := Function.update files.contents inode content }

/-- A new empty file under the temporary name. -/
def createTemp (files : FileSystem) : FileSystem :=
  { contents := Function.update files.contents files.fresh []
    fresh := files.fresh + 1
    target := files.target
    temp := some files.fresh
    used := by
      rintro inode (isTarget | isTemp)
      · exact Nat.lt_succ_of_lt (files.used inode (.inl isTarget))
      · obtain rfl : files.fresh = inode := Option.some.inj isTemp
        exact Nat.lt_succ_self _
    apart := by
      intro inode isTemp isTarget
      obtain rfl : files.fresh = inode := Option.some.inj isTemp
      exact Nat.lt_irrefl _ (files.used files.fresh (.inl isTarget)) }

def removeTemp (files : FileSystem) : FileSystem :=
  { files with
    temp := none
    used := fun inode found => files.used inode (found.imp_right (fun absent => by cases absent))
    apart := fun _ absent => by cases absent }

/-- The file under the temporary name, if there is one, moves to the target. -/
def moveTemp (files : FileSystem) : FileSystem :=
  { files with
    target := files.temp.or files.target
    temp := none
    used := by
      rintro inode (isTarget | absent)
      · rcases Option.or_eq_some_iff.mp isTarget with isTemp | ⟨-, wasTarget⟩
        · exact files.used inode (.inr isTemp)
        · exact files.used inode (.inl wasTarget)
      · cases absent
    apart := fun _ absent => by cases absent }

end FileSystem

inductive WriteOp where
  | makeDirectory
  | openTemp
  | write (inode offset : Nat) (piece : Bytes)
  | finish (inode : Nat)
  | replace
  | tempExists
  | unlinkTemp

/-- The replies; a failure is a reply, since the caller handles it. -/
abbrev WriteOp.Reply : WriteOp → Type
  | .makeDirectory => Bool
  | .openTemp => Option Nat
  | .write _ _ _ => Bool
  | .finish _ => Bool
  | .replace => Bool
  | .tempExists => Option Bool
  | .unlinkTemp => Bool

inductive WriteProblem where
  | directoryNotMade
  | writerRaised
  | notReplaced
  | notCleanedUp
  deriving DecidableEq

abbrev WriteProgram := Program WriteOp WriteOp.Reply WriteProblem

/-- Perform an operation.  Without a fault it does what it says; with a fault it
fails, a write after the given number of bytes. -/
def FileSystem.answer (files : FileSystem) (fault : Option Nat) :
    (op : WriteOp) → Except WriteProblem op.Reply × FileSystem
  | .makeDirectory => (.ok fault.isNone, files)
  | .openTemp =>
      if fault.isSome then (.ok none, files)
      else
        match files.temp with
        | some inode => (.ok (some inode), files.setContent inode [])
        | none => (.ok (some files.fresh), files.createTemp)
  | .write inode offset piece =>
      let done := match fault with
        | none => piece
        | some count => piece.take count
      (.ok fault.isNone,
        files.setContent inode (FileSystem.overlay (files.contents inode) offset done))
  | .finish _ => (.ok fault.isNone, files)
  | .replace =>
      if fault.isSome then (.ok false, files) else (.ok files.temp.isSome, files.moveTemp)
  | .tempExists => (.ok (if fault.isSome then none else some files.temp.isSome), files)
  | .unlinkTemp => if fault.isSome then (.ok false, files) else (.ok true, files.removeTemp)

/-- Write the pieces one after the other and close the file, which is also where
a writer checks what it has written. -/
def writePieces (inode : Nat) (offset : Nat) : List Bytes → WriteProgram Bool
  | [] => .perform (.finish inode) .done
  | piece :: rest =>
      .perform (.write inode offset piece) (fun written =>
        if written then writePieces inode (offset + piece.length) rest else .done false)

/-- A writer that writes these pieces; it has raised when the value is false. -/
def writer (pieces : List Bytes) : WriteProgram Bool :=
  .perform .openTemp (fun opened =>
    match opened with
    | none => .done false
    | some inode => writePieces inode 0 pieces)

/-- Remove the temporary file and raise the problem again. -/
def cleanUp (problem : WriteProblem) : WriteProgram Unit :=
  .perform .tempExists (fun found =>
    match found with
    | none => .raised .notCleanedUp
    | some false => .raised problem
    | some true => .perform .unlinkTemp (fun removed =>
        .raised (if removed then problem else .notCleanedUp)))

/-- What follows the writer. -/
def putInPlace (written : Bool) : WriteProgram Unit :=
  if written then
    .perform .replace (fun replaced => if replaced then .done () else cleanUp .notReplaced)
  else cleanUp .writerRaised

def atomicWrite (pieces : List Bytes) : WriteProgram Unit :=
  .perform .makeDirectory (fun made =>
    if made then writer pieces >>= putInPlace else .raised .directoryNotMade)

end SuperAdvisor.Storage
