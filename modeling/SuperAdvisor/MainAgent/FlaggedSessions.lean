import SuperAdvisor.Foundation.Interleaving
import SuperAdvisor.MainAgent.CheckpointFlags
import SuperAdvisor.MainAgent.CompletionReports

/-!
# Calls on a flagged checkpoint

A call that finds the stopped or the paused flag in its checkpoint dispatches
nothing, reports the flag, and leaves it in the file.  Only a resume takes the
paused flag away.

`execute` loads the checkpoint once and rewrites the file after every task, with
the flags it loaded.  A stop or a pause of another process takes hold exactly
when the last save of the two is not one of `execute`; then every later call
reports the flag and dispatches nothing.
-/

namespace SuperAdvisor.MainAgent

open Interleaving (Side Race lastBy)
open Program (Upholds upholds_bind upholds_bind_ofExcept run_upholds run_invariant)

variable {Time : Type}

/-- What `execute` reports on a flagged checkpoint: the paused flag goes first. -/
def RuntimeCheckpoint.refusal (checkpoint : RuntimeCheckpoint) : String :=
  if checkpoint.paused then "PAUSED" else "STOPPED"

/-- The call does not dispatch, and a report of it names the flag it found; a
resume has taken the paused flag away. -/
structure Refused (sha256Hex : List Char → String) (request : RuntimeRequest Time)
    (event : SessionEvent Time) : Prop where
  idle : ∀ act ∈ event.reply.acts, act.op.dispatched = none
  reported : ∀ report, event.reply.outcome = .returned (some report) →
    ∀ stored, storedCheckpoint sha256Hex request event.before = .ok stored →
      report.status =
        if event.call.call = .resume then "STOPPED" else stored.refusal

/-- The calls that leave the flag of the command alone. -/
def FlagCommand.Spares (command : FlagCommand) (call : OperatorCall) : Prop :=
  command = .pause → call ≠ .resume

section Calls

variable {sha256Hex : List Char → String} {request : RuntimeRequest Time}
  {command : FlagCommand} {past : List (RuntimeAct Time)} {files : Files}
  {stored : RuntimeCheckpoint}

/-- No dispatch, and saves only with the flag. -/
def Idles (sha256Hex : List Char → String) (request : RuntimeRequest Time)
    (command : FlagCommand) (_past : List (RuntimeAct Time)) (act : RuntimeAct Time) : Prop :=
  act.op.dispatched = none ∧ Writes sha256Hex request command true act.op

theorem idles_quiet
    (past : List (RuntimeAct Time)) (act : RuntimeAct Time) (quiet : act.op.IsQuiet) :
    Idles sha256Hex request command past act := by
  unfold Idles
  cases same : act.op <;> rw [same] at quiet <;> first | exact ⟨rfl, trivial⟩ | exact quiet.elim

/-- A resave that keeps the flag. -/
theorem upholds_flaggedResave
    (found : storedCheckpoint sha256Hex request files = .ok stored)
    (change : RuntimeCheckpoint → RuntimeCheckpoint)
    (flag : command.flag (change stored) = true) :
    Upholds answer (Idles sha256Hex request command)
      (fun _ _ files' => storedCheckpoint sha256Hex request files' =
        .ok (change stored).reloaded)
      (loadCheckpoint sha256Hex request >>= fun checkpoint =>
        saveCheckpoint sha256Hex request (change checkpoint)) past files := by
  refine upholds_bind (fun checkpoint _ files' => checkpoint = stored ∧ files' = files) ?_ ?_
  · refine upholds_loadCheckpoint idles_quiet ?_
    intro checkpoint _ again _
    obtain rfl : stored = checkpoint := by simpa [found] using again
    exact ⟨rfl, rfl⟩
  intro checkpoint _ _ ⟨same, sameFiles⟩
  subst same sameFiles
  refine upholds_replaceCheckpoint ?_ (fun _ _ saved _ => saved)
  exact fun _ _ printed => ⟨rfl, rfl, change checkpoint, printed, flag⟩

variable [LinearOrder Time] [Add Time]

theorem upholds_flaggedExecute
    (manager : MainRuntimeManager)
    (found : storedCheckpoint sha256Hex request files = .ok stored)
    (flag : command.flag stored = true) :
    Upholds answer (Idles sha256Hex request command)
      (fun report _ _ => report.status = stored.refusal)
      (execute sha256Hex manager request) past files := by
  unfold execute
  split
  · exact .raised
  split
  · exact .raised
  refine upholds_bind_ofExcept ?_
  intro ordered _
  refine upholds_bind (fun checkpoint _ _ => checkpoint = stored) ?_ ?_
  · refine upholds_loadCheckpoint idles_quiet ?_
    intro checkpoint _ again _
    simpa [found] using again.symm
  intro checkpoint _ _ same
  subst same
  split
  next paused => exact .done (by simp [report, RuntimeCheckpoint.refusal, paused])
  next running =>
    split
    next stopped => exact .done (by simp [report, RuntimeCheckpoint.refusal, running])
    next alive =>
      cases command
      · exact absurd flag alive
      · exact absurd flag running

/-- What a call does on a checkpoint with the flag. -/
theorem upholds_flaggedCall
    (manager : MainRuntimeManager) {call : OperatorCall} (spares : command.Spares call)
    (found : storedCheckpoint sha256Hex request files = .ok stored)
    (flag : command.flag stored = true) :
    Upholds answer (Idles sha256Hex request command)
      (fun report _ _ => ∀ shown, report = some shown →
        shown.status = if call = .resume then "STOPPED" else stored.refusal)
      (call.program sha256Hex request manager) [] files := by
  have reported : ∀ status : String, ∀ report past files, report.status = status →
      Upholds answer (Idles sha256Hex request command)
        (fun report _ _ => ∀ shown, report = some shown → shown.status = status)
        (.done (some report) : RuntimeProgram Time (Option RuntimeReport)) past files :=
    fun _ _ _ _ same => .done (fun _ shown => Option.some.inj shown ▸ same)
  cases call with
  | execute =>
      exact upholds_bind _ (upholds_flaggedExecute manager found flag) (reported stored.refusal)
  | recover =>
      exact upholds_bind _ (upholds_flaggedExecute manager found flag) (reported stored.refusal)
  | pause =>
      refine upholds_bind _ (upholds_flaggedResave found _ ?_) (fun _ _ _ _ => .done (by simp))
      cases command
      · exact flag
      · rfl
  | stop =>
      refine upholds_bind _ (upholds_flaggedResave found _ ?_) (fun _ _ _ _ => .done (by simp))
      cases command
      · rfl
      · exact flag
  | resume =>
      cases command with
      | pause => exact absurd rfl (spares rfl)
      | stop =>
          refine upholds_bind (fun report _ _ => report.status = "STOPPED") ?_
            (reported "STOPPED")
          unfold resume
          rw [← Program.bind_assoc]
          refine upholds_bind _ (upholds_flaggedResave found _ flag) ?_
          intro _ _ _ saved
          exact upholds_flaggedExecute manager saved flag

/-- A call refuses and keeps the flag. -/
theorem refused_call
    {invocation : OperatorInvocation Time} (spares : command.Spares invocation.call)
    (flagged : FlagIs sha256Hex request command true files) :
    Refused sha256Hex request
        (Machine.eventOf (sessionStep sha256Hex request) files invocation) ∧
      FlagIs sha256Hex request command true
        (sessionStep sha256Hex request files invocation).2 := by
  obtain ⟨stored, found, flag⟩ := flagged
  have upholds := upholds_flaggedCall invocation.manager spares found flag
  obtain ⟨good, returned⟩ := run_upholds upholds invocation.script
  obtain ⟨final, -⟩ := run_invariant (fun _ files => FlagIs sha256Hex request command true files)
    (fun _ files choice op flagged idles => by
      by_cases save : IsSave (actOf files choice op)
      · exact flagIs_of_save idles.2 save
      · exact flagIs_of_not_save save flagged)
    upholds ⟨stored, found, flag⟩ invocation.script
  refine ⟨⟨?_, ?_⟩, final⟩
  · intro act member
    obtain ⟨early, late, shape⟩ := List.append_of_mem member
    exact (good early act late shape).1
  · intro report same other again
    obtain rfl : stored = other := Except.ok.inj (found.symm.trans again)
    exact returned _ same report rfl

/-- All later calls that spare the flag refuse. -/
theorem refused_calls
    (flagged : FlagIs sha256Hex request command true files)
    (later : List (OperatorInvocation Time))
    (spares : ∀ invocation ∈ later, command.Spares invocation.call) :
    ∀ event ∈ Machine.trace (sessionStep sha256Hex request) files later,
      Refused sha256Hex request event := by
  induction later generalizing files with
  | nil => simp [Machine.trace]
  | cons invocation later induction =>
      obtain ⟨first, kept⟩ := refused_call (spares invocation (by simp)) flagged
      intro event member
      rcases List.mem_cons.mp member with rfl | rest
      · exact first
      · exact induction kept (fun other inside => spares other (by simp [inside])) event rest

end Calls

section Races

variable (sha256Hex : List Char → String) (request : RuntimeRequest Time)
  [LinearOrder Time] [Add Time]

/-- An execute and a command of another process on the same directory. -/
def operatorRace (manager : MainRuntimeManager) (command : FlagCommand) (files : Files) :
    Race Files RuntimeOp (RuntimeOp.Reply Time) RuntimeProblem RuntimeReport Unit :=
  { left := execute sha256Hex manager request
    right := command.program sha256Hex request
    state := files }

/-- The race after the turns of a schedule. -/
def raceFinal (manager : MainRuntimeManager) (command : FlagCommand) (files : Files)
    (schedule : List (Side × Choice Time)) :
    Race Files RuntimeOp (RuntimeOp.Reply Time) RuntimeProblem RuntimeReport Unit :=
  Machine.final (Interleaving.step answer)
    (operatorRace sha256Hex request manager command files) schedule

/-- The last save of the two is one of execute. -/
def Overwritten (manager : MainRuntimeManager) (command : FlagCommand) (files : Files)
    (schedule : List (Side × Choice Time)) : Prop :=
  lastBy IsSave (Machine.trace (Interleaving.step answer)
    (operatorRace sha256Hex request manager command files) schedule) = some .left

variable {sha256Hex request} {manager : MainRuntimeManager} {command : FlagCommand}
  {files : Files} {schedule : List (Side × Choice Time)}

theorem flagIs_iff
    (returned : (raceFinal sha256Hex request manager command files schedule).right.value? = some ()) :
    FlagIs sha256Hex request command true
        (raceFinal sha256Hex request manager command files schedule).state ↔
      ¬Overwritten sha256Hex request manager command files schedule := by
  have saved : lastBy IsSave (Machine.trace (Interleaving.step answer)
      (operatorRace sha256Hex request manager command files) schedule) ≠ none := by
    refine Interleaving.lastBy_ne_none ?_ needs_command schedule
      (Program.value?_eq_some.mp returned)
    intro state choice op reply replaces answered
    exact ⟨replaces, by simp [answered, Except.isOk, Except.toBool]⟩
  have effect : ∀ side, lastBy IsSave (Machine.trace (Interleaving.step answer)
      (operatorRace sha256Hex request manager command files) schedule) = some side →
        FlagIs sha256Hex request command (decide (side = .right))
          (raceFinal sha256Hex request manager command files schedule).state := by
    intro side last
    refine Interleaving.lastBy_effect
      (fun side => Writes sha256Hex request command (decide (side = .right)))
      (fun side => FlagIs sha256Hex request command (decide (side = .right)))
      ?_ ?_ (uses_execute manager) uses_command schedule last
    · exact fun _ _ _ _ writes save => flagIs_of_save writes save
    · exact fun _ _ _ _ _ _ unsaved flagged => flagIs_of_not_save unsaved flagged
  unfold Overwritten
  cases last : lastBy IsSave (Machine.trace (Interleaving.step answer)
      (operatorRace sha256Hex request manager command files) schedule) with
  | none => exact absurd last saved
  | some side =>
      obtain ⟨stored, found, flag⟩ := effect side last
      cases side with
      | left =>
          refine iff_of_false ?_ (by simp)
          rintro ⟨other, again, set⟩
          obtain rfl : stored = other := by simpa [found] using again
          simp [flag] at set
      | right => exact iff_of_true ⟨stored, found, flag⟩ (by simp)

variable (sha256Hex request command) in
/-- The flag is in the file and every later call refuses, for a pause until the
next resume. -/
structure CommandKept (files : Files) : Prop where
  flagged : FlagIs sha256Hex request command true files
  refuses : ∀ later : List (OperatorInvocation Time),
    (∀ invocation ∈ later, command.Spares invocation.call) →
      ∀ event ∈ Machine.trace (sessionStep sha256Hex request) files later,
        Refused sha256Hex request event

end Races

/-- The turns of a side that all meet the same choice. -/
def turns (side : Side) (count : Nat) (outcome : DispatchOutcome) :
    List (Side × Choice Int) :=
  List.replicate count (side, { clock := 0, outcome := outcome })

/-- The execute loads, the other process stops, and the execute goes on. -/
def stopDuringExecute : List (Side × Choice Int) :=
  turns .left 1 (.refused "") ++ turns .right 2 (.refused "") ++
    turns .left 8 (.returned (completedPayload "a"))

/-- The other process stops when the execute has finished. -/
def stopAfterExecute : List (Side × Choice Int) :=
  turns .left 9 (.returned (completedPayload "a")) ++ turns .right 2 (.refused "")

end SuperAdvisor.MainAgent
