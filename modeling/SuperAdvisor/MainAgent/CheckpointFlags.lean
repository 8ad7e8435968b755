import SuperAdvisor.MainAgent.SessionHistory

/-!
# The flags of the stored checkpoint

`stop` and `pause` store a checkpoint with their flag set.  `execute` saves only
checkpoints it loaded without either flag, so whoever saves last decides what
the file holds.
-/

namespace SuperAdvisor.MainAgent

open Python
open Program (needs_bind uses_ask uses_bind uses_bind_ofExcept)

/-- The commands that set a flag of the checkpoint. -/
inductive FlagCommand where
  | stop
  | pause
  deriving DecidableEq

def FlagCommand.flag : FlagCommand → RuntimeCheckpoint → Bool
  | .stop, checkpoint => checkpoint.stopped
  | .pause, checkpoint => checkpoint.paused

variable {Time : Type}

section Writers

variable (sha256Hex : List Char → String) (request : RuntimeRequest Time)
  (command : FlagCommand)

def FlagCommand.program : FlagCommand → RuntimeProgram Time Unit
  | .stop => SuperAdvisor.MainAgent.stop sha256Hex request
  | .pause => SuperAdvisor.MainAgent.pause sha256Hex request

/-- A save stores the flag with the given value. -/
def Writes (value : Bool) : RuntimeOp → Prop
  | .replaceCheckpoint path text =>
      path = checkpointPath sha256Hex request ∧
        ∃ checkpoint, canonicalJson checkpoint.toDict = .ok text ∧
          command.flag checkpoint = value
  | _ => True

/-- The file holds a checkpoint whose flag has the given value. -/
def FlagIs (value : Bool) (files : Files) : Prop :=
  ∃ stored, storedCheckpoint sha256Hex request files = .ok stored ∧
    command.flag stored = value

instance (value : Bool) (files : Files) :
    Decidable (FlagIs sha256Hex request command value files) :=
  match found : storedCheckpoint sha256Hex request files with
  | .error _ => .isFalse (fun ⟨_, same, _⟩ => by simp [found] at same)
  | .ok checkpoint =>
      decidable_of_iff (command.flag checkpoint = value) (by simp [FlagIs, found])

variable {sha256Hex request command} {value : Bool}

theorem FlagCommand.flag_reloaded (checkpoint : RuntimeCheckpoint) :
    command.flag checkpoint.reloaded = command.flag checkpoint := by
  cases command <;> rfl

/-- A save of the writer makes the flag so. -/
theorem flagIs_of_save
    {files : Files} {choice : Choice Time} {op : RuntimeOp}
    (writes : Writes sha256Hex request command value op)
    (save : IsSave (actOf files choice op)) :
    FlagIs sha256Hex request command value (actOf files choice op).after := by
  rcases actOf_after files choice op with ⟨unsaved, -⟩ | ⟨path, text, rfl, -, after⟩
  · exact absurd save unsaved
  · obtain ⟨rfl, checkpoint, printed, flag⟩ := writes
    refine ⟨checkpoint.reloaded, ?_, by rw [FlagCommand.flag_reloaded, flag]⟩
    rw [after]
    exact storedCheckpoint_saved printed

/-- Every other operation leaves the flag alone. -/
theorem flagIs_of_not_save
    {files : Files} {choice : Choice Time} {op : RuntimeOp}
    (unsaved : ¬IsSave (actOf files choice op))
    (flagged : FlagIs sha256Hex request command value files) :
    FlagIs sha256Hex request command value (actOf files choice op).after := by
  rcases actOf_after files choice op with ⟨-, same⟩ | ⟨path, text, -, save, -⟩
  · simpa only [FlagIs, storedCheckpoint_congr same] using flagged
  · exact absurd save unsaved

theorem uses_saveCheckpoint
    {checkpoint : RuntimeCheckpoint} (flag : command.flag checkpoint = value) :
    (saveCheckpoint sha256Hex request checkpoint).Uses
      (Writes sha256Hex request command value) := by
  unfold saveCheckpoint
  refine uses_bind_ofExcept ?_
  intro text dumped
  exact .perform ⟨rfl, checkpoint, except_mapError_eq_ok.mp dumped, flag⟩ (fun _ => .done)

theorem uses_saveAndReport
    {checkpoint : RuntimeCheckpoint} {status : String}
    (flag : command.flag checkpoint = value) :
    (saveAndReport sha256Hex request checkpoint status).Uses
      (Writes sha256Hex request command value) :=
  uses_bind (uses_saveCheckpoint flag) (fun _ => .done)

theorem uses_appendAuditEvent
    (eventType taskId detail : String) :
    (appendAuditEvent sha256Hex eventType taskId detail : RuntimeProgram Time Unit).Uses
      (Writes sha256Hex request command value) := by
  unfold appendAuditEvent
  refine uses_ask trivial ?_
  intro log
  refine uses_bind_ofExcept ?_
  intro previous _
  refine uses_ask trivial ?_
  intro now
  refine uses_bind_ofExcept ?_
  intro unhashed _
  refine uses_bind_ofExcept ?_
  intro line _
  exact .perform trivial (fun _ => .done)

theorem uses_dispatchAttempts
    (task : AgentTask) (remaining : Nat) (lastError : String) :
    (dispatchAttempts task remaining lastError : RuntimeProgram Time TaskResult).Uses
      (Writes sha256Hex request command value) := by
  induction remaining generalizing lastError with
  | zero => exact .done
  | succ remaining induction =>
      unfold dispatchAttempts
      refine uses_ask trivial ?_
      intro outcome
      unfold afterAttempt
      split
      · split
        · split
          · exact induction _
          · exact .done
        · exact .done
      · exact .done
      · exact induction _

/-- The loop passes the flag on. -/
theorem uses_executeTasks
    [LinearOrder Time] (manager : MainRuntimeManager) (deadline : Time)
    (tasks : List AgentTask) {checkpoint : RuntimeCheckpoint}
    (flag : command.flag checkpoint = value) :
    (executeTasks sha256Hex manager request deadline tasks checkpoint).Uses
      (Writes sha256Hex request command value) := by
  have flagOf : ∀ other : RuntimeCheckpoint, other.stopped = checkpoint.stopped →
      other.paused = checkpoint.paused → command.flag other = value := by
    intro other stopped paused
    rw [← flag]
    cases command
    · exact stopped
    · exact paused
  induction tasks generalizing checkpoint with
  | nil => exact uses_saveAndReport (flagOf _ rfl rfl)
  | cons task tasks induction =>
      unfold executeTasks
      split
      · exact induction flag flagOf
      refine uses_ask trivial ?_
      intro now
      split
      · exact uses_saveAndReport (flagOf _ rfl rfl)
      split
      · exact induction flag flagOf
      refine uses_bind (uses_dispatchAttempts task _ _) ?_
      intro result
      dsimp only
      split
      · refine uses_bind (uses_appendAuditEvent _ _ _) ?_
        exact fun _ => uses_saveAndReport (flagOf _ rfl rfl)
      · refine uses_bind (uses_appendAuditEvent _ _ _) ?_
        intro _
        refine uses_bind_ofExcept ?_
        intro conflicts _
        split
        · exact uses_saveAndReport (flagOf _ rfl rfl)
        · refine uses_bind (uses_saveCheckpoint (flagOf _ rfl rfl)) ?_
          exact fun _ => induction (flagOf _ rfl rfl) flagOf

/-- An execute stores only checkpoints without the flag. -/
theorem uses_execute
    [LinearOrder Time] [Add Time] (manager : MainRuntimeManager) :
    (execute sha256Hex manager request).Uses (Writes sha256Hex request command false) := by
  unfold execute
  split
  · exact .raised
  split
  · exact .raised
  refine uses_bind_ofExcept ?_
  intro ordered _
  refine uses_ask trivial ?_
  intro text
  refine uses_bind_ofExcept ?_
  intro checkpoint _
  split
  · exact .done
  split
  · exact .done
  refine uses_ask trivial ?_
  intro now
  refine uses_executeTasks manager _ ordered ?_
  cases command <;> simp_all [FlagCommand.flag]

theorem uses_command :
    (command.program sha256Hex request).Uses (Writes sha256Hex request command true) := by
  cases command with
  | stop =>
      refine uses_ask trivial ?_
      intro text
      exact uses_bind_ofExcept (fun _ _ => uses_saveCheckpoint rfl)
  | pause =>
      refine uses_ask trivial ?_
      intro text
      exact uses_bind_ofExcept (fun _ _ => uses_saveCheckpoint rfl)

/-- A command returns only after its save. -/
theorem needs_command :
    (command.program sha256Hex request).Needs (fun op => op.replaces = true) := by
  have saves : ∀ checkpoint : RuntimeCheckpoint,
      (saveCheckpoint sha256Hex request checkpoint).Needs (fun op => op.replaces = true) :=
    fun checkpoint => needs_bind _ (fun text => .here rfl)
  cases command
  · exact needs_bind _ (fun checkpoint => saves _)
  · exact needs_bind _ (fun checkpoint => saves _)

end Writers

end SuperAdvisor.MainAgent
