import SuperAdvisor.Foundation.Machine
import SuperAdvisor.Foundation.Stacks

/-!
# Graceful shutdown

The lock, the event and the callbacks of the shutdown module are shared by all
threads of the process.  A signal handler is a frame on top of whatever its
thread was doing, also inside the critical section.  Callbacks are any code that
calls the module again; every call of one may do something else.
-/

namespace SuperAdvisor.Runtime

open Stacks

/-- How code ends: it returns, it raises an `Exception`, or it raises what
`except Exception` lets pass, such as `SystemExit`. -/
inductive Ending where
  | returns
  | raises
  | exits
  deriving DecidableEq

/-- The calls of the module: `register_shutdown_callback`, `trigger_shutdown`
and `wait_for_shutdown`. -/
inductive Call (κ : Type) where
  | register (callback : κ)
  | trigger
  | wait
  deriving DecidableEq

/-- What other code does with the module, and how it ends. -/
structure Code (κ : Type) where
  calls : List (Call κ)
  ending : Ending
  deriving DecidableEq

/-- A frame, at the point where it goes on. -/
inductive Frame (κ : Type) where
  | code (code : Code κ)
  /-- `register_shutdown_callback` before its lock. -/
  | registering (callback : κ)
  /-- `_CALLBACKS.append(fn)`, with the lock. -/
  | appending (callback : κ)
  /-- `_do_shutdown` before its lock. -/
  | entering
  /-- `_SHUTDOWN_EVENT.is_set()`, with the lock. -/
  | testing
  /-- `_SHUTDOWN_EVENT.set()`, with the lock. -/
  | marking
  /-- The end of a block with the lock; the shutdown goes on behind it or not. -/
  | leaving (shutting : Bool)
  /-- `list(_CALLBACKS)` -/
  | copying
  /-- The loop over the callbacks that are left. -/
  | notifying (remaining : List κ)
  deriving DecidableEq

def Frame.waits {κ : Type} : Frame κ → Bool
  | .registering _ | .entering => true
  | _ => false

def Frame.holdsLock {κ : Type} : Frame κ → Bool
  | .appending _ | .testing | .marking | .leaving _ => true
  | _ => false

/-- The frame has set the event and is not done with the callbacks. -/
def Frame.shutsDown {κ : Type} : Frame κ → Bool
  | .leaving shutting => shutting
  | .copying | .notifying _ => true
  | _ => false

structure Shared (κ : Type) where
  locked : Bool
  event : Bool
  callbacks : List κ
  deriving DecidableEq

structure Process (τ κ : Type) where
  threads : τ → List (Frame κ)
  shared : Shared κ

/-- What can be seen of a step. -/
inductive Action (κ : Type) where
  | registered (callback : κ)
  | set
  | called (callback : κ)
  | exited
  deriving DecidableEq

inductive Turn (τ κ : Type) where
  /-- A thread that is idle begins with code. -/
  | start (thread : τ) (code : Code κ)
  /-- `_sigterm_handler` and `_sigint_handler` -/
  | signal (thread : τ)
  /-- The innermost frame moves; a callback it calls does `behaviour`. -/
  | move (thread : τ) (behaviour : Code κ)
  deriving DecidableEq

section Steps

variable {τ κ : Type}

/-- Before anything runs. -/
def Process.idle : Process τ κ :=
  { threads := fun _ => []
    shared := { locked := false, event := false, callbacks := [] } }

/-- The move of the innermost frame; `rest` are the frames below it. -/
def moveFrame (shared : Shared κ) (behaviour : Code κ) (rest : List (Frame κ)) :
    Frame κ → Option (Action κ) × List (Frame κ) × Shared κ
  | .code { calls := .register callback :: calls, ending } =>
      (none, .registering callback :: .code { calls, ending } :: rest, shared)
  | .code { calls := .trigger :: calls, ending } =>
      (none, .entering :: .code { calls, ending } :: rest, shared)
  | .code { calls := .wait :: calls, ending } =>
      if shared.event then (none, .code { calls, ending } :: rest, shared)
      else (none, .code { calls := .wait :: calls, ending } :: rest, shared)
  -- nothing in the module stops the exception, and every `with` it passes releases the lock
  | .code { calls := [], ending := .exits } =>
      (some .exited, [],
        { shared with locked := shared.locked && !rest.any Frame.holdsLock })
  -- the loop below swallows an `Exception`
  | .code { calls := [], ending := _ } => (none, rest, shared)
  | .registering callback =>
      if shared.locked then (none, .registering callback :: rest, shared)
      else (none, .appending callback :: rest, { shared with locked := true })
  | .appending callback =>
      (some (.registered callback), .leaving false :: rest,
        { shared with callbacks := shared.callbacks ++ [callback] })
  | .entering =>
      if shared.locked then (none, .entering :: rest, shared)
      else (none, .testing :: rest, { shared with locked := true })
  | .testing =>
      if shared.event then (none, .leaving false :: rest, shared)
      else (none, .marking :: rest, shared)
  | .marking => (some .set, .leaving true :: rest, { shared with event := true })
  | .leaving true => (none, .copying :: rest, { shared with locked := false })
  | .leaving false => (none, rest, { shared with locked := false })
  | .copying => (none, .notifying shared.callbacks.reverse :: rest, shared)
  | .notifying (callback :: remaining) =>
      (some (.called callback), .code behaviour :: .notifying remaining :: rest, shared)
  | .notifying [] => (none, rest, shared)

variable [DecidableEq τ]

def Process.withStack (process : Process τ κ) (thread : τ) (frames : List (Frame κ)) :
    Process τ κ :=
  { process with threads := Function.update process.threads thread frames }

@[simp] theorem withStack_shared (process : Process τ κ) (thread : τ)
    (frames : List (Frame κ)) : (process.withStack thread frames).shared = process.shared :=
  rfl

@[simp] theorem withStack_threads (process : Process τ κ) (thread : τ)
    (frames : List (Frame κ)) :
    (process.withStack thread frames).threads = Function.update process.threads thread frames :=
  rfl

def step (process : Process τ κ) : Turn τ κ → Option (Action κ) × Process τ κ
  | .start thread code =>
      match process.threads thread with
      | [] => (none, process.withStack thread [.code code])
      | _ => (none, process)
  | .signal thread =>
      (none, process.withStack thread (.entering :: process.threads thread))
  | .move thread behaviour =>
      match process.threads thread with
      | [] => (none, process)
      | frame :: rest =>
          let (action, frames, shared) := moveFrame process.shared behaviour rest frame
          (action, { process.withStack thread frames with shared := shared })

/-- Everything a turn can do. -/
inductive Effect (process : Process τ κ) :
    Turn τ κ → Option (Action κ) → Process τ κ → Prop where
  | idle {turn : Turn τ κ} (calm : ∀ thread, turn ≠ .signal thread) :
      Effect process turn none process
  | start {thread : τ} {code : Code κ} (shape : process.threads thread = []) :
      Effect process (.start thread code) none (process.withStack thread [.code code])
  | signal {thread : τ} :
      Effect process (.signal thread) none
        (process.withStack thread (.entering :: process.threads thread))
  /-- A frame outside the critical section and the shutdown calls or returns. -/
  | quiet {thread : τ} {behaviour : Code κ} {frame : Frame κ} {rest : List (Frame κ)}
      (new : List (Frame κ)) (shape : process.threads thread = frame :: rest)
      (holds : frame.holdsLock = false) (shuts : frame.shutsDown = false)
      (waits : frame.waits = false)
      (newHolds : Clear (fun other : Frame κ => other.holdsLock = true) new)
      (newShuts : Clear (fun other : Frame κ => other.shutsDown = true) new) :
      Effect process (.move thread behaviour) none (process.withStack thread (new ++ rest))
  | exits {thread : τ} {behaviour : Code κ} {rest : List (Frame κ)}
      (shape : process.threads thread = .code { calls := [], ending := .exits } :: rest) :
      Effect process (.move thread behaviour) (some .exited)
        { process.withStack thread [] with
          shared := { process.shared with
            locked := process.shared.locked && !rest.any Frame.holdsLock } }
  | acquire {thread : τ} {behaviour : Code κ} {frame taken : Frame κ} {rest : List (Frame κ)}
      (shape : process.threads thread = frame :: rest) (free : process.shared.locked = false)
      (takes : frame.waits = true)
      (holds : taken.holdsLock = true) (shuts : taken.shutsDown = false)
      (unmarked : taken ≠ .marking) :
      Effect process (.move thread behaviour) none
        { process.withStack thread (taken :: rest) with
          shared := { process.shared with locked := true } }
  | append {thread : τ} {behaviour : Code κ} {callback : κ} {rest : List (Frame κ)}
      (shape : process.threads thread = .appending callback :: rest) :
      Effect process (.move thread behaviour) (some (.registered callback))
        { process.withStack thread (.leaving false :: rest) with
          shared := { process.shared with
            callbacks := process.shared.callbacks ++ [callback] } }
  | test {thread : τ} {behaviour : Code κ} {found : Frame κ} {rest : List (Frame κ)}
      (shape : process.threads thread = .testing :: rest)
      (result : found = if process.shared.event then .leaving false else .marking) :
      Effect process (.move thread behaviour) none (process.withStack thread (found :: rest))
  | mark {thread : τ} {behaviour : Code κ} {rest : List (Frame κ)}
      (shape : process.threads thread = .marking :: rest) :
      Effect process (.move thread behaviour) (some .set)
        { process.withStack thread (.leaving true :: rest) with
          shared := { process.shared with event := true } }
  | leave {thread : τ} {behaviour : Code κ} {shutting : Bool} {rest : List (Frame κ)}
      (shape : process.threads thread = .leaving shutting :: rest) :
      Effect process (.move thread behaviour) none
        { process.withStack thread ((if shutting then [.copying] else []) ++ rest) with
          shared := { process.shared with locked := false } }
  | copy {thread : τ} {behaviour : Code κ} {rest : List (Frame κ)}
      (shape : process.threads thread = .copying :: rest) :
      Effect process (.move thread behaviour) none
        (process.withStack thread (.notifying process.shared.callbacks.reverse :: rest))
  | call {thread : τ} {behaviour : Code κ} {callback : κ} {remaining : List κ}
      {rest : List (Frame κ)}
      (shape : process.threads thread = .notifying (callback :: remaining) :: rest) :
      Effect process (.move thread behaviour) (some (.called callback))
        (process.withStack thread (.code behaviour :: .notifying remaining :: rest))
  | finish {thread : τ} {behaviour : Code κ} {rest : List (Frame κ)}
      (shape : process.threads thread = .notifying [] :: rest) :
      Effect process (.move thread behaviour) none (process.withStack thread rest)

/-- A frame that stays where it is changes nothing. -/
private theorem withStack_same {process : Process τ κ} {thread : τ} {frames : List (Frame κ)}
    (shape : process.threads thread = frames) : process.withStack thread frames = process := by
  simp [Process.withStack, ← shape]

theorem effect_move {process : Process τ κ} {thread : τ} {frame : Frame κ}
    {rest : List (Frame κ)} (shape : process.threads thread = frame :: rest)
    (behaviour : Code κ) :
    Effect process (.move thread behaviour)
      (moveFrame process.shared behaviour rest frame).1
      { process.withStack thread (moveFrame process.shared behaviour rest frame).2.1 with
        shared := (moveFrame process.shared behaviour rest frame).2.2 } := by
  have stays : Effect process (.move thread behaviour) none
      (process.withStack thread (frame :: rest)) := by
    rw [withStack_same shape]
    exact .idle (by simp)
  cases frame with
  | code code =>
      obtain ⟨calls, ending⟩ := code
      cases calls with
      | nil =>
          cases ending with
          | exits => exact .exits shape
          | returns => exact .quiet [] shape rfl rfl rfl clear_nil clear_nil
          | raises => exact .quiet [] shape rfl rfl rfl clear_nil clear_nil
      | cons call calls =>
          cases call with
          | register callback =>
              exact .quiet [_, _] shape rfl rfl rfl (by simp [Frame.holdsLock])
                (by simp [Frame.shutsDown])
          | trigger =>
              exact .quiet [_, _] shape rfl rfl rfl (by simp [Frame.holdsLock])
                (by simp [Frame.shutsDown])
          | wait =>
              cases event : process.shared.event with
              | true =>
                  simp only [moveFrame, event, if_true]
                  exact .quiet [_] shape rfl rfl rfl (by simp [Frame.holdsLock])
                    (by simp [Frame.shutsDown])
              | false =>
                  simp only [moveFrame, event, Bool.false_eq_true, if_false]
                  exact stays
  | registering callback =>
      cases locked : process.shared.locked with
      | true =>
          simp only [moveFrame, locked, if_true]
          exact stays
      | false =>
          simp only [moveFrame, locked, Bool.false_eq_true, if_false]
          exact .acquire shape locked rfl rfl rfl (by simp)
  | appending callback => exact .append shape
  | entering =>
      cases locked : process.shared.locked with
      | true =>
          simp only [moveFrame, locked, if_true]
          exact stays
      | false =>
          simp only [moveFrame, locked, Bool.false_eq_true, if_false]
          exact .acquire shape locked rfl rfl rfl (by simp)
  | testing =>
      have result : Effect process (.move thread behaviour) _ _ := .test shape rfl
      cases event : process.shared.event with
      | true =>
          simp only [moveFrame, event, if_true] at result ⊢
          exact result
      | false =>
          simp only [moveFrame, event, Bool.false_eq_true, if_false] at result ⊢
          exact result
  | marking => exact .mark shape
  | leaving shutting =>
      have result : Effect process (.move thread behaviour) _ _ := .leave shape
      cases shutting with
      | false => simpa [moveFrame] using result
      | true => simpa [moveFrame] using result
  | copying => exact .copy shape
  | notifying remaining =>
      cases remaining with
      | nil => exact .finish shape
      | cons callback remaining => exact .call shape

theorem effect_step (process : Process τ κ) (turn : Turn τ κ) :
    Effect process turn (step process turn).1 (step process turn).2 := by
  cases turn with
  | start thread code =>
      cases shape : process.threads thread with
      | nil =>
          simp only [step, shape]
          exact .start shape
      | cons frame rest =>
          simp only [step, shape]
          exact .idle (by simp)
  | signal thread => exact .signal
  | move thread behaviour =>
      cases shape : process.threads thread with
      | nil =>
          simp only [step, shape]
          exact .idle (by simp)
      | cons frame rest =>
          simp only [step, shape]
          exact effect_move shape behaviour

/-- The frame is in the critical section. -/
def Holds (frame : Frame κ) : Prop := frame.holdsLock = true

/-- The frame is in the part of a shutdown that only one caller reaches. -/
def ShutsDown (frame : Frame κ) : Prop := frame.shutsDown = true

@[simp] theorem holds_iff {frame : Frame κ} : Holds frame ↔ frame.holdsLock = true := Iff.rfl

@[simp] theorem shutsDown_iff {frame : Frame κ} :
    ShutsDown frame ↔ frame.shutsDown = true := Iff.rfl

/-- The lock is free, and nobody is in the critical section. -/
structure Free (process : Process τ κ) : Prop where
  unlocked : process.shared.locked = false
  nowhere : Nowhere Holds process.threads

/-- One frame is in the critical section, and only frames that wait for the lock
stand above it. -/
structure Held (process : Process τ κ) (thread : τ) (above : List (Frame κ))
    (frame : Frame κ) (below : List (Frame κ)) : Prop where
  locked : process.shared.locked = true
  only : Only Holds process.threads thread above frame below
  waiting : ∀ other ∈ above, other.waits = true
  unset : frame = .marking → process.shared.event = false

/-- A frame that neither holds the lock nor waits for it moves. -/
private theorem Free.elsewhere {process : Process τ κ} (free : Free process)
    {thread : τ} {frame : Frame κ} {new rest : List (Frame κ)} {shared : Shared κ}
    (shape : process.threads thread = frame :: rest) (clear : Clear Holds new)
    (locked : shared.locked = process.shared.locked) :
    Free { process.withStack thread (new ++ rest) with shared := shared } := by
  have split : process.threads thread = [frame] ++ rest := shape
  exact ⟨locked.trans free.unlocked, free.nowhere.swap split clear⟩

/-- The lock stays free, or a frame takes it that has none above it. -/
private theorem Free.effect {process next : Process τ κ} {turn : Turn τ κ}
    {action : Option (Action κ)} (free : Free process)
    (effect : Effect process turn action next) :
    Free next ∨ ∃ thread frame below, Held next thread [] frame below := by
  have inside : ∀ {thread : τ} {frame : Frame κ} {rest : List (Frame κ)},
      process.threads thread = frame :: rest → ¬ Holds frame ∧ Clear Holds rest := by
    intro thread frame rest shape
    have clear := free.nowhere thread
    rwa [shape, clear_cons] at clear
  cases effect with
  | idle calm => exact .inl free
  | start shape =>
      exact .inl ⟨free.unlocked, free.nowhere.update (by simp [Frame.holdsLock])⟩
  | signal =>
      refine .inl ⟨free.unlocked, free.nowhere.update ?_⟩
      exact clear_cons.mpr ⟨by simp [Frame.holdsLock], free.nowhere _⟩
  | quiet new shape holds shuts waits newHolds newShuts =>
      exact .inl (free.elsewhere shape newHolds rfl)
  | exits shape =>
      exact .inl ⟨by simp [free.unlocked], free.nowhere.update clear_nil⟩
  | acquire shape unlocked takes holds shuts unmarked =>
      exact .inr ⟨_, _, _, rfl, free.nowhere.enter holds (inside shape).2, by simp,
        fun marking => absurd marking unmarked⟩
  | append shape => exact absurd rfl (inside shape).1
  | test shape result => exact absurd rfl (inside shape).1
  | mark shape => exact absurd rfl (inside shape).1
  | leave shape => exact absurd rfl (inside shape).1
  | copy shape =>
      have clear : Clear Holds [Frame.notifying process.shared.callbacks.reverse] := by
        simp [Frame.holdsLock]
      exact .inl (free.elsewhere shape clear rfl)
  | call shape =>
      rename_i thread behaviour callback remaining rest
      have clear : Clear Holds [Frame.code behaviour, .notifying remaining] := by
        simp [Frame.holdsLock]
      exact .inl (free.elsewhere shape clear rfl)
  | finish shape => exact .inl (free.elsewhere shape clear_nil rfl)

/-- A frame moves that neither holds the lock nor waits for it: it stands on
another stack. -/
private theorem Held.elsewhere {process : Process τ κ} {holder : τ}
    {above below : List (Frame κ)} {inner : Frame κ}
    (held : Held process holder above inner below)
    {thread : τ} {frame : Frame κ} {new rest : List (Frame κ)} {shared : Shared κ}
    (shape : process.threads thread = frame :: rest) (holds : ¬ Holds frame)
    (waits : frame.waits = false) (clear : Clear Holds new)
    (locked : shared.locked = process.shared.locked)
    (event : shared.event = process.shared.event) :
    Held { process.withStack thread (new ++ rest) with shared := shared } holder above inner
      below := by
  have split : process.threads thread = [frame] ++ rest := shape
  rcases held.only.swap split (by simpa using holds) clear with
    ⟨-, moved⟩ | ⟨rfl, between, same, -⟩
  · exact ⟨locked.trans held.locked, moved, held.waiting,
      fun marking => event.trans (held.unset marking)⟩
  · have waiter := held.waiting frame (by simp [same])
    simp [waits] at waiter

/-- A frame in the critical section moves within it. -/
private theorem Held.within {process : Process τ κ} {holder : τ}
    {above below : List (Frame κ)} {inner : Frame κ}
    (held : Held process holder above inner below)
    {thread : τ} {frame next : Frame κ} {rest : List (Frame κ)} {shared : Shared κ}
    (shape : process.threads thread = frame :: rest) (holds : Holds frame) (nextHolds : Holds next)
    (locked : shared.locked = process.shared.locked)
    (unset : next = .marking → shared.event = false) :
    above = [] ∧
      (Free { process.withStack thread (next :: rest) with shared := shared } ∨
        ∃ frame, Held { process.withStack thread (next :: rest) with shared := shared } holder []
          frame below) := by
  obtain ⟨rfl, rfl, rfl, rfl⟩ := held.only.innermost shape holds
  exact ⟨rfl, .inr ⟨next, locked.trans held.locked, held.only.replace nextHolds clear_nil,
    by simp, unset⟩⟩

/-- What a turn can do to the frame in the critical section: nothing, or put a
handler above it, or let it move if none is above it. -/
private theorem Held.effect {process next : Process τ κ} {turn : Turn τ κ}
    {action : Option (Action κ)} {holder : τ} {above below : List (Frame κ)} {inner : Frame κ}
    (held : Held process holder above inner below) (effect : Effect process turn action next) :
    (turn = .signal holder ∧ Held next holder (.entering :: above) inner below) ∨
      (turn ≠ .signal holder ∧ (Held next holder above inner below ∨
        above = [] ∧ (Free next ∨ ∃ frame, Held next holder [] frame below))) := by
  cases effect with
  | idle calm => exact .inr ⟨calm holder, .inl held⟩
  | start shape =>
      rename_i thread code
      have split : process.threads thread = [] ++ [] := shape
      have clear : Clear Holds [Frame.code code] := by simp [Frame.holdsLock]
      rcases held.only.swap split clear_nil clear with ⟨-, moved⟩ | ⟨rfl, -, -, -⟩
      · exact .inr ⟨by simp, .inl ⟨held.locked, moved, held.waiting, held.unset⟩⟩
      · simp [held.only.shape] at shape
  | signal =>
      rename_i thread
      have split : process.threads thread = [] ++ process.threads thread := rfl
      have clear : Clear Holds [(.entering : Frame κ)] := by simp [Frame.holdsLock]
      rcases held.only.swap split clear_nil clear with
        ⟨different, moved⟩ | ⟨rfl, between, same, moved⟩
      · exact .inr ⟨by simpa using different, .inl ⟨held.locked, moved, held.waiting, held.unset⟩⟩
      · obtain rfl : above = between := same
        exact .inl ⟨rfl, held.locked, moved, by simpa [Frame.waits] using held.waiting, held.unset⟩
  | quiet new shape holds shuts waits newHolds newShuts =>
      exact .inr ⟨by simp, .inl (held.elsewhere shape (by simpa using holds) waits newHolds
        rfl rfl)⟩
  | exits shape =>
      rename_i thread behaviour rest
      refine .inr ⟨by simp, .inl ?_⟩
      have split : process.threads thread = [.code ⟨[], .exits⟩] ++ rest := shape
      rcases held.only.swap split (by simp [Frame.holdsLock]) clear_nil with
        ⟨different, -⟩ | ⟨rfl, between, same, -⟩
      · have clear := held.only.elsewhere thread different
        have whole : process.threads thread = process.threads thread ++ [] := by simp
        have gone := held.only.swap whole clear clear_nil
        rw [shape, clear_cons] at clear
        have kept : rest.any Frame.holdsLock = false := by
          simpa [Clear] using clear.2
        rcases gone with ⟨-, moved⟩ | ⟨equal, -⟩
        · exact ⟨by simp [held.locked, kept], moved, held.waiting, held.unset⟩
        · exact absurd equal different
      · have waiter := held.waiting (.code ⟨[], .exits⟩) (by simp [same])
        simp [Frame.waits] at waiter
  | acquire shape free takes holds shuts unmarked =>
      have locked := held.locked
      simp [free] at locked
  | append shape =>
      exact .inr ⟨by simp, .inr (held.within shape rfl rfl rfl (by simp))⟩
  | test shape result =>
      subst result
      cases event : process.shared.event with
      | true =>
          exact .inr ⟨by simp, .inr (held.within shape rfl rfl rfl (by simp))⟩
      | false =>
          exact .inr ⟨by simp, .inr (held.within shape rfl rfl rfl (fun _ => event))⟩
  | mark shape =>
      exact .inr ⟨by simp, .inr (held.within shape rfl rfl rfl (by simp))⟩
  | leave shape =>
      rename_i thread behaviour shutting rest
      obtain ⟨rfl, rfl, rfl, rfl⟩ := held.only.innermost shape rfl
      have clear : Clear Holds ((if shutting then [.copying] else []) ++ rest) := by
        refine clear_append.mpr ⟨?_, held.only.clearBelow⟩
        cases shutting with
        | true => simp [Frame.holdsLock]
        | false => simp
      exact .inr ⟨by simp, .inr ⟨rfl, .inl ⟨rfl, held.only.leave clear⟩⟩⟩
  | copy shape =>
      have clear : Clear Holds [Frame.notifying process.shared.callbacks.reverse] := by
        simp [Frame.holdsLock]
      exact .inr ⟨by simp, .inl (held.elsewhere shape (by simp [Frame.holdsLock]) rfl clear
        rfl rfl)⟩
  | call shape =>
      rename_i thread behaviour callback remaining rest
      have clear : Clear Holds [Frame.code behaviour, .notifying remaining] := by
        simp [Frame.holdsLock]
      exact .inr ⟨by simp, .inl (held.elsewhere shape (by simp [Frame.holdsLock]) rfl clear
        rfl rfl)⟩
  | finish shape =>
      exact .inr ⟨by simp, .inl (held.elsewhere shape (by simp [Frame.holdsLock]) rfl clear_nil
        rfl rfl)⟩

abbrev Event (τ κ : Type) : Type :=
  Machine.Event (Process τ κ) (Turn τ κ) (Option (Action κ))

/-- A signal arrives at a thread that is in the critical section. -/
def Interrupts (event : Event τ κ) : Prop :=
  ∃ thread frame below, event.call = .signal thread ∧
    event.before.threads thread = frame :: below ∧ Holds frame

/-- Who is in the critical section, and whether a handler stands above. -/
inductive LockState (past : List (Event τ κ)) (process : Process τ κ) : Prop where
  | free (free : Free process) (calm : ∀ event ∈ past, ¬ Interrupts event)
  | held {thread : τ} {above below : List (Frame κ)} {frame : Frame κ}
      (held : Held process thread above frame below)
      (interrupted : above ≠ [] ↔ ∃ event ∈ past, Interrupts event)

private theorem Free.not_interrupts {process : Process τ κ} (free : Free process)
    (turn : Turn τ κ) : ¬ Interrupts (Machine.eventOf step process turn) := by
  rintro ⟨thread, frame, below, -, shape, holds⟩
  have clear := free.nowhere thread
  rw [show process.threads thread = frame :: below from shape, clear_cons] at clear
  exact clear.1 holds

private theorem Held.interrupts_iff {process : Process τ κ} {holder : τ}
    {above below : List (Frame κ)} {inner : Frame κ}
    (held : Held process holder above inner below) (turn : Turn τ κ) :
    Interrupts (Machine.eventOf step process turn) ↔ turn = .signal holder ∧ above = [] := by
  constructor
  · rintro ⟨thread, frame, rest, call, shape, holds⟩
    obtain ⟨rfl, rfl, -, -⟩ := held.only.innermost shape holds
    exact ⟨call, rfl⟩
  · rintro ⟨rfl, rfl⟩
    exact ⟨holder, inner, below, rfl, held.only.shape, held.only.isKind⟩

theorem LockState.turn {past : List (Event τ κ)} {process : Process τ κ}
    (state : LockState past process) (turn : Turn τ κ) :
    LockState (past ++ [Machine.eventOf step process turn]) (step process turn).2 := by
  have effect := effect_step process turn
  have later : (∃ event ∈ past ++ [Machine.eventOf step process turn], Interrupts event) ↔
      (∃ event ∈ past, Interrupts event) ∨ Interrupts (Machine.eventOf step process turn) := by
    simp [or_and_right, exists_or]
  cases state with
  | free free calm =>
      have unheard := free.not_interrupts turn
      have stillCalm : ∀ event ∈ past ++ [Machine.eventOf step process turn],
          ¬ Interrupts event := by
        simpa [or_imp, forall_and] using ⟨calm, unheard⟩
      rcases free.effect effect with free | ⟨thread, frame, below, held⟩
      · exact .free free stillCalm
      · exact .held held (by simpa only [ne_eq, not_true, false_iff, not_exists, not_and]
          using stillCalm)
  | held held interrupted =>
      rw [held.interrupts_iff turn, ← interrupted] at later
      rcases held.effect effect with ⟨signal, above⟩ | ⟨other, same | ⟨rfl, moved⟩⟩
      · refine .held above ?_
        rw [later]
        simp [signal, em']
      · refine .held same ?_
        rw [later]
        simp [other]
      · have calm : ∀ event ∈ past ++ [Machine.eventOf step process turn],
            ¬ Interrupts event := by
          intro event member interrupts
          have found := later.mp ⟨event, member, interrupts⟩
          simp [other] at found
        rcases moved with free | ⟨frame, held⟩
        · exact .free free calm
        · exact .held held (by simpa only [ne_eq, not_true, false_iff, not_exists, not_and]
            using calm)

omit [DecidableEq τ] in
theorem LockState.idle : LockState [] (Process.idle : Process τ κ) :=
  .free ⟨rfl, fun _ => clear_nil⟩ (by simp)

omit [DecidableEq τ] in
/-- The event is set by a caller that has found it clear. -/
theorem LockState.unset {past : List (Event τ κ)} {process : Process τ κ}
    (state : LockState past process) {thread : τ} {rest : List (Frame κ)}
    (shape : process.threads thread = .marking :: rest) : process.shared.event = false := by
  cases state with
  | free free calm =>
      have clear := free.nowhere thread
      rw [shape, clear_cons] at clear
      exact absurd rfl clear.1
  | held held interrupted =>
      obtain ⟨-, -, same, -⟩ := held.only.innermost shape rfl
      exact held.unset same.symm

private theorem lockState_run (turns : List (Turn τ κ)) :
    LockState (Machine.trace step Process.idle turns)
      (Machine.final step (Process.idle : Process τ κ) turns) :=
  Machine.trace_invariant step LockState (fun _ _ turn state => state.turn turn) LockState.idle
    turns

/-- The lock can be given back. -/
private def Releases (process : Process τ κ) : Prop :=
  ∃ turns, (Machine.final step process turns).shared.locked = false

private theorem Releases.before {process : Process τ κ} {turn : Turn τ κ}
    (later : Releases (step process turn).2) : Releases process := by
  obtain ⟨turns, unlocked⟩ := later
  exact ⟨turn :: turns, unlocked⟩

private theorem step_move {process : Process τ κ} {thread : τ} {frame : Frame κ}
    {rest : List (Frame κ)} (shape : process.threads thread = frame :: rest)
    (behaviour : Code κ) :
    (step process (.move thread behaviour)).2.threads thread =
        (moveFrame process.shared behaviour rest frame).2.1 ∧
      (step process (.move thread behaviour)).2.shared =
        (moveFrame process.shared behaviour rest frame).2.2 := by
  simp [step, shape, Process.withStack]

private theorem releases_leaving {process : Process τ κ} {thread : τ} {shutting : Bool}
    {rest : List (Frame κ)} (shape : process.threads thread = .leaving shutting :: rest) :
    Releases process := by
  have moved := (step_move shape { calls := [], ending := .returns }).2
  refine ⟨[.move thread { calls := [], ending := .returns }], ?_⟩
  simp only [Machine.final, moved]
  cases shutting with
  | true => rfl
  | false => rfl

private theorem releases_marking {process : Process τ κ} {thread : τ}
    {rest : List (Frame κ)} (shape : process.threads thread = .marking :: rest) :
    Releases process :=
  (releases_leaving (step_move shape { calls := [], ending := .returns }).1).before

/-- A frame in the critical section with no other above it leaves it. -/
private theorem Held.releases {process : Process τ κ} {holder : τ} {below : List (Frame κ)}
    {inner : Frame κ} (held : Held process holder [] inner below) : Releases process := by
  have shape : process.threads holder = inner :: below := held.only.shape
  have holds : inner.holdsLock = true := held.only.isKind
  have moved := (step_move shape { calls := [], ending := .returns }).1
  cases inner with
  | appending callback => exact (releases_leaving moved).before
  | testing =>
      cases event : process.shared.event with
      | true =>
          simp only [moveFrame, event, if_true] at moved
          exact (releases_leaving moved).before
      | false =>
          simp only [moveFrame, event, Bool.false_eq_true, if_false] at moved
          exact (releases_marking moved).before
  | marking => exact releases_marking shape
  | leaving shutting => exact releases_leaving shape
  | code | registering | entering | copying | notifying => simp [Frame.holdsLock] at holds

/-- A handler that waits for the lock of a frame below it waits in every run. -/
private theorem Held.blocked {process : Process τ κ} {holder : τ} {above below : List (Frame κ)}
    {inner : Frame κ} (held : Held process holder above inner below) (blocked : above ≠ [])
    (turns : List (Turn τ κ)) :
    (Machine.final step process turns).shared.locked = true := by
  have stays := @Machine.trace_invariant _ _ _ step
    (fun _ state => ∃ above, above ≠ [] ∧ Held state holder above inner below)
    (by
      rintro - state turn ⟨above, blocked, held⟩
      rcases held.effect (effect_step state turn) with ⟨-, more⟩ | ⟨-, same | ⟨none, -⟩⟩
      · exact ⟨_, by simp, more⟩
      · exact ⟨above, blocked, same⟩
      · exact absurd none blocked)
    [] _ ⟨above, blocked, held⟩ turns
  obtain ⟨stillAbove, -, still⟩ := stays
  exact still.locked

end Steps

end SuperAdvisor.Runtime
