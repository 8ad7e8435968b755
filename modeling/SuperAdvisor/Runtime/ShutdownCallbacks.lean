import SuperAdvisor.Runtime.Shutdown

/-!
# Callbacks of a shutdown

Whatever threads and signals do, one caller at most sets the event, and the
callbacks are called by that caller: those registered until it copies the list,
the last one first, whether they raise or not.
-/

namespace SuperAdvisor.Runtime

open Stacks

variable {τ κ : Type} [DecidableEq τ]

def Action.call? : Action κ → Option κ
  | .called callback => some callback
  | _ => none

def Action.registration? : Action κ → Option κ
  | .registered callback => some callback
  | _ => none

def Action.isSet : Action κ → Bool
  | .set => true
  | _ => false

/-- What can be seen of a run. -/
def actions (past : List (Event τ κ)) : List (Action κ) :=
  past.filterMap Machine.Event.reply

def called (seen : List (Action κ)) : List κ :=
  seen.filterMap Action.call?

def registered (seen : List (Action κ)) : List κ :=
  seen.filterMap Action.registration?

/-- How often the event was set. -/
def shutdowns (seen : List (Action κ)) : Nat :=
  seen.countP Action.isSet

/-- The event is set and the callbacks are not copied yet. -/
def Frame.begins (frame : Frame κ) : Prop :=
  frame = .leaving true ∨ frame = .copying

/-- Behind a part of the run in which the event was set and no callback was
called, the callbacks registered in that part were called in reverse order,
except for those that are left. -/
def Called (seen : List (Action κ)) (remaining : List κ) : Prop :=
  ∃ early late, seen = early ++ late ∧ shutdowns early = 1 ∧ called early = [] ∧
    called late ++ remaining = (registered early).reverse

/-- How far the shutdown has come. -/
inductive Progress (seen : List (Action κ)) (process : Process τ κ) : Prop where
  | before (unset : process.shared.event = false)
      (nowhere : Nowhere ShutsDown process.threads)
      (never : shutdowns seen = 0) (uncalled : called seen = [])
  | starting {thread : τ} {above below : List (Frame κ)} {frame : Frame κ}
      (set : process.shared.event = true)
      (only : Only ShutsDown process.threads thread above frame below) (begins : frame.begins)
      (once : shutdowns seen = 1) (uncalled : called seen = [])
  | calling {thread : τ} {above below : List (Frame κ)} {remaining : List κ}
      (set : process.shared.event = true)
      (only : Only ShutsDown process.threads thread above (.notifying remaining) below)
      (once : shutdowns seen = 1) (progress : Called seen remaining)
  | ended {remaining : List κ} (set : process.shared.event = true)
      (nowhere : Nowhere ShutsDown process.threads)
      (once : shutdowns seen = 1) (progress : Called seen remaining)
      (complete : remaining = [] ∨ .exited ∈ seen)

@[simp] theorem called_append (early late : List (Action κ)) :
    called (early ++ late) = called early ++ called late := by
  simp [called]

@[simp] theorem registered_append (early late : List (Action κ)) :
    registered (early ++ late) = registered early ++ registered late := by
  simp [registered]

@[simp] theorem shutdowns_append (early late : List (Action κ)) :
    shutdowns (early ++ late) = shutdowns early + shutdowns late := by
  simp [shutdowns]

private theorem shutdowns_exited : shutdowns [(.exited : Action κ)] = 0 := rfl

private theorem Called.more {seen : List (Action κ)} {remaining : List κ}
    (progress : Called seen remaining) {more : List (Action κ)} (silent : called more = []) :
    Called (seen ++ more) remaining := by
  obtain ⟨early, late, rfl, once, uncalled, order⟩ := progress
  refine ⟨early, late ++ more, by simp, once, uncalled, ?_⟩
  simpa [silent] using order

/-- Everything registered before the loop begins is left to be called. -/
private theorem Called.begin {seen : List (Action κ)} (once : shutdowns seen = 1)
    (uncalled : called seen = []) : Called seen (registered seen).reverse :=
  ⟨seen, [], by simp, once, uncalled, by simp [called]⟩

private theorem Called.next {seen : List (Action κ)} {callback : κ} {remaining : List κ}
    (progress : Called seen (callback :: remaining)) :
    Called (seen ++ [.called callback]) remaining := by
  obtain ⟨early, late, rfl, once, uncalled, order⟩ := progress
  refine ⟨early, late ++ [.called callback], by simp, once, uncalled, ?_⟩
  simpa [called, Action.call?] using order

/-- Frames outside the shutdown move, and no callback is called. -/
private theorem Progress.elsewhere {seen more : List (Action κ)} {process : Process τ κ}
    (progress : Progress seen process) {thread : τ} {old new rest : List (Frame κ)}
    {shared : Shared κ} (shape : process.threads thread = old ++ rest)
    (clearOld : Clear ShutsDown old) (clearNew : Clear ShutsDown new)
    (event : shared.event = process.shared.event)
    (silent : called more = []) (unset : shutdowns more = 0) :
    Progress (seen ++ more)
      { process.withStack thread (new ++ rest) with shared := shared } := by
  cases progress with
  | before clear nowhere never uncalled =>
      exact .before (event.trans clear) (nowhere.swap shape clearNew) (by simp [never, unset])
        (by simp [uncalled, silent])
  | starting set only begins once uncalled =>
      have once : shutdowns (seen ++ more) = 1 := by simp [once, unset]
      have uncalled : called (seen ++ more) = [] := by simp [uncalled, silent]
      rcases only.swap shape clearOld clearNew with ⟨-, moved⟩ | ⟨-, between, -, moved⟩
      · exact .starting (event.trans set) moved begins once uncalled
      · exact .starting (event.trans set) moved begins once uncalled
  | calling set only once progress =>
      have once : shutdowns (seen ++ more) = 1 := by simp [once, unset]
      rcases only.swap shape clearOld clearNew with ⟨-, moved⟩ | ⟨-, between, -, moved⟩
      · exact .calling (event.trans set) moved once (progress.more silent)
      · exact .calling (event.trans set) moved once (progress.more silent)
  | ended set nowhere once progress complete =>
      have once : shutdowns (seen ++ more) = 1 := by simp [once, unset]
      refine .ended (event.trans set) (nowhere.swap shape clearNew) once (progress.more silent) ?_
      exact complete.imp id (List.mem_append_left more)

/-- A stack is given up, maybe with the loop on it. -/
private theorem Progress.exit {seen : List (Action κ)} {process : Process τ κ}
    (progress : Progress seen process) (thread : τ) {shared : Shared κ}
    (event : shared.event = process.shared.event) :
    Progress (seen ++ [.exited]) { process.withStack thread [] with shared := shared } := by
  have whole : process.threads thread = process.threads thread ++ [] := by simp
  by_cases clear : Clear ShutsDown (process.threads thread)
  · exact progress.elsewhere whole clear clear_nil event rfl rfl
  · cases progress with
    | before _ nowhere => exact absurd (nowhere thread) clear
    | ended _ nowhere => exact absurd (nowhere thread) clear
    | starting set only begins once uncalled =>
        obtain rfl := only.eq_of_not_clear clear
        exact .ended (event.trans set) (only.leave clear_nil) (by simp [once, shutdowns_exited])
          ((Called.begin once uncalled).more rfl) (.inr (by simp))
    | calling set only once progress =>
        obtain rfl := only.eq_of_not_clear clear
        exact .ended (event.trans set) (only.leave clear_nil) (by simp [once, shutdowns_exited])
          (progress.more rfl) (.inr (by simp))

omit [DecidableEq τ] in
/-- An innermost frame of the shutdown is the one there is. -/
private theorem Progress.inner {seen : List (Action κ)} {process : Process τ κ}
    (progress : Progress seen process) {thread : τ} {frame : Frame κ} {rest : List (Frame κ)}
    (shape : process.threads thread = frame :: rest) (shuts : ShutsDown frame) :
    process.shared.event = true ∧ Only ShutsDown process.threads thread [] frame rest ∧
      shutdowns seen = 1 ∧
      (frame.begins ∧ called seen = [] ∨
        ∃ remaining, frame = .notifying remaining ∧ Called seen remaining) := by
  have found : ¬ Clear ShutsDown (process.threads thread) := by
    rw [shape, clear_cons]
    exact fun clear => clear.1 shuts
  cases progress with
  | before _ nowhere => exact absurd (nowhere thread) found
  | ended _ nowhere => exact absurd (nowhere thread) found
  | starting set only begins once uncalled =>
      obtain ⟨rfl, rfl, rfl, rfl⟩ := only.innermost shape shuts
      exact ⟨set, only, once, .inl ⟨begins, uncalled⟩⟩
  | calling set only once progress =>
      obtain ⟨rfl, rfl, rfl, rfl⟩ := only.innermost shape shuts
      exact ⟨set, only, once, .inr ⟨_, rfl, progress⟩⟩

private theorem Progress.effect {seen : List (Action κ)} {process next : Process τ κ}
    {turn : Turn τ κ} {action : Option (Action κ)} (progress : Progress seen process)
    (unset : ∀ {thread rest}, process.threads thread = .marking :: rest →
      process.shared.event = false)
    (callbacks : process.shared.callbacks = registered seen)
    (effect : Effect process turn action next) : Progress (seen ++ action.toList) next := by
  cases effect with
  | idle calm => simpa using progress
  | start shape =>
      rename_i thread code
      have split : process.threads thread = [] ++ [] := shape
      have clear : Clear ShutsDown [Frame.code code] := by simp [Frame.shutsDown]
      exact progress.elsewhere split clear_nil clear rfl rfl rfl
  | signal =>
      rename_i thread
      have split : process.threads thread = [] ++ process.threads thread := rfl
      have clear : Clear ShutsDown [(.entering : Frame κ)] := by simp [Frame.shutsDown]
      exact progress.elsewhere split clear_nil clear rfl rfl rfl
  | quiet new shape holds shuts waits newHolds newShuts =>
      rename_i thread behaviour frame rest
      have split : process.threads thread = [frame] ++ rest := shape
      exact progress.elsewhere split (by simpa using shuts) newShuts rfl rfl rfl
  | exits shape => exact progress.exit _ rfl
  | acquire shape free takes holds shuts unmarked =>
      rename_i thread behaviour frame taken rest
      have split : process.threads thread = [frame] ++ rest := shape
      have clearOld : Clear ShutsDown [frame] := by
        cases frame with
        | registering | entering => simp [Frame.shutsDown]
        | code | appending | testing | marking | leaving | copying | notifying =>
            simp [Frame.waits] at takes
      have clearNew : Clear ShutsDown [taken] := by simpa using shuts
      exact progress.elsewhere split clearOld clearNew rfl rfl rfl
  | append shape =>
      rename_i thread behaviour callback rest
      have split : process.threads thread = [.appending callback] ++ rest := shape
      have clear : Clear ShutsDown [(.leaving false : Frame κ)] := by simp [Frame.shutsDown]
      exact progress.elsewhere split (by simp [Frame.shutsDown]) clear rfl rfl rfl
  | test shape result =>
      rename_i thread behaviour found rest
      have split : process.threads thread = [.testing] ++ rest := shape
      have clear : Clear ShutsDown [found] := by
        subst result
        cases process.shared.event with
        | true => simp [Frame.shutsDown]
        | false => simp [Frame.shutsDown]
      exact progress.elsewhere split (by simp [Frame.shutsDown]) clear rfl rfl rfl
  | mark shape =>
      rename_i thread behaviour rest
      have unset := unset shape
      cases progress with
      | before _ nowhere never uncalled =>
          have clear := nowhere thread
          rw [shape, clear_cons] at clear
          exact .starting rfl (nowhere.enter rfl clear.2) (.inl rfl)
            (by rw [Option.toList_some, shutdowns_append, never]; rfl)
            (by rw [Option.toList_some, called_append, uncalled]; rfl)
      | starting set => simp [unset] at set
      | calling set => simp [unset] at set
      | ended set => simp [unset] at set
  | leave shape =>
      rename_i thread behaviour shutting rest
      cases shutting with
      | false =>
          have split : process.threads thread = [.leaving false] ++ rest := shape
          exact progress.elsewhere split (by simp [Frame.shutsDown]) clear_nil rfl rfl rfl
      | true =>
          obtain ⟨set, only, once, phase⟩ := progress.inner shape rfl
          rcases phase with ⟨-, uncalled⟩ | ⟨remaining, same, -⟩
          · have shuts : ShutsDown (.copying : Frame κ) := rfl
            exact .starting set (only.replace shuts clear_nil) (.inr rfl)
              (by simpa using once) (by simpa using uncalled)
          · cases same
  | copy shape =>
      obtain ⟨set, only, once, phase⟩ := progress.inner shape rfl
      rcases phase with ⟨-, uncalled⟩ | ⟨remaining, same, -⟩
      · have shuts : ShutsDown (.notifying process.shared.callbacks.reverse) := rfl
        refine .calling set (only.replace shuts clear_nil) (by simpa using once) ?_
        rw [callbacks]
        simpa using Called.begin once uncalled
      · cases same
  | call shape =>
      rename_i thread behaviour callback remaining rest
      obtain ⟨set, only, once, phase⟩ := progress.inner shape rfl
      rcases phase with ⟨begins, -⟩ | ⟨others, same, progress⟩
      · rcases begins with same | same <;> cases same
      · obtain rfl : callback :: remaining = others := by simpa using same
        have clear : Clear ShutsDown [Frame.code behaviour] := by simp [Frame.shutsDown]
        have shuts : ShutsDown (.notifying remaining) := rfl
        exact .calling set (only.replace shuts clear)
          (by rw [Option.toList_some, shutdowns_append, once]; rfl) progress.next
  | finish shape =>
      obtain ⟨set, only, once, phase⟩ := progress.inner shape rfl
      rcases phase with ⟨begins, -⟩ | ⟨remaining, same, progress⟩
      · rcases begins with same | same <;> cases same
      · obtain rfl : [] = remaining := by simpa using same
        exact .ended set (only.leave only.clearBelow) (by simpa using once)
          (by simpa using progress) (.inl rfl)

private theorem callbacks_registered {seen : List (Action κ)} {process next : Process τ κ}
    {turn : Turn τ κ} {action : Option (Action κ)}
    (callbacks : process.shared.callbacks = registered seen)
    (effect : Effect process turn action next) :
    next.shared.callbacks = registered (seen ++ action.toList) := by
  have silent : ∀ action : Action κ, registered [action] = [] →
      process.shared.callbacks = registered (seen ++ [action]) := by
    intro action none
    rw [registered_append, none, List.append_nil, callbacks]
  cases effect with
  | append shape =>
      rw [Option.toList_some, registered_append, ← callbacks]
      rfl
  | exits => exact silent .exited rfl
  | mark => exact silent .set rfl
  | call => exact silent (.called _) rfl
  | idle | start | signal | quiet | acquire | test | leave | copy | finish =>
      simpa using callbacks

omit [DecidableEq τ] in
theorem actions_append (past later : List (Event τ κ)) :
    actions (past ++ later) = actions past ++ actions later := by
  simp [actions]

end SuperAdvisor.Runtime
