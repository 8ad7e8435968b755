import Mathlib.Data.List.Basic

/-!
# Effect programs that may die at any operation

A program performs operations one at a time and continues with their replies.
The environment is a list of choices, one for every operation: it fixes the
reply, may let the operation fail, and ends the run early when it has no more
choices, which is a process that dies between two operations.

`Upholds` is the program logic: what holds of every operation performed, given
the operations before it, and what holds when the program returns.  Since a
run may stop anywhere, a property of every operation is also a property of
every point of death.

`Ends` covers the other ends too: a program may raise, an operation may raise,
and the process may die before an operation.  The environment may be restricted
to some choices.
-/

/-- A program over operations `Op` answered by `Reply`. -/
inductive Program (Op : Type) (Reply : Op → Type) (Problem α : Type) where
  | done (value : α)
  | raised (problem : Problem)
  | perform (op : Op) (next : Reply op → Program Op Reply Problem α)

namespace Program

variable {Op : Type} {Reply : Op → Type} {Problem α β : Type}

def bind (program : Program Op Reply Problem α)
    (next : α → Program Op Reply Problem β) : Program Op Reply Problem β :=
  match program with
  | .done value => next value
  | .raised problem => .raised problem
  | .perform op continue_ => .perform op (fun reply => (continue_ reply).bind next)

instance : Monad (Program Op Reply Problem) where
  pure := .done
  bind := bind

def request (op : Op) : Program Op Reply Problem (Reply op) :=
  .perform op .done

/-- The value of a program that has ended with one. -/
def value? : Program Op Reply Problem α → Option α
  | .done value => some value
  | _ => none

theorem value?_eq_some
    {program : Program Op Reply Problem α} {value : α} :
    program.value? = some value ↔ program = .done value := by
  cases program <;> simp [value?]

/-- A pure computation that may raise. -/
def ofExcept : Except Problem α → Program Op Reply Problem α
  | .ok value => .done value
  | .error problem => .raised problem

@[simp] theorem pure_eq (value : α) :
    (pure value : Program Op Reply Problem α) = .done value := rfl

@[simp] theorem done_bind (value : α) (next : α → Program Op Reply Problem β) :
    Program.done value >>= next = next value := rfl

@[simp] theorem raised_bind (problem : Problem) (next : α → Program Op Reply Problem β) :
    Program.raised problem >>= next = .raised problem := rfl

@[simp] theorem perform_bind
    (op : Op) (continue_ : Reply op → Program Op Reply Problem α)
    (next : α → Program Op Reply Problem β) :
    Program.perform op continue_ >>= next =
      .perform op (fun reply => continue_ reply >>= next) := rfl

@[simp] theorem request_bind
    (op : Op) (next : Reply op → Program Op Reply Problem β) :
    request op >>= next = .perform op next := rfl

theorem bind_assoc
    {γ : Type} (program : Program Op Reply Problem α)
    (next : α → Program Op Reply Problem β) (last : β → Program Op Reply Problem γ) :
    program >>= next >>= last = program >>= fun value => next value >>= last := by
  induction program with
  | done value => rfl
  | raised problem => rfl
  | perform op continue_ induction => exact congrArg (perform op) (funext induction)

/-- Every operation the program can perform is allowed. -/
inductive Uses (allowed : Op → Prop) : Program Op Reply Problem α → Prop
  | done {value : α} : Uses allowed (.done value)
  | raised {problem : Problem} : Uses allowed (.raised problem)
  | perform {op : Op} {next : Reply op → Program Op Reply Problem α}
      (first : allowed op) (later : ∀ reply, Uses allowed (next reply)) :
      Uses allowed (.perform op next)

theorem uses_bind
    {allowed : Op → Prop} {program : Program Op Reply Problem α}
    {next : α → Program Op Reply Problem β}
    (first : program.Uses allowed) (later : ∀ value, (next value).Uses allowed) :
    (program >>= next).Uses allowed := by
  induction first with
  | done => exact later _
  | raised => exact .raised
  | perform fits _ induction => exact .perform fits induction

theorem uses_ask
    {allowed : Op → Prop} {op : Op} {next : Reply op → Program Op Reply Problem β}
    (fits : allowed op) (later : ∀ reply, (next reply).Uses allowed) :
    ((Program.perform op .done : Program Op Reply Problem (Reply op)) >>= next).Uses allowed :=
  .perform fits later

theorem uses_bind_ofExcept
    {allowed : Op → Prop} {result : Except Problem α} {next : α → Program Op Reply Problem β}
    (later : ∀ value, result = .ok value → (next value).Uses allowed) :
    (ofExcept result >>= next).Uses allowed := by
  cases result with
  | error problem => exact .raised
  | ok value => exact later value rfl

theorem uses_ofExcept {allowed : Op → Prop} (result : Except Problem α) :
    (ofExcept result : Program Op Reply Problem α).Uses allowed := by
  cases result with
  | error problem => exact .raised
  | ok value => exact .done

theorem uses_of_forall
    {allowed : Op → Prop} (all : ∀ op, allowed op) (program : Program Op Reply Problem α) :
    program.Uses allowed := by
  induction program with
  | done value => exact .done
  | raised problem => exact .raised
  | perform op continue_ induction => exact .perform (all op) induction

/-- The program returns a value only after a needed operation. -/
inductive Needs (needed : Op → Prop) : Program Op Reply Problem α → Prop
  | raised {problem : Problem} : Needs needed (.raised problem)
  | here {op : Op} {next : Reply op → Program Op Reply Problem α} (first : needed op) :
      Needs needed (.perform op next)
  | later {op : Op} {next : Reply op → Program Op Reply Problem α}
      (rest : ∀ reply, Needs needed (next reply)) : Needs needed (.perform op next)

theorem needs_bind
    {needed : Op → Prop} (program : Program Op Reply Problem α)
    {next : α → Program Op Reply Problem β} (rest : ∀ value, (next value).Needs needed) :
    (program >>= next).Needs needed := by
  induction program with
  | done value => exact rest value
  | raised problem => exact .raised
  | perform op continue_ induction => exact .later induction

/-- An operation, its reply and the states around it. -/
structure Act (σ : Type) (Op : Type) (Reply : Op → Type) (Problem : Type) where
  before : σ
  op : Op
  reply : Except Problem (Reply op)
  after : σ

inductive Outcome (Problem α : Type) where
  | returned (value : α)
  | raised (problem : Problem)
  | died
  deriving DecidableEq

structure Run (σ : Type) (Op : Type) (Reply : Op → Type) (Problem α : Type) where
  outcome : Outcome Problem α
  acts : List (Act σ Op Reply Problem)
  state : σ

section Environment

variable {σ ε : Type} (answer : σ → ε → (op : Op) → Except Problem (Reply op) × σ)

def actOf (state : σ) (choice : ε) (op : Op) : Act σ Op Reply Problem :=
  { before := state
    op := op
    reply := (answer state choice op).1
    after := (answer state choice op).2 }

@[simp] theorem actOf_before (state : σ) (choice : ε) (op : Op) :
    (actOf answer state choice op).before = state := rfl

/-- Run a program against a list of choices. -/
def run (program : Program Op Reply Problem α) (script : List ε) (state : σ) :
    Run σ Op Reply Problem α :=
  match program with
  | .done value => { outcome := .returned value, acts := [], state := state }
  | .raised problem => { outcome := .raised problem, acts := [], state := state }
  | .perform op next =>
      match script with
      | [] => { outcome := .died, acts := [], state := state }
      | choice :: script =>
          let act := actOf answer state choice op
          match act.reply with
          | .error problem =>
              { outcome := .raised problem, acts := [act], state := act.after }
          | .ok reply =>
              let later := run (next reply) script act.after
              { later with acts := act :: later.acts }

/-- A run performs only operations the program can perform. -/
theorem run_uses
    {allowed : Op → Prop} {program : Program Op Reply Problem α}
    (uses : program.Uses allowed) (script : List ε) (state : σ) :
    ∀ act ∈ (run answer program script state).acts, allowed act.op := by
  induction uses generalizing script state with
  | done => cases script <;> simp [run]
  | raised => cases script <;> simp [run]
  | @perform op next first _ induction =>
      cases script with
      | nil => simp [run]
      | cons choice script =>
          intro act member
          cases answered : (actOf answer state choice op).reply with
          | error problem =>
              obtain rfl : act = actOf answer state choice op := by
                simpa [run, answered] using member
              exact first
          | ok reply =>
              simp only [run, answered] at member
              rcases List.mem_cons.mp member with rfl | later
              · exact first
              · exact induction reply script _ act later

variable (good : List (Act σ Op Reply Problem) → Act σ Op Reply Problem → Prop)

/-- Every operation is good after the operations before it, and a value is
returned only in states and histories that satisfy `post`. -/
inductive Upholds (post : α → List (Act σ Op Reply Problem) → σ → Prop) :
    Program Op Reply Problem α → List (Act σ Op Reply Problem) → σ → Prop
  | done {value : α} {past : List (Act σ Op Reply Problem)} {state : σ}
      (holds : post value past state) : Upholds post (.done value) past state
  | raised {problem : Problem} {past : List (Act σ Op Reply Problem)} {state : σ} :
      Upholds post (.raised problem) past state
  | perform {op : Op} {next : Reply op → Program Op Reply Problem α}
      {past : List (Act σ Op Reply Problem)} {state : σ}
      (first : ∀ choice, good past (actOf answer state choice op))
      (later : ∀ choice reply, (actOf answer state choice op).reply = .ok reply →
        Upholds post (next reply) (past ++ [actOf answer state choice op])
          (actOf answer state choice op).after) :
      Upholds post (.perform op next) past state

variable {answer good}

theorem upholds_bind
    (middle : α → List (Act σ Op Reply Problem) → σ → Prop)
    {post : β → List (Act σ Op Reply Problem) → σ → Prop}
    {program : Program Op Reply Problem α} {next : α → Program Op Reply Problem β}
    {past : List (Act σ Op Reply Problem)} {state : σ}
    (first : Upholds answer good middle program past state)
    (later : ∀ value past state, middle value past state →
      Upholds answer good post (next value) past state) :
    Upholds answer good post (program >>= next) past state := by
  induction first with
  | done holds => exact later _ _ _ holds
  | raised => exact .raised
  | perform allowed _ induction => exact .perform allowed induction

theorem upholds_ofExcept
    {post : α → List (Act σ Op Reply Problem) → σ → Prop}
    {result : Except Problem α} {past : List (Act σ Op Reply Problem)} {state : σ}
    (holds : ∀ value, result = .ok value → post value past state) :
    Upholds answer good post (ofExcept result) past state := by
  cases result with
  | error problem => exact .raised
  | ok value => exact .done (holds value rfl)

theorem upholds_bind_ofExcept
    {post : β → List (Act σ Op Reply Problem) → σ → Prop}
    {result : Except Problem α} {next : α → Program Op Reply Problem β}
    {past : List (Act σ Op Reply Problem)} {state : σ}
    (later : ∀ value, result = .ok value →
      Upholds answer good post (next value) past state) :
    Upholds answer good post (ofExcept result >>= next) past state := by
  cases result with
  | error problem => exact .raised
  | ok value => exact later value rfl

/-- The logic is sound for every script, also one that ends early. -/
theorem run_upholds
    {post : α → List (Act σ Op Reply Problem) → σ → Prop}
    {program : Program Op Reply Problem α} {past : List (Act σ Op Reply Problem)}
    {state : σ} (upholds : Upholds answer good post program past state)
    (script : List ε) :
    (∀ early act late, (run answer program script state).acts = early ++ act :: late →
        good (past ++ early) act) ∧
      ∀ value, (run answer program script state).outcome = .returned value →
        post value (past ++ (run answer program script state).acts)
          (run answer program script state).state := by
  induction upholds generalizing script with
  | @done value past state holds =>
      cases script <;> exact ⟨by simp [run], by simpa [run] using holds⟩
  | raised => cases script <;> simp [run]
  | @perform op next past state allowed later induction =>
      cases script with
      | nil => simp [run]
      | cons choice script =>
          cases answered : (actOf answer state choice op).reply with
          | error problem =>
              refine ⟨?_, by simp [run, answered]⟩
              intro early act late shape
              simp only [run, answered] at shape
              cases early with
              | nil =>
                  obtain ⟨rfl, -⟩ := List.cons.inj shape
                  simpa using allowed choice
              | cons head early => simp at shape
          | ok reply =>
              obtain ⟨laterGood, returned⟩ := induction choice reply answered script
              refine ⟨?_, ?_⟩
              · intro early act late shape
                simp only [run, answered] at shape
                cases early with
                | nil =>
                    obtain ⟨rfl, -⟩ := List.cons.inj shape
                    simpa using allowed choice
                | cons head early =>
                    obtain ⟨rfl, rest⟩ := List.cons.inj shape
                    simpa using laterGood early act late rest
              · intro value same
                simp only [run, answered] at same ⊢
                simpa using returned value same

/-- An invariant that every good operation preserves holds before every
operation of a run and at its end. -/
theorem run_invariant
    (holds : List (Act σ Op Reply Problem) → σ → Prop)
    (preserved : ∀ past state choice op, holds past state →
      good past (actOf answer state choice op) →
        holds (past ++ [actOf answer state choice op]) (actOf answer state choice op).after)
    {post : α → List (Act σ Op Reply Problem) → σ → Prop}
    {program : Program Op Reply Problem α} {past : List (Act σ Op Reply Problem)}
    {state : σ} (upholds : Upholds answer good post program past state)
    (initial : holds past state) (script : List ε) :
    holds (past ++ (run answer program script state).acts)
        (run answer program script state).state ∧
      ∀ early act late, (run answer program script state).acts = early ++ act :: late →
        holds (past ++ early) act.before := by
  induction upholds generalizing script with
  | done => cases script <;> simpa [run] using initial
  | raised => cases script <;> simpa [run] using initial
  | @perform op next past state allowed later induction =>
      cases script with
      | nil => simpa [run] using initial
      | cons choice script =>
          have next := preserved past state choice op initial (allowed choice)
          cases answered : (actOf answer state choice op).reply with
          | error problem =>
              refine ⟨by simpa [run, answered] using next, ?_⟩
              intro early act late shape
              simp only [run, answered] at shape
              cases early with
              | nil =>
                  obtain ⟨rfl, -⟩ := List.cons.inj shape
                  simpa using initial
              | cons head early => simp at shape
          | ok reply =>
              obtain ⟨final, before⟩ := induction choice reply answered next script
              refine ⟨by simpa [run, answered] using final, ?_⟩
              intro early act late shape
              simp only [run, answered] at shape
              cases early with
              | nil =>
                  obtain ⟨rfl, -⟩ := List.cons.inj shape
                  simpa using initial
              | cons head early =>
                  obtain ⟨rfl, rest⟩ := List.cons.inj shape
                  simpa using before early act late rest

end Environment

section Ends

variable {σ ε : Type}

variable (answer : σ → ε → (op : Op) → Except Problem (Reply op) × σ) (admitted : ε → Prop)
  (stopped : Option Problem → List (Act σ Op Reply Problem) → σ → Prop)

/-- A value is returned only where `post` holds, and the run stops short only
where `stopped` holds, of no problem if the process died. -/
inductive Ends (post : α → List (Act σ Op Reply Problem) → σ → Prop) :
    Program Op Reply Problem α → List (Act σ Op Reply Problem) → σ → Prop
  | done {value : α} {past : List (Act σ Op Reply Problem)} {state : σ}
      (holds : post value past state) : Ends post (.done value) past state
  | raised {problem : Problem} {past : List (Act σ Op Reply Problem)} {state : σ}
      (holds : stopped (some problem) past state) : Ends post (.raised problem) past state
  | perform {op : Op} {next : Reply op → Program Op Reply Problem α}
      {past : List (Act σ Op Reply Problem)} {state : σ}
      (dies : stopped none past state)
      (fails : ∀ choice problem, admitted choice →
        (actOf answer state choice op).reply = .error problem →
          stopped (some problem) (past ++ [actOf answer state choice op])
            (actOf answer state choice op).after)
      (later : ∀ choice reply, admitted choice →
        (actOf answer state choice op).reply = .ok reply →
          Ends post (next reply) (past ++ [actOf answer state choice op])
            (actOf answer state choice op).after) :
      Ends post (.perform op next) past state

variable {answer admitted stopped}

theorem ends_bind
    (middle : α → List (Act σ Op Reply Problem) → σ → Prop)
    {post : β → List (Act σ Op Reply Problem) → σ → Prop}
    {program : Program Op Reply Problem α} {next : α → Program Op Reply Problem β}
    {past : List (Act σ Op Reply Problem)} {state : σ}
    (first : Ends answer admitted stopped middle program past state)
    (later : ∀ value past state, middle value past state →
      Ends answer admitted stopped post (next value) past state) :
    Ends answer admitted stopped post (program >>= next) past state := by
  induction first with
  | done holds => exact later _ _ _ holds
  | raised holds => exact .raised holds
  | perform dies fails _ induction => exact .perform dies fails induction

theorem ends_mono
    {post weaker : α → List (Act σ Op Reply Problem) → σ → Prop}
    (implies : ∀ value past state, post value past state → weaker value past state)
    {program : Program Op Reply Problem α} {past : List (Act σ Op Reply Problem)} {state : σ}
    (ends : Ends answer admitted stopped post program past state) :
    Ends answer admitted stopped weaker program past state := by
  induction ends with
  | done holds => exact .done (implies _ _ _ holds)
  | raised holds => exact .raised holds
  | perform dies fails _ induction => exact .perform dies fails induction

theorem ends_bind_ofExcept
    {post : β → List (Act σ Op Reply Problem) → σ → Prop}
    {result : Except Problem α} {next : α → Program Op Reply Problem β}
    {past : List (Act σ Op Reply Problem)} {state : σ}
    (raises : ∀ problem, result = .error problem → stopped (some problem) past state)
    (later : ∀ value, result = .ok value →
      Ends answer admitted stopped post (next value) past state) :
    Ends answer admitted stopped post (ofExcept result >>= next) past state := by
  cases result with
  | error problem => exact .raised (raises problem rfl)
  | ok value => exact later value rfl

/-- What holds of an outcome. -/
def Outcome.Meets
    (stopped : Option Problem → List (Act σ Op Reply Problem) → σ → Prop)
    (post : α → List (Act σ Op Reply Problem) → σ → Prop)
    (past : List (Act σ Op Reply Problem)) (state : σ) : Outcome Problem α → Prop
  | .returned value => post value past state
  | .raised problem => stopped (some problem) past state
  | .died => stopped none past state

/-- The logic is sound for every script of admitted choices. -/
theorem run_ends
    {post : α → List (Act σ Op Reply Problem) → σ → Prop}
    {program : Program Op Reply Problem α} {past : List (Act σ Op Reply Problem)}
    {state : σ} (ends : Ends answer admitted stopped post program past state)
    (script : List ε) (admits : ∀ choice ∈ script, admitted choice) :
    (run answer program script state).outcome.Meets stopped post
      (past ++ (run answer program script state).acts)
      (run answer program script state).state := by
  induction ends generalizing script with
  | done holds => cases script <;> simpa [run, Outcome.Meets] using holds
  | raised holds => cases script <;> simpa [run, Outcome.Meets] using holds
  | @perform op next past state dies fails _ induction =>
      cases script with
      | nil => simpa [run, Outcome.Meets] using dies
      | cons choice script =>
          have allowed := admits choice List.mem_cons_self
          cases answered : (actOf answer state choice op).reply with
          | error problem =>
              simpa [run, answered, Outcome.Meets] using fails choice problem allowed answered
          | ok reply =>
              have rest := induction choice reply allowed answered script
                (fun other member => admits other (List.mem_cons_of_mem _ member))
              simpa [run, answered] using rest

end Ends

end Program
