import SuperAdvisor.Foundation.Machine
import SuperAdvisor.Foundation.Program

/-!
# Two programs over one state

The operations of two programs happen one at a time in the order of a
schedule.  A program whose operation raises has ended, and a turn of a program
that has ended does nothing.  The last operation of a kind in the trace belongs
to one of the two programs, and `LastBy` names it.
-/

namespace Interleaving

open Program (Act actOf)

inductive Side where
  | left
  | right
  deriving DecidableEq

structure Race (σ Op : Type) (Reply : Op → Type) (Problem α β : Type) where
  left : Program Op Reply Problem α
  right : Program Op Reply Problem β
  state : σ

variable {σ ε Op : Type} {Reply : Op → Type} {Problem α β : Type}
  (answer : σ → ε → (op : Op) → Except Problem (Reply op) × σ)

/-- What is left of a program after one operation. -/
def advance (program : Program Op Reply Problem α) (choice : ε) (state : σ) :
    Program Op Reply Problem α × Option (Act σ Op Reply Problem) × σ :=
  match program with
  | .perform op next =>
      let act := actOf answer state choice op
      match act.reply with
      | .error problem => (.raised problem, some act, act.after)
      | .ok reply => (next reply, some act, act.after)
  | ended => (ended, none, state)

def step (race : Race σ Op Reply Problem α β) (turn : Side × ε) :
    Option (Act σ Op Reply Problem) × Race σ Op Reply Problem α β :=
  match turn.1 with
  | .left =>
      let (left, act, state) := advance answer race.left turn.2 race.state
      (act, { race with left := left, state := state })
  | .right =>
      let (right, act, state) := advance answer race.right turn.2 race.state
      (act, { race with right := right, state := state })

abbrev Event (σ ε Op : Type) (Reply : Op → Type) (Problem α β : Type) :=
  Machine.Event (Race σ Op Reply Problem α β) (Side × ε) (Option (Act σ Op Reply Problem))

/-- The side of the last operation of a kind. -/
def lastBy (kind : Act σ Op Reply Problem → Prop) [DecidablePred kind]
    (trace : List (Event σ ε Op Reply Problem α β)) : Option Side :=
  trace.foldl
    (fun last event =>
      if event.reply.any (fun act => decide (kind act)) then some event.call.1 else last)
    none

/-- A turn is an operation of the program or changes nothing. -/
theorem advance_cases
    (program : Program Op Reply Problem α) (choice : ε) (state : σ) :
    advance answer program choice state = (program, none, state) ∨
      ∃ op next, program = .perform op next ∧
        ∃ rest, advance answer program choice state =
            (rest, some (actOf answer state choice op), (actOf answer state choice op).after) ∧
          ((∃ problem, (actOf answer state choice op).reply = .error problem ∧
              rest = .raised problem) ∨
            ∃ reply, (actOf answer state choice op).reply = .ok reply ∧ rest = next reply) := by
  cases program with
  | done value => exact .inl rfl
  | raised problem => exact .inl rfl
  | perform op next =>
      refine .inr ⟨op, next, rfl, ?_⟩
      cases answered : (actOf answer state choice op).reply with
      | error problem =>
          exact ⟨.raised problem, by simp [advance, answered], .inl ⟨problem, rfl, rfl⟩⟩
      | ok reply =>
          exact ⟨next reply, by simp [advance, answered], .inr ⟨reply, rfl, rfl⟩⟩

section Rules

variable {answer}

/-- What a turn of a program with allowed operations does. -/
theorem advance_uses
    {allowed : Op → Prop} {program : Program Op Reply Problem α}
    (uses : program.Uses allowed) (choice : ε) (state : σ) :
    (advance answer program choice state).1.Uses allowed ∧
      (advance answer program choice state = (program, none, state) ∨
        ∃ op, allowed op ∧
          (advance answer program choice state).2 =
            (some (actOf answer state choice op), (actOf answer state choice op).after)) := by
  rcases advance_cases answer program choice state with
    same | ⟨op, next, rfl, rest, moved, rest_cases⟩
  · exact ⟨by rw [same]; exact uses, .inl same⟩
  · cases uses with
    | perform fits later =>
        refine ⟨?_, .inr ⟨op, fits, by rw [moved]⟩⟩
        rw [moved]
        rcases rest_cases with ⟨problem, -, rfl⟩ | ⟨reply, -, rfl⟩
        · exact .raised
        · exact later reply

variable {kind : Act σ Op Reply Problem → Prop} [DecidablePred kind]

theorem lastBy_snoc
    (past : List (Event σ ε Op Reply Problem α β)) (event : Event σ ε Op Reply Problem α β) :
    lastBy kind (past ++ [event]) =
      if event.reply.any (fun act => decide (kind act)) then some event.call.1
      else lastBy kind past := by
  simp [lastBy]

/-- What a turn does when both programs perform allowed operations only. -/
theorem step_uses
    {allowed : Side → Op → Prop} {race : Race σ Op Reply Problem α β}
    (left : race.left.Uses (allowed .left)) (right : race.right.Uses (allowed .right))
    (turn : Side × ε) :
    (step answer race turn).2.left.Uses (allowed .left) ∧
      (step answer race turn).2.right.Uses (allowed .right) ∧
      (((step answer race turn).1 = none ∧ (step answer race turn).2.state = race.state) ∨
        ∃ op, allowed turn.1 op ∧
          (step answer race turn).1 = some (actOf answer race.state turn.2 op) ∧
          (step answer race turn).2.state = (actOf answer race.state turn.2 op).after) := by
  obtain ⟨side, choice⟩ := turn
  cases side with
  | left =>
      obtain ⟨uses, moved⟩ := advance_uses left choice race.state
      refine ⟨uses, right, ?_⟩
      rcases moved with same | ⟨op, fits, moved⟩
      · exact .inl (by simp [step, same])
      · exact .inr ⟨op, fits, by simp [step, moved]⟩
  | right =>
      obtain ⟨uses, moved⟩ := advance_uses right choice race.state
      refine ⟨left, uses, ?_⟩
      rcases moved with same | ⟨op, fits, moved⟩
      · exact .inl (by simp [step, same])
      · exact .inr ⟨op, fits, by simp [step, moved]⟩

/-- The programs perform allowed operations only, and the last operation of the
kind has left its effect. -/
structure EffectInvariant (allowed : Side → Op → Prop) (effect : Side → σ → Prop)
    (kind : Act σ Op Reply Problem → Prop) [DecidablePred kind]
    (past : List (Event σ ε Op Reply Problem α β)) (race : Race σ Op Reply Problem α β) :
    Prop where
  left : race.left.Uses (allowed .left)
  right : race.right.Uses (allowed .right)
  effects : ∀ side, lastBy kind past = some side → effect side race.state

/-- The last operation of a kind decides: its side has established its effect
and nothing that follows has taken it back. -/
theorem lastBy_effect
    (allowed : Side → Op → Prop) (effect : Side → σ → Prop)
    (establishes : ∀ side state choice op, allowed side op →
      kind (actOf answer state choice op) → effect side (actOf answer state choice op).after)
    (keeps : ∀ side other state choice op, allowed other op →
      ¬kind (actOf answer state choice op) → effect side state →
        effect side (actOf answer state choice op).after)
    {race : Race σ Op Reply Problem α β}
    (left : race.left.Uses (allowed .left)) (right : race.right.Uses (allowed .right))
    (schedule : List (Side × ε)) {side : Side}
    (last : lastBy kind (Machine.trace (step answer) race schedule) = some side) :
    effect side (Machine.final (step answer) race schedule).state := by
  have preserved : ∀ (past : List (Event σ ε Op Reply Problem α β))
      (race : Race σ Op Reply Problem α β) (turn : Side × ε),
      EffectInvariant allowed effect kind past race →
        EffectInvariant allowed effect kind
          (past ++ [Machine.eventOf (step answer) race turn]) (step answer race turn).2 := by
    intro past race turn invariant
    obtain ⟨nextLeft, nextRight, moved⟩ := step_uses invariant.left invariant.right turn
    refine ⟨nextLeft, nextRight, ?_⟩
    intro side last
    rw [lastBy_snoc] at last
    rcases moved with ⟨idle, same⟩ | ⟨op, fits, act, after⟩
    · rw [same]
      exact invariant.effects side (by simpa [Machine.eventOf, idle] using last)
    · rw [after]
      by_cases ofKind : kind (actOf answer race.state turn.2 op)
      · obtain rfl : turn.1 = side := by
          simpa [Machine.eventOf, act, ofKind] using last
        exact establishes turn.1 race.state turn.2 op fits ofKind
      · refine keeps side turn.1 race.state turn.2 op fits ofKind (invariant.effects side ?_)
        simpa [Machine.eventOf, act, ofKind] using last
  have initial : EffectInvariant allowed effect kind
      ([] : List (Event σ ε Op Reply Problem α β)) race :=
    ⟨left, right, fun side nothing => by simp [lastBy] at nothing⟩
  have invariant := Machine.trace_invariant (step answer) _ preserved initial schedule
  exact invariant.effects side last

/-- A right program that returns only after a needed operation has performed one. -/
theorem lastBy_ne_none
    {needed : Op → Prop}
    (marks : ∀ state choice op reply, needed op →
      (actOf answer state choice op).reply = .ok reply → kind (actOf answer state choice op))
    {race : Race σ Op Reply Problem α β} (needs : race.right.Needs needed)
    (schedule : List (Side × ε)) {value : β}
    (ended : (Machine.final (step answer) race schedule).right = .done value) :
    lastBy kind (Machine.trace (step answer) race schedule) ≠ none := by
  have preserved : ∀ (past : List (Event σ ε Op Reply Problem α β))
      (race : Race σ Op Reply Problem α β) (turn : Side × ε),
      (race.right.Needs needed ∨ lastBy kind past ≠ none) →
        ((step answer race turn).2.right.Needs needed ∨
          lastBy kind (past ++ [Machine.eventOf (step answer) race turn]) ≠ none) := by
    intro past race turn holds
    rw [lastBy_snoc]
    rcases holds with needs | done
    · obtain ⟨side, choice⟩ := turn
      cases side with
      | left => exact .inl needs
      | right =>
          rcases advance_cases answer race.right choice race.state with
            same | ⟨op, next, shape, rest, moved, ⟨problem, -, rfl⟩ | ⟨reply, answered, rfl⟩⟩
          · exact .inl (by simpa [step, same] using needs)
          · exact .inl (by simpa [step, moved] using .raised)
          · rw [shape] at needs
            cases needs with
            | here first =>
                have ofKind := marks _ _ _ _ first answered
                exact .inr (by simp [Machine.eventOf, step, moved, ofKind])
            | later rest => exact .inl (by simpa [step, moved] using rest reply)
    · right
      split
      · simp
      · exact done
  have invariant := Machine.trace_invariant (step answer)
    (fun past race => race.right.Needs needed ∨ lastBy kind past ≠ none) preserved
    (show race.right.Needs needed ∨
      lastBy kind ([] : List (Event σ ε Op Reply Problem α β)) ≠ none from .inl needs) schedule
  rcases invariant with still | done
  · rw [ended] at still
    cases still
  · exact done

end Rules

/-! Histories: the operations of both sides, without the idle turns. -/

section Histories

/-- What one side has performed. -/
abbrev Move (σ Op : Type) (Reply : Op → Type) (Problem : Type) :=
  Side × Act σ Op Reply Problem

def history (trace : List (Event σ ε Op Reply Problem α β)) :
    List (Move σ Op Reply Problem) :=
  trace.filterMap (fun event => event.reply.map (Prod.mk event.call.1))

/-- One thing has happened, and another has not happened after it. -/
def since {τ : Type} (first other : τ → Bool) (past : List τ) : Bool :=
  past.foldl (fun held event => first event || (held && !other event)) false

@[simp] theorem since_snoc
    {τ : Type} (first other : τ → Bool) (past : List τ) (event : τ) :
    since first other (past ++ [event]) =
      (first event || (since first other past && !other event)) := by
  simp [since]

/-- Every event meets a condition on the events before it. -/
def Guarded {τ : Type} (guard : List τ → τ → Prop) (past : List τ) : List τ → Prop
  | [] => True
  | event :: later => guard past event ∧ Guarded guard (past ++ [event]) later

instance Guarded.decidable
    {τ : Type} (guard : List τ → τ → Prop) [∀ past event, Decidable (guard past event)] :
    (past late : List τ) → Decidable (Guarded guard past late)
  | _, [] => .isTrue trivial
  | past, event :: later =>
      have := Guarded.decidable guard (past ++ [event]) later
      inferInstanceAs (Decidable (guard past event ∧ Guarded guard (past ++ [event]) later))

variable {answer}
  {shared : List (Move σ Op Reply Problem) → σ → Prop}
  {own : Side → List (Move σ Op Reply Problem) → σ → Program Op Reply Problem α → Prop}
  {guard : List (Move σ Op Reply Problem) → Move σ Op Reply Problem → Prop}

/-- What an operation of one side must keep: the shared invariant and what the
side knows. -/
def KeepsOwn (answer : σ → ε → (op : Op) → Except Problem (Reply op) × σ)
    (shared : List (Move σ Op Reply Problem) → σ → Prop)
    (own : Side → List (Move σ Op Reply Problem) → σ → Program Op Reply Problem α → Prop)
    (guard : List (Move σ Op Reply Problem) → Move σ Op Reply Problem → Prop) : Prop :=
  ∀ side past state choice op next,
    shared past state → own side past state (.perform op next) →
      guard past (side, actOf answer state choice op) →
    let act := actOf answer state choice op
    shared (past ++ [(side, act)]) act.after ∧
      match act.reply with
      | .ok reply => own side (past ++ [(side, act)]) act.after (next reply)
      | .error problem => own side (past ++ [(side, act)]) act.after (.raised problem)

/-- What one side knows does not depend on what the other does. -/
def StableUnderOther (answer : σ → ε → (op : Op) → Except Problem (Reply op) × σ)
    (own : Side → List (Move σ Op Reply Problem) → σ → Program Op Reply Problem α → Prop) :
    Prop :=
  ∀ side other past state choice op program, side ≠ other →
    own side past state program →
      own side (past ++ [(other, actOf answer state choice op)])
        (actOf answer state choice op).after program

/-- An operation of one program keeps what is shared and what it knows. -/
private theorem advance_keeps
    (keeps : KeepsOwn answer shared own guard) {side : Side}
    {past : List (Move σ Op Reply Problem)} {state : σ} {program : Program Op Reply Problem α}
    (holds : shared past state) (knows : own side past state program) (choice : ε) :
    let moved := advance answer program choice state
    (∀ act, moved.2.1 = some act → guard past (side, act)) →
      shared (past ++ (moved.2.1.map (Prod.mk side)).toList) moved.2.2 ∧
      own side (past ++ (moved.2.1.map (Prod.mk side)).toList) moved.2.2 moved.1 := by
  intro moved guarded
  rcases advance_cases answer program choice state with
    same | ⟨op, next, rfl, rest, shape, ends⟩
  · simp only [moved, same] at guarded ⊢
    simpa using ⟨holds, knows⟩
  · simp only [moved, shape] at guarded ⊢
    have after := keeps side past state choice op next holds knows (guarded _ rfl)
    rcases ends with ⟨problem, replied, rfl⟩ | ⟨reply, replied, rfl⟩ <;>
      simpa [replied] using after

private theorem guarded_append_iff
    {τ : Type} {guard : List τ → τ → Prop} {past early late : List τ} :
    Guarded guard past (early ++ late) ↔
      Guarded guard past early ∧ Guarded guard (past ++ early) late := by
  induction early generalizing past with
  | nil => simp [Guarded]
  | cons event early induction =>
      simp [Guarded, induction, and_assoc]

/-- The shared invariant and what both sides know after a part of a race. -/
structure Known (shared : List (Move σ Op Reply Problem) → σ → Prop)
    (own : Side → List (Move σ Op Reply Problem) → σ → Program Op Reply Problem α → Prop)
    (past : List (Move σ Op Reply Problem)) (race : Race σ Op Reply Problem α α) : Prop where
  shared : shared past race.state
  left : own .left past race.state race.left
  right : own .right past race.state race.right

private theorem step_keeps
    (keeps : KeepsOwn answer shared own guard) (stable : StableUnderOther answer own)
    {past : List (Move σ Op Reply Problem)} {race : Race σ Op Reply Problem α α}
    (known : Known shared own past race) (turn : Side × ε) :
    let moved := step answer race turn
    (∀ act, moved.1 = some act → guard past (turn.1, act)) →
      Known shared own (past ++ (moved.1.map (Prod.mk turn.1)).toList) moved.2 := by
  have others : ∀ {side other : Side} {program acting : Program Op Reply Problem α},
      side ≠ other → own side past race.state program →
        own side
          (past ++ ((advance answer acting turn.2 race.state).2.1.map (Prod.mk other)).toList)
          (advance answer acting turn.2 race.state).2.2 program := by
    intro side other program acting different knows
    rcases advance_cases answer acting turn.2 race.state with same | ⟨op, next, -, rest, shape, -⟩
    · simpa [same] using knows
    · simpa [shape] using stable side other past race.state turn.2 op program different knows
  obtain ⟨side, choice⟩ := turn
  cases side with
  | left =>
      intro moved guarded
      obtain ⟨holds, knows⟩ := advance_keeps keeps known.shared known.left choice guarded
      exact ⟨holds, knows, others (by simp) known.right⟩
  | right =>
      intro moved guarded
      obtain ⟨holds, knows⟩ := advance_keeps keeps known.shared known.right choice guarded
      exact ⟨holds, others (by simp) known.left, knows⟩

/-- The rule for two programs: what every guarded operation of a side keeps, and
what the other side does not disturb, is known after every guarded race. -/
theorem known_of_guarded
    (keeps : KeepsOwn answer shared own guard) (stable : StableUnderOther answer own)
    {past : List (Move σ Op Reply Problem)} {race : Race σ Op Reply Problem α α}
    (known : Known shared own past race) (schedule : List (Side × ε))
    (guarded : Guarded guard past (history (Machine.trace (step answer) race schedule))) :
    Known shared own (past ++ history (Machine.trace (step answer) race schedule))
      (Machine.final (step answer) race schedule) := by
  induction schedule generalizing past race with
  | nil => simpa [history, Machine.trace, Machine.final] using known
  | cons turn schedule induction =>
      have shape : history (Machine.trace (step answer) race (turn :: schedule)) =
          ((step answer race turn).1.map (Prod.mk turn.1)).toList ++
            history (Machine.trace (step answer) (step answer race turn).2 schedule) := by
        cases acted : (step answer race turn).1 <;>
          simp [history, Machine.trace, Machine.eventOf, acted]
      rw [shape] at guarded ⊢
      obtain ⟨first, later⟩ := guarded_append_iff.mp guarded
      have next := step_keeps keeps stable known turn (by
        intro act acted
        simpa [acted, Guarded] using first)
      rw [← List.append_assoc]
      exact induction next later

end Histories

end Interleaving
