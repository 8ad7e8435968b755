import Mathlib.Data.List.Induction

/-!
# Runs of a deterministic machine

A machine answers a call and moves to its next state.  A run is a list of
calls; its trace records the states around every call.  An invariant that
every call preserves holds in every state of a run, also when it speaks of the
history, and also when the calls preserve it only under a guard that the whole
run meets.
-/

namespace Machine

variable {σ γ ρ : Type}

/-- One call of a run, its reply and the states around it. -/
structure Event (σ γ ρ : Type) where
  before : σ
  call : γ
  reply : ρ
  after : σ

variable (step : σ → γ → ρ × σ)

def eventOf (state : σ) (call : γ) : Event σ γ ρ :=
  { before := state
    call := call
    reply := (step state call).1
    after := (step state call).2 }

def final (start : σ) : List γ → σ
  | [] => start
  | call :: calls => final (step start call).2 calls

def trace (start : σ) : List γ → List (Event σ γ ρ)
  | [] => []
  | call :: calls => eventOf step start call :: trace (step start call).2 calls

theorem final_append (start : σ) (early later : List γ) :
    final step start (early ++ later) = final step (final step start early) later := by
  induction early generalizing start with
  | nil => rfl
  | cons call early induction => exact induction (step start call).2

theorem trace_append (start : σ) (early later : List γ) :
    trace step start (early ++ later) =
      trace step start early ++ trace step (final step start early) later := by
  induction early generalizing start with
  | nil => rfl
  | cons call early induction =>
      simp only [List.cons_append, trace, final, induction]

theorem calls_trace (start : σ) (calls : List γ) :
    (trace step start calls).map Event.call = calls := by
  induction calls generalizing start with
  | nil => rfl
  | cons call calls induction => simp [trace, eventOf, induction]

/-- An event of a run is the answer to one of its calls. -/
theorem mem_trace_iff {start : σ} {calls : List γ} {event : Event σ γ ρ} :
    event ∈ trace step start calls ↔
      ∃ early call later, calls = early ++ call :: later ∧
        event = eventOf step (final step start early) call := by
  induction calls generalizing start with
  | nil => simp [trace]
  | cons first calls induction =>
      constructor
      · intro member
        rcases List.mem_cons.mp member with same | later
        · exact ⟨[], first, calls, rfl, same⟩
        · obtain ⟨early, call, rest, shape, same⟩ := induction.mp later
          exact ⟨first :: early, call, rest, by simp [shape], same⟩
      · rintro ⟨early, call, rest, shape, same⟩
        cases early with
        | nil =>
            obtain ⟨rfl, rfl⟩ : first = call ∧ calls = rest := by simpa using shape
            exact List.mem_cons.mpr (.inl same)
        | cons head early =>
            obtain ⟨rfl, rfl⟩ : first = head ∧ calls = early ++ call :: rest := by
              simpa using shape
            exact List.mem_cons.mpr
              (.inr (induction.mpr ⟨early, call, rest, rfl, same⟩))

/-- A split of a trace is a split of its calls. -/
theorem trace_eq_append
    {start : σ} {calls : List γ} {early late : List (Event σ γ ρ)}
    (shape : trace step start calls = early ++ late) :
    ∃ first second, calls = first ++ second ∧ trace step start first = early ∧
      trace step (final step start first) second = late := by
  induction early generalizing start calls with
  | nil => exact ⟨[], calls, rfl, rfl, shape⟩
  | cons event early induction =>
      cases calls with
      | nil => cases shape
      | cons call calls =>
          obtain ⟨same, rest⟩ := List.cons.inj shape
          obtain ⟨first, second, split, earlyTrace, lateTrace⟩ := induction rest
          refine ⟨call :: first, second, by simp [split], ?_, lateTrace⟩
          simp only [trace, same, earlyTrace]

/-- An event of a run, where it starts from and the run since. -/
theorem exists_since
    {start : σ} {calls : List γ} {early since : List (Event σ γ ρ)} {event : Event σ γ ρ}
    (shape : trace step start calls = early ++ event :: since) :
    ∃ state call rest, event = eventOf step state call ∧
      since = trace step (step state call).2 rest ∧
      final step start calls = final step (step state call).2 rest := by
  obtain ⟨earlier, later, rfl, -, tail⟩ := trace_eq_append step shape
  cases later with
  | nil => cases tail
  | cons call later =>
      obtain ⟨rfl, rfl⟩ := List.cons.inj tail
      exact ⟨_, call, later, rfl, rfl, final_append step start earlier (call :: later)⟩

/-- The event behind a part of a run answers in the state the part leads to. -/
theorem exists_next
    {start : σ} {calls : List γ} {early late : List (Event σ γ ρ)} {event : Event σ γ ρ}
    (shape : trace step start calls = early ++ event :: late) :
    ∃ earlier call, trace step start earlier = early ∧
      event = eventOf step (final step start earlier) call := by
  obtain ⟨earlier, later, -, same, tail⟩ := trace_eq_append step shape
  cases later with
  | nil => cases tail
  | cons call later =>
      obtain ⟨rfl, -⟩ := List.cons.inj tail
      exact ⟨earlier, call, same, rfl⟩

/-- The rule for invariants that speak of the history of the run and that
only calls preserve that are guarded where they are made. -/
theorem trace_invariant_of_events
    (holds : List (Event σ γ ρ) → σ → Prop) (guard : Event σ γ ρ → Prop)
    (preserved : ∀ past state call, guard (eventOf step state call) → holds past state →
      holds (past ++ [eventOf step state call]) (step state call).2)
    {past : List (Event σ γ ρ)} {start : σ} (initial : holds past start)
    (calls : List γ) (guarded : ∀ event ∈ trace step start calls, guard event) :
    holds (past ++ trace step start calls) (final step start calls) := by
  induction calls generalizing past start with
  | nil => simpa [trace, final] using initial
  | cons call calls induction =>
      have first := preserved past start call (guarded _ List.mem_cons_self) initial
      have later := induction first
        (fun other member => guarded other (List.mem_cons_of_mem _ member))
      simpa [trace, final] using later

/-- The rule for invariants that speak of the history of the run and that
only guarded calls preserve. -/
theorem trace_invariant_of_guard
    (holds : List (Event σ γ ρ) → σ → Prop) (guard : γ → Prop)
    (preserved : ∀ past state call, guard call → holds past state →
      holds (past ++ [eventOf step state call]) (step state call).2)
    {past : List (Event σ γ ρ)} {start : σ} (initial : holds past start)
    (calls : List γ) (guarded : ∀ call ∈ calls, guard call) :
    holds (past ++ trace step start calls) (final step start calls) := by
  refine trace_invariant_of_events step holds (fun event => guard event.call)
    (fun past state call met known => preserved past state call met known) initial calls ?_
  intro event member
  obtain ⟨early, call, later, rfl, rfl⟩ := (mem_trace_iff step).mp member
  exact guarded call (by simp)

/-- The rule for invariants that speak of the history of the run. -/
theorem trace_invariant
    (holds : List (Event σ γ ρ) → σ → Prop)
    (preserved : ∀ past state call, holds past state →
      holds (past ++ [eventOf step state call]) (step state call).2)
    {past : List (Event σ γ ρ)} {start : σ} (initial : holds past start)
    (calls : List γ) :
    holds (past ++ trace step start calls) (final step start calls) :=
  trace_invariant_of_guard step holds (fun _ => True)
    (fun past state call _ => preserved past state call) initial calls (fun _ _ => trivial)

/-- Two machines that stay related under every call give the same replies. -/
theorem replies_eq_of_simulation {τ : Type} {step : σ → γ → ρ × σ} {other : τ → γ → ρ × τ}
    (related : σ → τ → Prop)
    (simulates : ∀ state image call, related state image →
      (step state call).1 = (other image call).1 ∧
        related (step state call).2 (other image call).2)
    {start : σ} {image : τ} (initial : related start image) (calls : List γ) :
    (trace step start calls).map Event.reply = (trace other image calls).map Event.reply := by
  induction calls generalizing start image with
  | nil => rfl
  | cons call calls induction =>
      obtain ⟨reply, later⟩ := simulates start image call initial
      simp only [trace, List.map_cons, eventOf, reply, induction later]

/-- A property that a call preserves exactly under a condition holds after every
part of a run exactly if every call meets the condition. -/
theorem holds_iff_meets
    (holds : List (Event σ γ ρ) → σ → Prop) (meets : List (Event σ γ ρ) → σ → γ → Prop)
    (preserved : ∀ past state call, holds past state →
      (holds (past ++ [eventOf step state call]) (step state call).2 ↔ meets past state call))
    {start : σ} (initial : holds [] start) (calls : List γ) :
    (∀ early late, calls = early ++ late →
      holds (trace step start early) (final step start early)) ↔
    (∀ early call late, calls = early ++ call :: late →
      meets (trace step start early) (final step start early) call) := by
  have extended : ∀ early call, trace step start (early ++ [call]) =
      trace step start early ++ [eventOf step (final step start early) call] ∧
      final step start (early ++ [call]) = (step (final step start early) call).2 :=
    fun early call => ⟨trace_append step start early [call], final_append step start early [call]⟩
  constructor
  · intro everywhere early call late shape
    have next := everywhere (early ++ [call]) late (by simp [shape])
    rw [(extended early call).1, (extended early call).2] at next
    exact (preserved _ _ _ (everywhere early (call :: late) shape)).mp next
  · intro met early
    induction early using List.reverseRecOn with
    | nil => exact fun _ _ => initial
    | append_singleton early call induction =>
        intro late shape
        have split : calls = early ++ call :: late := by simp [shape]
        rw [(extended early call).1, (extended early call).2]
        exact (preserved _ _ _ (induction (call :: late) split)).mpr (met early call late split)

/-- Two properties of the events of a run that agree where the history is known,
if one of them keeps the history known. -/
theorem events_iff
    (knows : List (Event σ γ ρ) → σ → Prop) (good fine : List (Event σ γ ρ) → Event σ γ ρ → Prop)
    (agree : ∀ past state call, knows past state →
      (good past (eventOf step state call) ↔ fine past (eventOf step state call)))
    (next : ∀ past state call, knows past state → good past (eventOf step state call) →
      knows (past ++ [eventOf step state call]) (step state call).2)
    {past : List (Event σ γ ρ)} {start : σ} (initial : knows past start) (calls : List γ) :
    (∀ early event late, trace step start calls = early ++ event :: late →
      good (past ++ early) event) ↔
    (∀ early event late, trace step start calls = early ++ event :: late →
      fine (past ++ early) event) := by
  induction calls generalizing past start with
  | nil =>
      refine iff_of_true ?_ ?_ <;> intro early event late shape <;> cases early <;> cases shape
  | cons call calls induction =>
      have split : ∀ property : List (Event σ γ ρ) → Event σ γ ρ → Prop,
          (∀ early event late, trace step start (call :: calls) = early ++ event :: late →
            property (past ++ early) event) ↔
          property past (eventOf step start call) ∧
            ∀ early event late, trace step (step start call).2 calls = early ++ event :: late →
              property (past ++ [eventOf step start call] ++ early) event := by
        intro property
        constructor
        · intro everywhere
          refine ⟨by simpa using everywhere [] _ _ rfl, ?_⟩
          intro early event late shape
          simpa using everywhere (eventOf step start call :: early) event late
            (by simp [trace, shape])
        · rintro ⟨first, later⟩ early event late shape
          cases early with
          | nil =>
              obtain ⟨rfl, -⟩ := List.cons.inj shape
              simpa using first
          | cons head early =>
              obtain ⟨rfl, rest⟩ := List.cons.inj shape
              simpa using later early event late rest
      rw [split good, split fine, ← agree past start call initial]
      constructor
      · rintro ⟨first, later⟩
        exact ⟨first, (induction (next past start call initial first)).mp later⟩
      · rintro ⟨first, later⟩
        exact ⟨first, (induction (next past start call initial first)).mpr later⟩

/-- The rule for guarded runs: an invariant that every guarded call preserves
holds at the end, and what it grants about a guarded call holds of every
event. -/
theorem run_of_guard
    (holds : σ → Prop) (guard good : Event σ γ ρ → Prop)
    (preserved : ∀ state call, holds state → guard (eventOf step state call) →
      holds (step state call).2 ∧ good (eventOf step state call))
    {start : σ} (initial : holds start) (calls : List γ)
    (guarded : ∀ event ∈ trace step start calls, guard event) :
    holds (final step start calls) ∧ ∀ event ∈ trace step start calls, good event := by
  induction calls generalizing start with
  | nil => exact ⟨initial, by simp [trace]⟩
  | cons call calls induction =>
      have first : guard (eventOf step start call) := guarded _ (by simp [trace])
      obtain ⟨next, firstGood⟩ := preserved start call initial first
      obtain ⟨last, laterGood⟩ :=
        induction next (fun event member => guarded event (by simp [trace, member]))
      refine ⟨last, ?_⟩
      intro event member
      rcases List.mem_cons.mp member with rfl | later
      · exact firstGood
      · exact laterGood event later

end Machine
