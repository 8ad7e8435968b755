import Mathlib.Data.List.Forall2

/-!
# Stateful computations that may raise

A computation that raises keeps the state it has reached; a handler goes on
from there.  `Ensures` gives such a computation a precondition and one
postcondition for each way to end, with a rule for every construct.
-/

namespace Raising

variable {ε σ α β : Type}

/-- From every state that satisfies `pre` the computation returns into
`returns` or raises into `raises`. -/
def Ensures (pre : σ → Prop) (program : EStateM ε σ α)
    (returns : α → σ → Prop) (raises : ε → σ → Prop) : Prop :=
  ∀ state, pre state →
    match program.run state with
    | .ok value after => returns value after
    | .error problem after => raises problem after

variable {pre : σ → Prop} {returns : α → σ → Prop} {raises : ε → σ → Prop}

theorem ensures_weaken
    {strong : σ → Prop} {returns' : α → σ → Prop} {raises' : ε → σ → Prop}
    {program : EStateM ε σ α} (ensures : Ensures pre program returns raises)
    (stronger : ∀ state, strong state → pre state)
    (returned : ∀ value state, returns value state → returns' value state)
    (raised : ∀ problem state, raises problem state → raises' problem state) :
    Ensures strong program returns' raises' := by
  intro state holds
  have known := ensures state (stronger state holds)
  cases ran : program.run state with
  | ok value after =>
      rw [ran] at known
      exact returned value after known
  | error problem after =>
      rw [ran] at known
      exact raised problem after known

theorem ensures_any (program : EStateM ε σ α) :
    Ensures pre program (fun _ _ => True) (fun _ _ => True) := by
  intro state _
  split <;> trivial

/-- What holds from every single state holds. -/
theorem ensures_of_state
    {program : EStateM ε σ α}
    (ensures : ∀ start, pre start → Ensures (fun state => state = start) program returns raises) :
    Ensures pre program returns raises :=
  fun state known => ensures state known state rfl

/-- From a single state, what a computation returns is what its run returns. -/
theorem ensures_ran
    {program : EStateM ε σ α} (ensures : Ensures pre program returns raises) {start : σ}
    (holds : pre start) :
    Ensures (fun state => state = start) program
      (fun value after => program.run start = .ok value after ∧ returns value after) raises := by
  rintro _ rfl
  have known := ensures _ holds
  split
  next ran =>
    rw [ran] at known
    exact ⟨ran, known⟩
  next ran =>
    rw [ran] at known
    exact known

theorem ensures_and
    {returns' : α → σ → Prop} {raises' : ε → σ → Prop} {program : EStateM ε σ α}
    (first : Ensures pre program returns raises)
    (second : Ensures pre program returns' raises') :
    Ensures pre program (fun value state => returns value state ∧ returns' value state)
      (fun problem state => raises problem state ∧ raises' problem state) := by
  intro state holds
  have known := first state holds
  have other := second state holds
  cases ran : program.run state with
  | ok value after =>
      rw [ran] at known other
      exact ⟨known, other⟩
  | error problem after =>
      rw [ran] at known other
      exact ⟨known, other⟩

theorem ensures_pure {value : α} (holds : ∀ state, pre state → returns value state) :
    Ensures pre (pure value : EStateM ε σ α) returns raises :=
  fun state known => holds state known

theorem ensures_throw
    {problem : ε} (holds : ∀ state, pre state → raises problem state) :
    Ensures pre (throw problem : EStateM ε σ α) returns raises :=
  fun state known => holds state known

theorem run_ofExcept (result : Except ε α) (state : σ) :
    (ofExcept result : EStateM ε σ α).run state =
      match result with
      | .ok value => .ok value state
      | .error problem => .error problem state := by
  cases result <;> rfl

theorem ensures_ofExcept
    {result : Except ε α}
    (returned : ∀ value state, result = .ok value → pre state → returns value state)
    (raised : ∀ problem state, result = .error problem → pre state → raises problem state) :
    Ensures pre (ofExcept result : EStateM ε σ α) returns raises := by
  cases result with
  | ok value => exact ensures_pure (fun state known => returned value state rfl known)
  | error problem => exact ensures_throw (fun state known => raised problem state rfl known)

/-- A precondition may be split into a fact and a property of the state. -/
theorem ensures_of_fact
    {fact : Prop} {program : EStateM ε σ α}
    (ensures : fact → Ensures pre program returns raises) :
    Ensures (fun state => fact ∧ pre state) program returns raises :=
  fun state holds => ensures holds.1 state holds.2

theorem ensures_of_known
    {fact : Prop} {program : EStateM ε σ α}
    (ensures : fact → Ensures (fun _ => True) program returns raises) :
    Ensures (fun _ => fact) program returns raises :=
  fun state known => ensures known state trivial

theorem ensures_of_exists
    {pre : β → σ → Prop} {program : EStateM ε σ α}
    (ensures : ∀ witness, Ensures (pre witness) program returns raises) :
    Ensures (fun state => ∃ witness, pre witness state) program returns raises :=
  fun state ⟨witness, holds⟩ => ensures witness state holds

theorem run_bind (program : EStateM ε σ α) (next : α → EStateM ε σ β) (state : σ) :
    (program >>= next).run state =
      match program.run state with
      | .ok value after => (next value).run after
      | .error problem after => .error problem after := rfl

theorem ensures_bind
    {middle : α → σ → Prop} {returns : β → σ → Prop} {program : EStateM ε σ α}
    {next : α → EStateM ε σ β} (first : Ensures pre program middle raises)
    (later : ∀ value, Ensures (middle value) (next value) returns raises) :
    Ensures pre (program >>= next) returns raises := by
  intro state holds
  have known := first state holds
  rw [run_bind]
  cases ran : program.run state with
  | ok value after =>
      rw [ran] at known
      exact later value after known
  | error problem after =>
      rw [ran] at known
      exact known

theorem ensures_get :
    Ensures pre (get : EStateM ε σ σ) (fun seen state => seen = state ∧ pre state) raises :=
  fun _ known => ⟨rfl, known⟩

theorem ensures_modify
    {change : σ → σ} {returns : PUnit → σ → Prop}
    (holds : ∀ state, pre state → returns ⟨⟩ (change state)) :
    Ensures pre (modify change : EStateM ε σ PUnit) returns raises :=
  fun state known => holds state known

theorem run_tryCatch
    (program : EStateM ε σ α) (handle : ε → EStateM ε σ α) (state : σ) :
    (tryCatch program handle : EStateM ε σ α).run state =
      match program.run state with
      | .ok value after => .ok value after
      | .error problem after => (handle problem).run after := by
  simp only [tryCatch, tryCatchThe, MonadExceptOf.tryCatch, EStateM.tryCatch, EStateM.run]
  cases program state <;> rfl

/-- A handler starts where the computation raised. -/
theorem ensures_tryCatch
    {middle : ε → σ → Prop} {program : EStateM ε σ α} {handle : ε → EStateM ε σ α}
    (first : Ensures pre program returns middle)
    (handled : ∀ problem, Ensures (middle problem) (handle problem) returns raises) :
    Ensures pre (tryCatch program handle) returns raises := by
  intro state holds
  have known := first state holds
  rw [run_tryCatch]
  cases ran : program.run state with
  | ok value after =>
      rw [ran] at known
      exact known
  | error problem after =>
      rw [ran] at known
      exact handled problem after known

/-- A loop that carries a value keeps what is indexed by the items it has gone
through. -/
theorem ensures_foldlM
    {items : List α} {step : β → α → EStateM ε σ β} (holds : List α → β → σ → Prop)
    {start : β}
    (each : ∀ early item late carried, items = early ++ item :: late →
      Ensures (holds early carried) (step carried item)
        (fun next => holds (early ++ [item]) next) raises) :
    Ensures (holds [] start) (items.foldlM step start) (fun last => holds items last) raises := by
  have general : ∀ late early carried, items = early ++ late →
      Ensures (holds early carried) (late.foldlM step carried)
        (fun last => holds items last) raises := by
    intro late
    induction late with
    | nil =>
        intro early carried shape
        obtain rfl : items = early := by simpa using shape
        exact ensures_pure (fun _ known => known)
    | cons item late induction =>
        intro early carried shape
        refine ensures_bind (each early item late carried shape) ?_
        intro next
        exact induction (early ++ [item]) next (by simpa using shape)
  exact general items [] start rfl

/-- A loop without a value. -/
theorem ensures_forM
    {items : List α} {body : α → EStateM ε σ PUnit} (holds : List α → σ → Prop)
    (each : ∀ early item late, items = early ++ item :: late →
      Ensures (holds early) (body item) (fun _ => holds (early ++ [item])) raises) :
    Ensures (holds []) (items.forM body) (fun _ => holds items) raises := by
  have general : ∀ late early, items = early ++ late →
      Ensures (holds early) (late.forM body) (fun _ => holds items) raises := by
    intro late
    induction late with
    | nil =>
        intro early shape
        obtain rfl : items = early := by simpa using shape
        exact ensures_pure (fun _ known => known)
    | cons item late induction =>
        intro early shape
        refine ensures_bind (each early item late shape) ?_
        intro _
        exact induction (early ++ [item]) (by simpa using shape)
  exact general items [] rfl

/-- A loop that collects results, and what it keeps of the items and their
results. -/
theorem ensures_mapM
    {items : List α} {convert : α → EStateM ε σ β} (holds : List α → List β → σ → Prop)
    (each : ∀ early item late results, items = early ++ item :: late →
      Ensures (holds early results) (convert item)
        (fun result => holds (early ++ [item]) (results ++ [result])) raises) :
    Ensures (holds [] []) (items.mapM convert) (fun results => holds items results)
      raises := by
  have general : ∀ late early results, items = early ++ late →
      Ensures (holds early results) (late.mapM convert)
        (fun others => holds items (results ++ others)) raises := by
    intro late
    induction late with
    | nil =>
        intro early results shape
        obtain rfl : items = early := by simpa using shape
        exact ensures_pure (fun _ known => by simpa using known)
    | cons item late induction =>
        intro early results shape
        rw [List.mapM_cons]
        refine ensures_bind (each early item late results shape) ?_
        intro result
        refine ensures_bind (induction (early ++ [item]) (results ++ [result])
          (by simpa using shape)) ?_
        intro others
        exact ensures_pure (fun _ known => by simpa using known)
  simpa using general items [] [] rfl

/-- A loop whose results fit their items. -/
theorem ensures_mapM_forall₂
    {items : List α} {convert : α → EStateM ε σ β} {fits : α → β → Prop}
    (each : ∀ item ∈ items, Ensures pre (convert item)
      (fun result state => fits item result ∧ pre state) raises) :
    Ensures pre (items.mapM convert)
      (fun results state => List.Forall₂ fits items results ∧ pre state) raises := by
  refine ensures_weaken
    (ensures_mapM (fun early results state => List.Forall₂ fits early results ∧ pre state) ?_)
    (fun _ known => ⟨.nil, known⟩) (fun _ _ known => known) (fun _ _ known => known)
  intro early item late results shape
  refine ensures_of_fact (fun fitted => ?_)
  refine ensures_weaken (each item (by simp [shape])) (fun _ known => known) ?_
    (fun _ _ known => known)
  intro result state known
  exact ⟨List.rel_append fitted (.cons known.1 .nil), known.2⟩

end Raising
