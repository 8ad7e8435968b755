import Mathlib.Logic.Function.Basic

/-!
# Threads as stacks of frames

Every thread is a stack of frames of which only the innermost moves: it is
replaced by the frames it leaves behind, and a thread that is interrupted gets a
frame on top.  A kind of frame that is entered under mutual exclusion stands in
at most one place on all stacks.
-/

namespace Stacks

variable {τ φ : Type}

/-- No frame of the kind. -/
def Clear (kind : φ → Prop) (frames : List φ) : Prop :=
  ∀ frame ∈ frames, ¬ kind frame

/-- No frame of the kind on any stack. -/
def Nowhere (kind : φ → Prop) (threads : τ → List φ) : Prop :=
  ∀ thread, Clear kind (threads thread)

/-- A frame of the kind stands on one stack, and there is no other. -/
structure Only (kind : φ → Prop) (threads : τ → List φ) (thread : τ)
    (above : List φ) (frame : φ) (below : List φ) : Prop where
  shape : threads thread = above ++ frame :: below
  isKind : kind frame
  clearAbove : Clear kind above
  clearBelow : Clear kind below
  elsewhere : ∀ other, other ≠ thread → Clear kind (threads other)

variable {kind : φ → Prop} {threads : τ → List φ} {thread other : τ}
  {above below old new rest : List φ} {frame inner : φ}

@[simp] theorem clear_nil : Clear kind [] := by
  simp [Clear]

@[simp] theorem clear_cons : Clear kind (frame :: rest) ↔ ¬ kind frame ∧ Clear kind rest := by
  simp [Clear]

@[simp] theorem clear_append : Clear kind (new ++ rest) ↔ Clear kind new ∧ Clear kind rest := by
  simp only [Clear, List.mem_append, or_imp, forall_and]

/-- Innermost frames of no kind stand above the one of the kind. -/
theorem Only.split (only : Only kind threads thread above frame below)
    (shape : threads thread = old ++ rest) (clear : Clear kind old) :
    ∃ between, above = old ++ between ∧ rest = between ++ frame :: below := by
  have joined := only.shape.symm.trans shape
  rcases List.append_eq_append_iff.mp joined with ⟨between, first, second⟩ | ⟨between, first, second⟩
  · cases between with
    | nil => exact ⟨[], by simpa using first.symm, by simpa using second.symm⟩
    | cons inner between =>
        obtain ⟨rfl, -⟩ := List.cons.inj second
        have member : frame ∈ old := by simp [first]
        exact absurd only.isKind (clear frame member)
  · exact ⟨between, first, second⟩

theorem Only.mem (only : Only kind threads thread above frame below) :
    frame ∈ threads thread := by
  simp [only.shape]

theorem Only.eq_of_not_clear (only : Only kind threads thread above frame below)
    (found : ¬ Clear kind (threads other)) : other = thread := by
  by_contra different
  exact found (only.elsewhere other different)

/-- An innermost frame of the kind is the one there is. -/
theorem Only.innermost (only : Only kind threads thread above frame below)
    (shape : threads other = inner :: rest) (isKind : kind inner) :
    other = thread ∧ above = [] ∧ inner = frame ∧ rest = below := by
  have found : ¬ Clear kind (threads other) := by
    simp [shape, isKind]
  have same := only.eq_of_not_clear found
  subst same
  have joined := only.shape.symm.trans shape
  cases above with
  | nil =>
      obtain ⟨rfl, rfl⟩ := List.cons.inj joined
      exact ⟨rfl, rfl, rfl, rfl⟩
  | cons first between =>
      obtain ⟨rfl, -⟩ := List.cons.inj joined
      exact absurd isKind (clear_cons.mp only.clearAbove).1

variable [DecidableEq τ]

/-- Frames of no kind in place of the innermost ones. -/
theorem Nowhere.update (none : Nowhere kind threads) (clear : Clear kind new) :
    Nowhere kind (Function.update threads thread new) := by
  intro other
  by_cases same : other = thread
  · subst same
    simpa using clear
  · simpa [same] using none other

/-- The first frame of the kind is entered. -/
theorem Nowhere.enter (none : Nowhere kind threads) (isKind : kind frame)
    (clear : Clear kind rest) :
    Only kind (Function.update threads thread (frame :: rest)) thread [] frame rest where
  shape := by simp
  isKind := isKind
  clearAbove := clear_nil
  clearBelow := clear
  elsewhere := by
    intro other different
    simpa [different] using none other

/-- The frame of the kind is left. -/
theorem Only.leave (only : Only kind threads thread above frame below)
    (clear : Clear kind new) : Nowhere kind (Function.update threads thread new) := by
  intro other
  by_cases same : other = thread
  · subst same
    simpa using clear
  · simpa [same] using only.elsewhere other same

/-- The frame of the kind is replaced by another one. -/
theorem Only.replace (only : Only kind threads thread above frame below)
    (isKind : kind inner) (clear : Clear kind new) :
    Only kind (Function.update threads thread (new ++ inner :: below)) thread new inner below where
  shape := by simp
  isKind := isKind
  clearAbove := clear
  clearBelow := only.clearBelow
  elsewhere := by
    intro other different
    simpa [different] using only.elsewhere other different

/-- Frames of no kind are replaced by frames of no kind, on any stack. -/
theorem Only.swap (only : Only kind threads thread above frame below)
    (shape : threads other = old ++ rest) (clearOld : Clear kind old) (clearNew : Clear kind new) :
    (other ≠ thread ∧
        Only kind (Function.update threads other (new ++ rest)) thread above frame below) ∨
      (other = thread ∧ ∃ between, above = old ++ between ∧
        Only kind (Function.update threads other (new ++ rest)) thread (new ++ between)
          frame below) := by
  by_cases same : other = thread
  · subst same
    obtain ⟨between, rfl, rfl⟩ := only.split shape clearOld
    have clear := (clear_append.mp only.clearAbove).2
    refine .inr ⟨rfl, between, rfl, ?_⟩
    rw [← List.append_assoc]
    exact only.replace only.isKind (clear_append.mpr ⟨clearNew, clear⟩)
  · refine .inl ⟨same, ?_, only.isKind, only.clearAbove, only.clearBelow, ?_⟩
    · simpa [Ne.symm same] using only.shape
    · intro third apart
      by_cases moved : third = other
      · subst moved
        have clear := only.elsewhere third same
        rw [shape, clear_append] at clear
        simpa using ⟨clearNew, clear.2⟩
      · simpa [moved] using only.elsewhere third apart

/-- The same where there is no frame of the kind. -/
theorem Nowhere.swap (none : Nowhere kind threads) (shape : threads other = old ++ rest)
    (clearNew : Clear kind new) : Nowhere kind (Function.update threads other (new ++ rest)) := by
  have clear := none other
  rw [shape, clear_append] at clear
  exact none.update (clear_append.mpr ⟨clearNew, clear.2⟩)

end Stacks
