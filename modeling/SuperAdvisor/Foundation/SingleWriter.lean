import Mathlib.Order.Basic

/-!
# Transactions of a single writer

A store has a committed state, which everybody reads, and at most one writer
with a state of its own, which becomes the committed one when the writer
commits.  Who is not the writer can only write while nobody is.

If every change keeps a property and adds to the state, then the committed state
and the state of the writer have the property, the committed state only grows,
and no member changes what another one holds.
-/

namespace SingleWriter

structure Store (τ σ : Type) where
  committed : σ
  writer : Option (τ × σ)

variable {τ σ : Type} [DecidableEq τ]

/-- The state of a member that is the writer. -/
def Store.own (store : Store τ σ) (member : τ) : Option σ :=
  store.writer.bind (fun held => if held.1 = member then some held.2 else none)

/-- What a member reads. -/
def Store.seen (store : Store τ σ) (member : τ) : σ :=
  (store.own member).getD store.committed

/-- Another member is the writer. -/
def Store.blocked (store : Store τ σ) (member : τ) : Bool :=
  store.writer.any (fun held => held.1 ≠ member)

/-- The member becomes the writer, and changes what it sees. -/
def Store.openWith (store : Store τ σ) (member : τ) (change : σ → σ) : Store τ σ :=
  { store with writer := some (member, change (store.seen member)) }

/-- The change is part of the transaction of the member, or one of its own. -/
def Store.write (store : Store τ σ) (member : τ) (change : σ → σ) : Store τ σ :=
  match store.own member with
  | some _ => store.openWith member change
  | none => { store with committed := change store.committed }

def Store.commit (store : Store τ σ) (member : τ) : Store τ σ :=
  match store.own member with
  | some state => { committed := state, writer := none }
  | none => store

def Store.rollback (store : Store τ σ) (member : τ) : Store τ σ :=
  match store.own member with
  | some _ => { store with writer := none }
  | none => store

variable {store : Store τ σ} {member other : τ}

theorem own_eq_some_iff {state : σ} :
    store.own member = some state ↔ store.writer = some (member, state) := by
  cases held : store.writer with
  | none => simp [Store.own, held]
  | some pair =>
      obtain ⟨holder, kept⟩ := pair
      by_cases same : holder = member
      · simp [Store.own, held, same]
      · simp [Store.own, held, same]

theorem own_eq_none_of_not_blocked
    (free : store.blocked member = false) (different : other ≠ member) :
    store.own other = none := by
  cases held : store.writer with
  | none => simp [Store.own, held]
  | some pair =>
      have same : pair.1 = member := by simpa [Store.blocked, held] using free
      simp [Store.own, held, same, different.symm]

theorem not_blocked_of_own {state : σ} (own : store.own member = some state) :
    store.blocked member = false := by
  simp [Store.blocked, own_eq_some_iff.mp own]

@[simp] theorem own_openWith (change : σ → σ) :
    (store.openWith member change).own member = some (change (store.seen member)) := by
  simp [Store.own, Store.openWith]

@[simp] theorem committed_openWith (change : σ → σ) :
    (store.openWith member change).committed = store.committed := rfl

theorem own_write_of_none (change : σ → σ) (nothing : store.own member = none) :
    store.write member change = { store with committed := change store.committed } := by
  simp [Store.write, nothing]

theorem own_write_of_some (change : σ → σ) {state : σ} (own : store.own member = some state) :
    store.write member change = store.openWith member change := by
  simp [Store.write, own]

@[simp] theorem own_write (change : σ → σ) :
    (store.write member change).own member = (store.own member).map change := by
  cases own : store.own member with
  | some state => simp [own_write_of_some change own, Store.seen, own]
  | none =>
      rw [own_write_of_none change own]
      exact own

@[simp] theorem seen_write (change : σ → σ) :
    (store.write member change).seen member = change (store.seen member) := by
  unfold Store.seen
  rw [own_write]
  cases own : store.own member with
  | some state => rfl
  | none =>
      rw [own_write_of_none change own]
      rfl

theorem commit_of_some {state : σ} (own : store.own member = some state) :
    store.commit member = { committed := state, writer := none } := by
  simp [Store.commit, own]

theorem rollback_of_some {state : σ} (own : store.own member = some state) :
    store.rollback member = { store with writer := none } := by
  simp [Store.rollback, own]

@[simp] theorem own_rollback : (store.rollback member).own member = none := by
  cases own : store.own member with
  | some state =>
      rw [rollback_of_some own]
      rfl
  | none => simp [Store.rollback, own]

section Invariants

variable [Preorder σ]

/-- The property holds of both states, and the writer has only added. -/
structure Sound (good : σ → Prop) (store : Store τ σ) : Prop where
  committed : good store.committed
  writer : ∀ holder state, store.writer = some (holder, state) →
    good state ∧ store.committed ≤ state

/-- What a turn of a member does to the store: nothing is lost, and another
member holds what it has held. -/
structure Follows (member : τ) (store next : Store τ σ) : Prop where
  grows : store.committed ≤ next.committed
  others : ∀ other, other ≠ member → next.own other = store.own other

theorem Follows.refl (member : τ) (store : Store τ σ) : Follows member store store :=
  ⟨le_refl _, fun _ _ => rfl⟩

variable {good : σ → Prop} {change : σ → σ}

theorem Sound.seen (sound : Sound good store) :
    good (store.seen member) ∧ store.committed ≤ store.seen member := by
  unfold Store.seen
  cases own : store.own member with
  | none => exact ⟨sound.committed, le_refl _⟩
  | some state => exact sound.writer member state (own_eq_some_iff.mp own)

theorem Sound.openWith
    (sound : Sound good store) (keeps : good (change (store.seen member)))
    (adds : store.seen member ≤ change (store.seen member)) :
    Sound good (store.openWith member change) := by
  refine ⟨sound.committed, ?_⟩
  intro holder state held
  obtain ⟨rfl, rfl⟩ := Prod.mk.inj (Option.some.inj held)
  exact ⟨keeps, le_trans sound.seen.2 adds⟩

theorem follows_openWith (free : store.blocked member = false) :
    Follows member store (store.openWith member change) := by
  refine ⟨le_refl _, fun other different => ?_⟩
  rw [own_eq_none_of_not_blocked free different]
  simp [Store.own, Store.openWith, different.symm]

theorem Sound.write
    (sound : Sound good store) (free : store.blocked member = false)
    (keeps : good (change (store.seen member)))
    (adds : store.seen member ≤ change (store.seen member)) :
    Sound good (store.write member change) := by
  cases own : store.own member with
  | some state =>
      rw [own_write_of_some change own]
      exact sound.openWith keeps adds
  | none =>
      have nobody : store.writer = none := by
        cases held : store.writer with
        | none => rfl
        | some pair =>
            have same : pair.1 = member := by simpa [Store.blocked, held] using free
            simp [Store.own, held, same] at own
      rw [own_write_of_none change own]
      refine ⟨by simpa [Store.seen, own] using keeps, ?_⟩
      intro holder state held
      simp [nobody] at held

theorem follows_write
    (free : store.blocked member = false)
    (adds : store.seen member ≤ change (store.seen member)) :
    Follows member store (store.write member change) := by
  cases own : store.own member with
  | some state =>
      rw [own_write_of_some change own]
      exact follows_openWith free
  | none =>
      rw [own_write_of_none change own]
      exact ⟨by simpa [Store.seen, own] using adds, fun _ _ => rfl⟩

theorem Sound.commit (sound : Sound good store) : Sound good (store.commit member) := by
  cases own : store.own member with
  | some state =>
      rw [commit_of_some own]
      exact ⟨(sound.writer member state (own_eq_some_iff.mp own)).1, by simp⟩
  | none => simpa [Store.commit, own] using sound

theorem Sound.follows_commit (sound : Sound good store) :
    Follows member store (store.commit member) := by
  cases own : store.own member with
  | some state =>
      rw [commit_of_some own]
      refine ⟨(sound.writer member state (own_eq_some_iff.mp own)).2, ?_⟩
      intro other different
      rw [own_eq_none_of_not_blocked (not_blocked_of_own own) different]
      rfl
  | none => simpa [Store.commit, own] using Follows.refl member store

theorem Sound.rollback (sound : Sound good store) : Sound good (store.rollback member) := by
  cases own : store.own member with
  | some state =>
      rw [rollback_of_some own]
      exact ⟨sound.committed, by simp⟩
  | none => simpa [Store.rollback, own] using sound

theorem follows_rollback : Follows member store (store.rollback member) := by
  cases own : store.own member with
  | some state =>
      rw [rollback_of_some own]
      refine ⟨le_refl _, fun other different => ?_⟩
      rw [own_eq_none_of_not_blocked (not_blocked_of_own own) different]
      rfl
  | none => simpa [Store.rollback, own] using Follows.refl member store

end Invariants

end SingleWriter
