import Mathlib.Order.Lattice
import SuperAdvisor.Foundation.OrderedDict

/-!
# Cooldowns

A gate admits a request for a key once the expiry it has noted for that key has
passed, and then notes a new one.  If the ledger of the gate keeps the expiry of
the last admission under each key, admissions of one key are apart, and the gate
turns away no request that is apart from all earlier ones.
-/

namespace Cooldown

variable {κ Time : Type}

/-- An admitted request: when it was weighed, and when it was noted. -/
structure Admission (κ Time : Type) where
  key : κ
  asked : Time
  noted : Time

variable {expiry : Time → Time} {admissions : List (Admission κ Time)}

section Spacing

variable [LinearOrder Time]

/-- All admissions of the key have expired. -/
def Apart (expiry : Time → Time) (admissions : List (Admission κ Time)) (key : κ)
    (now : Time) : Prop :=
  ∀ earlier ∈ admissions, earlier.key = key → expiry earlier.noted ≤ now

/-- An admission is weighed when the earlier ones of its key have expired. -/
def Spaced (expiry : Time → Time) (admissions : List (Admission κ Time)) : Prop :=
  admissions.Pairwise (fun first second =>
    first.key = second.key → expiry first.noted ≤ second.asked)

theorem Spaced.concat
    (spaced : Spaced expiry admissions) {admission : Admission κ Time}
    (apart : Apart expiry admissions admission.key admission.asked) :
    Spaced expiry (admissions ++ [admission]) := by
  refine List.pairwise_append.mpr ⟨spaced, List.pairwise_singleton _ _, ?_⟩
  intro earlier member other here same
  obtain rfl := List.mem_singleton.mp here
  exact apart earlier member same

end Spacing

variable [DecidableEq κ] {ledger : List (κ × Time)}

/-- The ledger keeps the expiry of the last admission of every key. -/
def Tracks (expiry : Time → Time) (ledger : List (κ × Time))
    (admissions : List (Admission κ Time)) : Prop :=
  ∀ key, OrderedDict.get? ledger key =
    ((admissions.filter (fun admission => admission.key = key)).getLast?).map
      (fun admission => expiry admission.noted)

theorem tracks_nil : Tracks expiry ([] : List (κ × Time)) [] :=
  fun _ => rfl

/-- Noting an admission keeps the ledger right. -/
theorem Tracks.concat
    (tracks : Tracks expiry ledger admissions) (admission : Admission κ Time)
    {next : List (κ × Time)}
    (noted : ∀ key, OrderedDict.get? next key =
      OrderedDict.get? (OrderedDict.set ledger admission.key (expiry admission.noted)) key) :
    Tracks expiry next (admissions ++ [admission]) := by
  intro key
  rw [noted, List.filter_append]
  by_cases same : admission.key = key
  · subst same
    simp [OrderedDict.get?_set_self]
  · rw [OrderedDict.get?_set_of_ne _ _ (Ne.symm same)]
    simpa [same] using tracks key

variable [LinearOrder Time]

/-- No expiry of the key lies ahead. -/
def Free (ledger : List (κ × Time)) (key : κ) (now : Time) : Prop :=
  ∀ expiry, OrderedDict.get? ledger key = some expiry → expiry ≤ now

theorem Tracks.free
    (tracks : Tracks expiry ledger admissions) {key : κ} {now : Time}
    (apart : Apart expiry admissions key now) : Free ledger key now := by
  intro kept found
  rw [tracks key] at found
  obtain ⟨admission, last, rfl⟩ := Option.map_eq_some_iff.mp found
  have member := List.mem_filter.mp (List.mem_of_getLast? last)
  exact apart admission member.1 (by simpa using member.2)

/-- If the key is free, all its admissions have expired: the last one has, and
the others had when the last one was weighed. -/
theorem Tracks.apart
    (tracks : Tracks expiry ledger admissions) (spaced : Spaced expiry admissions)
    {key : κ} {now : Time} (passed : ∀ earlier ∈ admissions, earlier.asked ≤ now)
    (free : Free ledger key now) : Apart expiry admissions key now := by
  intro earlier member same
  have kept : earlier ∈ admissions.filter (fun admission => admission.key = key) :=
    List.mem_filter.mpr ⟨member, by simpa using same⟩
  obtain ⟨early, last, shape⟩ : ∃ early last,
      admissions.filter (fun admission => admission.key = key) = early ++ [last] := by
    simpa using (List.eq_nil_or_concat _).resolve_left (List.ne_nil_of_mem kept)
  have found : OrderedDict.get? ledger key = some (expiry last.noted) := by
    rw [tracks key, shape]
    simp
  rw [shape] at kept
  rcases List.mem_append.mp kept with before | here
  · have ordered : Spaced expiry (early ++ [last]) := shape ▸ List.Pairwise.filter _ spaced
    have lastIn : last ∈ admissions.filter (fun admission => admission.key = key) := by
      simp [shape]
    have lastKey : last.key = key := by simpa using (List.mem_filter.mp lastIn).2
    calc expiry earlier.noted
        ≤ last.asked :=
          (List.pairwise_append.mp ordered).2.2 earlier before last (by simp)
            (same.trans lastKey.symm)
      _ ≤ now := passed last (List.mem_filter.mp lastIn).1
  · obtain rfl := List.mem_singleton.mp here
    exact free _ found

end Cooldown
