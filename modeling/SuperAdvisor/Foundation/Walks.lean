import Mathlib.Data.List.Chain

/-!
# Walks in a graph

A walk is a list of moves along the edges of a graph, each starting where the
one before it has ended.  Where every vertex of a route can be reached from the
one before it only, a walk that ends at the last vertex has taken the route.
-/

namespace Walks

variable {α : Type} (edge : α → α → Prop)

/-- The moves lead from one vertex to another along the edges. -/
structure IsWalk (start : α) (moves : List (α × α)) (finish : α) : Prop where
  edges : ∀ move ∈ moves, edge move.1 move.2
  joined : moves.map Prod.fst ++ [finish] = start :: moves.map Prod.snd

variable {edge} {start finish : α} {moves : List (α × α)}

theorem isWalk_nil_iff : IsWalk edge start [] finish ↔ finish = start :=
  ⟨fun walk => by simpa using walk.joined, fun same => ⟨by simp, by simp [same]⟩⟩

theorem isWalk_concat_iff {move : α × α} :
    IsWalk edge start (moves ++ [move]) finish ↔
      IsWalk edge start moves move.1 ∧ edge move.1 move.2 ∧ move.2 = finish := by
  constructor
  · rintro ⟨edges, joined⟩
    have parts : moves.map Prod.fst ++ [move.1] = start :: moves.map Prod.snd ∧
        [finish] = [move.2] := by
      refine List.append_inj' ?_ rfl
      simpa using joined
    refine ⟨⟨fun other member => edges other (by simp [member]), parts.1⟩,
      edges move (by simp), ?_⟩
    exact (by simpa using parts.2 : finish = move.2).symm
  · rintro ⟨⟨edges, joined⟩, last, rfl⟩
    refine ⟨?_, by simpa using congrArg (fun visited => visited ++ [move.2]) joined⟩
    intro other member
    rcases List.mem_append.mp member with early | here
    · exact edges other early
    · exact (List.mem_singleton.mp here) ▸ last

/-- A vertex is forced before another one: no other edge leads there. -/
def Forced (edge : α → α → Prop) (before after : α) : Prop :=
  ∀ vertex, edge vertex after → vertex = before

theorem suffix_of_forced
    {route : List α} (forced : route.IsChain (Forced edge)) (away : start ∉ route)
    (walk : IsWalk edge start moves finish) (ends : route.getLast? = some finish) :
    route <:+ moves.map Prod.snd := by
  induction route using List.reverseRecOn generalizing moves finish with
  | nil => cases ends
  | append_singleton route vertex induction =>
      obtain rfl : vertex = finish := by simpa using ends
      cases moves using List.reverseRecOn with
      | nil =>
          have same : vertex = start := isWalk_nil_iff.mp walk
          exact absurd (by simp [same]) away
      | append_singleton moves move =>
          obtain ⟨before, last, rfl⟩ := isWalk_concat_iff.mp walk
          cases found : route.getLast? with
          | none =>
              have empty : route = [] := List.getLast?_eq_none_iff.mp found
              exact ⟨moves.map Prod.snd, by simp [empty]⟩
          | some previous =>
              have chained := List.isChain_append.mp forced
              have same : move.1 = previous :=
                chained.2.2 previous found move.2 (by simp) move.1 last
              obtain ⟨rest, shape⟩ := induction chained.1 (fun inside => away (by simp [inside]))
                (same ▸ before) found
              exact ⟨rest, by simp [← shape]⟩

end Walks
