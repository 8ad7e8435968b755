import Mathlib.Data.List.Sort

/-!
# Sorting by a key and dropping repeats

A stable sort by an integer key, and the loop that keeps the first item with
each id and counts the others.
-/

namespace Python

variable {α κ : Type}

/-- `sorted(items, key=key)` -/
def sortedBy (key : α → Int) (items : List α) : List α :=
  items.insertionSort (fun left right => key left ≤ key right)

theorem sortedBy_perm (key : α → Int) (items : List α) : (sortedBy key items).Perm items :=
  List.perm_insertionSort _ items

@[simp] theorem mem_sortedBy {key : α → Int} {items : List α} {item : α} :
    item ∈ sortedBy key items ↔ item ∈ items :=
  (sortedBy_perm key items).mem_iff

theorem sortedBy_pairwise (key : α → Int) (items : List α) :
    (sortedBy key items).Pairwise (fun left right => key left ≤ key right) := by
  have total : Std.Total (fun left right : α => key left ≤ key right) :=
    ⟨fun left right => Int.le_total (key left) (key right)⟩
  have transitive : IsTrans α (fun left right => key left ≤ key right) :=
    ⟨fun _ _ _ first second => Int.le_trans first second⟩
  exact List.pairwise_insertionSort _ items

variable [DecidableEq κ]

/-- The items whose id was not seen before, and the number of the others. -/
def dropRepeats (id : α → κ) (seen : List κ) : List α → List α × Nat
  | [] => ([], 0)
  | item :: items =>
      if id item ∈ seen then
        let rest := dropRepeats id seen items
        (rest.1, rest.2 + 1)
      else
        let rest := dropRepeats id (id item :: seen) items
        (item :: rest.1, rest.2)

variable {id : α → κ}

theorem dropRepeats_sublist (seen : List κ) (items : List α) :
    (dropRepeats id seen items).1.Sublist items := by
  induction items generalizing seen with
  | nil => exact List.Sublist.refl _
  | cons item items induction =>
      unfold dropRepeats
      split
      · exact (induction seen).cons item
      · exact (induction _).cons_cons item

/-- Every item has a kept one with its id, unless the id was seen before. -/
theorem exists_mem_dropRepeats
    {seen : List κ} {items : List α} {item : α} (member : item ∈ items)
    (unseen : id item ∉ seen) :
    ∃ kept ∈ (dropRepeats id seen items).1, id kept = id item := by
  induction items generalizing seen with
  | nil => cases member
  | cons head items induction =>
      unfold dropRepeats
      split
      next known =>
        rcases List.mem_cons.mp member with rfl | later
        · exact absurd known unseen
        · exact induction later unseen
      next fresh =>
        by_cases same : id head = id item
        · exact ⟨head, by simp, same⟩
        · rcases List.mem_cons.mp member with rfl | later
          · exact absurd rfl same
          · have stillUnseen : id item ∉ id head :: seen := by
              simpa [unseen] using Ne.symm same
            obtain ⟨kept, inside, equal⟩ := induction later stillUnseen
            exact ⟨kept, by simp [inside], equal⟩

/-- No kept item has an id seen before. -/
theorem not_mem_of_mem_dropRepeats
    {seen : List κ} {items : List α} {item : α}
    (member : item ∈ (dropRepeats id seen items).1) : id item ∉ seen := by
  induction items generalizing seen with
  | nil => cases member
  | cons head items induction =>
      unfold dropRepeats at member
      split at member
      next => exact induction member
      next fresh =>
        rcases List.mem_cons.mp member with rfl | later
        · exact fresh
        · exact fun known => induction later (List.mem_cons_of_mem _ known)

/-- The kept items have different ids. -/
theorem dropRepeats_pairwise (seen : List κ) (items : List α) :
    (dropRepeats id seen items).1.Pairwise (fun left right => id left ≠ id right) := by
  induction items generalizing seen with
  | nil => exact .nil
  | cons item items induction =>
      unfold dropRepeats
      split
      next => exact induction seen
      next fresh =>
        refine List.pairwise_cons.mpr ⟨?_, induction _⟩
        intro later member same
        exact not_mem_of_mem_dropRepeats member (by simp [same])

variable {key : α → Int} {items : List α}

/-- The items sorted by a key, without those that repeat an id. -/
def sortedDistinct (key : α → Int) (id : α → κ) (items : List α) : List α :=
  (dropRepeats id [] (sortedBy key items)).1

theorem mem_of_mem_sortedDistinct {item : α} (member : item ∈ sortedDistinct key id items) :
    item ∈ items :=
  mem_sortedBy.mp ((dropRepeats_sublist [] _).mem member)

theorem exists_mem_sortedDistinct
    (key : α → Int) (id : α → κ) {item : α} (member : item ∈ items) :
    ∃ kept ∈ sortedDistinct key id items, id kept = id item :=
  exists_mem_dropRepeats (mem_sortedBy.mpr member) List.not_mem_nil

theorem sortedDistinct_pairwise (key : α → Int) (id : α → κ) (items : List α) :
    (sortedDistinct key id items).Pairwise
      (fun left right => key left ≤ key right ∧ id left ≠ id right) :=
  ((sortedBy_pairwise key items).sublist (dropRepeats_sublist [] _)).and
    (dropRepeats_pairwise [] _)

/-- No item comes after the last one. -/
theorem key_le_last
    {item last : α} (member : item ∈ sortedDistinct key id items)
    (found : (sortedDistinct key id items).getLast? = some last) : key item ≤ key last := by
  obtain ⟨early, shape⟩ := List.getLast?_eq_some_iff.mp found
  have ordered := sortedDistinct_pairwise key id items
  rw [shape] at member ordered
  rcases List.mem_append.mp member with before | here
  · exact ((List.pairwise_append.mp ordered).2.2 item before last (by simp)).1
  · exact Int.le_of_eq (congrArg key (List.mem_singleton.mp here))

/-- Items with one key keep their order. -/
theorem filter_sortedBy (key : α → Int) (items : List α) (value : Int) :
    (sortedBy key items).filter (fun item => key item = value) =
      items.filter (fun item => key item = value) := by
  have constant : (items.filter (fun item => key item = value)).Pairwise
      (fun left right => key left ≤ key right) := by
    refine List.pairwise_of_forall_mem_list (fun left leftIn right rightIn => ?_)
    have leftKey := (List.mem_filter.mp leftIn).2
    have rightKey := (List.mem_filter.mp rightIn).2
    simp only [decide_eq_true_eq] at leftKey rightKey
    omega
  have total : Std.Total (fun left right : α => key left ≤ key right) :=
    ⟨fun left right => Int.le_total (key left) (key right)⟩
  have transitive : IsTrans α (fun left right => key left ≤ key right) :=
    ⟨fun _ _ _ first second => Int.le_trans first second⟩
  have kept := (List.sublist_insertionSort constant List.filter_sublist).filter
    (fun item => key item = value)
  rw [List.filter_filter] at kept
  simp only [Bool.and_self] at kept
  refine (kept.eq_of_length ?_).symm
  exact ((sortedBy_perm key items).filter _).length_eq.symm

theorem sortedBy_of_pairwise
    (ordered : items.Pairwise (fun left right => key left ≤ key right)) :
    sortedBy key items = items :=
  ordered.insertionSort_eq

theorem dropRepeats_of_pairwise
    {seen : List κ} (distinct : items.Pairwise (fun left right => id left ≠ id right))
    (unseen : ∀ item ∈ items, id item ∉ seen) : dropRepeats id seen items = (items, 0) := by
  induction items generalizing seen with
  | nil => rfl
  | cons item items induction =>
      obtain ⟨apart, rest⟩ := List.pairwise_cons.mp distinct
      unfold dropRepeats
      rw [if_neg (unseen item (by simp)), induction rest]
      intro other member
      have fresh := unseen other (List.mem_cons_of_mem _ member)
      simpa [fresh] using Ne.symm (apart other member)

theorem dropRepeats_length (seen : List κ) (items : List α) :
    (dropRepeats id seen items).1.length + (dropRepeats id seen items).2 = items.length := by
  induction items generalizing seen with
  | nil => rfl
  | cons item items induction =>
      unfold dropRepeats
      split
      · simp only [List.length_cons, ← induction seen]
        omega
      · simp only [List.length_cons, ← induction (id item :: seen)]
        omega

/-- A kept item is the first one with its id. -/
theorem find?_of_mem_dropRepeats
    {seen : List κ} {kept : α} (member : kept ∈ (dropRepeats id seen items).1) :
    items.find? (fun item => id item = id kept) = some kept := by
  induction items generalizing seen with
  | nil => cases member
  | cons head items induction =>
      unfold dropRepeats at member
      split at member
      next known =>
        have different : id head ≠ id kept := by
          intro same
          exact not_mem_of_mem_dropRepeats member (same ▸ known)
        simpa [different] using induction member
      next =>
        rcases List.mem_cons.mp member with rfl | later
        · simp
        · have different : id head ≠ id kept := by
            intro same
            exact not_mem_of_mem_dropRepeats later (by simp [same])
          simpa [different] using induction later

/-- A search among the items with a key finds what a search among all finds. -/
private theorem find?_filter_of_imp
    {wanted allowed : α → Bool} (within : ∀ item ∈ items, wanted item = true → allowed item = true) :
    (items.filter allowed).find? wanted = items.find? wanted := by
  induction items with
  | nil => rfl
  | cons head items induction =>
      have rest := induction (fun item member => within item (List.mem_cons_of_mem _ member))
      by_cases found : wanted head = true
      · simp [found, within head (by simp) found]
      · by_cases kept : allowed head = true <;> simp [found, kept, rest]

theorem find?_of_mem_sortedDistinct
    (sameKey : ∀ first ∈ items, ∀ second ∈ items, id first = id second → key first = key second)
    {kept : α} (member : kept ∈ sortedDistinct key id items) :
    items.find? (fun item => id item = id kept) = some kept := by
  have inside := mem_of_mem_sortedDistinct member
  have first := find?_of_mem_dropRepeats member
  have keyed : ∀ item ∈ items, decide (id item = id kept) = true →
      decide (key item = key kept) = true := by
    intro item here same
    simpa using sameKey item here kept inside (by simpa using same)
  rw [← find?_filter_of_imp keyed, ← filter_sortedBy, find?_filter_of_imp]
  · exact first
  · intro item here
    exact keyed item (mem_sortedBy.mp here)

theorem filter_sortedDistinct_sublist (key : α → Int) (id : α → κ) (items : List α) (value : Int) :
    ((sortedDistinct key id items).filter (fun item => key item = value)).Sublist items := by
  have kept := (@dropRepeats_sublist α κ _ id [] (sortedBy key items)).filter
    (fun item => key item = value)
  rw [filter_sortedBy] at kept
  exact kept.trans List.filter_sublist

theorem sortedDistinct_again (key : α → Int) (id : α → κ) (items : List α) :
    sortedDistinct key id (sortedDistinct key id items) = sortedDistinct key id items := by
  have known := sortedDistinct_pairwise key id items
  have ordered : sortedBy key (sortedDistinct key id items) = sortedDistinct key id items :=
    sortedBy_of_pairwise (known.imp (fun both => both.1))
  rw [sortedDistinct, ordered,
    dropRepeats_of_pairwise (known.imp (fun both => both.2)) (by simp)]

end Python
