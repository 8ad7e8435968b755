import SuperAdvisor.Foundation.SortedDistinct

/-!
# Sums over the gaps of a sorted list

Each two neighbours of a sorted list bound a gap with a weight.  A list that is
cut at a boundary loses the gap around it, unless an item stands there.
-/

namespace Gaps

/-- The weights of all gaps of a list. -/
def gapSum (weight : Int → Int → Nat) : List Int → Nat
  | [] => 0
  | [_] => 0
  | first :: second :: items => weight first second + gapSum weight (second :: items)

/-- Two items with none between them. -/
structure Neighbours (items : List Int) (first second : Int) : Prop where
  opens : first ∈ items
  closes : second ∈ items
  ordered : first < second
  apart : ∀ item ∈ items, item ≤ first ∨ second ≤ item

def within (startAt endAt : Int) (items : List Int) : List Int :=
  items.filter (fun item => startAt ≤ item ∧ item ≤ endAt)

/-- No gap with a weight lies around the boundary. -/
def LossFree (weight : Int → Int → Nat) (items : List Int) (boundary : Int) : Prop :=
  ∀ first second, Neighbours items first second →
    first < boundary → boundary < second → weight first second = 0

variable {weight : Int → Int → Nat} {items : List Int}

@[simp] theorem mem_within {startAt endAt item : Int} :
    item ∈ within startAt endAt items ↔ item ∈ items ∧ startAt ≤ item ∧ item ≤ endAt := by
  simp [within]

theorem within_pairwise
    (sorted : items.Pairwise (· < ·)) (startAt endAt : Int) :
    (within startAt endAt items).Pairwise (· < ·) :=
  sorted.filter _

theorem gapSum_of_constant
    (sorted : items.Pairwise (· < ·)) {value : Int} (constant : ∀ item ∈ items, item = value) :
    gapSum weight items = 0 := by
  match items with
  | [] => rfl
  | [_] => rfl
  | first :: second :: _ =>
      have ordered := (List.pairwise_cons.mp sorted).1 second (by simp)
      have firstValue := constant first (by simp)
      have secondValue := constant second (by simp)
      omega

/-- The neighbours of a longer list that do not begin with its head. -/
private theorem neighbours_cons_iff
    {head first second : Int} (sorted : (head :: items).Pairwise (· < ·)) (later : head < first) :
    Neighbours (head :: items) first second ↔ Neighbours items first second := by
  have above := (List.pairwise_cons.mp sorted).1
  constructor
  · intro neighbours
    refine ⟨?_, ?_, neighbours.ordered, fun item member =>
      neighbours.apart item (List.mem_cons_of_mem _ member)⟩
    · exact (List.mem_cons.mp neighbours.opens).resolve_left (by omega)
    · have ordered := neighbours.ordered
      exact (List.mem_cons.mp neighbours.closes).resolve_left (by omega)
  · intro neighbours
    refine ⟨List.mem_cons_of_mem _ neighbours.opens, List.mem_cons_of_mem _ neighbours.closes,
      neighbours.ordered, ?_⟩
    intro item member
    rcases List.mem_cons.mp member with rfl | inside
    · exact .inl (by omega)
    · exact neighbours.apart item inside

/-- Items on one side of a boundary have no gap around it. -/
private theorem lossFree_of_side
    {boundary : Int}
    (side : (∀ item ∈ items, boundary ≤ item) ∨ (∀ item ∈ items, item ≤ boundary)) :
    LossFree weight items boundary := by
  intro first second neighbours before after
  rcases side with above | below
  · have := above first neighbours.opens
    omega
  · have := below second neighbours.closes
    omega

/-- What a cut at a boundary loses. -/
theorem gapSum_cut (sorted : items.Pairwise (· < ·)) (boundary : Int) :
    ∃ lost, gapSum weight items =
        gapSum weight (items.filter (· ≤ boundary)) +
          gapSum weight (items.filter (boundary ≤ ·)) + lost ∧
      (lost = 0 ↔ LossFree weight items boundary) := by
  induction items with
  | nil => exact ⟨0, rfl, iff_of_true rfl (lossFree_of_side (.inl (by simp)))⟩
  | cons head items induction =>
      have above := (List.pairwise_cons.mp sorted).1
      have tailSorted := (List.pairwise_cons.mp sorted).2
      by_cases behind : boundary ≤ head
      · have upper : ∀ item ∈ head :: items, boundary ≤ item := by
          intro item member
          rcases List.mem_cons.mp member with rfl | later
          · exact behind
          · exact Int.le_of_lt (Int.lt_of_le_of_lt behind (above item later))
        have kept : (head :: items).filter (boundary ≤ ·) = head :: items :=
          List.filter_eq_self.mpr (fun item member => by simpa using upper item member)
        have low : gapSum weight ((head :: items).filter (· ≤ boundary)) = 0 := by
          refine @gapSum_of_constant weight _ (sorted.filter _) boundary (fun item member => ?_)
          obtain ⟨inside, below⟩ := List.mem_filter.mp member
          exact Int.le_antisymm (by simpa using below) (upper item inside)
        exact ⟨0, by rw [kept, low]; omega, iff_of_true rfl (lossFree_of_side (.inl upper))⟩
      · have before : head < boundary := Int.not_le.mp behind
        cases items with
        | nil =>
            refine ⟨0, ?_, iff_of_true rfl (lossFree_of_side (.inr ?_))⟩
            · simp [gapSum, Int.le_of_lt before, behind]
            · simp [Int.le_of_lt before]
        | cons next items =>
            obtain ⟨lost, split, free⟩ := induction tailSorted
            have lowHead : (head :: next :: items).filter (· ≤ boundary) =
                head :: (next :: items).filter (· ≤ boundary) := by
              rw [List.filter_cons_of_pos (by simpa using Int.le_of_lt before)]
            have highHead : (head :: next :: items).filter (boundary ≤ ·) =
                (next :: items).filter (boundary ≤ ·) := by
              rw [List.filter_cons_of_neg (by simpa using before)]
            rw [lowHead, highHead]
            by_cases reached : next ≤ boundary
            · -- the first gap lies before the boundary
              refine ⟨lost, ?_, free.trans ?_⟩
              · rw [List.filter_cons_of_pos (by simpa using reached)] at split ⊢
                simp only [gapSum] at split ⊢
                omega
              · constructor
                · intro tailFree first second neighbours early late
                  rcases List.mem_cons.mp neighbours.opens with rfl | later
                  · have := neighbours.apart next (by simp)
                    have := above next (by simp)
                    omega
                  · exact tailFree first second
                      ((neighbours_cons_iff sorted (above first later)).mp neighbours) early late
                · intro allFree first second neighbours
                  exact allFree first second
                    ((neighbours_cons_iff sorted (above first neighbours.opens)).mpr neighbours)
            · -- the first gap lies around the boundary
              have passed : boundary < next := Int.not_le.mp reached
              have upper : ∀ item ∈ next :: items, boundary < item := by
                intro item member
                rcases List.mem_cons.mp member with rfl | later
                · exact passed
                · exact Int.lt_trans passed ((List.pairwise_cons.mp tailSorted).1 item later)
              have low : (next :: items).filter (· ≤ boundary) = [] :=
                List.filter_eq_nil_iff.mpr (fun item member => by simpa using upper item member)
              have high : (next :: items).filter (boundary ≤ ·) = next :: items :=
                List.filter_eq_self.mpr
                  (fun item member => by simpa using Int.le_of_lt (upper item member))
              refine ⟨weight head next, by rw [low, high]; simp only [gapSum]; omega, ?_⟩
              have first : Neighbours (head :: next :: items) head next := by
                refine ⟨by simp, by simp, above next (by simp), fun item member => ?_⟩
                rcases List.mem_cons.mp member with rfl | later
                · exact .inl (Int.le_refl _)
                · rcases List.mem_cons.mp later with rfl | last
                  · exact .inr (Int.le_refl _)
                  · exact .inr (Int.le_of_lt ((List.pairwise_cons.mp tailSorted).1 item last))
              constructor
              · intro weightless opening closing neighbours early late
                have same : opening = head := by
                  rcases List.mem_cons.mp neighbours.opens with same | later
                  · exact same
                  · have := upper opening later
                    omega
                subst same
                have closes : closing = next := by
                  have := neighbours.apart next (by simp)
                  have := first.apart closing neighbours.closes
                  have := neighbours.ordered
                  omega
                rw [closes]
                exact weightless
              · intro free
                exact free head next first before passed

section Pieces

variable {width startAt endAt : Int} {total : Nat}

/-- The sums of the pieces of a range that is cut into windows of a width; two
neighbouring windows share their boundary. -/
inductive PieceSum (weight : Int → Int → Nat) (items : List Int) (width endAt : Int) :
    Int → Nat → Prop where
  | done : PieceSum weight items width endAt endAt 0
  | piece {startAt : Int} {rest : Nat} :
      startAt < endAt →
        PieceSum weight items width endAt (min endAt (startAt + width)) rest →
          PieceSum weight items width endAt startAt
            (gapSum weight (within startAt (min endAt (startAt + width)) items) + rest)

theorem PieceSum.le (pieces : PieceSum weight items width endAt startAt total) :
    startAt ≤ endAt := by
  cases pieces with
  | done => exact Int.le_refl _
  | piece unfinished _ => exact Int.le_of_lt unfinished

private theorem within_filter_le {middle : Int} (inside : middle ≤ endAt) :
    (within startAt endAt items).filter (· ≤ middle) = within startAt middle items := by
  rw [within, within, List.filter_filter]
  refine List.filter_congr (fun item _ => ?_)
  rw [← Bool.decide_and, decide_eq_decide]
  omega

private theorem within_filter_ge {middle : Int} (inside : startAt ≤ middle) :
    (within startAt endAt items).filter (middle ≤ ·) = within middle endAt items := by
  rw [within, within, List.filter_filter]
  refine List.filter_congr (fun item _ => ?_)
  rw [← Bool.decide_and, decide_eq_decide]
  omega

/-- The neighbours from a later start on are those of the range that begin there. -/
private theorem neighbours_within_iff
    {middle first second : Int} (later : startAt ≤ middle) (from_middle : middle ≤ first) :
    Neighbours (within middle endAt items) first second ↔
      Neighbours (within startAt endAt items) first second := by
  constructor
  · intro neighbours
    have opens := mem_within.mp neighbours.opens
    have closes := mem_within.mp neighbours.closes
    refine ⟨mem_within.mpr ⟨opens.1, by omega, opens.2.2⟩,
      mem_within.mpr ⟨closes.1, by omega, closes.2.2⟩, neighbours.ordered, ?_⟩
    intro item member
    obtain ⟨inside, -, bounded⟩ := mem_within.mp member
    by_cases reached : middle ≤ item
    · exact neighbours.apart item (mem_within.mpr ⟨inside, reached, bounded⟩)
    · exact .inl (by omega)
  · intro neighbours
    have opens := mem_within.mp neighbours.opens
    have closes := mem_within.mp neighbours.closes
    have ordered := neighbours.ordered
    refine ⟨mem_within.mpr ⟨opens.1, from_middle, opens.2.2⟩,
      mem_within.mpr ⟨closes.1, by omega, closes.2.2⟩, ordered, ?_⟩
    intro item member
    obtain ⟨inside, reached, bounded⟩ := mem_within.mp member
    exact neighbours.apart item (mem_within.mpr ⟨inside, by omega, bounded⟩)

/-- The boundaries from a start on are the next one and those from it on. -/
private theorem lossFree_pieces_iff
    (positive : 0 < width) :
    (∀ chunk : Nat, LossFree weight (within startAt endAt items) (startAt + chunk * width)) ↔
      (∀ chunk : Nat, LossFree weight
        (within (min endAt (startAt + width)) endAt items)
        (min endAt (startAt + width) + chunk * width)) ∧
      LossFree weight (within startAt endAt items) (min endAt (startAt + width)) := by
  have last : ∀ {boundary : Int}, endAt ≤ boundary →
      ∀ {start : Int}, LossFree weight (within start endAt items) boundary := by
    intro boundary late start
    refine lossFree_of_side (.inr (fun item member => ?_))
    have := (mem_within.mp member).2
    omega
  by_cases whole : endAt ≤ startAt + width
  · rw [Int.min_eq_left whole]
    constructor
    · intro _
      refine ⟨fun chunk => last ?_, last (Int.le_refl _)⟩
      have := Int.mul_nonneg (Int.natCast_nonneg chunk) (Int.le_of_lt positive)
      omega
    · rintro -
      intro chunk
      cases chunk with
      | zero =>
          refine lossFree_of_side (.inl (fun item member => ?_))
          have := (mem_within.mp member).2
          simpa using this.1
      | succ chunk =>
          refine last ?_
          have := Int.mul_nonneg (Int.natCast_nonneg chunk) (Int.le_of_lt positive)
          rw [Int.natCast_succ, Int.add_mul]
          omega
  · have inside : startAt + width < endAt := Int.not_le.mp whole
    have later : startAt ≤ startAt + width := by omega
    have boundary_succ : ∀ chunk : Nat,
        startAt + ((chunk + 1 : Nat) : Int) * width = startAt + width + chunk * width := by
      intro chunk
      rw [Int.natCast_succ, Int.add_mul]
      omega
    rw [Int.min_eq_right (Int.le_of_lt inside)]
    constructor
    · intro free
      constructor
      · intro chunk first second neighbours early late
        have opens := (mem_within.mp neighbours.opens).2.1
        have atBoundary := free (chunk + 1)
        rw [boundary_succ] at atBoundary
        exact atBoundary first second ((neighbours_within_iff later opens).mp neighbours) early late
      · have atBoundary := free 1
        simpa using atBoundary
    · rintro ⟨rest, here⟩ chunk
      cases chunk with
      | zero =>
          refine lossFree_of_side (.inl (fun item member => ?_))
          have := (mem_within.mp member).2
          simpa using this.1
      | succ chunk =>
          rw [boundary_succ]
          intro first second neighbours early late
          by_cases before : first < startAt + width
          · have := Int.mul_nonneg (Int.natCast_nonneg chunk) (Int.le_of_lt positive)
            exact here first second neighbours before (by omega)
          · have opens := Int.not_lt.mp before
            exact rest chunk first second ((neighbours_within_iff later opens).mpr neighbours)
              early late

/-- The pieces have the sum of the whole range if and only if no gap with a
weight lies around one of their boundaries. -/
theorem PieceSum.eq_iff
    (sorted : items.Pairwise (· < ·)) (positive : 0 < width)
    (pieces : PieceSum weight items width endAt startAt total) :
    total ≤ gapSum weight (within startAt endAt items) ∧
      (total = gapSum weight (within startAt endAt items) ↔
        ∀ chunk : Nat, LossFree weight (within startAt endAt items) (startAt + chunk * width)) := by
  induction pieces with
  | done =>
      have none : gapSum weight (within endAt endAt items) = 0 := by
        refine @gapSum_of_constant weight _ (within_pairwise sorted _ _) endAt (fun item member => ?_)
        have := (mem_within.mp member).2
        omega
      rw [none]
      refine ⟨Nat.le_refl _, iff_of_true rfl (fun chunk => lossFree_of_side (.inr ?_))⟩
      intro item member
      have := (mem_within.mp member).2
      have := Int.mul_nonneg (Int.natCast_nonneg chunk) (Int.le_of_lt positive)
      omega
  | @piece startAt rest unfinished pieces induction =>
      obtain ⟨bounded, complete⟩ := induction
      rw [lossFree_pieces_iff positive]
      generalize shape : min endAt (startAt + width) = middle at *
      obtain ⟨lost, split, free⟩ := @gapSum_cut weight _ (within_pairwise sorted startAt endAt) middle
      rw [within_filter_le (by omega), within_filter_ge (by omega)] at split
      refine ⟨by omega, ?_⟩
      have both : gapSum weight (within startAt middle items) + rest =
          gapSum weight (within startAt endAt items) ↔
            rest = gapSum weight (within middle endAt items) ∧ lost = 0 := by omega
      rw [both, complete, free]

end Pieces

end Gaps
