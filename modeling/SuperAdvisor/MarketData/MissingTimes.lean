import Mathlib.Data.Set.Card
import SuperAdvisor.MarketData.MissingBars

/-!
# Missing times

The bars of one timeframe open at times of a grid.  The incidents of missing
bars count every weekday time of the grid at which no bar opens once: the sum
over the pairs of neighbours is the number of such times in the whole range.
-/

namespace SuperAdvisor.MarketData

open Gaps Python

/-- The loop over the candidates before a limit, and what it counts. -/
inductive WeekdayLoop (gap limit : Int) : Int → Nat → Prop where
  | done {candidate : Int} : limit ≤ candidate → WeekdayLoop gap limit candidate 0
  | round {candidate : Int} {missing : Nat} :
      candidate < limit → WeekdayLoop gap limit (candidate + gap) missing →
        WeekdayLoop gap limit candidate ((if weekday candidate < 5 then 1 else 0) + missing)

/-- The loop ends when the step is positive: the fuel is no bound. -/
theorem weekdayLoop_countWeekdays
    {gap limit : Int} (positive : 0 < gap) (fuel : Nat) (candidate : Int)
    (enough : (limit - candidate).toNat ≤ fuel) :
    WeekdayLoop gap limit candidate (countWeekdays gap limit fuel candidate) := by
  induction fuel generalizing candidate with
  | zero =>
      apply WeekdayLoop.done
      omega
  | succ fuel induction =>
      unfold countWeekdays
      split
      next inside => exact .round inside (induction _ (by omega))
      next outside => exact .done (Int.not_lt.mp outside)

/-- A weekday time strictly between the first and the last open, on the grid of
the timeframe, at which no bar opens. -/
def MissingTime (timeframe : Timeframe) (records : List BarRecord) (moment : Int) : Prop :=
  ∃ first ∈ records.head?, ∃ last ∈ records.getLast?,
    first.openTimeUtc < moment ∧ moment < last.openTimeUtc ∧
      timeframeDelta timeframe ∣ moment - first.openTimeUtc ∧ weekday moment < 5 ∧
        ∀ record ∈ records, record.openTimeUtc ≠ moment

section Times

variable {gap : Int}

/-- The times at some distance after a start. -/
def timesAfter (start : Int) : Nat ↪ Int where
  toFun distance := start + distance
  inj' _ _ same := Int.ofNat_inj.mp (Int.add_left_cancel same)

@[simp] theorem timesAfter_apply (start : Int) (distance : Nat) :
    timesAfter start distance = start + distance := rfl

/-- The weekday times of a grid from its start on. -/
def gridTimes (gap start limit : Int) : Finset Int :=
  ((Finset.range (limit - start).toNat).map (timesAfter start)).filter
    (fun time => gap ∣ time - start ∧ weekday time < 5)

theorem mem_gridTimes {start limit time : Int} :
    time ∈ gridTimes gap start limit ↔
      (start ≤ time ∧ time < limit) ∧ gap ∣ time - start ∧ weekday time < 5 := by
  have inside : time ∈ (Finset.range (limit - start).toNat).map (timesAfter start) ↔
      start ≤ time ∧ time < limit := by
    rw [Finset.mem_map]
    constructor
    · rintro ⟨distance, short, rfl⟩
      have := Finset.mem_range.mp short
      rw [timesAfter_apply]
      omega
    · rintro ⟨after, before⟩
      refine ⟨(time - start).toNat, Finset.mem_range.mpr (by omega), ?_⟩
      rw [timesAfter_apply]
      omega
  rw [gridTimes, Finset.mem_filter, inside]

/-- The next time of a grid. -/
private theorem later_of_dvd
    {start time : Int} (divides : gap ∣ time - start) (later : start < time) :
    start + gap ≤ time := by
  have := Int.le_of_dvd (by omega) divides
  omega

private theorem dvd_sub_step {start time : Int} :
    gap ∣ time - (start + gap) ↔ gap ∣ time - start := by
  have split : time - start = time - (start + gap) + gap := by omega
  rw [split, Int.dvd_add_left (Int.dvd_refl gap)]

private theorem mem_gridTimes_step
    {start limit time : Int} (positive : 0 < gap) (inside : start < limit) :
    time ∈ gridTimes gap start limit ↔
      time = start ∧ weekday start < 5 ∨ time ∈ gridTimes gap (start + gap) limit := by
  rw [mem_gridTimes, mem_gridTimes, dvd_sub_step]
  constructor
  · rintro ⟨⟨from_start, before⟩, divides, onWeekday⟩
    by_cases same : time = start
    · exact .inl ⟨same, same ▸ onWeekday⟩
    · exact .inr ⟨⟨later_of_dvd divides (by omega), before⟩, divides, onWeekday⟩
  · rintro (⟨rfl, onWeekday⟩ | ⟨⟨from_next, before⟩, divides, onWeekday⟩)
    · exact ⟨⟨Int.le_refl _, inside⟩, by simp, onWeekday⟩
    · exact ⟨⟨by omega, before⟩, divides, onWeekday⟩

theorem countWeekdays_eq_card
    {limit : Int} (positive : 0 < gap) (fuel : Nat) (candidate : Int)
    (enough : (limit - candidate).toNat ≤ fuel) :
    countWeekdays gap limit fuel candidate = (gridTimes gap candidate limit).card := by
  have none : ∀ {start : Int}, limit ≤ start → gridTimes gap start limit = ∅ := by
    intro start behind
    refine Finset.eq_empty_of_forall_notMem (fun time member => ?_)
    have := (mem_gridTimes.mp member).1
    omega
  induction fuel generalizing candidate with
  | zero => rw [none (by omega), countWeekdays, Finset.card_empty]
  | succ fuel induction =>
      unfold countWeekdays
      split
      next inside =>
        rw [induction (candidate + gap) (by omega)]
        have step := fun time => @mem_gridTimes_step gap candidate limit time positive inside
        split
        next onWeekday =>
          have split : gridTimes gap candidate limit =
              insert candidate (gridTimes gap (candidate + gap) limit) := by
            ext time
            rw [step, Finset.mem_insert, and_iff_left onWeekday]
          have fresh : candidate ∉ gridTimes gap (candidate + gap) limit := by
            intro member
            have := (mem_gridTimes.mp member).1.1
            omega
          rw [split, Finset.card_insert_of_notMem fresh, Nat.add_comm]
        next onWeekend =>
          have same : gridTimes gap candidate limit = gridTimes gap (candidate + gap) limit := by
            ext time
            rw [step, or_iff_right (fun both => onWeekend both.2)]
          rw [same, Nat.zero_add]
      next outside => rw [none (Int.not_lt.mp outside), Finset.card_empty]

theorem missingSlots_eq_card (timeframe : Timeframe) (first second : Int) :
    missingSlots timeframe first second =
      (gridTimes (timeframeDelta timeframe) (first + timeframeDelta timeframe) second).card :=
  countWeekdays_eq_card (timeframeDelta_pos timeframe) _ _ (Nat.le_refl _)

/-- The weekday times of a grid between neighbours of a list. -/
def missingTimes (gap : Int) : List Int → Finset Int
  | [] => ∅
  | [_] => ∅
  | first :: second :: opens =>
      gridTimes gap (first + gap) second ∪ missingTimes gap (second :: opens)

/-- Each open is later than those before it, by a multiple of the step. -/
def OnGrid (gap : Int) (opens : List Int) : Prop :=
  opens.Pairwise (fun earlier later => earlier < later ∧ gap ∣ later - earlier)

theorem mem_missingTimes
    (positive : 0 < gap) {first time : Int} {opens : List Int} (grid : OnGrid gap (first :: opens)) :
    time ∈ missingTimes gap (first :: opens) ↔
      first < time ∧ time < (first :: opens).getLast (List.cons_ne_nil _ _) ∧
        gap ∣ time - first ∧ weekday time < 5 ∧ time ∉ first :: opens := by
  induction opens generalizing first with
  | nil =>
      simp only [missingTimes, Finset.notMem_empty, List.getLast_singleton, false_iff]
      omega
  | cons second opens induction =>
      obtain ⟨after, rest⟩ := List.pairwise_cons.mp grid
      obtain ⟨before, apart⟩ := after second (by simp)
      have fromSecond : ∀ item ∈ second :: opens, second ≤ item := by
        intro item member
        rcases List.mem_cons.mp member with rfl | later
        · exact Int.le_refl _
        · exact Int.le_of_lt ((List.pairwise_cons.mp rest).1 item later).1
      have bounded := fromSecond _ (List.getLast_mem (List.cons_ne_nil second opens))
      rw [missingTimes, Finset.mem_union, induction rest, mem_gridTimes, dvd_sub_step,
        List.getLast_cons (List.cons_ne_nil second opens)]
      have shifted : gap ∣ time - first ↔ gap ∣ time - second := by
        have split : time - first = time - second + (second - first) := by omega
        rw [split, Int.dvd_add_left apart]
      constructor
      · rintro (⟨⟨from_first, early⟩, divides, onWeekday⟩ |
          ⟨late, early, divides, onWeekday, absent⟩)
        · refine ⟨by omega, by omega, divides, onWeekday, fun member => ?_⟩
          rcases List.mem_cons.mp member with rfl | later
          · omega
          · have := fromSecond _ later
            omega
        · refine ⟨by omega, early, shifted.mpr divides, onWeekday, fun member => ?_⟩
          rcases List.mem_cons.mp member with rfl | later
          · omega
          · exact absent later
      · rintro ⟨late, early, divides, onWeekday, absent⟩
        have different : time ≠ second := fun same => absent (by simp [same])
        by_cases inFirst : time < second
        · exact .inl ⟨⟨later_of_dvd divides late, inFirst⟩, divides, onWeekday⟩
        · exact .inr ⟨by omega, early, shifted.mp divides, onWeekday,
            fun member => absent (List.mem_cons_of_mem _ member)⟩

/-- The sum over the neighbours counts every missing time once. -/
theorem gapSum_missingSlots
    {timeframe : Timeframe} {opens : List Int} (grid : OnGrid (timeframeDelta timeframe) opens) :
    gapSum (missingSlots timeframe) opens =
      (missingTimes (timeframeDelta timeframe) opens).card := by
  induction opens with
  | nil => rfl
  | cons first opens induction =>
      cases opens with
      | nil => rfl
      | cons second opens =>
          have rest := (List.pairwise_cons.mp grid).2
          rw [gapSum, missingSlots_eq_card, induction rest, missingTimes]
          refine (Finset.card_union_of_disjoint (Finset.disjoint_left.mpr ?_)).symm
          intro time inFirst inRest
          have early := (mem_gridTimes.mp inFirst).1.2
          have late := ((mem_missingTimes (timeframeDelta_pos timeframe) rest).mp inRest).1
          omega

end Times

section Bars

variable {timeframe : Timeframe} {records : List BarRecord}

theorem missingTime_iff
    (grid : OnGrid (timeframeDelta timeframe) (records.map BarRecord.openTimeUtc))
    {moment : Int} :
    moment ∈ missingTimes (timeframeDelta timeframe) (records.map BarRecord.openTimeUtc) ↔
      MissingTime timeframe records moment := by
  cases records with
  | nil => simp [missingTimes, MissingTime]
  | cons first records =>
      have last : (first :: records).getLast? =
          some ((first :: records).getLast (List.cons_ne_nil _ _)) :=
        List.getLast?_eq_some_getLast _
      rw [List.map_cons, mem_missingTimes (timeframeDelta_pos timeframe) grid]
      have absent : moment ∉ (first :: records).map BarRecord.openTimeUtc ↔
          ∀ record ∈ first :: records, record.openTimeUtc ≠ moment := by
        simp only [List.mem_map, not_exists, not_and, ne_eq]
      simp only [MissingTime, List.head?_cons, last, Option.mem_def, Option.some.injEq,
        exists_eq_left', ← List.map_cons, List.getLast_map, absent]

/-- The bars of one timeframe on its grid: the incidents of missing bars come
from the pairs of neighbours, and together they count every missing time once. -/
theorem missing_bars_counted_once
    (readClock : String → Int)
    (same : ∀ record ∈ records, record.timeframe = timeframe)
    (grid : records.Pairwise (fun earlier later =>
      earlier.openTimeUtc < later.openTimeUtc ∧
        timeframeDelta timeframe ∣ later.openTimeUtc - earlier.openTimeUtc)) :
    (∀ pair ∈ records.zip records.tail,
      WeekdayLoop (timeframeDelta timeframe) pair.2.openTimeUtc
        (pair.1.openTimeUtc + timeframeDelta timeframe)
        (missingBetween (timeframeDelta timeframe) pair.1 pair.2)) ∧
    (∃ report : BarRecord × BarRecord → Option QualityIncident,
      detectMissingBars readClock records = (records.zip records.tail).filterMap report) ∧
    missingTotal (detectMissingBars readClock records) =
      Set.ncard { moment | MissingTime timeframe records moment } ∧
    (detectMissingBars readClock records = [] ↔
      ∀ moment, ¬ MissingTime timeframe records moment) := by
  have onGrid : OnGrid (timeframeDelta timeframe) (records.map BarRecord.openTimeUtc) :=
    List.pairwise_map.mpr grid
  have times : { moment | MissingTime timeframe records moment } =
      (missingTimes (timeframeDelta timeframe) (records.map BarRecord.openTimeUtc) : Set Int) := by
    ext moment
    exact (missingTime_iff onGrid).symm
  have total : missingTotal (detectMissingBars readClock records) =
      Set.ncard { moment | MissingTime timeframe records moment } := by
    rw [missingTotal_detectMissingBars same, gapSum_missingSlots onGrid, times,
      Set.ncard_coe_finset]
  refine ⟨fun pair _ => weekdayLoop_countWeekdays (timeframeDelta_pos timeframe) _ _
    (Nat.le_refl _), ?_, total, ?_⟩
  · exact ⟨_, detectMissingBars_eq same⟩
  · constructor
    · intro quiet moment missing
      have none : Set.ncard { moment | MissingTime timeframe records moment } = 0 := by
        rw [← total, quiet, missingTotal_nil]
      rw [times, Set.ncard_coe_finset, Finset.card_eq_zero] at none
      exact absurd ((missingTime_iff onGrid).mpr missing) (by simp [none])
    · intro complete
      have none : missingTotal (detectMissingBars readClock records) = 0 := by
        have empty : { moment | MissingTime timeframe records moment } = ∅ :=
          Set.eq_empty_of_forall_notMem complete
        rw [total, empty, Set.ncard_empty]
      refine List.eq_nil_iff_forall_not_mem.mpr (fun made member => ?_)
      have counted := member
      rw [detectMissingBars_eq same] at counted
      obtain ⟨pair, -, reported⟩ := List.mem_filterMap.mp counted
      exact missingBars_gapIncident reported
        (List.sum_eq_zero_iff_forall_eq_nat.mp none _ (List.mem_map_of_mem member))

end Bars

/-- Daily bars of a Friday, the Monday after it and the Wednesday after that. -/
def weekBars : List BarRecord :=
  [goldBar 86400, goldBar 345600, goldBar 518400].map (fun payload =>
    barRecord "XAUUSD" "GOLD" .D1 payload 0)

example : (detectMissingBars (fun _ => 0) weekBars).map QualityIncident.detail =
    ["detected 1 missing D1 bars"] := by decide +kernel

theorem weekBars_counted_once :
    missingTotal (detectMissingBars (fun _ => 0) weekBars) =
      Set.ncard { moment | MissingTime .D1 weekBars moment } :=
  (missing_bars_counted_once (fun _ => 0) (by decide) (by decide)).2.2.1

end SuperAdvisor.MarketData
