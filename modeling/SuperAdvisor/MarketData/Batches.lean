import Mathlib.Data.Set.Card
import SuperAdvisor.MarketData.Calls

/-!
# Normalised batches

A normalised batch holds, in the order of their times, the first record with
each id, and the incidents beside it are exact: each of the three kinds is
emitted once when what it reports is so, with its count, and not otherwise.
-/

namespace SuperAdvisor.MarketData

open Python

variable {α κ : Type} [DecidableEq κ]

/-- A batch is its records sorted and without repeats: nothing is lost, the
first record with an id is the one kept, and records of one time keep their
order. -/
structure Normalized (time : α → Int) (id : α → κ) (records batch : List α) : Prop where
  ordered : batch.Pairwise (fun left right => time left ≤ time right)
  distinct : (batch.map id).Nodup
  sameIds : ∀ value, value ∈ batch.map id ↔ value ∈ records.map id
  keepsFirst : ∀ kept ∈ batch, records.find? (fun item => id item = id kept) = some kept
  inputOrder : ∀ moment, (batch.filter (fun item => time item = moment)).Sublist records

/-- Items with one id have one time. -/
def OneTimePerId (time : α → Int) (id : α → κ) (records : List α) : Prop :=
  ∀ first ∈ records, ∀ second ∈ records, id first = id second → time first = time second

/-- The ticks that are normalised for one symbol have one time for an id. -/
theorem oneTimePerId_ticks
    {library : MarketLibrary} {logicalSymbol brokerSymbol : String} {records : List TickRecord}
    (made : ∀ record ∈ records, ∃ payload receivedAtUtc point,
      normalizeTick library logicalSymbol brokerSymbol payload receivedAtUtc point = .ok record) :
    OneTimePerId TickRecord.marketTimeMsc TickRecord.sequenceId records := by
  intro first firstIn second secondIn same
  obtain ⟨firstPayload, _, _, firstMade⟩ := made first firstIn
  obtain ⟨secondPayload, _, _, secondMade⟩ := made second secondIn
  obtain rfl := normalizeTick_ok firstMade
  obtain rfl := normalizeTick_ok secondMade
  exact marketTimeMsc_of_tickSequenceId same

/-- The bars that are normalised for one symbol and timeframe have one time for
an id. -/
theorem oneTimePerId_bars
    {logicalSymbol brokerSymbol : String} {timeframe : Timeframe} {records : List BarRecord}
    (made : ∀ record ∈ records, ∃ payload asOfUtc,
      normalizeBar logicalSymbol brokerSymbol timeframe payload asOfUtc = .ok record) :
    OneTimePerId BarRecord.openTimeUtc BarRecord.barId records := by
  intro first firstIn second secondIn same
  obtain ⟨firstPayload, _, firstMade⟩ := made first firstIn
  obtain ⟨secondPayload, _, secondMade⟩ := made second secondIn
  obtain rfl := normalizeBar_ok firstMade
  obtain rfl := normalizeBar_ok secondMade
  exact openTime_of_barId same

theorem normalized_sortedDistinct
    {time : α → Int} {id : α → κ} {records : List α} (timed : OneTimePerId time id records) :
    Normalized time id records (sortedDistinct time id records) where
  ordered := (sortedDistinct_pairwise time id records).imp (fun both => both.1)
  distinct := List.pairwise_map.mpr
    ((sortedDistinct_pairwise time id records).imp (fun both => both.2))
  sameIds value := by
    constructor
    · intro member
      obtain ⟨kept, inside, rfl⟩ := List.mem_map.mp member
      exact List.mem_map_of_mem (mem_of_mem_sortedDistinct inside)
    · intro member
      obtain ⟨item, inside, rfl⟩ := List.mem_map.mp member
      obtain ⟨kept, keptIn, same⟩ := exists_mem_sortedDistinct time id inside
      exact same ▸ List.mem_map_of_mem keptIn
  keepsFirst _ member := find?_of_mem_sortedDistinct timed member
  inputOrder moment := filter_sortedDistinct_sublist time id records moment

/-- The details of the incidents of one kind. -/
def detailsOf (eventKind : String) (incidents : List QualityIncident) : List String :=
  (incidents.filter (fun made => made.eventKind = eventKind)).map QualityIncident.detail

/-- One incident of a kind, with this detail, when the condition holds, and none
when it does not. -/
def Emits (incidents : List QualityIncident) (eventKind : String) (condition : Prop)
    (detail : String) : Prop :=
  (condition → detailsOf eventKind incidents = [detail]) ∧
    (¬ condition → detailsOf eventKind incidents = [])

theorem outOfOrder_iff {time : α → Int} {records : List α} :
    outOfOrder time records = true ↔
      ¬ records.Pairwise (fun left right => time left ≤ time right) := by
  have transitive : IsTrans α (fun left right => time left ≤ time right) :=
    ⟨fun _ _ _ first second => Int.le_trans first second⟩
  rw [← List.isChain_iff_pairwise]
  induction records with
  | nil => simp [outOfOrder]
  | cons head records induction =>
      cases records with
      | nil => simp [outOfOrder]
      | cons next records =>
          have rest : outOfOrder time (head :: next :: records) =
              (decide (time next < time head) || outOfOrder time (next :: records)) := rfl
          have flipped : time next < time head ↔ ¬ time head ≤ time next := Int.not_le.symm
          rw [rest, Bool.or_eq_true, decide_eq_true_eq, List.isChain_cons_cons, flipped,
            not_and_or]
          exact or_congr_right induction

theorem removed_iff {id : α → κ} {records : List α} (time : α → Int) :
    (dropRepeats id [] (sortedBy time records)).2 ≠ 0 ↔ ¬ (records.map id).Nodup := by
  apply not_congr
  rw [← ((sortedBy_perm time records).map id).nodup_iff, List.Nodup, List.pairwise_map]
  constructor
  · intro complete
    have total := @dropRepeats_length α κ _ id [] (sortedBy time records)
    have whole : (dropRepeats id [] (sortedBy time records)).1 = sortedBy time records :=
      (dropRepeats_sublist [] _).eq_of_length (by omega)
    rw [← whole]
    exact dropRepeats_pairwise [] _
  · intro distinct
    rw [dropRepeats_of_pairwise distinct (by simp)]

/-- The number of dropped records is what the batch is shorter by. -/
theorem removed_eq {time : α → Int} {id : α → κ} {records : List α} :
    ((dropRepeats id [] (sortedBy time records)).2 : Int) =
      records.length - (sortedDistinct time id records).length := by
  have total := @dropRepeats_length α κ _ id [] (sortedBy time records)
  rw [(sortedBy_perm time records).length_eq] at total
  unfold sortedDistinct
  omega

/-- Two ticks with different ids stand at one time. -/
def Collides (records : List TickRecord) (moment : Int) : Prop :=
  ∃ first ∈ records, ∃ second ∈ records,
    first.marketTimeMsc = moment ∧ second.marketTimeMsc = moment ∧
      first.sequenceId ≠ second.sequenceId

private theorem one_lt_length_dedup_iff {items : List κ} :
    1 < items.dedup.length ↔ ∃ first ∈ items, ∃ second ∈ items, first ≠ second := by
  constructor
  · intro several
    match shape : items.dedup with
    | [] | [_] => simp [shape] at several
    | first :: second :: rest =>
        have distinct := List.nodup_dedup items
        rw [shape] at distinct
        have member : ∀ item, item ∈ items.dedup ↔ item ∈ items := fun _ => List.mem_dedup
        rw [shape] at member
        refine ⟨first, (member first).mp (by simp), second, (member second).mp (by simp), ?_⟩
        rintro rfl
        simp at distinct
  · rintro ⟨first, firstIn, second, secondIn, different⟩
    apply Nat.lt_of_not_le
    intro short
    match shape : items.dedup with
    | [] => exact absurd (List.mem_dedup.mpr firstIn) (by simp [shape])
    | [only] =>
        have firstOnly := List.mem_dedup.mpr firstIn
        have secondOnly := List.mem_dedup.mpr secondIn
        rw [shape, List.mem_singleton] at firstOnly secondOnly
        exact different (firstOnly.trans secondOnly.symm)
    | _ :: _ :: _ => simp [shape] at short

theorem mem_tickCollisions {records : List TickRecord} {moment : Int} :
    moment ∈ tickCollisions records ↔ Collides records moment := by
  have apart : 1 < ((records.filter (fun item => item.marketTimeMsc = moment)).map
      TickRecord.sequenceId).dedup.length ↔ Collides records moment := by
    rw [one_lt_length_dedup_iff]
    constructor
    · rintro ⟨_, firstIn, _, secondIn, different⟩
      obtain ⟨first, firstHere, rfl⟩ := List.mem_map.mp firstIn
      obtain ⟨second, secondHere, rfl⟩ := List.mem_map.mp secondIn
      rw [List.mem_filter, decide_eq_true_eq] at firstHere secondHere
      exact ⟨first, firstHere.1, second, secondHere.1, firstHere.2, secondHere.2, different⟩
    · rintro ⟨first, firstIn, second, secondIn, firstTime, secondTime, different⟩
      refine ⟨_, List.mem_map_of_mem (List.mem_filter.mpr ⟨firstIn, ?_⟩), _,
        List.mem_map_of_mem (List.mem_filter.mpr ⟨secondIn, ?_⟩), different⟩
      · simpa using firstTime
      · simpa using secondTime
  rw [tickCollisions, List.mem_filter, decide_eq_true_eq, apart, List.mem_dedup]
  constructor
  · exact fun both => both.2
  · intro collides
    refine ⟨?_, collides⟩
    obtain ⟨first, firstIn, -, -, rfl, -⟩ := collides
    exact List.mem_map_of_mem firstIn

theorem length_tickCollisions (records : List TickRecord) :
    (tickCollisions records).length = Set.ncard { moment | Collides records moment } := by
  have times : { moment | Collides records moment } =
      ((tickCollisions records).toFinset : Set Int) := by
    ext moment
    simp [mem_tickCollisions]
  have distinct : (tickCollisions records).Nodup := (List.nodup_dedup _).filter _
  rw [times, Set.ncard_coe_finset, List.toFinset_card_of_nodup distinct]

theorem tickCollisions_nonempty_iff {records : List TickRecord} :
    (!(tickCollisions records).isEmpty) = true ↔ ∃ moment, Collides records moment := by
  simp only [← mem_tickCollisions]
  rw [Bool.not_eq_true', List.isEmpty_eq_false_iff_exists_mem]

@[simp] theorem detailsOf_nil (eventKind : String) : detailsOf eventKind [] = [] := rfl

@[simp] theorem detailsOf_append (eventKind : String) (early late : List QualityIncident) :
    detailsOf eventKind (early ++ late) = detailsOf eventKind early ++ detailsOf eventKind late := by
  simp [detailsOf]

theorem detailsOf_incident
    {readClock : String → Int} {eventKind kind logicalSymbol detail suffix : String}
    {timeframe : Option Timeframe} {condition : Prop} [Decidable condition] :
    detailsOf eventKind (if condition then
        [incident readClock kind logicalSymbol timeframe detail suffix] else []) =
      if condition ∧ kind = eventKind then [detail] else [] := by
  by_cases holds : condition <;> by_cases same : kind = eventKind <;>
    simp [detailsOf, incident, holds, same]

theorem emits_iff_of_details
    {incidents : List QualityIncident} {eventKind detail : String} {condition found : Prop}
    [Decidable found] (details : detailsOf eventKind incidents = if found then [detail] else [])
    (exact : found ↔ condition) : Emits incidents eventKind condition detail := by
  constructor
  · intro holds
    rw [details, if_pos (exact.mpr holds)]
  · intro fails
    rw [details, if_neg (fun holds => fails (exact.mp holds))]

/-- What a normalised batch of ticks is, and what its incidents say. -/
structure TickBatchExact (records : List TickRecord)
    (result : List TickRecord × List QualityIncident) : Prop where
  normalized : Normalized TickRecord.marketTimeMsc TickRecord.sequenceId records result.1
  stable : ∀ readClock, (normalizeTickBatch readClock result.1).1 = result.1
  duplicates : Emits result.2 "duplicate_ticks" (¬ (records.map TickRecord.sequenceId).Nodup)
    ("removed " ++ intText (records.length - result.1.length) ++ " duplicate tick rows")
  disorder : Emits result.2 "out_of_order_ticks"
    (¬ records.Pairwise (fun left right => left.marketTimeMsc ≤ right.marketTimeMsc))
    "tick records arrived out of order and were normalized"
  collisions : Emits result.2 "tick_time_collision" (∃ moment, Collides records moment)
    ("detected " ++ intText (Set.ncard { moment | Collides records moment }) ++
      " timestamps with differing tick payloads")

/-- What a normalised batch of bars is, and what its incidents say. -/
structure BarBatchExact (records : List BarRecord)
    (result : List BarRecord × List QualityIncident) : Prop where
  normalized : Normalized BarRecord.openTimeUtc BarRecord.barId records result.1
  stable : ∀ readClock, (normalizeBarBatch readClock result.1).1 = result.1
  duplicates : Emits result.2 "duplicate_bars" (¬ (records.map BarRecord.barId).Nodup)
    ("removed " ++ intText (records.length - result.1.length) ++ " duplicate bar rows")
  disorder : Emits result.2 "out_of_order_bars"
    (¬ records.Pairwise (fun left right => left.openTimeUtc ≤ right.openTimeUtc))
    "bar records arrived out of order and were normalized"

theorem tickBatchExact
    {records : List TickRecord}
    (timed : OneTimePerId TickRecord.marketTimeMsc TickRecord.sequenceId records)
    (readClock : String → Int) :
    TickBatchExact records (normalizeTickBatch readClock records) := by
  have batch := normalizeTickBatch_fst readClock records
  refine
    { normalized := batch ▸ normalized_sortedDistinct timed
      stable := fun laterClock => ?_
      duplicates := emits_iff_of_details ?_
        (removed_iff TickRecord.marketTimeMsc)
      disorder := emits_iff_of_details ?_ outOfOrder_iff
      collisions := emits_iff_of_details ?_ tickCollisions_nonempty_iff }
  · rw [normalizeTickBatch_fst, batch]
    exact sortedDistinct_again _ _ _
  · rw [batch, ← removed_eq]
    cases records with
    | nil => rfl
    | cons first rest =>
        simp only [normalizeTickBatch, detailsOf_append, detailsOf_incident]
        simp
  · cases records with
    | nil => rfl
    | cons first rest =>
        simp only [normalizeTickBatch, detailsOf_append, detailsOf_incident]
        simp
  · rw [← length_tickCollisions]
    cases records with
    | nil => rfl
    | cons first rest =>
        simp only [normalizeTickBatch, detailsOf_append, detailsOf_incident]
        simp

theorem barBatchExact
    {records : List BarRecord}
    (timed : OneTimePerId BarRecord.openTimeUtc BarRecord.barId records)
    (readClock : String → Int) :
    BarBatchExact records (normalizeBarBatch readClock records) := by
  have batch := normalizeBarBatch_fst readClock records
  refine
    { normalized := batch ▸ normalized_sortedDistinct timed
      stable := fun laterClock => ?_
      duplicates := emits_iff_of_details ?_ (removed_iff BarRecord.openTimeUtc)
      disorder := emits_iff_of_details ?_ outOfOrder_iff }
  · rw [normalizeBarBatch_fst, batch]
    exact sortedDistinct_again _ _ _
  · rw [batch, ← removed_eq]
    cases records with
    | nil => rfl
    | cons first rest =>
        simp only [normalizeBarBatch, detailsOf_append, detailsOf_incident]
        simp
  · cases records with
    | nil => rfl
    | cons first rest =>
        simp only [normalizeBarBatch, detailsOf_append, detailsOf_incident]
        simp

/-- A batch whose ids each have one time is sorted, without repeats and reported
exactly. -/
theorem batches_normalized_exactly (readClock : String → Int) :
    (∀ records : List TickRecord,
      OneTimePerId TickRecord.marketTimeMsc TickRecord.sequenceId records →
        TickBatchExact records (normalizeTickBatch readClock records)) ∧
    (∀ records : List BarRecord,
      OneTimePerId BarRecord.openTimeUtc BarRecord.barId records →
        BarBatchExact records (normalizeBarBatch readClock records)) :=
  ⟨fun _ timed => tickBatchExact timed readClock, fun _ timed => barBatchExact timed readClock⟩

/-- Two ticks of the gold symbol, one of them twice and before the earlier one. -/
def disorderedTicks : List TickRecord :=
  [goldTick 20, goldTick 20, goldTick 10].map (fun payload =>
    tickRecord plainLibrary "XAUUSD" "GOLD" payload 0 (1 / 100))

/-- Two bars that stand before an earlier one. -/
def disorderedBars : List BarRecord :=
  [goldBar 120, goldBar 120, goldBar 60].map (fun payload =>
    barRecord "XAUUSD" "GOLD" .M1 payload 0)

theorem disordered_normalized :
    TickBatchExact disorderedTicks (normalizeTickBatch (fun _ => 0) disorderedTicks) ∧
      BarBatchExact disorderedBars (normalizeBarBatch (fun _ => 0) disorderedBars) := by
  refine ⟨(batches_normalized_exactly _).1 disorderedTicks
      (@oneTimePerId_ticks plainLibrary "XAUUSD" "GOLD" _ ?_),
    (batches_normalized_exactly _).2 disorderedBars
      (@oneTimePerId_bars "XAUUSD" "GOLD" .M1 _ ?_)⟩
  · intro record member
    obtain ⟨payload, inside, rfl⟩ := List.mem_map.mp member
    refine ⟨payload, 0, 1 / 100, ?_⟩
    have valid : ∀ item ∈ [goldTick 20, goldTick 20, goldTick 10],
        ¬ (item.bid ≤ 0 ∨ item.ask ≤ 0 ∨ item.ask < item.bid) := by decide
    exact if_neg (valid payload inside)
  · intro record member
    obtain ⟨payload, inside, rfl⟩ := List.mem_map.mp member
    refine ⟨payload, 0, ?_⟩
    have valid : ∀ item ∈ [goldBar 120, goldBar 120, goldBar 60],
        normalizeBar "XAUUSD" "GOLD" .M1 item 0 = .ok (barRecord "XAUUSD" "GOLD" .M1 item 0) := by
      decide +kernel
    exact valid payload inside

end SuperAdvisor.MarketData
