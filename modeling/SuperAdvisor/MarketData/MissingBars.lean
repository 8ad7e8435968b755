import SuperAdvisor.Foundation.Gaps
import SuperAdvisor.MarketData.BackfillProgress

/-!
# Missing bars of a backfill

Each chunk of a backfill looks for missing bars between the bars it read.  A
gap around the boundary of two chunks is seen by neither of them, so the chunks
report what the whole range has if and only if these gaps have no weekday slot.
-/

namespace SuperAdvisor.MarketData

open Gaps Python Raising Service

/-- The number of missing bars the detail of an incident states. -/
def QualityIncident.missingBars (item : QualityIncident) : Nat :=
  if item.eventKind = "missing_bars" then
    (JsonText.integerOf
      ((item.detail.toList.drop "detected ".length).takeWhile (· ≠ ' '))).toNat
  else 0

def missingTotal (incidents : List QualityIncident) : Nat :=
  (incidents.map QualityIncident.missingBars).sum

/-- The weekday slots strictly between two opening times. -/
def missingSlots (timeframe : Timeframe) (first second : Int) : Nat :=
  let candidate := first + timeframeDelta timeframe
  countWeekdays (timeframeDelta timeframe) second (second - candidate).toNat candidate

@[simp] theorem missingTotal_nil : missingTotal [] = 0 := rfl

@[simp] theorem missingTotal_append (early late : List QualityIncident) :
    missingTotal (early ++ late) = missingTotal early + missingTotal late := by
  simp [missingTotal]

section Counting

private theorem toDigits_ne_blank (count : Nat) :
    ∀ symbol ∈ Nat.toDigits 10 count, symbol ≠ ' ' := by
  intro symbol member blank
  have digit := Nat.isDigit_of_mem_toDigits (by decide) (by decide) member
  subst blank
  revert digit
  decide

/-- The number in the detail of an incident is read back. -/
private theorem missingBars_incident
    (readClock : String → Int) (logicalSymbol : String) (timeframe : Option Timeframe)
    (count : Nat) (rest suffix : String) :
    (incident readClock "missing_bars" logicalSymbol timeframe
      ("detected " ++ intText count ++ " missing " ++ rest ++ " bars") suffix).missingBars =
        count := by
  have detail : ("detected " ++ intText count ++ " missing " ++ rest ++ " bars").toList.drop
      "detected ".length =
        JsonText.renderInt count ++ ' ' :: ("missing " ++ rest ++ " bars").toList := by
    have blank : " missing ".toList = ' ' :: "missing ".toList := rfl
    simp only [String.toList_append, List.append_assoc, intText, String.toList_ofList, blank]
    exact List.drop_left' (String.length_toList)
  have digits : (JsonText.renderInt count ++ ' ' :: ("missing " ++ rest ++
      " bars").toList).takeWhile (· ≠ ' ') = JsonText.renderInt count := by
    have plain : ∀ symbol ∈ JsonText.renderInt count, symbol ≠ ' ' := toDigits_ne_blank count
    rw [List.takeWhile_append_of_pos (by simpa using plain)]
    simp
  simp only [QualityIncident.missingBars, incident, if_true]
  rw [detail, digits, JsonText.integerOf_renderInt, Int.toNat_natCast]

/-- The incident of the gap of a pair. -/
def gapIncident (readClock : String → Int) (expectedGap : Int)
    (pair : BarRecord × BarRecord) : Option QualityIncident :=
  if pair.2.openTimeUtc - pair.1.openTimeUtc ≤ expectedGap then none
  else
    let missing := missingBetween expectedGap pair.1 pair.2
    if missing ≠ 0 then
      some (incident readClock "missing_bars" pair.2.logicalSymbol (some pair.2.timeframe)
        ("detected " ++ intText missing ++ " missing " ++ pair.2.timeframe.value ++ " bars")
        pair.2.barId)
    else none

private theorem missingTotal_gapIncident
    (readClock : String → Int) (timeframe : Timeframe) (first second : BarRecord) :
    missingTotal (gapIncident readClock (timeframeDelta timeframe) (first, second)).toList =
      missingSlots timeframe first.openTimeUtc second.openTimeUtc := by
  have between : missingBetween (timeframeDelta timeframe) first second =
      missingSlots timeframe first.openTimeUtc second.openTimeUtc := rfl
  unfold gapIncident
  simp only [between]
  split
  next adjacent =>
    have fuelless : (second.openTimeUtc - (first.openTimeUtc + timeframeDelta timeframe)).toNat =
        0 := by omega
    unfold missingSlots
    simp only [fuelless]
    rfl
  next =>
    split
    next => simp [missingTotal, missingBars_incident]
    next none =>
      rw [not_not] at none
      rw [none]
      rfl

theorem detectMissingBars_eq
    {readClock : String → Int} {timeframe : Timeframe} {records : List BarRecord}
    (same : ∀ record ∈ records, record.timeframe = timeframe) :
    detectMissingBars readClock records =
      (records.zip records.tail).filterMap (gapIncident readClock (timeframeDelta timeframe)) := by
  cases records with
  | nil => rfl
  | cons first rest =>
      rw [← same first (by simp)]
      rfl

/-- An incident of a gap counts at least one bar. -/
theorem missingBars_gapIncident
    {readClock : String → Int} {expectedGap : Int} {pair : BarRecord × BarRecord}
    {made : QualityIncident} (reported : gapIncident readClock expectedGap pair = some made) :
    made.missingBars ≠ 0 := by
  unfold gapIncident at reported
  split at reported
  next => cases reported
  next =>
    simp only at reported
    split at reported
    next some =>
      obtain rfl := Option.some.inj reported
      rw [missingBars_incident]
      exact some
    next => cases reported

theorem missingTotal_detectMissingBars
    {readClock : String → Int} {timeframe : Timeframe} {records : List BarRecord}
    (same : ∀ record ∈ records, record.timeframe = timeframe) :
    missingTotal (detectMissingBars readClock records) =
      gapSum (missingSlots timeframe) (records.map BarRecord.openTimeUtc) := by
  rw [detectMissingBars_eq same]
  clear same
  cases records with
  | nil => rfl
  | cons first rest =>
      induction rest generalizing first with
      | nil => rfl
      | cons second rest induction =>
          have split : ((first :: second :: rest).zip (second :: rest)).filterMap
              (gapIncident readClock (timeframeDelta timeframe)) =
                (gapIncident readClock (timeframeDelta timeframe) (first, second)).toList ++
                  ((second :: rest).zip rest).filterMap
                    (gapIncident readClock (timeframeDelta timeframe)) := by
            rw [List.zip_cons_cons, List.filterMap_cons]
            cases gapIncident readClock (timeframeDelta timeframe) (first, second) <;> rfl
          have rest := induction second
          rw [List.tail_cons] at rest ⊢
          rw [split, missingTotal_append, missingTotal_gapIncident, rest]
          rfl

private theorem countWeekdays_eq_zero_iff
    {gap limit : Int} (positive : 0 < gap) (fuel : Nat) (candidate : Int)
    (enough : (limit - candidate).toNat ≤ fuel) :
    countWeekdays gap limit fuel candidate = 0 ↔
      ∀ step : Nat, candidate + step * gap < limit → 5 ≤ weekday (candidate + step * gap) := by
  induction fuel generalizing candidate with
  | zero =>
      refine iff_of_true rfl (fun step inside => ?_)
      have := Int.mul_nonneg (Int.natCast_nonneg step) (Int.le_of_lt positive)
      omega
  | succ fuel induction =>
      unfold countWeekdays
      split
      next inside =>
        have later : ∀ step : Nat, candidate + gap + step * gap =
            candidate + ((step + 1 : Nat) : Int) * gap := by
          intro step
          rw [Int.natCast_succ, Int.add_mul]
          omega
        rw [Nat.add_eq_zero_iff, induction (candidate + gap) (by omega)]
        simp only [later]
        constructor
        · rintro ⟨weekend, rest⟩ step
          cases step with
          | zero =>
              intro _
              have := ite_eq_right_iff.mp weekend
              simp only [Int.natCast_zero, Int.zero_mul, Int.add_zero]
              omega
          | succ step => exact rest step
        · intro all
          refine ⟨if_neg ?_, fun step => all (step + 1)⟩
          have := all 0 (by simpa using inside)
          simp only [Int.natCast_zero, Int.zero_mul, Int.add_zero] at this
          omega
      next outside =>
        refine iff_of_true rfl (fun step inside => ?_)
        have := Int.mul_nonneg (Int.natCast_nonneg step) (Int.le_of_lt positive)
        omega

theorem missingSlots_eq_zero_iff {timeframe : Timeframe} {first second : Int} :
    missingSlots timeframe first second = 0 ↔
      ∀ step : Nat, first + (step + 1) * timeframeDelta timeframe < second →
        5 ≤ weekday (first + (step + 1) * timeframeDelta timeframe) := by
  have slot : ∀ step : Nat, first + timeframeDelta timeframe + step * timeframeDelta timeframe =
      first + (step + 1) * timeframeDelta timeframe := by
    intro step
    rw [Int.add_mul]
    omega
  unfold missingSlots
  rw [countWeekdays_eq_zero_iff (timeframeDelta_pos timeframe) _ _ (Nat.le_refl _)]
  simp only [slot]

end Counting

section Ranges

variable {bars payload : List BarPayload} {startAt endAt : Int}

/-- The times at which bars open, in order. -/
def opensOf (bars : List BarPayload) : List Int :=
  sortedDistinct (fun time => time) (fun time => time) (bars.map BarPayload.openTime)

/-- The reply has the bars that open in the range. -/
def IsRange (bars : List BarPayload) (startAt endAt : Int) (payload : List BarPayload) : Prop :=
  ∀ item, item ∈ payload ↔ item ∈ bars ∧ startAt ≤ item.openTime ∧ item.openTime ≤ endAt

theorem mem_opensOf {time : Int} : time ∈ opensOf bars ↔ ∃ item ∈ bars, item.openTime = time := by
  rw [← List.mem_map]
  constructor
  · exact mem_of_mem_sortedDistinct
  · intro member
    obtain ⟨kept, inside, rfl⟩ :=
      exists_mem_sortedDistinct (fun time : Int => time) (fun time => time) member
    exact inside

theorem opensOf_pairwise (bars : List BarPayload) : (opensOf bars).Pairwise (· < ·) :=
  (sortedDistinct_pairwise (fun time : Int => time) (fun time => time) _).imp
    (fun known => Int.lt_iff_le_and_ne.mpr known)

/-- Two ordered lists with the same items are one list. -/
private theorem eq_of_ordered
    {first second : List Int} (firstOrdered : first.Pairwise (· < ·))
    (secondOrdered : second.Pairwise (· < ·)) (same : ∀ time, time ∈ first ↔ time ∈ second) :
    first = second := by
  have distinct : ∀ {times : List Int}, times.Pairwise (· < ·) → times.Nodup :=
    fun ordered => ordered.imp Int.ne_of_lt
  have reordered : first.Perm second :=
    (List.perm_ext_iff_of_nodup (distinct firstOrdered) (distinct secondOrdered)).mpr same
  refine List.Perm.eq_of_pairwise ?_ firstOrdered secondOrdered reordered
  intro left right _ _ before after
  omega

/-- The records of a reading open at the times of the range. -/
theorem opens_normalizeBarBatch
    (exact : IsRange bars startAt endAt payload) (readClock : String → Int)
    (logicalSymbol brokerSymbol : String) (timeframe : Timeframe) (asOfUtc : Int) :
    (normalizeBarBatch readClock (payload.map (fun item =>
      barRecord logicalSymbol brokerSymbol timeframe item asOfUtc))).1.map
        BarRecord.openTimeUtc = within startAt endAt (opensOf bars) := by
  rw [normalizeBarBatch_fst]
  generalize shape : payload.map (fun item =>
    barRecord logicalSymbol brokerSymbol timeframe item asOfUtc) = records
  have made : ∀ record ∈ records, ∃ item ∈ payload,
      record = barRecord logicalSymbol brokerSymbol timeframe item asOfUtc := by
    intro record member
    rw [← shape] at member
    obtain ⟨item, inside, same⟩ := List.mem_map.mp member
    exact ⟨item, inside, same.symm⟩
  refine eq_of_ordered ?_ (within_pairwise (opensOf_pairwise bars) startAt endAt) ?_
  · rw [List.pairwise_map]
    refine (sortedDistinct_pairwise _ _ records).imp_of_mem ?_
    intro left right leftIn rightIn known
    refine Int.lt_iff_le_and_ne.mpr ⟨known.1, fun same => known.2 ?_⟩
    obtain ⟨first, -, rfl⟩ := made left (mem_of_mem_sortedDistinct leftIn)
    obtain ⟨second, -, rfl⟩ := made right (mem_of_mem_sortedDistinct rightIn)
    exact congrArg (barId logicalSymbol timeframe) same
  · intro time
    rw [mem_within, mem_opensOf, List.mem_map]
    constructor
    · rintro ⟨record, member, rfl⟩
      obtain ⟨item, inside, rfl⟩ := made record (mem_of_mem_sortedDistinct member)
      obtain ⟨known, bounds⟩ := (exact item).mp inside
      exact ⟨⟨item, known, rfl⟩, bounds⟩
    · rintro ⟨⟨item, known, rfl⟩, bounds⟩
      have member : barRecord logicalSymbol brokerSymbol timeframe item asOfUtc ∈ records := by
        rw [← shape]
        exact List.mem_map_of_mem ((exact item).mpr ⟨known, bounds⟩)
      obtain ⟨kept, here, sameId⟩ :=
        exists_mem_sortedDistinct BarRecord.openTimeUtc BarRecord.barId member
      obtain ⟨other, -, rfl⟩ := made kept (mem_of_mem_sortedDistinct here)
      exact ⟨_, here, openTime_of_barId sameId⟩

/-- Every gap of the range around a boundary of its chunks has slots on weekends
only. -/
def GapsKept (bars : List BarPayload) (timeframe : Timeframe) (startAt endAt maxBars : Int) :
    Prop :=
  ∀ first ∈ bars, ∀ second ∈ bars, startAt ≤ first.openTime → second.openTime ≤ endAt →
    (∀ item ∈ bars, item.openTime ≤ first.openTime ∨ second.openTime ≤ item.openTime) →
      ∀ chunk : Nat,
        first.openTime < startAt + chunk * (timeframeDelta timeframe * maxBars) →
          startAt + chunk * (timeframeDelta timeframe * maxBars) < second.openTime →
            ∀ step : Nat,
              first.openTime + (step + 1) * timeframeDelta timeframe < second.openTime →
                5 ≤ weekday (first.openTime + (step + 1) * timeframeDelta timeframe)

theorem gapsKept_iff {timeframe : Timeframe} {maxBars : Int} :
    GapsKept bars timeframe startAt endAt maxBars ↔
      ∀ chunk : Nat, LossFree (missingSlots timeframe) (within startAt endAt (opensOf bars))
        (startAt + chunk * (timeframeDelta timeframe * maxBars)) := by
  constructor
  · intro kept chunk opening closing neighbours early late
    obtain ⟨opens, after, -⟩ := mem_within.mp neighbours.opens
    obtain ⟨closes, -, before⟩ := mem_within.mp neighbours.closes
    obtain ⟨first, firstIn, rfl⟩ := mem_opensOf.mp opens
    obtain ⟨second, secondIn, rfl⟩ := mem_opensOf.mp closes
    refine missingSlots_eq_zero_iff.mpr
      (kept first firstIn second secondIn after before ?_ chunk early late)
    intro item member
    by_cases inside : startAt ≤ item.openTime ∧ item.openTime ≤ endAt
    · exact neighbours.apart _ (mem_within.mpr ⟨mem_opensOf.mpr ⟨item, member, rfl⟩, inside⟩)
    · omega
  · intro free first firstIn second secondIn after before apart chunk early late
    refine missingSlots_eq_zero_iff.mp (free chunk _ _ ⟨?_, ?_, ?_, ?_⟩ early late)
    · exact mem_within.mpr ⟨mem_opensOf.mpr ⟨first, firstIn, rfl⟩, by omega⟩
    · exact mem_within.mpr ⟨mem_opensOf.mpr ⟨second, secondIn, rfl⟩, by omega⟩
    · omega
    · intro time member
      obtain ⟨item, inside, rfl⟩ := mem_opensOf.mp (mem_within.mp member).1
      exact apart item inside

theorem missingTotal_normalizeBarBatch (readClock : String → Int) (records : List BarRecord) :
    missingTotal (normalizeBarBatch readClock records).2 = 0 := by
  have other : ∀ {kind : String} (_ : kind ≠ "missing_bars") (logicalSymbol : String)
      (timeframe : Option Timeframe) (detail suffix : String),
      missingTotal [incident readClock kind logicalSymbol timeframe detail suffix] = 0 := by
    intro kind different logicalSymbol timeframe detail suffix
    simp [missingTotal, QualityIncident.missingBars, incident, different]
  cases records with
  | nil => rfl
  | cons first rest =>
      simp only [normalizeBarBatch, missingTotal_append]
      have disordered := @other "out_of_order_bars" (by simp)
      have repeated := @other "duplicate_bars" (by simp)
      split <;> split <;> simp only [disordered, repeated, missingTotal_nil]

/-- What a chunk reports of the bars it read. -/
theorem missingTotal_batch
    (exact : IsRange bars startAt endAt payload) (readClock : String → Int)
    (logicalSymbol brokerSymbol : String) (timeframe : Timeframe) (asOfUtc : Int) :
    missingTotal (detectMissingBars readClock (normalizeBarBatch readClock
      (payload.map (fun item =>
        barRecord logicalSymbol brokerSymbol timeframe item asOfUtc))).1) =
      gapSum (missingSlots timeframe) (within startAt endAt (opensOf bars)) := by
  rw [@missingTotal_detectMissingBars _ timeframe, opens_normalizeBarBatch exact]
  intro record member
  rw [normalizeBarBatch_fst] at member
  obtain ⟨item, -, rfl⟩ := List.mem_map.mp (mem_of_mem_sortedDistinct member)
  rfl

end Ranges

/-- The replies about the bars of a symbol are those of one history. -/
def HistoryOf (env : Environment) (settings : MarketDataSettings) (canonicalSymbol : String)
    (timeframe : Timeframe) (bars : List BarPayload) : Prop :=
  ∀ symbol, Resolves env settings symbol →
    env.library.upper symbol.logicalSymbol = env.library.upper canonicalSymbol →
      ∀ moment startAt endAt payload,
        env.copyRatesRange moment symbol.brokerSymbol (mt5TimeframeMap timeframe) startAt endAt =
            .ok (some payload) →
          IsRange bars startAt endAt payload

/-- No progress of a backfill of the range is stored. -/
def NotBegun (env : Environment) (timeframe : Timeframe) (startAt endAt : Int) (world : World) :
    Prop :=
  ∀ logicalSymbol, world.tables.getBackfillState
    (env.library.backfillDigest logicalSymbol timeframe.value startAt endAt) = none

section Backfills

variable {env : Environment} {settings : MarketDataSettings} {canonicalSymbol : String}
  {bars : List BarPayload} {run : BackfillRun}

/-- The history of the symbol of a run. -/
private def RunHistory (env : Environment) (run : BackfillRun) (bars : List BarPayload) : Prop :=
  ∀ moment startAt endAt payload,
    env.copyRatesRange moment run.resolved.brokerSymbol (mt5TimeframeMap run.timeframe) startAt
        endAt = .ok (some payload) →
      IsRange bars startAt endAt payload

private theorem ensures_loadBars_range
    (history : RunHistory env run bars) (startAt endAt asOfUtc : Int) :
    Ensures (fun _ => True) (loadBars env settings run.resolved run.timeframe startAt endAt asOfUtc)
      (fun result _ => ∃ payload, IsRange bars startAt endAt payload ∧
        result = payload.map (fun item => barRecord run.resolved.logicalSymbol
          run.resolved.brokerSymbol run.timeframe item asOfUtc))
      (fun _ _ => True) := by
  intro world _
  have loaded := @ensures_loadBars env world.tables world.files world.moment settings run.resolved
    run.timeframe startAt endAt asOfUtc
  refine ensures_weaken loaded (fun _ known => known) ?_ (fun _ _ _ => trivial) world
    (at_self world)
  rintro result _ ⟨moment, payload, ⟨-, replied, made⟩, -⟩
  exact ⟨payload, history moment startAt endAt payload replied, made⟩

private theorem ensures_backfillChunk_missing
    (history : RunHistory env run bars) (startAt chunkEnd : Int) :
    Ensures (fun _ => True) (backfillChunk env settings run startAt chunkEnd)
      (fun result _ => missingTotal result.1 =
        gapSum (missingSlots run.timeframe) (within startAt chunkEnd (opensOf bars)))
      (fun _ _ => True) := by
  refine ensures_bind (ensures_loadBars_range history startAt chunkEnd chunkEnd) ?_
  intro records
  refine ensures_of_exists (fun payload => ?_)
  rintro world ⟨exact, rfl⟩
  refine ensures_bind (ensures_any _ : Ensures (fun _ => True) _ _ _) ?_ world trivial
  intro readClock
  have reported : missingTotal
      ((normalizeBarBatch readClock (payload.map (fun item => barRecord run.resolved.logicalSymbol
          run.resolved.brokerSymbol run.timeframe item chunkEnd))).2 ++
        detectMissingBars readClock (normalizeBarBatch readClock (payload.map (fun item =>
          barRecord run.resolved.logicalSymbol run.resolved.brokerSymbol run.timeframe item
            chunkEnd))).1) =
      gapSum (missingSlots run.timeframe) (within startAt chunkEnd (opensOf bars)) := by
    rw [missingTotal_append, missingTotal_normalizeBarBatch, Nat.zero_add,
      missingTotal_batch exact]
  dsimp only
  split
  next => exact ensures_pure (fun _ _ => reported)
  next =>
    refine ensures_bind (ensures_any _) (fun _ => ?_)
    refine ensures_bind (ensures_any _) (fun _ => ?_)
    exact ensures_pure (fun _ _ => reported)

private theorem ensures_backfillFailed_raises (startAt : Int) (problem : MarketProblem) :
    Ensures (fun _ => True) (backfillFailed env run startAt problem)
      (fun _ _ => False) (fun _ _ => True) := by
  unfold backfillFailed
  split
  next => exact ensures_throw (fun _ _ => trivial)
  next =>
    refine ensures_bind (ensures_any _) (fun _ => ?_)
    exact ensures_throw (fun _ _ => trivial)

/-- A loop that comes to its end has reported the pieces of the range. -/
private theorem ensures_backfillLoop_missing
    (history : RunHistory env run bars) (lookback : 0 < settings.barLookbackCount) (fuel : Nat)
    {startAt : Int} (ordered : startAt ≤ run.observedEnd) :
    Ensures (fun _ => True) (backfillLoop env settings run fuel startAt)
      (fun result _ => ∀ incidents count, result = some (incidents, count) →
        PieceSum (missingSlots run.timeframe) (opensOf bars)
          (timeframeDelta run.timeframe * settings.barLookbackCount) run.observedEnd startAt
          (missingTotal incidents))
      (fun _ _ => True) := by
  induction fuel generalizing startAt with
  | zero =>
      refine ensures_pure (fun _ _ => ?_)
      intro incidents count ended
      split at ended
      next => cases ended
      next finished =>
        obtain ⟨rfl, -⟩ := Prod.mk.inj (Option.some.inj ended)
        obtain rfl : startAt = run.observedEnd := by omega
        exact .done
  | succ fuel induction =>
      unfold backfillLoop
      split
      next unfinished =>
        have bounds := advanceWindow_bounds lookback run.timeframe unfinished
        refine ensures_bind (ensures_tryCatch (ensures_backfillChunk_missing history startAt _)
          (fun problem => ensures_weaken (ensures_backfillFailed_raises startAt problem)
            (fun _ known => known) (fun _ _ impossible => impossible.elim)
            (fun _ _ known => known))) ?_
        rintro ⟨chunkIncidents, chunkCount⟩ world reported
        refine ensures_bind (induction bounds.2) ?_ world trivial
        intro rest
        refine ensures_pure (fun _ known => ?_)
        intro incidents count ended
        obtain ⟨⟨restIncidents, restCount⟩, rfl, same⟩ := Option.map_eq_some_iff.mp ended
        obtain ⟨rfl, -⟩ := Prod.mk.inj same
        rw [missingTotal_append]
        simp only at reported
        rw [reported]
        exact .piece unfinished (known restIncidents restCount rfl)
      next finished =>
        refine ensures_pure (fun _ _ => ?_)
        intro incidents count ended
        obtain ⟨rfl, -⟩ := Prod.mk.inj (Option.some.inj ended)
        obtain rfl : startAt = run.observedEnd := by omega
        exact .done

private theorem ensures_backfill_missing
    {timeframe : Timeframe} {startAt endAt : Int}
    (history : HistoryOf env settings canonicalSymbol timeframe bars)
    (lookback : 0 < settings.barLookbackCount) (fuel : Nat) (dryRun : Option Bool) :
    Ensures (NotBegun env timeframe startAt endAt)
      (backfill env settings fuel canonicalSymbol timeframe.value startAt endAt dryRun)
      (fun result _ => ∀ report, result = some report →
        PieceSum (missingSlots timeframe) (opensOf bars)
          (timeframeDelta timeframe * settings.barLookbackCount) endAt startAt
          (missingTotal report.qualityIncidents))
      (fun _ _ => True) := by
  intro world notBegun
  let store : Store := ⟨world.moment, world.tables, world.files⟩
  refine (?_ : Ensures (Stands store) _ _ _) world (at_self world)
  unfold backfill
  split
  next => exact ensures_throw (fun _ _ => trivial)
  next nonempty =>
    refine ensures_bind
      (ensures_ofExcept (fun _ _ parsed stands => ⟨parsed, stands⟩) (fun _ _ _ _ => trivial) :
        Ensures _ _ (fun timeframeValue world =>
          Timeframe.ofText timeframe.value = .ok timeframeValue ∧ Stands store world) _) ?_
    intro timeframeValue
    refine ensures_of_fact (fun parsed => ?_)
    obtain rfl := Timeframe.value_injective (value_of_ofText parsed)
    refine ensures_bind
      (ensures_weaken ensures_resolveSymbol (fun _ known => known) (fun _ _ known => known)
        (fun _ _ _ => trivial)) ?_
    intro resolved
    refine ensures_of_fact (fun resolves => ?_)
    refine ensures_bind
      (ensures_weaken ensures_query (fun _ known => known) (fun _ _ known => known)
        (fun _ _ _ => trivial)) ?_
    intro state
    refine ensures_of_fact (fun read => ?_)
    have fresh : state = none := read.trans (notBegun resolved.logicalSymbol)
    subst fresh
    have runHistory : RunHistory env ⟨resolved, timeframeValue, startAt, endAt,
        dryRun.getD settings.dryRunDefault⟩ bars := history resolved resolves.1 resolves.2
    refine ensures_bind
      (ensures_weaken (ensures_backfillLoop_missing runHistory lookback fuel
          (Int.le_of_lt (Int.not_le.mp nonempty))) (fun _ _ => trivial)
        (fun _ _ known => known) (fun _ _ known => known)) ?_
    intro done
    refine ensures_pure (fun _ known => ?_)
    intro report same
    obtain ⟨⟨incidents, count⟩, rfl, rfl⟩ := Option.map_eq_some_iff.mp same
    exact known incidents count rfl

end Backfills

/-- A backfill that began with the range, in chunks of a number of bars, returned
the report. -/
structure Backfilled (env : Environment) (settings : MarketDataSettings)
    (canonicalSymbol : String) (timeframe : Timeframe) (startAt endAt maxBars : Int)
    (report : BackfillReport) : Prop where
  chunked : 0 < maxBars
  returns : ∃ fuel dryRun before after, NotBegun env timeframe startAt endAt before ∧
    (backfill env { settings with barLookbackCount := maxBars } fuel canonicalSymbol
      timeframe.value startAt endAt dryRun).run before = .ok (some report) after

/-- What one call on the whole sorted range reports. -/
def wholeIncidents (readClock : String → Int) (symbol : ResolvedSymbol) (timeframe : Timeframe)
    (bars : List BarPayload) (startAt endAt : Int) : List QualityIncident :=
  detectMissingBars readClock (normalizeBarBatch readClock
    ((bars.filter (fun item => startAt ≤ item.openTime ∧ item.openTime ≤ endAt)).map (fun item =>
      barRecord symbol.logicalSymbol symbol.brokerSymbol timeframe item endAt))).1

section Reports

variable {env : Environment} {settings : MarketDataSettings} {canonicalSymbol : String}
  {timeframe : Timeframe} {bars : List BarPayload} {startAt endAt : Int}

theorem missingTotal_whole
    (readClock : String → Int) (symbol : ResolvedSymbol) (timeframe : Timeframe)
    (bars : List BarPayload) (startAt endAt : Int) :
    missingTotal (wholeIncidents readClock symbol timeframe bars startAt endAt) =
      gapSum (missingSlots timeframe) (within startAt endAt (opensOf bars)) :=
  missingTotal_batch (fun item => by simp) readClock _ _ _ _

/-- A backfill reports no more than the whole range has, and as much if and only
if the gaps around its boundaries have no weekday slot. -/
theorem Backfilled.missingTotal_iff
    (history : HistoryOf env settings canonicalSymbol timeframe bars) {maxBars : Int}
    {report : BackfillReport}
    (backfilled : Backfilled env settings canonicalSymbol timeframe startAt endAt maxBars report)
    (readClock : String → Int) (symbol : ResolvedSymbol) :
    missingTotal report.qualityIncidents ≤
        missingTotal (wholeIncidents readClock symbol timeframe bars startAt endAt) ∧
      (missingTotal report.qualityIncidents =
          missingTotal (wholeIncidents readClock symbol timeframe bars startAt endAt) ↔
        GapsKept bars timeframe startAt endAt maxBars) := by
  obtain ⟨chunked, fuel, dryRun, before, after, notBegun, ran⟩ := backfilled
  have reported := @ensures_backfill_missing env { settings with barLookbackCount := maxBars }
    canonicalSymbol bars timeframe startAt endAt history chunked fuel dryRun before notBegun
  rw [ran] at reported
  rw [missingTotal_whole, gapsKept_iff]
  exact (reported report rfl).eq_iff (opensOf_pairwise bars)
    (Int.mul_pos (timeframeDelta_pos timeframe) chunked)

/-- Two backfills of a range report as many missing bars as one another and as
the whole range has if and only if both keep the gaps around their boundaries. -/
theorem missingTotal_backfills_iff
    (history : HistoryOf env settings canonicalSymbol timeframe bars) {firstBars secondBars : Int}
    {first second : BackfillReport}
    (ranFirst : Backfilled env settings canonicalSymbol timeframe startAt endAt firstBars first)
    (ranSecond : Backfilled env settings canonicalSymbol timeframe startAt endAt secondBars second)
    (readClock : String → Int) (symbol : ResolvedSymbol) :
    missingTotal first.qualityIncidents = missingTotal second.qualityIncidents ∧
        missingTotal first.qualityIncidents =
          missingTotal (wholeIncidents readClock symbol timeframe bars startAt endAt) ↔
      GapsKept bars timeframe startAt endAt firstBars ∧
        GapsKept bars timeframe startAt endAt secondBars := by
  have firstIff := (ranFirst.missingTotal_iff history readClock symbol).2
  have secondIff := (ranSecond.missingTotal_iff history readClock symbol).2
  rw [← firstIff, ← secondIff]
  constructor
  · rintro ⟨same, whole⟩
    exact ⟨whole, same ▸ whole⟩
  · rintro ⟨firstWhole, secondWhole⟩
    exact ⟨firstWhole.trans secondWhole.symm, firstWhole⟩

end Reports

def minuteBars (minutes : List Int) : List BarPayload :=
  minutes.map (fun minute => goldBar (60 * minute))

theorem historyOf_gold (bars : List BarPayload) :
    HistoryOf (goldBroker (fun _ => []) bars) goldSettings "XAUUSD" .M1 bars := by
  intro symbol _ _ moment startAt endAt payload replied item
  obtain rfl := Option.some.inj (Except.ok.inj replied)
  simp

/-- The report about the first four minutes, in chunks of some minutes. -/
def fourMinutes (bars : List BarPayload) (maxBars : Int) : Option BackfillReport :=
  match (backfill (goldBroker (fun _ => []) bars)
    { goldSettings with barLookbackCount := maxBars } 5 "XAUUSD" "M1" 0 240000000
      (some true)).run freshWorld with
  | .ok report _ => report
  | .error _ _ => none

theorem backfilled_fourMinutes
    {bars : List BarPayload} {maxBars : Int} (chunked : 0 < maxBars) {report : BackfillReport}
    (returned : fourMinutes bars maxBars = some report) :
    Backfilled (goldBroker (fun _ => []) bars) goldSettings "XAUUSD" .M1 0 240000000 maxBars
      report := by
  refine ⟨chunked, 5, some true, freshWorld, ?_⟩
  unfold fourMinutes at returned
  split at returned
  next result after ran =>
    subst returned
    exact ⟨after, fun _ => rfl, ran⟩
  next => cases returned

private theorem openTime_goldBar (minute : Int) :
    (goldBar (60 * minute)).openTime = 60000000 * minute := by
  show 1000000 * (60 * minute) = 60000000 * minute
  omega

/-- A bar on the boundary of the chunks keeps the gap after it. -/
private theorem gapsKept_fourMinutes {maxBars : Int} (sizes : maxBars = 2 ∨ maxBars = 4) :
    GapsKept (minuteBars [0, 1, 2, 4]) .M1 0 240000000 maxBars := by
  intro first firstIn second secondIn after before apart chunk early late
  obtain ⟨opening, -, rfl⟩ := List.mem_map.mp firstIn
  obtain ⟨closing, -, rfl⟩ := List.mem_map.mp secondIn
  have middle := apart (goldBar (60 * 2)) (List.mem_map_of_mem (by simp))
  have width : timeframeDelta .M1 = 60000000 := by decide
  rw [width] at early late
  simp only [openTime_goldBar] at after before middle early late
  rcases sizes with rfl | rfl <;> omega

/-- One missing minute, which chunks of two and of four minutes report. -/
theorem fourMinutes_agree :
    ∃ first second, fourMinutes (minuteBars [0, 1, 2, 4]) 2 = some first ∧
      fourMinutes (minuteBars [0, 1, 2, 4]) 4 = some second ∧
        missingTotal first.qualityIncidents = missingTotal second.qualityIncidents := by
  obtain ⟨first, ranFirst⟩ := Option.isSome_iff_exists.mp
    (by decide +kernel : (fourMinutes (minuteBars [0, 1, 2, 4]) 2).isSome = true)
  obtain ⟨second, ranSecond⟩ := Option.isSome_iff_exists.mp
    (by decide +kernel : (fourMinutes (minuteBars [0, 1, 2, 4]) 4).isSome = true)
  have counted := (missingTotal_backfills_iff (historyOf_gold _)
    (backfilled_fourMinutes (by decide) ranFirst) (backfilled_fourMinutes (by decide) ranSecond)
    (fun _ => 0) goldSymbol).mpr ⟨gapsKept_fourMinutes (.inl rfl), gapsKept_fourMinutes (.inr rfl)⟩
  exact ⟨first, second, ranFirst, ranSecond, counted.1⟩

/-- A missing minute on the boundary of two chunks is reported by neither. -/
theorem boundary_gap_lost :
    ¬∀ (env : Environment) (settings : MarketDataSettings) (canonicalSymbol : String)
      (timeframe : Timeframe) (bars : List BarPayload) (startAt endAt firstBars secondBars : Int)
      (first second : BackfillReport) (readClock : String → Int) (symbol : ResolvedSymbol),
      HistoryOf env settings canonicalSymbol timeframe bars →
        (∀ item ∈ bars, timeframeDelta timeframe ∣ item.openTime) →
          timeframeDelta timeframe ∣ startAt → timeframeDelta timeframe ∣ endAt →
            Backfilled env settings canonicalSymbol timeframe startAt endAt firstBars first →
              Backfilled env settings canonicalSymbol timeframe startAt endAt secondBars second →
                missingTotal first.qualityIncidents = missingTotal second.qualityIncidents ∧
                  missingTotal first.qualityIncidents = missingTotal
                    (wholeIncidents readClock symbol timeframe bars startAt endAt) := by
  intro independent
  obtain ⟨first, ranFirst, none⟩ := Option.map_eq_some_iff.mp
    (by decide +kernel : (fourMinutes (minuteBars [0, 1, 3, 4]) 2).map
      (fun report => missingTotal report.qualityIncidents) = some 0)
  obtain ⟨second, ranSecond, one⟩ := Option.map_eq_some_iff.mp
    (by decide +kernel : (fourMinutes (minuteBars [0, 1, 3, 4]) 4).map
      (fun report => missingTotal report.qualityIncidents) = some 1)
  have onGrid : ∀ item ∈ minuteBars [0, 1, 3, 4], timeframeDelta .M1 ∣ item.openTime := by
    intro item member
    obtain ⟨minute, -, rfl⟩ := List.mem_map.mp member
    rw [openTime_goldBar]
    exact Int.dvd_mul_right _ _
  have same := (independent _ _ _ _ _ _ _ _ _ first second (fun _ => 0) goldSymbol
    (historyOf_gold _) onGrid (by decide) (by decide)
    (backfilled_fourMinutes (by decide) ranFirst)
    (backfilled_fourMinutes (by decide) ranSecond)).1
  rw [none, one] at same
  cases same

end SuperAdvisor.MarketData
