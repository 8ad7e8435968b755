import SuperAdvisor.Foundation.OrderedDict
import SuperAdvisor.Foundation.SortedDistinct
import SuperAdvisor.MarketData.Records

/-!
# Quality controls

A batch of records is sorted and its repeats are dropped; what is wrong with it
becomes incidents.  An incident without a time of its own carries the clock
reading made for it: `readClock` gives that reading by the key of the incident.
-/

namespace SuperAdvisor.MarketData

open Python

def incident (readClock : String → Int) (eventKind logicalSymbol : String)
    (timeframe : Option Timeframe) (detail uniqueSuffix : String) : QualityIncident :=
  let incidentKey := eventKind ++ ":" ++ logicalSymbol ++ ":" ++
    (timeframe.map Timeframe.value).getD "tick" ++ ":" ++ uniqueSuffix
  { eventKind := eventKind
    logicalSymbol := logicalSymbol
    timeframe := timeframe
    detail := detail
    observedAtUtc := readClock incidentKey
    incidentKey := incidentKey }

/-- Some item stands before one with a smaller key. -/
def outOfOrder {α : Type} (key : α → Int) (items : List α) : Bool :=
  (items.zip items.tail).any (fun pair => key pair.2 < key pair.1)

/-- The times at which ticks with different ids stand. -/
def tickCollisions (records : List TickRecord) : List Int :=
  (records.map TickRecord.marketTimeMsc).dedup.filter (fun time =>
    1 < ((records.filter (fun item => item.marketTimeMsc = time)).map
      TickRecord.sequenceId).dedup.length)

/-- Sorting and dropping repeats, with the incidents of a disordered batch and
of dropped rows. -/
def normalizeTickBatch (readClock : String → Int) (records : List TickRecord) :
    List TickRecord × List QualityIncident :=
  match records with
  | [] => ([], [])
  | first :: _ =>
      let collisions := tickCollisions records
      let deduped := dropRepeats TickRecord.sequenceId []
        (sortedBy TickRecord.marketTimeMsc records)
      (deduped.1,
        (if outOfOrder TickRecord.marketTimeMsc records then
          [incident readClock "out_of_order_ticks" first.logicalSymbol none
            "tick records arrived out of order and were normalized" "batch"] else []) ++
        (if !collisions.isEmpty then
          [incident readClock "tick_time_collision" first.logicalSymbol none
            ("detected " ++ intText collisions.length ++
              " timestamps with differing tick payloads")
            (intText (collisions.min?.getD 0))] else []) ++
        (if deduped.2 ≠ 0 then
          [incident readClock "duplicate_ticks" first.logicalSymbol none
            ("removed " ++ intText deduped.2 ++ " duplicate tick rows") "batch"] else []))

def normalizeBarBatch (readClock : String → Int) (records : List BarRecord) :
    List BarRecord × List QualityIncident :=
  match records with
  | [] => ([], [])
  | first :: _ =>
      let deduped := dropRepeats BarRecord.barId [] (sortedBy BarRecord.openTimeUtc records)
      (deduped.1,
        (if outOfOrder BarRecord.openTimeUtc records then
          [incident readClock "out_of_order_bars" first.logicalSymbol (some first.timeframe)
            "bar records arrived out of order and were normalized" "batch"] else []) ++
        (if deduped.2 ≠ 0 then
          [incident readClock "duplicate_bars" first.logicalSymbol (some first.timeframe)
            ("removed " ++ intText deduped.2 ++ " duplicate bar rows") "batch"] else []))

theorem normalizeTickBatch_fst (readClock : String → Int) (records : List TickRecord) :
    (normalizeTickBatch readClock records).1 =
      sortedDistinct TickRecord.marketTimeMsc TickRecord.sequenceId records := by
  cases records <;> rfl

theorem normalizeBarBatch_fst (readClock : String → Int) (records : List BarRecord) :
    (normalizeBarBatch readClock records).1 =
      sortedDistinct BarRecord.openTimeUtc BarRecord.barId records := by
  cases records <;> rfl

/-- Rows of `latest_bars` by symbol and timeframe. -/
abbrev BarRows := List ((String × Timeframe) × BarRecord)

def BarRecord.rowKey (record : BarRecord) : String × Timeframe :=
  (record.logicalSymbol, record.timeframe)

/-- The last forming and the last closed bar of each symbol and timeframe. -/
def splitCurrentAndClosedBars (records : List BarRecord) (asOfUtc : Int) :
    BarRows × BarRows :=
  records.foldl (fun rows record =>
    if record.closeTimeUtc ≤ asOfUtc then
      (rows.1, OrderedDict.set rows.2 record.rowKey record)
    else (OrderedDict.set rows.1 record.rowKey record, rows.2)) ([], [])

/-- The weekday times from a candidate on before a limit; the fuel is enough
when it is at least the distance. -/
def countWeekdays (gap limit : Int) : (fuel : Nat) → (candidate : Int) → Nat
  | 0, _ => 0
  | fuel + 1, candidate =>
      if candidate < limit then
        (if weekday candidate < 5 then 1 else 0) +
          countWeekdays gap limit fuel (candidate + gap)
      else 0

def missingBetween (gap : Int) (previous current : BarRecord) : Nat :=
  let candidate := previous.openTimeUtc + gap
  countWeekdays gap current.openTimeUtc (current.openTimeUtc - candidate).toNat candidate

def detectMissingBars (readClock : String → Int) (records : List BarRecord) :
    List QualityIncident :=
  match records with
  | [] => []
  | first :: rest =>
      let expectedGap := timeframeDelta first.timeframe
      ((first :: rest).zip rest).filterMap (fun pair =>
        if pair.2.openTimeUtc - pair.1.openTimeUtc ≤ expectedGap then none
        else
          let missing := missingBetween expectedGap pair.1 pair.2
          if missing ≠ 0 then
            some (incident readClock "missing_bars" pair.2.logicalSymbol
              (some pair.2.timeframe)
              ("detected " ++ intText missing ++ " missing " ++ pair.2.timeframe.value ++
                " bars") pair.2.barId)
          else none)

/-- The values a closed bar must keep. -/
def BarRecord.values (record : BarRecord) : List Rat × List Int :=
  ([record.openPrice, record.highPrice, record.lowPrice, record.closePrice],
    [record.tickVolume, record.realVolume, record.spread])

def detectClosedBarMutation (readClock : String → Int)
    (previousClosed latestClosed : Option BarRecord) : List QualityIncident :=
  match previousClosed, latestClosed with
  | some previousClosed, some latestClosed =>
      if previousClosed.barId ≠ latestClosed.barId then []
      else if previousClosed.values = latestClosed.values then []
      else
        [incident readClock "closed_bar_mutation" latestClosed.logicalSymbol
          (some latestClosed.timeframe)
          "closed bar changed after it had already been persisted" latestClosed.barId]
  | _, _ => []

/-- `max(items, key=key)`: the first of the greatest. -/
def maxBy {α : Type} (key : α → Int) : List α → Option α
  | [] => none
  | item :: items =>
      some (items.foldl (fun best other => if key best < key other then other else best) item)

structure Freshness where
  ticks : String := "unknown"
  bars : String := "unknown"
  deriving DecidableEq

/-- A record older than a threshold is stale; on a weekday it is an incident. -/
def classifyFreshness (nowUtc : Int) (ticks : List TickRecord) (bars : List BarRecord)
    (freshnessThresholdSeconds : Int) : Freshness × List QualityIncident :=
  let status := fun (age threshold : Int) =>
    if age ≤ ofSeconds threshold then "fresh" else "stale"
  let reported := fun (stale : String) (made : QualityIncident) =>
    if stale = "stale" ∧ weekday nowUtc < 5 then [made] else []
  let ticksPart :=
    match maxBy TickRecord.marketTimeMsc ticks with
    | none => ("unknown", [])
    | some latest =>
        let found := status (nowUtc - latest.marketTimeUtc) freshnessThresholdSeconds
        (found, reported found (incident (fun _ => nowUtc) "stale_tick" latest.logicalSymbol none
          ("latest tick is older than " ++ intText freshnessThresholdSeconds ++ " seconds")
          latest.sequenceId))
  let barsPart :=
    match maxBy BarRecord.openTimeUtc bars with
    | none => ("unknown", [])
    | some latest =>
        let threshold :=
          max freshnessThresholdSeconds (timeframeSeconds latest.timeframe * 2)
        let found := status (nowUtc - latest.openTimeUtc) threshold
        (found, reported found (incident (fun _ => nowUtc) "stale_bar" latest.logicalSymbol
          (some latest.timeframe)
          ("latest bar is older than " ++ intText threshold ++ " seconds") latest.barId))
  ({ ticks := ticksPart.1, bars := barsPart.1 }, ticksPart.2 ++ barsPart.2)

end SuperAdvisor.MarketData
