import SuperAdvisor.MarketData.Calls

/-!
# Coherence of the latest bars

A cycle tells closed bars from forming ones by the time of the cycle, a
backfill by the end of its last bar, and both leave alone a row that they have
nothing for.  The rows agree as long as no backfill reads a bar that its chunk
ends in and no cycle leaves a stale row behind.
-/

namespace SuperAdvisor.MarketData

open Raising Service

/-- A bar that the broker answers with for a symbol and a timeframe. -/
def BrokerBar (env : Environment) (settings : MarketDataSettings)
    (key : String × Timeframe) (item : BarPayload) : Prop :=
  ∃ symbol, Resolves env settings symbol ∧ symbol.logicalSymbol = key.1 ∧
    ∃ moment startAt endAt payload,
      env.copyRatesRange moment symbol.brokerSymbol (mt5TimeframeMap key.2) startAt endAt =
        .ok (some payload) ∧ item ∈ payload

/-- Two bars of one stream open at the same time or lie apart. -/
def NonOverlapping (env : Environment) (settings : MarketDataSettings) : Prop :=
  ∀ key first second, BrokerBar env settings key first → BrokerBar env settings key second →
    first.openTime = second.openTime ∨ first.closeTime key.2 ≤ second.openTime ∨
      second.closeTime key.2 ≤ first.openTime

structure Coherent (tables : Tables) : Prop where
  closed : ∀ logicalSymbol timeframe row,
    tables.getLatestBar ⟨logicalSymbol, timeframe, .closed⟩ = some row → row.isClosed = true
  current : ∀ logicalSymbol timeframe row,
    tables.getLatestBar ⟨logicalSymbol, timeframe, .current⟩ = some row → row.isClosed = false
  ordered : ∀ logicalSymbol timeframe closed current,
    tables.getLatestBar ⟨logicalSymbol, timeframe, .closed⟩ = some closed →
      tables.getLatestBar ⟨logicalSymbol, timeframe, .current⟩ = some current →
        closed.closeTimeUtc ≤ current.openTimeUtc

/-- A reply of the broker in a cycle has the bar. -/
def SymbolCycle.Replied (cycle : SymbolCycle) (timeframe : Timeframe) (item : BarPayload) :
    Prop :=
  ∃ load ∈ cycle.barLoads, load.timeframe = timeframe ∧ item ∈ load.payload

/-- A cycle that sees closed bars only finds them before the stored current bar,
one that sees forming bars only comes after the end of the stored closed bar,
and the bars of a chunk end with the chunk and before the stored current bar. -/
def KeepsCoherent (store : Store) : StoreEvent → Prop
  | .cycle symbol observedNow cycle _ => ∀ timeframe,
      ((∀ item, cycle.Replied timeframe item → item.closeTime timeframe ≤ observedNow) →
        ∀ item, cycle.Replied timeframe item → ∀ current,
          store.tables.getLatestBar ⟨symbol.logicalSymbol, timeframe, .current⟩ =
              some current →
            item.closeTime timeframe ≤ current.openTimeUtc) ∧
      ((∀ item, cycle.Replied timeframe item → observedNow < item.closeTime timeframe) →
        ∀ item, cycle.Replied timeframe item → ∀ closed,
          store.tables.getLatestBar ⟨symbol.logicalSymbol, timeframe, .closed⟩ =
              some closed →
            closed.closeTimeUtc ≤ observedNow)
  | .chunk run load chunkEnd => ∀ item ∈ load.payload,
      item.closeTime run.timeframe ≤ chunkEnd ∧
        ∀ current,
          store.tables.getLatestBar ⟨run.resolved.logicalSymbol, run.timeframe, .current⟩ =
              some current →
            item.closeTime run.timeframe ≤ current.openTimeUtc
  | _ => True

section Steps

variable {env : Environment} {settings : MarketDataSettings}

/-- The record of a bar of the broker. -/
def RowOf (env : Environment) (settings : MarketDataSettings) (key : String × Timeframe)
    (asOfUtc : Int) (row : BarRecord) : Prop :=
  ∃ item brokerSymbol, BrokerBar env settings key item ∧
    row = barRecord key.1 brokerSymbol key.2 item asOfUtc

/-- The rows of the tables are coherent and come from the broker. -/
structure CoherentRows (env : Environment) (settings : MarketDataSettings) (tables : Tables) :
    Prop where
  coherent : Coherent tables
  rows : ∀ (key : String × Timeframe) barKind row,
    tables.getLatestBar ⟨key.1, key.2, barKind⟩ = some row →
      ∃ asOfUtc, RowOf env settings key asOfUtc row

theorem CoherentRows.congr
    {tables other : Tables} (before : CoherentRows env settings tables)
    (same : other.latestBars = tables.latestBars) : CoherentRows env settings other := by
  have lookup : ∀ key, other.getLatestBar key = tables.getLatestBar key :=
    fun key => congrArg (OrderedDict.get? · key) same
  obtain ⟨⟨closed, current, ordered⟩, rows⟩ := before
  simp only [← lookup] at closed current ordered rows
  exact ⟨⟨closed, current, ordered⟩, rows⟩

theorem RowOf.isClosed_iff
    {key : String × Timeframe} {asOfUtc : Int} {row : BarRecord}
    (rowOf : RowOf env settings key asOfUtc row) :
    row.isClosed = true ↔ row.closeTimeUtc ≤ asOfUtc := by
  obtain ⟨item, brokerSymbol, -, rfl⟩ := rowOf
  simp [barRecord]

/-- A bar that closes before another one does opens before the other one opens. -/
theorem closes_before_open
    (apart : NonOverlapping env settings) {key : String × Timeframe} {early late : Int}
    {first second : BarRecord} (firstRow : RowOf env settings key early first)
    (secondRow : RowOf env settings key late second)
    (before : first.closeTimeUtc < second.closeTimeUtc) :
    first.closeTimeUtc ≤ second.openTimeUtc := by
  obtain ⟨item, brokerSymbol, known, rfl⟩ := firstRow
  obtain ⟨other, otherSymbol, otherKnown, rfl⟩ := secondRow
  have positive := timeframeDelta_pos key.2
  have places := apart key item other known otherKnown
  simp only [barRecord, BarPayload.closeTime] at before places ⊢
  omega

/-- The bars of a reading are rows of the stream that is read. -/
theorem rowOf_of_bar
    {symbol : ResolvedSymbol} (resolved : Resolves env settings symbol) {load : BarLoad}
    {endAt asOfUtc : Int} {earliest : Nat}
    (answers : load.Answers env symbol endAt asOfUtc earliest) {row : BarRecord}
    (member : row ∈ load.bars) :
    row.rowKey = (symbol.logicalSymbol, load.timeframe) ∧
      RowOf env settings (symbol.logicalSymbol, load.timeframe) asOfUtc row ∧
      ∃ item ∈ load.payload, row.closeTimeUtc = item.closeTime load.timeframe := by
  obtain ⟨item, inside, rfl⟩ := answers.exists_payload member
  exact ⟨rfl, ⟨item, _, ⟨symbol, resolved, rfl, _, _, _, _, answers.payload, inside⟩, rfl⟩,
    item, inside, rfl⟩

/-- Every bar of a reply has a row with its end. -/
theorem exists_bar_of_item
    {symbol : ResolvedSymbol} {load : BarLoad} {endAt asOfUtc : Int} {earliest : Nat}
    (answers : load.Answers env symbol endAt asOfUtc earliest) {item : BarPayload}
    (member : item ∈ load.payload) :
    ∃ row ∈ load.bars, row.rowKey = (symbol.logicalSymbol, load.timeframe) ∧
      row.closeTimeUtc = item.closeTime load.timeframe := by
  obtain ⟨row, inside, sameId⟩ := answers.exists_record member
  refine ⟨row, inside, ?_⟩
  obtain ⟨other, -, rfl⟩ := answers.exists_payload inside
  have sameOpen := openTime_of_barId sameId
  exact ⟨rfl, by simp [barRecord, BarPayload.closeTime, sameOpen]⟩

section Cycle

variable {tables : Tables} {earliest : Nat} {symbol : ResolvedSymbol} {observedNow : Int}
  {cycle : SymbolCycle} {keep : BarRecord → Bool} {key : String × Timeframe}

/-- A row that a cycle leaves comes from a reply to it. -/
private theorem replied_of_lastGathered
    (resolved : Resolves env settings symbol)
    (describes : cycle.Describes env settings symbol observedNow tables earliest)
    {row : BarRecord}
    (found : Tables.lastUnder key (gatherRows keep cycle.barLoads) = some row) :
    key.1 = symbol.logicalSymbol ∧ keep row = true ∧ RowOf env settings key observedNow row ∧
      ∃ item, cycle.Replied key.2 item ∧ row.closeTimeUtc = item.closeTime key.2 := by
  obtain ⟨sameKey, kept, load, inside, member⟩ := mem_of_lastGathered found
  obtain ⟨loadKey, rowOf, item, replied, ends⟩ :=
    rowOf_of_bar resolved (describes.bars load inside) member
  obtain rfl := sameKey.symm.trans loadKey
  exact ⟨rfl, kept, rowOf, item, ⟨load, inside, rfl, replied⟩, ends⟩

/-- A cycle that leaves no row of a kind was answered with no bar of it. -/
private theorem not_kept_of_replied
    (describes : cycle.Describes env settings symbol observedNow tables earliest)
    (sameSymbol : key.1 = symbol.logicalSymbol)
    (absent : Tables.lastUnder key (gatherRows keep cycle.barLoads) = none)
    {item : BarPayload} (replied : cycle.Replied key.2 item) :
    ∃ row, row.closeTimeUtc = item.closeTime key.2 ∧ keep row = false := by
  obtain ⟨load, inside, sameTimeframe, member⟩ := replied
  obtain ⟨row, here, rowKey, ends⟩ := exists_bar_of_item (describes.bars load inside) member
  refine ⟨row, sameTimeframe ▸ ends, ?_⟩
  by_contra kept
  refine lastGathered_ne_none inside here (by simpa using kept) ?_
  rw [rowKey, sameTimeframe, ← sameSymbol]
  exact absent

private theorem coherentRows_cycle
    (apart : NonOverlapping env settings) {store : Store} {incidents : List QualityIncident}
    (resolved : Resolves env settings symbol)
    (describes : cycle.Describes env settings symbol observedNow store.tables store.moment)
    (guard : KeepsCoherent store (.cycle symbol observedNow cycle incidents))
    (before : CoherentRows env settings store.tables) :
    CoherentRows env settings (committedTables store.tables symbol cycle.ticks
      (cycle.currentRows observedNow) (cycle.closedRows observedNow) incidents
      observedNow) := by
  have latest := getLatestBar_committedTables store.tables symbol cycle.ticks
    (cycle.currentRows observedNow) (cycle.closedRows observedNow) incidents observedNow
  refine ⟨⟨?_, ?_, ?_⟩, ?_⟩
  · intro logicalSymbol timeframe row found
    rcases Option.or_eq_some_iff.mp ((latest (logicalSymbol, timeframe) .closed).symm.trans found)
      with fresh | ⟨-, old⟩
    · obtain ⟨-, kept, rowOf, -⟩ := replied_of_lastGathered resolved describes fresh
      exact rowOf.isClosed_iff.mpr (by simpa [hasClosed] using kept)
    · exact before.coherent.closed _ _ _ old
  · intro logicalSymbol timeframe row found
    rcases Option.or_eq_some_iff.mp
        ((latest (logicalSymbol, timeframe) .current).symm.trans found) with fresh | ⟨-, old⟩
    · obtain ⟨-, kept, rowOf, -⟩ := replied_of_lastGathered resolved describes fresh
      have later : observedNow < row.closeTimeUtc := by simpa [isForming] using kept
      exact Bool.eq_false_iff.mpr (fun ended => by have := rowOf.isClosed_iff.mp ended; omega)
    · exact before.coherent.current _ _ _ old
  · intro logicalSymbol timeframe closed current foundClosed foundCurrent
    rcases Option.or_eq_some_iff.mp
        ((latest (logicalSymbol, timeframe) .closed).symm.trans foundClosed) with
      newClosed | ⟨noClosed, oldClosed⟩
    · obtain ⟨sameSymbol, ended, closedRow, item, replied, ends⟩ :=
        replied_of_lastGathered resolved describes newClosed
      have closes : closed.closeTimeUtc ≤ observedNow := by simpa [hasClosed] using ended
      rcases Option.or_eq_some_iff.mp
          ((latest (logicalSymbol, timeframe) .current).symm.trans foundCurrent) with
        newCurrent | ⟨noCurrent, oldCurrent⟩
      · obtain ⟨-, forming, currentRow, -⟩ :=
          replied_of_lastGathered resolved describes newCurrent
        have later : observedNow < current.closeTimeUtc := by simpa [isForming] using forming
        exact closes_before_open apart closedRow currentRow (by omega)
      · -- only closed bars were seen
        rw [ends]
        refine (guard timeframe).1 ?_ item replied current (sameSymbol ▸ oldCurrent)
        intro other otherReplied
        obtain ⟨row, rowEnds, notKept⟩ :=
          not_kept_of_replied describes sameSymbol noCurrent otherReplied
        rw [← rowEnds]
        simpa [isForming] using notKept
    · rcases Option.or_eq_some_iff.mp
          ((latest (logicalSymbol, timeframe) .current).symm.trans foundCurrent) with
        newCurrent | ⟨-, oldCurrent⟩
      · obtain ⟨sameSymbol, forming, currentRow, item, replied, -⟩ :=
          replied_of_lastGathered resolved describes newCurrent
        have later : observedNow < current.closeTimeUtc := by simpa [isForming] using forming
        -- only forming bars were seen
        have closes : closed.closeTimeUtc ≤ observedNow := by
          refine (guard timeframe).2 ?_ item replied closed (sameSymbol ▸ oldClosed)
          intro other otherReplied
          obtain ⟨row, rowEnds, notKept⟩ :=
            not_kept_of_replied describes sameSymbol noClosed otherReplied
          rw [← rowEnds]
          simpa [hasClosed] using notKept
        obtain ⟨asOfUtc, closedRow⟩ := before.rows (logicalSymbol, timeframe) _ _ oldClosed
        exact closes_before_open apart closedRow currentRow (by omega)
      · exact before.coherent.ordered _ _ _ _ oldClosed oldCurrent
  · intro key barKind row found
    rcases Option.or_eq_some_iff.mp ((latest key barKind).symm.trans found) with
      fresh | ⟨-, old⟩
    · cases barKind with
      | current =>
          obtain ⟨-, -, rowOf, -⟩ := replied_of_lastGathered resolved describes fresh
          exact ⟨_, rowOf⟩
      | closed =>
          obtain ⟨-, -, rowOf, -⟩ := replied_of_lastGathered resolved describes fresh
          exact ⟨_, rowOf⟩
    · exact before.rows key barKind row old

end Cycle

section Chunk

variable {tables : Tables} {run : BackfillRun} {load : BarLoad} {chunkEnd : Int}

/-- A row that a chunk leaves is a closed one. -/
private theorem mem_of_lastChunkRow
    (chunk : ChunkOf env settings tables run load chunkEnd) {last : BarRecord}
    (found : load.bars.getLast? = some last) {key : String × Timeframe} {barKind : BarKind}
    {row : BarRecord}
    (left : Tables.lastUnder key (barKind.rowsOf
      (chunkRows run.resolved.logicalSymbol run.timeframe load.bars last).1
      (chunkRows run.resolved.logicalSymbol run.timeframe load.bars last).2) = some row) :
    barKind = .closed ∧ row.rowKey = key ∧ row ∈ load.bars := by
  obtain ⟨sameKey, selected, member, rfl⟩ := Tables.mem_of_lastUnder left
  cases barKind with
  | current =>
      rw [BarKind.rowsOf, chunk.currentRows_eq_nil found] at member
      cases member
  | closed => exact ⟨rfl, sameKey, mem_bars_of_chunkRows member⟩

private theorem coherentRows_chunk
    {store : Store} {committed : Tables}
    (chunk : ChunkOf env settings store.tables run load chunkEnd)
    (changed : ChunkCommitted store.tables run.resolved.logicalSymbol run.timeframe load.bars
      committed)
    (guard : KeepsCoherent store (.chunk run load chunkEnd))
    (before : CoherentRows env settings store.tables) : CoherentRows env settings committed := by
  unfold ChunkCommitted at changed
  split at changed
  next => exact changed ▸ before
  next last found =>
    obtain ⟨incidents, rfl⟩ := changed
    have latest : ∀ (key : String × Timeframe) barKind row,
        (incidents.foldl Tables.recordIncident (store.tables.replaceRows
            (chunkRows run.resolved.logicalSymbol run.timeframe load.bars last).1
            (chunkRows run.resolved.logicalSymbol run.timeframe load.bars last).2)).getLatestBar
          ⟨key.1, key.2, barKind⟩ = some row →
        (barKind = .closed ∧ key = (run.resolved.logicalSymbol, run.timeframe) ∧
          RowOf env settings key chunkEnd row ∧
          ∃ item ∈ load.payload, row.closeTimeUtc = item.closeTime run.timeframe) ∨
        store.tables.getLatestBar ⟨key.1, key.2, barKind⟩ = some row := by
      intro key barKind row here
      unfold Tables.getLatestBar at here
      rw [Tables.recordIncidents_latestBars] at here
      rcases Option.or_eq_some_iff.mp
          ((Tables.getLatestBar_replaceRows _ _ _ key barKind).symm.trans here) with
        fresh | ⟨-, old⟩
      · obtain ⟨kind, sameKey, member⟩ := mem_of_lastChunkRow chunk found fresh
        obtain ⟨loadKey, rowOf, replied⟩ := rowOf_of_bar chunk.resolved chunk.answers member
        rw [chunk.timeframe] at loadKey rowOf replied
        obtain rfl := sameKey.symm.trans loadKey
        exact .inl ⟨kind, rfl, rowOf, replied⟩
      · exact .inr old
    refine ⟨⟨?_, ?_, ?_⟩, ?_⟩
    · intro logicalSymbol timeframe row here
      rcases latest (logicalSymbol, timeframe) .closed row here with
        ⟨-, -, rowOf, item, replied, ends⟩ | old
      · exact rowOf.isClosed_iff.mpr (ends ▸ (guard item replied).1)
      · exact before.coherent.closed _ _ _ old
    · intro logicalSymbol timeframe row here
      rcases latest (logicalSymbol, timeframe) .current row here with ⟨other, -⟩ | old
      · cases other
      · exact before.coherent.current _ _ _ old
    · intro logicalSymbol timeframe closed current hereClosed hereCurrent
      rcases latest (logicalSymbol, timeframe) .current current hereCurrent with
        ⟨other, -⟩ | oldCurrent
      · cases other
      · rcases latest (logicalSymbol, timeframe) .closed closed hereClosed with
          ⟨-, sameKey, -, item, replied, ends⟩ | oldClosed
        · obtain ⟨rfl, rfl⟩ := Prod.mk.inj sameKey
          exact ends ▸ (guard item replied).2 current oldCurrent
        · exact before.coherent.ordered _ _ _ _ oldClosed oldCurrent
    · intro key barKind row here
      rcases latest key barKind row here with ⟨-, -, rowOf, -⟩ | old
      · exact ⟨_, rowOf⟩
      · exact before.rows key barKind row old

end Chunk

theorem coherentRows_step
    (apart : NonOverlapping env settings) {store after : Store} {event : StoreEvent}
    (step : StoreStep env settings store event after) (guard : KeepsCoherent store event)
    (before : CoherentRows env settings store.tables) :
    CoherentRows env settings after.tables := by
  cases step with
  | cycle resolved describes => exact coherentRows_cycle apart resolved describes guard before
  | chunk chunk changed => exact coherentRows_chunk chunk changed guard before
  | wrote => exact before
  | heartbeat | progressed | failed => exact before.congr rfl

end Steps

/-- Every sequence of calls is a run of steps, and a run whose steps keep the
rows coherent ends with coherent rows. -/
theorem latestBars_coherent
    (env : Environment) (settings : MarketDataSettings) (apart : NonOverlapping env settings)
    (fuel : Nat) (calls : List Call) :
    Moved env settings freshStore (runCalls env settings fuel calls freshWorld) ∧
      ∀ events after, GuardedRun env settings KeepsCoherent freshStore events after →
        Stands after (runCalls env settings fuel calls freshWorld) →
          Coherent (runCalls env settings fuel calls freshWorld).tables := by
  refine ⟨moved_of_calls fuel calls stands_fresh, ?_⟩
  intro events after run stands
  have rows := run.invariant (fun store => CoherentRows env settings store.tables)
    (fun _ _ _ step guard before => coherentRows_step apart step guard before)
    ⟨⟨by intros; contradiction, by intros; contradiction, by intros; contradiction⟩,
      by intros; contradiction⟩
  rw [stands.tables]
  exact rows.coherent

/-- A single bar overlaps with no other one. -/
theorem nonOverlapping_gold (ticks : Nat → List TickPayload) (bar : BarPayload) :
    NonOverlapping (goldBroker ticks [bar]) goldSettings := by
  have only : ∀ key item, BrokerBar (goldBroker ticks [bar]) goldSettings key item →
      item = bar := by
    rintro key item ⟨symbol, -, -, moment, startAt, endAt, payload, replied, member⟩
    obtain rfl := Option.some.inj (Except.ok.inj replied)
    exact List.mem_singleton.mp (List.mem_filter.mp member).1
  intro key first second known otherKnown
  exact .inl (by rw [only key first known, only key second otherKnown])

/-- A cycle that sees the bar of the second minute while it forms. -/
def goldCycle : SymbolCycle :=
  { tickLoad :=
      { rangeMoment := 0
        newestMoment := 1
        range := []
        newest := none
        records := []
        readClock := fun _ => 0 }
    barLoads :=
      [{ timeframe := .M1
         startAt := 30000000
         moment := 0
         payload := [goldBar 60]
         records := [barRecord "XAUUSD" "XAUUSD" .M1 (goldBar 60) 90000000]
         readClock := fun _ => 0 }] }

theorem goldCycle_describes :
    goldCycle.Describes (goldBroker (fun _ => []) [goldBar 60]) goldSettings goldSymbol 90000000
      freshStore.tables freshStore.moment :=
  { ticks := ⟨by decide, by decide, rfl, rfl, .nil⟩
    timeframes := rfl
    starts := by simp [goldCycle]; decide +kernel
    bars := by
      simp only [goldCycle, List.mem_singleton, forall_eq]
      exact ⟨by decide, by decide +kernel, rfl⟩ }

theorem goldCollection_coherent :
    Coherent (runCalls (goldBroker (fun _ => []) [goldBar 60]) goldSettings 1
      [.collectOnce none (some 90000000) none] freshWorld).tables := by
  obtain ⟨-, coherent⟩ := latestBars_coherent _ _
    (nonOverlapping_gold (fun _ => []) (goldBar 60)) 1 [.collectOnce none (some 90000000) none]
  have resolved := resolves_gold (fun _ => []) [goldBar 60]
  have guard : KeepsCoherent freshStore (.cycle goldSymbol 90000000 goldCycle []) :=
    fun timeframe => ⟨by intros; contradiction, by intros; contradiction⟩
  have cycled : GuardedRun _ goldSettings KeepsCoherent freshStore _ _ :=
    .step .start guard (.cycle resolved goldCycle_describes)
  have still : ∀ store, KeepsCoherent store (.heartbeat (goldHeartbeat 0 1 0 90000000)) := fun _ => trivial
  exact coherent _ _ (.step cycled (still _) .heartbeat)
    ⟨by decide +kernel, by decide +kernel, by decide +kernel⟩

/-- A bar that opens at the end of a chunk is stored as closed, and a bar that
has closed stays behind as the current one. -/
theorem goldBackfill_incoherent :
    NonOverlapping (goldBroker (fun _ => []) [goldBar 60]) goldSettings ∧
      ¬Coherent (runCalls (goldBroker (fun _ => []) [goldBar 60]) goldSettings 1
        [.backfill "XAUUSD" "M1" 0 60000000 none] freshWorld).tables ∧
      ¬Coherent (runCalls (goldBroker (fun _ => []) [goldBar 60]) goldSettings 1
        [.collectOnce none (some 90000000) none, .collectOnce none (some 200000000) none]
        freshWorld).tables := by
  refine ⟨nonOverlapping_gold _ _, ?_, ?_⟩
  · intro coherent
    obtain ⟨row, found, forming⟩ := Option.map_eq_some_iff.mp
      (show ((runCalls (goldBroker (fun _ => []) [goldBar 60]) goldSettings 1
          [.backfill "XAUUSD" "M1" 0 60000000 none] freshWorld).tables.getLatestBar
            ⟨"XAUUSD", .M1, .closed⟩).map BarRecord.isClosed = some false by decide +kernel)
    exact Bool.false_ne_true (forming.symm.trans (coherent.closed _ _ _ found))
  · intro coherent
    obtain ⟨closed, foundClosed, ends⟩ := Option.map_eq_some_iff.mp
      (show ((runCalls (goldBroker (fun _ => []) [goldBar 60]) goldSettings 1
          [.collectOnce none (some 90000000) none, .collectOnce none (some 200000000) none]
          freshWorld).tables.getLatestBar ⟨"XAUUSD", .M1, .closed⟩).map
            BarRecord.closeTimeUtc = some 120000000 by decide +kernel)
    obtain ⟨current, foundCurrent, opens⟩ := Option.map_eq_some_iff.mp
      (show ((runCalls (goldBroker (fun _ => []) [goldBar 60]) goldSettings 1
          [.collectOnce none (some 90000000) none, .collectOnce none (some 200000000) none]
          freshWorld).tables.getLatestBar ⟨"XAUUSD", .M1, .current⟩).map
            BarRecord.openTimeUtc = some 60000000 by decide +kernel)
    have ordered := coherent.ordered _ _ _ _ foundClosed foundCurrent
    omega

end SuperAdvisor.MarketData
