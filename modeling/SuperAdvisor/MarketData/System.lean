import SuperAdvisor.MarketData.Cycles

/-!
# Runs of the collector

Whatever calls are made, with whatever failures, the stores change in steps of
a few kinds only.  Each step carries the replies of the broker that it rests
on, and holds where the stores stand when it is made.
-/

namespace SuperAdvisor.MarketData

open Raising Service

/-- The stores, with a bound for the next step. -/
structure Store where
  moment : Nat
  tables : Tables
  files : List TableFile

def Stands (store : Store) (world : World) : Prop :=
  At store.tables store.files store.moment world

inductive StoreEvent where
  /-- Files of a commit that raised. -/
  | wrote (files : List TableFile)
  | cycle (symbol : ResolvedSymbol) (observedNow : Int) (cycle : SymbolCycle)
      (incidents : List QualityIncident)
  | heartbeat (record : HeartbeatRecord)
  | chunk (run : BackfillRun) (load : BarLoad) (chunkEnd : Int)
  | progressed (run : BackfillRun) (load : BarLoad) (chunkEnd : Int)
  | failed (run : BackfillRun) (problem : MarketProblem)

section Steps

variable (env : Environment) (settings : MarketDataSettings)

/-- The symbol comes from a reply of the broker about its symbols. -/
def Resolves (symbol : ResolvedSymbol) : Prop :=
  ∃ moment discovered readClock, env.symbolsGet moment = .ok (some discovered) ∧
    ∃ found ∈ (MarketData.resolveSymbols env.library readClock settings.symbols discovered).1,
      symbol = { found with visible := symbol.visible }

/-- Where a backfill goes on from. -/
def nextStart (tables : Tables) (run : BackfillRun) : Int :=
  ((tables.getBackfillState (run.runKey env.library)).map
    BackfillState.nextStartUtc).getD run.observedStart

/-- A chunk of a backfill, from where the tables say. -/
structure ChunkOf (tables : Tables) (run : BackfillRun) (load : BarLoad) (chunkEnd : Int) :
    Prop where
  resolved : Resolves env settings run.resolved
  nonempty : run.observedStart < run.observedEnd
  timeframe : load.timeframe = run.timeframe
  start : load.startAt = nextStart env tables run
  unfinished : load.startAt < run.observedEnd
  window : chunkEnd = advanceWindow load.startAt run.observedEnd run.timeframe
    settings.barLookbackCount
  answers : load.Answers env run.resolved chunkEnd chunkEnd 0

inductive StoreStep (store : Store) : StoreEvent → Store → Prop
  | wrote {files : List TableFile} :
      StoreStep store (.wrote files) { store with files := store.files ++ files }
  | cycle {symbol : ResolvedSymbol} {observedNow : Int} {cycle : SymbolCycle}
      {incidents : List QualityIncident} (resolved : Resolves env settings symbol)
      (describes : cycle.Describes env settings symbol observedNow store.tables store.moment) :
      StoreStep store (.cycle symbol observedNow cycle incidents)
        { moment := cycle.tickLoad.newestMoment + 1
          tables := committedTables store.tables symbol cycle.ticks
            (cycle.currentRows observedNow) (cycle.closedRows observedNow) incidents observedNow
          files := store.files ++ tickFiles env.library cycle.ticks ++
            barFiles env.library cycle.bars }
  | heartbeat {record : HeartbeatRecord} :
      StoreStep store (.heartbeat record)
        { store with tables := store.tables.recordHeartbeat record }
  | chunk {run : BackfillRun} {load : BarLoad} {chunkEnd : Int} {committed : Tables}
      (chunk : ChunkOf env settings store.tables run load chunkEnd)
      (changed : ChunkCommitted store.tables run.resolved.logicalSymbol run.timeframe load.bars
        committed) :
      StoreStep store (.chunk run load chunkEnd)
        { store with
          tables := committed
          files := store.files ++ barFiles env.library load.bars }
  | progressed {run : BackfillRun} {load : BarLoad} {chunkEnd : Int}
      (chunk : ChunkOf env settings store.tables run load chunkEnd)
      (written : barFiles env.library load.bars <:+: store.files) :
      StoreStep store (.progressed run load chunkEnd)
        { store with
          tables := store.tables.upsertBackfillState (run.state env.library chunkEnd
            (if chunkEnd < run.observedEnd then .running else .complete) none) }
  | failed {run : BackfillRun} {problem : MarketProblem}
      (nonempty : run.observedStart < run.observedEnd)
      (unfinished : nextStart env store.tables run < run.observedEnd) :
      StoreStep store (.failed run problem)
        { store with
          tables := store.tables.upsertBackfillState (run.state env.library
            (nextStart env store.tables run) .failed (some problem.text)) }

/-- Steps one after another. -/
inductive StoreRun (start : Store) : List StoreEvent → Store → Prop
  | start : StoreRun start [] start
  | step {events : List StoreEvent} {event : StoreEvent} {middle finish : Store}
      (before : StoreRun start events middle) (last : StoreStep env settings middle event finish) :
      StoreRun start (events ++ [event]) finish

end Steps

variable {env : Environment} {settings : MarketDataSettings}

/-- The closed rows of a chunk are bars of it. -/
theorem mem_bars_of_chunkRows
    {logicalSymbol : String} {timeframe : Timeframe} {bars : List BarRecord} {last : BarRecord}
    {row : (String × Timeframe) × BarRecord}
    (member : row ∈ (chunkRows logicalSymbol timeframe bars last).2) : row.2 ∈ bars := by
  unfold chunkRows at member
  rw [split_eq_selectRows] at member
  obtain ⟨original, inside, rfl⟩ := List.mem_map.mp member
  rcases mem_selectRows inside with ⟨-, here, -⟩ | none
  · exact here
  · cases none

namespace ChunkOf

variable {tables : Tables} {run : BackfillRun} {load : BarLoad} {chunkEnd : Int}

/-- No bar of a chunk ends after the last one. -/
theorem close_le_last
    (chunk : ChunkOf env settings tables run load chunkEnd) {row last : BarRecord}
    (member : row ∈ load.bars) (found : load.bars.getLast? = some last) :
    row.closeTimeUtc ≤ last.closeTimeUtc := by
  have opens : row.openTimeUtc ≤ last.openTimeUtc := by
    unfold BarLoad.bars at member found
    rw [normalizeBarBatch_fst] at member found
    exact Python.key_le_last member found
  obtain ⟨item, -, rfl⟩ := chunk.answers.exists_payload member
  obtain ⟨other, -, rfl⟩ := chunk.answers.exists_payload (List.mem_of_getLast? found)
  simpa [barRecord, BarPayload.closeTime] using opens

/-- By the end of its last bar, no bar of a chunk is forming. -/
theorem currentRows_eq_nil
    (chunk : ChunkOf env settings tables run load chunkEnd) {last : BarRecord}
    (found : load.bars.getLast? = some last) :
    (chunkRows run.resolved.logicalSymbol run.timeframe load.bars last).1 = [] := by
  unfold chunkRows
  rw [split_eq_selectRows]
  have none : load.bars.filter (isForming last.closeTimeUtc) = [] := by
    refine List.filter_eq_nil_iff.mpr (fun row member => ?_)
    simpa [isForming] using chunk.close_le_last member found
  simp [selectRows, none, underKey]

end ChunkOf

theorem StoreRun.trans
    {start middle finish : Store} {early late : List StoreEvent}
    (first : StoreRun env settings start early middle)
    (second : StoreRun env settings middle late finish) :
    StoreRun env settings start (early ++ late) finish := by
  induction second with
  | start => simpa using first
  | step before last induction =>
      rw [← List.append_assoc]
      exact .step induction last

/-- What every step preserves holds after a run. -/
theorem StoreRun.invariant
    (holds : Store → Prop) {start finish : Store} {events : List StoreEvent}
    (preserved : ∀ store event after, StoreStep env settings store event after →
      holds store → holds after)
    (run : StoreRun env settings start events finish) (initial : holds start) :
    holds finish := by
  induction run with
  | start => exact initial
  | step before last induction => exact preserved _ _ _ last induction

/-- Steps that each meet a condition on the store before them. -/
inductive GuardedRun (env : Environment) (settings : MarketDataSettings)
    (meets : Store → StoreEvent → Prop) (start : Store) : List StoreEvent → Store → Prop
  | start : GuardedRun env settings meets start [] start
  | step {events : List StoreEvent} {event : StoreEvent} {middle finish : Store}
      (before : GuardedRun env settings meets start events middle)
      (guard : meets middle event) (last : StoreStep env settings middle event finish) :
      GuardedRun env settings meets start (events ++ [event]) finish

theorem GuardedRun.invariant
    {meets : Store → StoreEvent → Prop} (holds : Store → Prop) {start finish : Store}
    {events : List StoreEvent}
    (preserved : ∀ store event after, StoreStep env settings store event after →
      meets store event → holds store → holds after)
    (run : GuardedRun env settings meets start events finish) (initial : holds start) :
    holds finish := by
  induction run with
  | start => exact initial
  | step before guard last induction => exact preserved _ _ _ last guard induction

/-- The stores have moved from a given store by a run. -/
def Moved (env : Environment) (settings : MarketDataSettings) (store : Store)
    (world : World) : Prop :=
  ∃ events after, StoreRun env settings store events after ∧ Stands after world

theorem moved_of_stands {store : Store} {world : World} (stands : Stands store world) :
    Moved env settings store world :=
  ⟨[], store, .start, stands⟩

/-- A commit that raised has at most written files. -/
theorem moved_of_kept
    {store : Store} {world : World}
    (kept : Kept store.tables store.files store.moment world) :
    Moved env settings store world := by
  obtain ⟨more, grown⟩ := kept.files
  exact ⟨[.wrote more], { store with files := store.files ++ more },
    .step .start .wrote, kept.tables, grown.symm, kept.earliest⟩

theorem Moved.trans
    {store after : Store} {events : List StoreEvent} {world : World}
    (first : StoreRun env settings store events after)
    (second : Moved env settings after world) : Moved env settings store world := by
  obtain ⟨later, last, run, stands⟩ := second
  exact ⟨events ++ later, last, first.trans run, stands⟩

end SuperAdvisor.MarketData
