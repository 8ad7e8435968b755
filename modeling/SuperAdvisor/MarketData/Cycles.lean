import SuperAdvisor.MarketData.Commits
import SuperAdvisor.MarketData.Loads

/-!
# Cycles of a symbol

A cycle of one symbol is given by the replies of the broker: one reading of the
ticks and one of the bars of every timeframe, each from the position that the
tables hold.  What the cycle commits is a function of these readings.
-/

namespace SuperAdvisor.MarketData

open Raising

/-! The rows that a reading selects. -/

def isForming (observedNow : Int) (record : BarRecord) : Bool :=
  observedNow < record.closeTimeUtc

def hasClosed (observedNow : Int) (record : BarRecord) : Bool :=
  record.closeTimeUtc ≤ observedNow

/-- The last selected record of each symbol and timeframe. -/
def selectRows (keep : BarRecord → Bool) (records : List BarRecord) (rows : BarRows) :
    BarRows :=
  (records.filter keep).foldl
    (fun rows record => OrderedDict.set rows record.rowKey record) rows

theorem split_eq_selectRows (records : List BarRecord) (asOfUtc : Int) :
    splitCurrentAndClosedBars records asOfUtc =
      (selectRows (isForming asOfUtc) records [], selectRows (hasClosed asOfUtc) records []) := by
  have general : ∀ rows : BarRows × BarRows,
      records.foldl (fun rows record =>
        if record.closeTimeUtc ≤ asOfUtc then
          (rows.1, OrderedDict.set rows.2 record.rowKey record)
        else (OrderedDict.set rows.1 record.rowKey record, rows.2)) rows =
      (selectRows (isForming asOfUtc) records rows.1,
        selectRows (hasClosed asOfUtc) records rows.2) := by
    induction records with
    | nil => exact fun rows => rfl
    | cons record records induction =>
        intro rows
        rw [List.foldl_cons, induction]
        by_cases closed : record.closeTimeUtc ≤ asOfUtc
        · have later : ¬ asOfUtc < record.closeTimeUtc := Int.not_lt.mpr closed
          simp [selectRows, isForming, hasClosed, closed, later]
        · have later : asOfUtc < record.closeTimeUtc := Int.not_le.mp closed
          simp [selectRows, isForming, hasClosed, closed, later]
  exact general ([], [])

theorem mem_selectRows
    {keep : BarRecord → Bool} {records : List BarRecord} {rows : BarRows}
    {row : (String × Timeframe) × BarRecord} (member : row ∈ selectRows keep records rows) :
    (row.1 = row.2.rowKey ∧ row.2 ∈ records ∧ keep row.2 = true) ∨ row ∈ rows := by
  rcases OrderedDict.mem_foldl_set member with ⟨record, inside, rfl⟩ | old
  · obtain ⟨here, kept⟩ := List.mem_filter.mp inside
    exact .inl ⟨rfl, here, kept⟩
  · exact .inr old

theorem selectRows_keys_nodup
    {keep : BarRecord → Bool} {records : List BarRecord} {rows : BarRows}
    (distinct : (OrderedDict.keys rows).Nodup) :
    (OrderedDict.keys (selectRows keep records rows)).Nodup :=
  OrderedDict.keys_nodup_foldl_set _ distinct

theorem exists_of_selected
    {keep : BarRecord → Bool} {records : List BarRecord} (rows : BarRows) {record : BarRecord}
    (member : record ∈ records) (kept : keep record = true) :
    ∃ found, OrderedDict.get? (selectRows keep records rows) record.rowKey = some found := by
  unfold selectRows
  rw [OrderedDict.get?_foldl_set]
  have selected : record ∈ (records.filter keep).reverse :=
    List.mem_reverse.mpr (List.mem_filter.mpr ⟨member, kept⟩)
  cases found : (records.filter keep).reverse.find?
      (fun item => item.rowKey = record.rowKey) with
  | none => simpa using List.find?_eq_none.mp found record selected
  | some last => exact ⟨last, rfl⟩

/-! What the loop over the timeframes gathers. -/

/-- The rows that the readings of all timeframes leave. -/
def gatherRows (keep : BarRecord → Bool) (loads : List BarLoad) : BarRows :=
  loads.foldl (fun rows load =>
    Service.updateRows rows (selectRows keep load.bars [])) []

section Gathered

variable {keep : BarRecord → Bool} {loads : List BarLoad}

private theorem mem_updateRows
    {rows changed : BarRows} {row : (String × Timeframe) × BarRecord}
    (member : row ∈ Service.updateRows rows changed) : row ∈ changed ∨ row ∈ rows := by
  rcases OrderedDict.mem_foldl_set member with ⟨other, inside, rfl⟩ | old
  · exact .inl inside
  · exact .inr old

theorem mem_gatherRows
    {row : (String × Timeframe) × BarRecord} (member : row ∈ gatherRows keep loads) :
    row.1 = row.2.rowKey ∧ keep row.2 = true ∧ ∃ load ∈ loads, row.2 ∈ load.bars := by
  induction loads using List.reverseRecOn with
  | nil => cases member
  | append_singleton loads load induction =>
      unfold gatherRows at member
      rw [List.foldl_append] at member
      rcases mem_updateRows member with fresh | old
      · rcases mem_selectRows fresh with ⟨key, here, kept⟩ | none
        · exact ⟨key, kept, load, by simp, here⟩
        · cases none
      · obtain ⟨key, kept, other, inside, here⟩ := induction old
        exact ⟨key, kept, other, by simp [inside], here⟩

theorem gatherRows_keys_nodup (keep : BarRecord → Bool) (loads : List BarLoad) :
    (OrderedDict.keys (gatherRows keep loads)).Nodup := by
  induction loads using List.reverseRecOn with
  | nil => exact List.nodup_nil
  | append_singleton loads load induction =>
      unfold gatherRows
      rw [List.foldl_append]
      exact OrderedDict.keys_nodup_foldl_set _ induction

theorem exists_of_gathered
    {load : BarLoad} (inside : load ∈ loads) {record : BarRecord}
    (member : record ∈ load.bars) (kept : keep record = true) :
    ∃ found, OrderedDict.get? (gatherRows keep loads) record.rowKey = some found := by
  induction loads using List.reverseRecOn with
  | nil => cases inside
  | append_singleton loads last induction =>
      unfold gatherRows
      rw [List.foldl_append]
      unfold Service.updateRows
      rw [List.foldl_cons, List.foldl_nil, OrderedDict.get?_foldl_set]
      cases found : (selectRows keep last.bars []).reverse.find?
          (fun row => row.1 = record.rowKey) with
      | some row => exact ⟨row.2, rfl⟩
      | none =>
          rcases List.mem_append.mp inside with early | here
          · exact induction early
          · obtain rfl := List.mem_singleton.mp here
            obtain ⟨chosen, selected⟩ := exists_of_selected [] member kept
            have absent := List.find?_eq_none.mp found _
              (List.mem_reverse.mpr (OrderedDict.mem_of_get? selected))
            simp at absent

theorem mem_of_lastGathered
    {key : String × Timeframe} {record : BarRecord}
    (found : Tables.lastUnder key (gatherRows keep loads) = some record) :
    record.rowKey = key ∧ keep record = true ∧ ∃ load ∈ loads, record ∈ load.bars := by
  obtain ⟨sameKey, row, member, rfl⟩ := Tables.mem_of_lastUnder found
  exact ⟨sameKey, (mem_gatherRows member).2⟩

theorem lastGathered_ne_none
    {load : BarLoad} (inside : load ∈ loads) {record : BarRecord}
    (member : record ∈ load.bars) (kept : keep record = true) :
    Tables.lastUnder record.rowKey (gatherRows keep loads) ≠ none := by
  obtain ⟨found, gathered⟩ := exists_of_gathered inside member kept
  have row := OrderedDict.mem_of_get? gathered
  have sameKey := (mem_gatherRows row).1
  intro absent
  have unseen := List.find?_eq_none.mp (Option.map_eq_none_iff.mp absent) _
    (List.mem_reverse.mpr row)
  simp [← sameKey] at unseen

end Gathered

/-- The readings of a cycle. -/
structure SymbolCycle where
  tickLoad : TickLoad
  barLoads : List BarLoad

namespace SymbolCycle

variable (cycle : SymbolCycle) (observedNow : Int)

def ticks : List TickRecord := cycle.tickLoad.ticks

def bars : List BarRecord := cycle.barLoads.flatMap BarLoad.bars

def currentRows : BarRows := gatherRows (isForming observedNow) cycle.barLoads

def closedRows : BarRows := gatherRows (hasClosed observedNow) cycle.barLoads

end SymbolCycle

/-- Where a cycle starts to read ticks. -/
def tickStart (settings : MarketDataSettings) (tables : Tables) (logicalSymbol : String)
    (observedNow : Int) : Int :=
  match tables.getCursor ⟨.ticks, logicalSymbol, none⟩ with
  | none => observedNow - ofSeconds settings.tickLookbackSeconds
  | some cursor => cursor.cursorUtc

/-- Where a cycle starts to read the bars of a timeframe. -/
def barStart (settings : MarketDataSettings) (tables : Tables) (logicalSymbol : String)
    (observedNow : Int) (timeframe : Timeframe) : Int :=
  match tables.getCursor ⟨.bars, logicalSymbol, some timeframe⟩ with
  | none =>
      observedNow - ofSeconds (mt5TimeframeMap timeframe * 60 * settings.barLookbackCount)
  | some cursor => cursor.cursorUtc

/-- The readings are answers of the broker, from where the tables say. -/
structure SymbolCycle.Describes (env : Environment) (settings : MarketDataSettings)
    (symbol : ResolvedSymbol) (observedNow : Int) (tables : Tables) (earliest : Nat)
    (cycle : SymbolCycle) : Prop where
  ticks : cycle.tickLoad.Answers env symbol
    (tickStart settings tables symbol.logicalSymbol observedNow) observedNow earliest
  timeframes : cycle.barLoads.map BarLoad.timeframe = settings.timeframes
  starts : ∀ load ∈ cycle.barLoads, load.startAt =
    barStart settings tables symbol.logicalSymbol observedNow load.timeframe
  bars : ∀ load ∈ cycle.barLoads, load.Answers env symbol observedNow observedNow earliest

namespace Service

variable {env : Environment} {settings : MarketDataSettings} {tables : Tables}
  {files : List TableFile} {earliest : Nat} {symbol : ResolvedSymbol} {observedNow : Int}

private theorem ensures_collectTimeframe
    {timeframe : Timeframe} {gathered : GatheredBars} :
    Ensures (At tables files earliest)
      (collectTimeframe env settings symbol observedNow gathered timeframe)
      (fun next world => ∃ load : BarLoad,
        ((load.timeframe = timeframe ∧ load.startAt =
            barStart settings tables symbol.logicalSymbol observedNow timeframe ∧
            load.Answers env symbol observedNow observedNow earliest) ∧
          next.bars = gathered.bars ++ load.bars ∧
          next.currentRows = updateRows gathered.currentRows
            (selectRows (isForming observedNow) load.bars []) ∧
          next.closedRows = updateRows gathered.closedRows
            (selectRows (hasClosed observedNow) load.bars [])) ∧
        At tables files earliest world)
      (fun _ => At tables files earliest) := by
  refine ensures_bind ensures_query ?_
  intro barCursor
  refine ensures_of_fact (fun read => ?_)
  subst read
  refine ensures_bind ensures_loadBars ?_
  intro records
  refine ensures_of_exists (fun moment => ?_)
  refine ensures_of_exists (fun payload => ?_)
  refine ensures_of_fact (fun answered => ?_)
  obtain ⟨later, replied, made⟩ := answered
  refine ensures_of_later (Nat.le_succ_of_le later) ?_
  refine ensures_bind ensures_incidentClock ?_
  intro readClock
  have split := split_eq_selectRows (normalizeBarBatch readClock records).1 observedNow
  refine ensures_pure (fun world known => ?_)
  refine ⟨⟨timeframe, _, moment, payload, records, readClock⟩,
    ⟨⟨rfl, rfl, ⟨later, replied, made⟩⟩, rfl, ?_, ?_⟩, known⟩
  · exact congrArg (fun rows => updateRows gathered.currentRows rows.1) split
  · exact congrArg (fun rows => updateRows gathered.closedRows rows.2) split

/-- What the loop over the timeframes has read. -/
private structure Gathers (env : Environment) (settings : MarketDataSettings)
    (symbol : ResolvedSymbol) (observedNow : Int) (tables : Tables) (earliest : Nat)
    (timeframes : List Timeframe) (gathered : GatheredBars) (loads : List BarLoad) : Prop where
  timeframes : loads.map BarLoad.timeframe = timeframes
  starts : ∀ load ∈ loads, load.startAt =
    barStart settings tables symbol.logicalSymbol observedNow load.timeframe
  answers : ∀ load ∈ loads, load.Answers env symbol observedNow observedNow earliest
  bars : gathered.bars = loads.flatMap BarLoad.bars
  currentRows : gathered.currentRows = gatherRows (isForming observedNow) loads
  closedRows : gathered.closedRows = gatherRows (hasClosed observedNow) loads

private theorem ensures_collectTimeframes {incidents : List QualityIncident} :
    Ensures (At tables files earliest)
      (settings.timeframes.foldlM (collectTimeframe env settings symbol observedNow)
        { incidents := incidents })
      (fun gathered world => ∃ loads,
        Gathers env settings symbol observedNow tables earliest settings.timeframes gathered
          loads ∧ At tables files earliest world)
      (fun _ => At tables files earliest) := by
  refine ensures_weaken
    (ensures_foldlM (fun early gathered world => ∃ loads,
      Gathers env settings symbol observedNow tables earliest early gathered loads ∧
        At tables files earliest world) ?_)
    (fun _ known => ⟨[], ⟨rfl, by simp, by simp, rfl, rfl, rfl⟩, known⟩)
    (fun _ _ known => known) (fun _ _ known => known)
  intro early timeframe late gathered shape
  refine ensures_of_exists (fun loads => ?_)
  refine ensures_of_fact (fun before => ?_)
  refine ensures_weaken ensures_collectTimeframe (fun _ known => known) ?_
    (fun _ _ known => known)
  intro next world known
  obtain ⟨load, ⟨⟨sameTimeframe, start, answers⟩, bars, current, closed⟩, here⟩ := known
  refine ⟨loads ++ [load], ⟨?_, ?_, ?_, ?_, ?_, ?_⟩, here⟩
  · simp [before.timeframes, sameTimeframe]
  · intro other member
    rcases List.mem_append.mp member with earlier | last
    · exact before.starts other earlier
    · rw [List.mem_singleton.mp last, start, sameTimeframe]
  · intro other member
    rcases List.mem_append.mp member with earlier | last
    · exact before.answers other earlier
    · exact List.mem_singleton.mp last ▸ answers
  · simp [bars, before.bars]
  · simp [current, before.currentRows, gatherRows]
  · simp [closed, before.closedRows, gatherRows]

/-- A cycle that returns has committed its readings, and records the incidents
found for its closed rows; one that raises has changed no table. -/
theorem ensures_collectSymbol {dryRun : Bool} :
    Ensures (At tables files earliest)
      (collectSymbol env settings symbol observedNow dryRun)
      (fun report world => ∃ cycle : SymbolCycle,
        (cycle.Describes env settings symbol observedNow tables earliest ∧
          report.ticks = cycle.ticks ∧ report.bars = cycle.bars ∧
          (dryRun = false → ∃ found, tables.MutationsOf (cycle.closedRows observedNow) found ∧
            found ⊆ report.incidents)) ∧
        if dryRun then At tables files (cycle.tickLoad.newestMoment + 1) world
        else At (committedTables tables symbol cycle.ticks (cycle.currentRows observedNow)
            (cycle.closedRows observedNow) report.incidents observedNow)
          (files ++ tickFiles env.library cycle.ticks ++ barFiles env.library cycle.bars)
          (cycle.tickLoad.newestMoment + 1) world)
      (fun _ => Kept tables files earliest) := by
  have kept : ∀ moment, earliest ≤ moment →
      ∀ (problem : MarketProblem) world, At tables files moment world →
        Kept tables files earliest world :=
    fun moment later _ world known => (known.weaken later).kept
  refine ensures_bind
    (ensures_weaken ensures_query (fun _ known => known) (fun _ _ known => known)
      (kept earliest (Nat.le_refl _))) ?_
  intro tickCursor
  refine ensures_of_fact (fun read => ?_)
  subst read
  refine ensures_bind
    (ensures_weaken ensures_loadTicks (fun _ known => known) (fun _ _ known => known)
      (kept earliest (Nat.le_refl _))) ?_
  intro loaded
  refine ensures_of_exists (fun tickLoad => ?_)
  refine ensures_of_fact (fun answered => ?_)
  obtain ⟨answers, rfl⟩ := answered
  have later : earliest ≤ tickLoad.newestMoment + 1 :=
    Nat.le_succ_of_le (Nat.le_trans answers.earliest (Nat.le_of_lt answers.ordered))
  refine ensures_bind
    (ensures_weaken ensures_collectTimeframes (fun _ known => known)
      (fun _ _ known => known) (kept _ later)) ?_
  intro gathered
  refine ensures_of_exists (fun loads => ?_)
  refine ensures_of_fact (fun gathers => ?_)
  have describes : (SymbolCycle.mk tickLoad loads).Describes env settings symbol observedNow
      tables earliest := by
    refine ⟨answers, gathers.timeframes, gathers.starts, ?_⟩
    intro load member
    have inside := gathers.answers load member
    exact ⟨Nat.le_trans later inside.earliest, inside.payload, inside.records⟩
  cases dryRun with
  | true =>
      refine ensures_pure (fun world known => ?_)
      exact ⟨⟨tickLoad, loads⟩, ⟨describes, rfl, gathers.bars, by simp⟩, known⟩
  | false =>
      refine ensures_bind
        (ensures_weaken (ensures_commitSymbol env symbol _ gathered.bars gathered.currentRows
          gathered.closedRows _ observedNow) (fun _ known => known) (fun _ _ known => known)
          ?_) ?_
      · intro _ world known
        exact ⟨known.tables, known.files, Nat.le_trans later known.earliest⟩
      · intro incidents
        refine ensures_of_exists (fun found => ?_)
        refine ensures_of_fact (fun facts => ?_)
        refine ensures_pure (fun world known => ?_)
        obtain ⟨mutations, made⟩ := facts
        rw [gathers.closedRows] at mutations
        have inside : found ⊆ incidents := made ▸ List.subset_append_right _ _
        refine ⟨⟨tickLoad, loads⟩, ⟨describes, rfl, gathers.bars, fun _ => ?_⟩, ?_⟩
        · exact ⟨found, mutations, inside⟩
        · rw [gathers.bars, gathers.currentRows, gathers.closedRows] at known
          exact known

end Service

end SuperAdvisor.MarketData
