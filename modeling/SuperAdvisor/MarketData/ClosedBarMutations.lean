import SuperAdvisor.MarketData.LatestState

/-!
# Changed closed bars

A cycle compares the closed bar that it selects with the stored one.  It reads
on from the position, which forming bars move, so a stored bar that changes is
found only if the reading goes back to it and no later bar has closed.
-/

namespace SuperAdvisor.MarketData

open Raising Service

/-- The prices or volumes of the broker are not those of the record. -/
def BarPayload.Differs (item : BarPayload) (record : BarRecord) : Prop :=
  ¬(item.openPrice = record.openPrice ∧ item.highPrice = record.highPrice ∧
    item.lowPrice = record.lowPrice ∧ item.closePrice = record.closePrice ∧
    item.tickVolume = record.tickVolume ∧ item.realVolume = record.realVolume)

instance (item : BarPayload) (record : BarRecord) : Decidable (item.Differs record) :=
  inferInstanceAs (Decidable (¬_))

/-- A cycle records the incidents found for its closed rows. -/
def RecordsMutations (store : Store) : StoreEvent → Prop
  | .cycle _ observedNow cycle incidents =>
      ∃ found, store.tables.MutationsOf (cycle.closedRows observedNow) found ∧ found ⊆ incidents
  | _ => True

section Claims

variable {env : Environment} {settings : MarketDataSettings}
  (history : ChangingBars env settings)

/-- The stored closed bar is not the one of the broker when a cycle reads the
timeframe. -/
structure ChangedClosed (store : Store) (symbol : ResolvedSymbol) (cycle : SymbolCycle)
    (timeframe : Timeframe) (closed : BarRecord) : Prop where
  configured : timeframe ∈ settings.timeframes
  stored : store.tables.getLatestBar ⟨symbol.logicalSymbol, timeframe, .closed⟩ = some closed
  changed : ∀ load ∈ cycle.barLoads, load.timeframe = timeframe →
    ∃ item ∈ history.bars symbol.logicalSymbol timeframe load.moment,
      item.openTime = closed.openTimeUtc ∧ item.Differs closed

/-- Every changed bar has its incident. -/
def DetectsMutations (store : Store) : StoreEvent → Prop
  | .cycle symbol _ cycle incidents => ∀ timeframe closed,
      ChangedClosed history store symbol cycle timeframe closed →
        ∃ found ∈ incidents, found.eventKind = "closed_bar_mutation" ∧
          found.incidentKey = "closed_bar_mutation:" ++ symbol.logicalSymbol ++ ":" ++
            timeframe.value ++ ":" ++ closed.barId
  | _ => True

/-- A cycle starts to read no later than a changed bar, which has closed, and
no bar that opens later has closed. -/
def RereadsChanged (store : Store) : StoreEvent → Prop
  | .cycle symbol observedNow cycle _ => ∀ timeframe closed,
      ChangedClosed history store symbol cycle timeframe closed →
        barStart settings store.tables symbol.logicalSymbol observedNow timeframe ≤
            closed.openTimeUtc ∧
          closed.openTimeUtc + timeframeDelta timeframe ≤ observedNow ∧
          ∀ load ∈ cycle.barLoads, load.timeframe = timeframe →
            ∀ item ∈ history.bars symbol.logicalSymbol timeframe load.moment,
              item.openTime + timeframeDelta timeframe ≤ observedNow →
                item.openTime ≤ closed.openTimeUtc
  | _ => True

end Claims

/-- The rows of the tables have the ids of their streams and times. -/
def NamedRows (tables : Tables) : Prop :=
  ∀ (key : String × Timeframe) barKind row,
    tables.getLatestBar ⟨key.1, key.2, barKind⟩ = some row →
      row.barId = barId key.1 key.2 row.openTimeUtc

section Steps

variable {env : Environment} {settings : MarketDataSettings}
  {history : ChangingBars env settings} {store after : Store}

theorem NamedRows.congr {before after : Tables} (named : NamedRows before)
    (latestBars : after.latestBars = before.latestBars) : NamedRows after := by
  intro key barKind row found
  unfold Tables.getLatestBar at found
  rw [latestBars] at found
  exact named key barKind row found

private theorem namedRows_cycle {symbol : ResolvedSymbol} {observedNow : Int} {cycle : SymbolCycle}
    {incidents : List QualityIncident}
    (describes : cycle.Describes env settings symbol observedNow store.tables store.moment)
    (named : NamedRows store.tables) :
    NamedRows (committedTables store.tables symbol cycle.ticks (cycle.currentRows observedNow)
      (cycle.closedRows observedNow) incidents observedNow) := by
  have gathered : ∀ {keep : BarRecord → Bool} {key : String × Timeframe} {row : BarRecord},
      Tables.lastUnder key (gatherRows keep cycle.barLoads) = some row →
        row.barId = barId key.1 key.2 row.openTimeUtc := by
    intro keep key row last
    obtain ⟨-, load, inside, member, ownKey, -⟩ := lastGathered_newest last
    obtain ⟨item, -, rfl⟩ := (describes.bars load inside).exists_payload member
    subst ownKey
    rfl
  intro key barKind row found
  rw [getLatestBar_committedTables] at found
  rcases Option.or_eq_some_iff.mp found with fresh | ⟨-, old⟩
  · cases barKind with
    | current => exact gathered fresh
    | closed => exact gathered fresh
  · exact named key barKind row old

theorem namedRows_step {event : StoreEvent} (step : StoreStep env settings store event after)
    (named : NamedRows store.tables) : NamedRows after.tables := by
  cases step with
  | cycle resolved describes => exact namedRows_cycle describes named
  | chunk chunk changed =>
      obtain ⟨-, -, sameCurrent, closedRows⟩ := chunk_changes chunk changed
      intro key barKind row found
      cases barKind with
      | current => exact named key .current row (sameCurrent key ▸ found)
      | closed =>
          obtain ⟨fresh, left, newest⟩ := closedRows key
          rw [left] at found
          rcases Option.or_eq_some_iff.mp found with isFresh | ⟨-, old⟩
          · obtain ⟨rfl, ⟨item, -, rfl⟩, -⟩ := newest row isFresh
            rfl
          · exact named key .closed row old
  | wrote => exact named
  | heartbeat => exact named.congr rfl
  | progressed => exact named.congr rfl
  | failed => exact named.congr rfl

theorem namedRows_run {start finish : Store} {events : List StoreEvent}
    (run : StoreRun env settings start events finish) (named : NamedRows start.tables) :
    NamedRows finish.tables :=
  run.invariant (fun store => NamedRows store.tables)
    (fun _ _ _ step named => namedRows_step step named) named

/-- A changed bar that is compared has an incident. -/
theorem exists_mutation {tables : Tables} {rows : BarRows} {found : List QualityIncident}
    (mutations : tables.MutationsOf rows found) {key : String × Timeframe}
    {closed fresh : BarRecord} (member : (key, fresh) ∈ rows)
    (stored : tables.getLatestBar ⟨key.1, key.2, .closed⟩ = some closed)
    (ownKey : fresh.rowKey = key) (sameBar : closed.barId = fresh.barId)
    (changed : closed.values ≠ fresh.values) :
    ∃ incident ∈ found, incident.eventKind = "closed_bar_mutation" ∧
      incident.incidentKey = "closed_bar_mutation:" ++ key.1 ++ ":" ++ key.2.value ++ ":" ++
        closed.barId := by
  obtain ⟨lists, compared, rfl⟩ := mutations
  obtain ⟨list, inside, readClock, rfl⟩ := Python.exists_of_mem_left compared member
  have stored' : tables.getLatestClosedBar key.1 key.2 = some closed := stored
  rw [stored'] at inside
  simp only [detectClosedBarMutation, sameBar, changed, ne_eq, not_true_eq_false, if_false]
    at inside
  refine ⟨_, List.mem_flatten.mpr ⟨_, inside, List.mem_singleton.mpr rfl⟩, rfl, ?_⟩
  subst ownKey
  simp [incident, sameBar, BarRecord.rowKey]

/-- A cycle that rereads the changed bars detects them. -/
theorem detects_cycle {symbol : ResolvedSymbol} {observedNow : Int} {cycle : SymbolCycle}
    {incidents : List QualityIncident} (named : NamedRows store.tables)
    (resolved : Resolves env settings symbol)
    (describes : cycle.Describes env settings symbol observedNow store.tables store.moment)
    (records : RecordsMutations store (.cycle symbol observedNow cycle incidents))
    (rereads : RereadsChanged history store (.cycle symbol observedNow cycle incidents)) :
    DetectsMutations history store (.cycle symbol observedNow cycle incidents) := by
  intro timeframe closed differs
  obtain ⟨reached, ended, latest⟩ := rereads timeframe closed differs
  obtain ⟨found, mutations, recorded⟩ := records
  obtain ⟨load, inside, rfl⟩ : ∃ load ∈ cycle.barLoads, load.timeframe = timeframe := by
    have configured := differs.configured
    rw [← describes.timeframes] at configured
    exact List.mem_map.mp configured
  -- the reading has the bar, so some closed bar is selected
  obtain ⟨known, isKnown, knownOpen, -⟩ := differs.changed load inside rfl
  obtain ⟨row, rowInside, rowClosed, rowKey, rowOpen⟩ := exists_reread history resolved
    (describes.bars load inside) isKnown
    (by rw [describes.starts load inside, knownOpen]; exact reached)
    (by rw [knownOpen]; exact ended)
  obtain ⟨fresh, selected⟩ := exists_of_gathered inside rowInside rowClosed
  rw [rowKey] at selected
  -- the selected one is the stored one, as the broker has it then
  obtain ⟨freshClosed, other, otherInside, member, ownKey, newest⟩ := gatherRows_newest selected
  obtain ⟨shown, replied, made⟩ := (describes.bars other otherInside).exists_payload member
  have sameTimeframe : other.timeframe = load.timeframe := by
    rw [made] at ownKey
    exact congrArg Prod.snd ownKey
  obtain ⟨shownKnown, -, -⟩ := (history.exact symbol resolved _ _ _ _ _
    (describes.bars other otherInside).payload shown).mp replied
  rw [sameTimeframe] at shownKnown made
  have shownClosed : shown.openTime + timeframeDelta load.timeframe ≤ observedNow := by
    simpa [made, hasClosed, barRecord, BarPayload.closeTime] using freshClosed
  have notLater := latest other otherInside sameTimeframe shown shownKnown shownClosed
  obtain ⟨item, isItem, itemOpen, itemDiffers⟩ := differs.changed other otherInside sameTimeframe
  obtain ⟨again, againInside, againClosed, againKey, againOpen⟩ := exists_reread history resolved
    (describes.bars other otherInside) (sameTimeframe ▸ isItem)
    (by rw [describes.starts other otherInside, sameTimeframe, itemOpen]; exact reached)
    (by rw [sameTimeframe, itemOpen]; exact ended)
  have notEarlier := newest again againInside againClosed (by rw [againKey, sameTimeframe])
  have sameOpen : shown.openTime = closed.openTimeUtc := by
    rw [againOpen, itemOpen, made] at notEarlier
    exact Int.le_antisymm notLater notEarlier
  have sameItem : shown = item := by
    apply history.distinct _ _ _ shown shownKnown item isItem
    have bothOpen := sameOpen.trans itemOpen.symm
    unfold BarPayload.openTime ofSeconds at bothOpen
    omega
  obtain ⟨incident, isFound, kind, incidentKey⟩ := exists_mutation mutations
    (OrderedDict.mem_of_get? selected) differs.stored ownKey
    (by rw [named (symbol.logicalSymbol, load.timeframe) .closed closed differs.stored, ← sameOpen,
      made]; rfl)
    (by
      intro same
      apply itemDiffers
      rw [made, sameItem] at same
      simp only [BarRecord.values, barRecord, Prod.mk.injEq, List.cons.injEq] at same
      obtain ⟨⟨sameOpenPrice, sameHigh, sameLow, sameClose, -⟩, sameTicks, sameReal, -⟩ := same
      exact ⟨sameOpenPrice.symm, sameHigh.symm, sameLow.symm, sameClose.symm, sameTicks.symm,
        sameReal.symm⟩)
  exact ⟨incident, recorded isFound, kind, incidentKey⟩

theorem detects_step {event : StoreEvent} (named : NamedRows store.tables)
    (step : StoreStep env settings store event after) (records : RecordsMutations store event)
    (rereads : RereadsChanged history store event) : DetectsMutations history store event := by
  cases step with
  | cycle resolved describes => exact detects_cycle named resolved describes records rereads
  | wrote => trivial
  | heartbeat => trivial
  | chunk => trivial
  | progressed => trivial
  | failed => trivial

theorem namedRows_fresh : NamedRows freshStore.tables := by
  intro key barKind row found
  contradiction

end Steps

/-! Collections are such steps. -/

section Collections

variable {env : Environment} {settings : MarketDataSettings} {store : Store}

theorem GuardedRun.trans {meets : Store → StoreEvent → Prop} {start middle finish : Store}
    {early late : List StoreEvent} (first : GuardedRun env settings meets start early middle)
    (second : GuardedRun env settings meets middle late finish) :
    GuardedRun env settings meets start (early ++ late) finish := by
  induction second with
  | start => simpa using first
  | step before guard last induction =>
      rw [← List.append_assoc]
      exact .step induction guard last

theorem GuardedRun.run {meets : Store → StoreEvent → Prop} {start finish : Store}
    {events : List StoreEvent} (guarded : GuardedRun env settings meets start events finish) :
    StoreRun env settings start events finish := by
  induction guarded with
  | start => exact .start
  | step before guard last induction => exact .step induction last

/-- The stores have moved by steps that record what they find. -/
def RecordedTo (env : Environment) (settings : MarketDataSettings) (store : Store)
    (world : World) : Prop :=
  ∃ events after, GuardedRun env settings RecordsMutations store events after ∧
    Stands after world

theorem recordedTo_of_stands {world : World} (stands : Stands store world) :
    RecordedTo env settings store world :=
  ⟨[], store, .start, stands⟩

theorem recordedTo_of_kept {world : World}
    (kept : Kept store.tables store.files store.moment world) :
    RecordedTo env settings store world := by
  obtain ⟨more, grown⟩ := kept.files
  exact ⟨[.wrote more], { store with files := store.files ++ more },
    .step .start trivial .wrote, kept.tables, grown.symm, kept.earliest⟩

theorem RecordedTo.trans {middle : Store} {events : List StoreEvent} {world : World}
    (first : GuardedRun env settings RecordsMutations store events middle)
    (second : RecordedTo env settings middle world) : RecordedTo env settings store world := by
  obtain ⟨later, after, run, stands⟩ := second
  exact ⟨events ++ later, after, first.trans run, stands⟩

private theorem ensures_collectSymbols_recorded {symbols : List ResolvedSymbol}
    {observedNow : Int} (resolves : ∀ symbol ∈ symbols, Resolves env settings symbol) :
    Ensures (Stands store)
      (symbols.mapM (fun symbol => collectSymbol env settings symbol observedNow false))
      (fun _ => RecordedTo env settings store) (fun _ => RecordedTo env settings store) := by
  refine ensures_weaken
    (ensures_mapM (fun _ _ => RecordedTo env settings store) ?_)
    (fun _ stands => recordedTo_of_stands stands) (fun _ _ known => known)
    (fun _ _ known => known)
  intro early symbol late reports shape
  refine ensures_of_exists (fun events => ?_)
  refine ensures_of_exists (fun middle => ?_)
  refine ensures_of_fact (fun before => ?_)
  refine ensures_weaken ensures_collectSymbol (fun _ known => known) ?_
    (fun _ _ kept => .trans before (recordedTo_of_kept kept))
  intro report world known
  obtain ⟨cycle, ⟨describes, -, -, records⟩, here⟩ := known
  have guard : RecordsMutations middle (.cycle symbol observedNow cycle report.incidents) :=
    records rfl
  exact ⟨_, _, .step before guard (.cycle (resolves symbol (by simp [shape])) describes), here⟩

theorem recordedTo_collect (fuel : Nat) (call : CollectCall) {world : World}
    (stands : Stands store world) :
    RecordedTo env settings store
      ((Call.collectOnce call.symbolFilter call.now call.dryRun).perform env settings fuel
        world) := by
  have collects := @ensures_collectOnce_of env settings store
    (fun _ _ events middle => GuardedRun env settings RecordsMutations store events middle)
    (RecordedTo env settings store) call.symbolFilter call.now call.dryRun
    (fun _ kept => recordedTo_of_kept kept)
    (fun _ _ _ _ run _ stands => .trans run (recordedTo_of_stands stands))
    (fun _ _ resolves => ensures_collectSymbols_recorded resolves)
  refine worldAfter_of_ensures (ensures_weaken collects (fun _ known => known) ?_
    (fun _ _ known => known)) stands
  intro report after known
  obtain ⟨-, collected⟩ := known
  split at collected
  next => exact recordedTo_of_stands collected
  next =>
    obtain ⟨_, events, middle, record, -, run, here⟩ := collected
    have still : RecordsMutations middle (.heartbeat record) := trivial
    exact ⟨_, _, .step run still .heartbeat, here⟩

/-- Collections one after another, whether they return or raise. -/
def collections (calls : List CollectCall) : List Call :=
  calls.map (fun call => .collectOnce call.symbolFilter call.now call.dryRun)

theorem recordedTo_collections (fuel : Nat) (calls : List CollectCall) {world : World}
    (stands : Stands store world) :
    RecordedTo env settings store
      (runCalls env settings fuel (collections calls) world) := by
  induction calls generalizing store world with
  | nil => exact recordedTo_of_stands stands
  | cons call calls induction =>
      obtain ⟨events, middle, run, here⟩ : RecordedTo env settings store _ :=
        recordedTo_collect fuel call stands
      exact .trans run (induction here)

end Collections

/-- The broker for gold, with the bars that it has at each step. -/
def changingBroker (bars : Nat → List BarPayload) : Environment :=
  { goldBroker (fun _ => []) [] with
    copyRatesRange := fun moment _ _ start finish =>
      .ok (some ((bars moment).filter (fun item =>
        start ≤ item.openTime ∧ item.openTime ≤ finish))) }

def changingHistory (bars : Nat → List BarPayload) (settings : MarketDataSettings)
    (distinct : ∀ moment, ∀ first ∈ bars moment, ∀ second ∈ bars moment,
      first.time = second.time → first = second) :
    ChangingBars (changingBroker bars) settings where
  bars := fun _ _ => bars
  distinct := fun _ _ => distinct
  exact := by
    intro symbol _ moment timeframe startAt endAt payload replied item
    obtain rfl := Option.some.inj (Except.ok.inj replied)
    simp

def restatedPayload : BarPayload :=
  { goldBar 0 with closePrice := 2000 }

/-- After the first collection, the first bar has another close price. -/
def restated (rest : List BarPayload) (moment : Nat) : List BarPayload :=
  (if moment ≤ 26 then goldBar 0 else restatedPayload) :: rest

def restatedBars : ChangingBars (changingBroker (restated [goldBar 60])) goldSettings :=
  changingHistory _ _ (by
    intro moment
    unfold restated
    split <;> decide)

def restatedBar : ChangingBars (changingBroker (restated [])) goldSettings :=
  changingHistory _ _ (by
    intro moment first known second otherKnown _
    rw [List.mem_singleton.mp known, List.mem_singleton.mp otherKnown])

/-- A cycle of XAUUSD without ticks. -/
def quietCycle (moment : Nat) (startAt : Int) (payload : List BarPayload) (observedNow : Int) :
    SymbolCycle :=
  { tickLoad :=
      { rangeMoment := moment
        newestMoment := moment + 1
        range := []
        newest := none
        records := []
        readClock := fun _ => 0 }
    barLoads :=
      [{ timeframe := .M1
         startAt := startAt
         moment := moment
         payload := payload
         records := payload.map (fun item =>
           barRecord "XAUUSD" "XAUUSD" .M1 item observedNow)
         readClock := fun _ => 0 }] }

theorem quietCycle_describes {bars : Nat → List BarPayload} {moment earliest : Nat}
    {startAt observedNow : Int} {payload : List BarPayload} {tables : Tables}
    (later : earliest ≤ moment)
    (starts : startAt = barStart goldSettings tables "XAUUSD" observedNow .M1)
    (replied : (bars moment).filter (fun item =>
      startAt ≤ item.openTime ∧ item.openTime ≤ observedNow) = payload) :
    (quietCycle moment startAt payload observedNow).Describes (changingBroker bars) goldSettings
      goldSymbol observedNow tables earliest :=
  { ticks := ⟨later, Nat.lt_succ_self _, rfl, rfl, .nil⟩
    timeframes := rfl
    starts := by
      intro load member
      obtain rfl := List.mem_singleton.mp member
      exact starts
    bars := by
      intro load member
      obtain rfl := List.mem_singleton.mp member
      exact ⟨later, congrArg (fun items => Except.ok (some items)) replied, rfl⟩ }

theorem resolves_changing (bars : Nat → List BarPayload) :
    Resolves (changingBroker bars) goldSettings goldSymbol :=
  resolves_gold (fun _ => []) []

/-- The stores after a first collection, with the bars that it found. -/
def openedStore (payload : List BarPayload) : Store :=
  { moment := 2
    tables := (committedTables freshStore.tables goldSymbol
      (quietCycle 0 0 payload 60000000).ticks
      ((quietCycle 0 0 payload 60000000).currentRows 60000000)
      ((quietCycle 0 0 payload 60000000).closedRows 60000000) [] 60000000).recordHeartbeat
        (goldHeartbeat 0 payload.length 0 60000000)
    files := freshStore.files ++ tickFiles plainLibrary (quietCycle 0 0 payload 60000000).ticks ++
      barFiles plainLibrary (quietCycle 0 0 payload 60000000).bars }

theorem mutationsOf_fresh (rows : BarRows) : freshStore.tables.MutationsOf rows [] := by
  refine ⟨rows.map (fun _ => []), ?_, by simp⟩
  rw [List.forall₂_map_right_iff]
  exact List.forall₂_same.mpr (fun _ _ => ⟨fun _ => 0, rfl⟩)

theorem opened_recorded {bars : Nat → List BarPayload} {payload : List BarPayload}
    (replied : (bars 0).filter (fun item => 0 ≤ item.openTime ∧ item.openTime ≤ 60000000) =
      payload) :
    ∃ events, GuardedRun (changingBroker bars) goldSettings RecordsMutations freshStore events
      (openedStore payload) := by
  have guard : RecordsMutations freshStore
      (.cycle goldSymbol 60000000 (quietCycle 0 0 payload 60000000) []) :=
    ⟨[], mutationsOf_fresh _, List.Subset.refl _⟩
  have still : ∀ store, RecordsMutations store
      (.heartbeat (goldHeartbeat 0 payload.length 0 60000000)) := fun _ => trivial
  have describes : (quietCycle 0 0 payload 60000000).Describes (changingBroker bars) goldSettings
      goldSymbol 60000000 freshStore.tables freshStore.moment :=
    quietCycle_describes (Nat.le_refl 0) (by decide +kernel) replied
  exact ⟨_, .step (.step .start guard (.cycle (resolves_changing bars) describes)) (still _)
    .heartbeat⟩

def goldRecord (payload : BarPayload) (observedNow : Int) : BarRecord :=
  barRecord "XAUUSD" "XAUUSD" .M1 payload observedNow

end SuperAdvisor.MarketData
