import SuperAdvisor.MarketData.BarCoherence
import SuperAdvisor.MarketData.TickDelivery

/-!
# Latest state

A cycle reads on from its positions, so what it leaves is not earlier than what
it finds, as long as the stored closed bar has closed by then and the broker
still has it.  A backfill replaces the closed row by the last bar of each
chunk, however early that bar is.
-/

namespace SuperAdvisor.MarketData

open Raising Service

/-- The bars of a broker at each step, by symbol and timeframe: no two open at
the same time, and a reply about a range has exactly those that open in it. -/
structure ChangingBars (env : Environment) (settings : MarketDataSettings) where
  bars : String → Timeframe → Nat → List BarPayload
  distinct : ∀ logicalSymbol timeframe moment,
    ∀ first ∈ bars logicalSymbol timeframe moment,
      ∀ second ∈ bars logicalSymbol timeframe moment, first.time = second.time → first = second
  exact : ∀ symbol, Resolves env settings symbol →
    ∀ moment timeframe startAt endAt payload,
      env.copyRatesRange moment symbol.brokerSymbol (mt5TimeframeMap timeframe) startAt endAt =
        .ok (some payload) →
      ∀ item, item ∈ payload ↔ item ∈ bars symbol.logicalSymbol timeframe moment ∧
        startAt ≤ item.openTime ∧ item.openTime ≤ endAt

/-! The newest rows. -/

theorem BarLoad.bars_sorted (load : BarLoad) :
    load.bars.Pairwise (fun left right => left.openTimeUtc ≤ right.openTimeUtc) := by
  unfold BarLoad.bars
  rw [normalizeBarBatch_fst]
  exact (Python.sortedDistinct_pairwise _ _ _).imp And.left

/-- What is selected under a key opens last. -/
theorem selectRows_newest
    {keep : BarRecord → Bool} {records : List BarRecord} {rows : BarRows}
    {key : String × Timeframe} {found record : BarRecord}
    (sorted : records.Pairwise (fun left right => left.openTimeUtc ≤ right.openTimeUtc))
    (selected : OrderedDict.get? (selectRows keep records rows) key = some found)
    (member : record ∈ records) (kept : keep record = true) (sameKey : record.rowKey = key) :
    record.openTimeUtc ≤ found.openTimeUtc := by
  unfold selectRows at selected
  rw [OrderedDict.get?_foldl_set] at selected
  have inside : record ∈ (records.filter keep).reverse :=
    List.mem_reverse.mpr (List.mem_filter.mpr ⟨member, kept⟩)
  have ordered : (records.filter keep).reverse.Pairwise
      (fun left right => right.openTimeUtc ≤ left.openTimeUtc) :=
    List.pairwise_reverse.mpr (sorted.filter keep)
  cases last : (records.filter keep).reverse.find? (fun item => item.rowKey = key) with
  | none => simpa [sameKey] using List.find?_eq_none.mp last record inside
  | some newest =>
      obtain rfl : newest = found := by simpa [last] using selected
      obtain ⟨-, before, after, shape, others⟩ := List.find?_eq_some_iff_append.mp last
      rw [shape] at inside ordered
      rcases List.mem_append.mp inside with early | late
      · simpa [sameKey] using others record early
      · rcases List.mem_cons.mp late with rfl | later
        · exact Int.le_refl _
        · exact List.rel_of_pairwise_cons (List.pairwise_append.mp ordered).2.1 later

/-- What is gathered under a key opens last in the reading it comes from. -/
theorem gatherRows_newest
    {keep : BarRecord → Bool} {loads : List BarLoad} {key : String × Timeframe}
    {found : BarRecord} (gathered : OrderedDict.get? (gatherRows keep loads) key = some found) :
    keep found = true ∧ ∃ load ∈ loads, found ∈ load.bars ∧ found.rowKey = key ∧
      ∀ record ∈ load.bars, keep record = true → record.rowKey = key →
        record.openTimeUtc ≤ found.openTimeUtc := by
  induction loads using List.reverseRecOn with
  | nil => cases gathered
  | append_singleton loads load induction =>
      unfold gatherRows at gathered
      rw [List.foldl_append, List.foldl_cons, List.foldl_nil] at gathered
      unfold Service.updateRows at gathered
      rw [OrderedDict.get?_foldl_set] at gathered
      cases last : (selectRows keep load.bars []).reverse.find? (fun row => row.1 = key) with
      | none =>
          rw [last] at gathered
          rw [Option.map_none, Option.none_or] at gathered
          obtain ⟨kept, other, inside, rest⟩ := induction gathered
          exact ⟨kept, other, by simp [inside], rest⟩
      | some row =>
          obtain rfl : row.2 = found := by simpa [last] using gathered
          have member := List.mem_reverse.mp (List.mem_of_find?_eq_some last)
          obtain rfl : row.1 = key := by simpa using List.find?_some last
          have selected := OrderedDict.get?_eq_some_of_mem
            (selectRows_keys_nodup (by simp [OrderedDict.keys])) member
          rcases mem_selectRows member with ⟨ownKey, inside, kept⟩ | none
          · refine ⟨kept, load, by simp, inside, ownKey.symm, ?_⟩
            intro record here recordKept recordKey
            exact selectRows_newest load.bars_sorted selected here recordKept recordKey
          · cases none

theorem get?_of_lastUnder
    {rows : BarRows} {key : String × Timeframe} {record : BarRecord}
    (distinct : (OrderedDict.keys rows).Nodup) (keyed : ∀ row ∈ rows, row.1 = row.2.rowKey)
    (found : Tables.lastUnder key rows = some record) :
    OrderedDict.get? rows key = some record := by
  obtain ⟨sameKey, row, member, rfl⟩ := Tables.mem_of_lastUnder found
  apply OrderedDict.get?_eq_some_of_mem distinct
  rw [← sameKey, ← keyed row member]
  exact member

theorem lastGathered_newest
    {keep : BarRecord → Bool} {loads : List BarLoad} {key : String × Timeframe}
    {found : BarRecord} (last : Tables.lastUnder key (gatherRows keep loads) = some found) :
    keep found = true ∧ ∃ load ∈ loads, found ∈ load.bars ∧ found.rowKey = key ∧
      ∀ record ∈ load.bars, keep record = true → record.rowKey = key →
        record.openTimeUtc ≤ found.openTimeUtc :=
  gatherRows_newest (get?_of_lastUnder (gatherRows_keys_nodup keep loads)
    (fun _ member => (mem_gatherRows member).1) last)

/-- A current row and the position of its stream are written together. -/
theorem cursorUnder_eq
    {rows : BarRows} (key : String × Timeframe) (keyed : ∀ row ∈ rows, row.1 = row.2.rowKey) :
    Tables.cursorUnder ⟨.bars, key.1, some key.2⟩ rows =
      (Tables.lastUnder key rows).map (fun record =>
        { cursorUtc := record.openTimeUtc, markerId := record.barId }) := by
  unfold Tables.cursorUnder Tables.lastUnder
  induction rows using List.reverseRecOn with
  | nil => rfl
  | append_singleton rows row induction =>
      have own : row.1 = row.2.rowKey := keyed row (by simp)
      rw [List.reverse_append, List.reverse_singleton, List.singleton_append, List.find?_cons,
        List.find?_cons]
      by_cases same : row.2.rowKey = key
      · simp [← same, own]
      · have different : (⟨.bars, row.1.1, some row.1.2⟩ : CursorKey) ≠
            ⟨.bars, key.1, some key.2⟩ := by
          intro equal
          exact same (by rw [← own]; simpa [Prod.ext_iff] using equal)
        simp only [same, different, decide_false]
        exact induction (fun other inside => keyed other (by simp [inside]))

/-! What must not become earlier. -/

/-- What stands in a place stays, or something not earlier replaces it. -/
def NotBack {ρ : Type} (time : ρ → Int) (before after : Option ρ) : Prop :=
  ∀ old, before = some old → ∃ new, after = some new ∧ time old ≤ time new

section Places

variable {ρ : Type} {time : ρ → Int}

theorem NotBack.refl (place : Option ρ) : NotBack time place place :=
  fun old found => ⟨old, found, Int.le_refl _⟩

theorem NotBack.trans {first second third : Option ρ} (early : NotBack time first second)
    (late : NotBack time second third) : NotBack time first third := by
  intro old found
  obtain ⟨middle, foundMiddle, before⟩ := early old found
  obtain ⟨new, foundNew, after⟩ := late middle foundMiddle
  exact ⟨new, foundNew, Int.le_trans before after⟩

theorem notBack_or {fresh before : Option ρ}
    (later : ∀ new old, fresh = some new → before = some old → time old ≤ time new) :
    NotBack time before (fresh.or before) := by
  intro old found
  cases fresh with
  | none => exact ⟨old, found, Int.le_refl _⟩
  | some new => exact ⟨new, rfl, later new old rfl found⟩

end Places

def Tables.getLatestTick (tables : Tables) (logicalSymbol : String) : Option TickRecord :=
  OrderedDict.get? tables.latestTicks logicalSymbol

/-- No latest row and no position is earlier than before. -/
structure NotEarlier (before after : Tables) : Prop where
  bars : ∀ (key : String × Timeframe) barKind, NotBack BarRecord.openTimeUtc
    (before.getLatestBar ⟨key.1, key.2, barKind⟩) (after.getLatestBar ⟨key.1, key.2, barKind⟩)
  ticks : ∀ logicalSymbol, NotBack TickRecord.marketTimeUtc
    (before.getLatestTick logicalSymbol) (after.getLatestTick logicalSymbol)
  cursors : ∀ key, NotBack Cursor.cursorUtc (before.getCursor key) (after.getCursor key)

theorem NotEarlier.refl (tables : Tables) : NotEarlier tables tables :=
  ⟨fun _ _ => .refl _, fun _ => .refl _, fun _ => .refl _⟩

theorem NotEarlier.trans {first second third : Tables} (early : NotEarlier first second)
    (late : NotEarlier second third) : NotEarlier first third :=
  ⟨fun key barKind => (early.bars key barKind).trans (late.bars key barKind),
    fun logicalSymbol => (early.ticks logicalSymbol).trans (late.ticks logicalSymbol),
    fun key => (early.cursors key).trans (late.cursors key)⟩

/-- A cycle finds that the stored closed bars have closed and are still among
those of the broker; a chunk has a bar that opens no earlier than the stored
closed one. -/
def KeepsForward {env : Environment} {settings : MarketDataSettings}
    (history : ChangingBars env settings) (store : Store) : StoreEvent → Prop
  | .cycle symbol observedNow cycle _ => ∀ timeframe closed,
      store.tables.getLatestBar ⟨symbol.logicalSymbol, timeframe, .closed⟩ = some closed →
        closed.openTimeUtc + timeframeDelta timeframe ≤ observedNow ∧
          ∀ load ∈ cycle.barLoads, load.timeframe = timeframe →
            ∃ item ∈ history.bars symbol.logicalSymbol timeframe load.moment,
              item.openTime = closed.openTimeUtc
  | .chunk run load _ => ∀ closed,
      store.tables.getLatestBar ⟨run.resolved.logicalSymbol, run.timeframe, .closed⟩ =
          some closed →
        load.payload ≠ [] → ∃ item ∈ load.payload, closed.openTimeUtc ≤ item.openTime
  | _ => True

/-- The positions are those of the latest rows, and the last ticks were known. -/
structure Positioned {env : Environment} {settings : MarketDataSettings}
    (history : TickHistory env settings) (store : Store) : Prop where
  current : ∀ (key : String × Timeframe) row,
    store.tables.getLatestBar ⟨key.1, key.2, .current⟩ = some row →
      ∃ cursor, store.tables.getCursor ⟨.bars, key.1, some key.2⟩ = some cursor ∧
        cursor.cursorUtc = row.openTimeUtc
  tick : ∀ logicalSymbol row, store.tables.getLatestTick logicalSymbol = some row →
    ∃ cursor, store.tables.getCursor ⟨.ticks, logicalSymbol, none⟩ = some cursor ∧
      cursor.cursorUtc = row.marketTimeUtc
  known : ∀ logicalSymbol cursor,
    store.tables.getCursor ⟨.ticks, logicalSymbol, none⟩ = some cursor →
      ∃ moment < store.moment, ∃ item ∈ history.known logicalSymbol moment,
        cursor.cursorUtc = item.marketTimeUtc

section Steps

variable {env : Environment} {settings : MarketDataSettings}
  {bars : ChangingBars env settings} {ticks : TickHistory env settings}

/-! What the tables hold after a cycle. -/

theorem getLatestTick_committedTables
    (tables : Tables) (symbol : ResolvedSymbol) {batch : List TickRecord}
    (own : ∀ tick ∈ batch, tick.logicalSymbol = symbol.logicalSymbol)
    (currentRows closedRows : BarRows) (incidents : List QualityIncident) (observedNow : Int)
    (logicalSymbol : String) :
    (committedTables tables symbol batch currentRows closedRows incidents
        observedNow).getLatestTick logicalSymbol =
      (if logicalSymbol = symbol.logicalSymbol then batch.getLast? else none).or
        (tables.getLatestTick logicalSymbol) := by
  have rows : ∀ start : Tables, (start.replaceRows currentRows closedRows).latestTicks =
      start.latestTicks := fun start =>
    (Tables.read_foldl _ Tables.latestTicks Tables.replaceClosedRow (fun _ _ => rfl) _).trans
      (Tables.read_foldl _ Tables.latestTicks Tables.replaceCurrentRow (fun _ _ => rfl) _)
  have position : ∀ start : Tables, (start.recordTicks symbol.logicalSymbol batch).latestTicks =
      (batch.foldl Tables.upsertLatestTick start).latestTicks := by
    intro start
    unfold Tables.recordTicks
    refine Tables.read_foldl _ Tables.latestTicks _ (fun _ _ => ?_) _
    rfl
  have loop : ∀ start : Tables, (batch.foldl Tables.upsertLatestTick start).latestTicks =
      batch.foldl (fun entries tick => OrderedDict.set entries tick.logicalSymbol tick)
        start.latestTicks := fun start =>
    (List.foldl_hom Tables.latestTicks (fun _ _ => rfl)).symm
  unfold committedTables Tables.getLatestTick
  rw [Tables.read_foldl _ Tables.latestTicks Tables.recordIncident (fun _ _ => rfl), rows,
    position, loop, OrderedDict.get?_foldl_set]
  congr 1
  split
  next same =>
    subst same
    rw [Option.map_id', ← List.head?_reverse]
    cases reversed : batch.reverse with
    | nil => rfl
    | cons last others =>
        have here : last ∈ batch := List.mem_reverse.mp (by simp [reversed])
        simp [own last here]
  next different =>
    rw [Option.map_eq_none_iff, List.find?_eq_none]
    intro tick member
    simpa [own tick (List.mem_reverse.mp member)] using Ne.symm different

section Cycle

variable {tables : Tables} {earliest : Nat} {symbol : ResolvedSymbol} {observedNow : Int}
  {cycle : SymbolCycle}

/-- Every bar of a cycle belongs to its stream, and opens from its start on. -/
theorem barStart_le (bars : ChangingBars env settings) (resolved : Resolves env settings symbol)
    (describes : cycle.Describes env settings symbol observedNow tables earliest)
    {load : BarLoad} (inside : load ∈ cycle.barLoads) {row : BarRecord}
    (member : row ∈ load.bars) :
    row.rowKey = (symbol.logicalSymbol, load.timeframe) ∧
      barStart settings tables symbol.logicalSymbol observedNow load.timeframe ≤
        row.openTimeUtc := by
  obtain ⟨item, replied, rfl⟩ := (describes.bars load inside).exists_payload member
  obtain ⟨-, after, -⟩ := (bars.exact symbol resolved _ _ _ _ _
    (describes.bars load inside).payload item).mp replied
  rw [describes.starts load inside] at after
  exact ⟨rfl, after⟩

/-- A bar that the broker still has is in a reading that reaches it. -/
theorem exists_reread (bars : ChangingBars env settings) (resolved : Resolves env settings symbol)
    {load : BarLoad} (answers : load.Answers env symbol observedNow observedNow earliest)
    {item : BarPayload}
    (known : item ∈ bars.bars symbol.logicalSymbol load.timeframe load.moment)
    (after : load.startAt ≤ item.openTime)
    (ended : item.openTime + timeframeDelta load.timeframe ≤ observedNow) :
    ∃ row ∈ load.bars, hasClosed observedNow row = true ∧
      row.rowKey = (symbol.logicalSymbol, load.timeframe) ∧ row.openTimeUtc = item.openTime := by
  have positive := timeframeDelta_pos load.timeframe
  have replied := (bars.exact symbol resolved _ _ _ _ _ answers.payload item).mpr
    ⟨known, after, by omega⟩
  obtain ⟨row, inside, sameId⟩ := answers.exists_record replied
  obtain ⟨other, -, rfl⟩ := answers.exists_payload inside
  have sameOpen := openTime_of_barId sameId
  refine ⟨_, inside, ?_, rfl, sameOpen⟩
  simpa [hasClosed, barRecord, BarPayload.closeTime, sameOpen] using ended

/-- The closed row of a cycle opens no earlier than the stored one. -/
private theorem closed_forward (resolved : Resolves env settings symbol)
    (describes : cycle.Describes env settings symbol observedNow tables earliest)
    {store : Store} (here : store.tables = tables) {incidents : List QualityIncident}
    (guard : KeepsForward bars store (.cycle symbol observedNow cycle incidents))
    {key : String × Timeframe} {fresh closed : BarRecord}
    (last : Tables.lastUnder key (gatherRows (hasClosed observedNow) cycle.barLoads) = some fresh)
    (stored : tables.getLatestBar ⟨key.1, key.2, .closed⟩ = some closed) :
    closed.openTimeUtc ≤ fresh.openTimeUtc := by
  obtain ⟨-, load, inside, member, ownKey, newest⟩ := lastGathered_newest last
  obtain ⟨loadKey, after⟩ := barStart_le bars resolved describes inside member
  obtain rfl := ownKey.symm.trans loadKey
  obtain ⟨ended, still⟩ := guard load.timeframe closed (here ▸ stored)
  obtain ⟨item, known, sameOpen⟩ := still load inside rfl
  by_cases reached : load.startAt ≤ item.openTime
  · obtain ⟨row, rowInside, kept, rowKey, rowOpen⟩ := exists_reread bars resolved
      (describes.bars load inside) known reached (by rw [sameOpen]; exact ended)
    have before := newest row rowInside kept rowKey
    rwa [rowOpen, sameOpen] at before
  · rw [describes.starts load inside] at reached
    omega

/-- The last tick of a reading is no earlier than the ticks known before. -/
theorem last_tick_forward (ticks : TickHistory env settings)
    (resolved : Resolves env settings symbol) {load : TickLoad} {startAt endAt : Int}
    (answers : load.Answers env symbol startAt endAt earliest) {last : TickRecord}
    (found : load.ticks.getLast? = some last) {moment : Nat} (before : moment < earliest)
    {item : TickPayload} (known : item ∈ ticks.known symbol.logicalSymbol moment) :
    item.marketTimeUtc ≤ last.marketTimeUtc := by
  have later : moment ≤ load.newestMoment := by
    have order := answers.ordered
    have asked := answers.earliest
    omega
  have knownThen := (ticks.grows symbol.logicalSymbol _ _ later).mem known
  have isNewest := ticks.newest symbol resolved _ _ answers.newest
  obtain ⟨newest, hasNewest⟩ : ∃ newest, load.newest = some newest := by
    rw [isNewest, ← Option.isSome_iff_exists, List.getLast?_isSome]
    exact List.ne_nil_of_mem knownThen
  obtain ⟨record, inside, receivedAtUtc, rfl⟩ := ticks.exists_record resolved answers
    (List.mem_append_right _ (Option.mem_toList.mpr hasNewest))
  obtain ⟨payload, -, otherReceived, rfl⟩ := answers.exists_payload (List.mem_of_getLast? found)
  have itemFirst : item.marketTimeMsc ≤ newest.marketTimeMsc := by
    obtain ⟨early, shape⟩ := List.getLast?_eq_some_iff.mp (isNewest.symm.trans hasNewest)
    have increasing := ticks.increasing symbol.logicalSymbol load.newestMoment
    rw [shape] at increasing knownThen
    rcases List.mem_append.mp knownThen with old | same
    · exact Int.le_of_lt ((List.pairwise_append.mp increasing).2.2 item old newest (by simp))
    · rw [List.mem_singleton.mp same]
  unfold TickLoad.ticks at inside found
  rw [normalizeTickBatch_fst] at inside found
  have newestFirst := Python.key_le_last inside found
  simp only [tickRecord] at newestFirst ⊢
  unfold TickPayload.marketTimeUtc ofMilliseconds
  omega

/-- The last tick of a reading was known when the newest one was asked for. -/
theorem last_tick_known (ticks : TickHistory env settings)
    (resolved : Resolves env settings symbol) {load : TickLoad} {startAt endAt : Int}
    (answers : load.Answers env symbol startAt endAt earliest) {last : TickRecord}
    (found : load.ticks.getLast? = some last) :
    last.logicalSymbol = symbol.logicalSymbol ∧
      ∃ item ∈ ticks.known symbol.logicalSymbol load.newestMoment,
        last.marketTimeUtc = item.marketTimeUtc := by
  obtain ⟨item, replied, receivedAtUtc, rfl⟩ := answers.exists_payload (List.mem_of_getLast? found)
  exact ⟨rfl, item, ticks.known_of_reply resolved answers replied, rfl⟩

end Cycle

theorem barStart_of_cursor {tables : Tables} {logicalSymbol : String} {timeframe : Timeframe}
    {cursor : Cursor} (observedNow : Int)
    (found : tables.getCursor ⟨.bars, logicalSymbol, some timeframe⟩ = some cursor) :
    barStart settings tables logicalSymbol observedNow timeframe = cursor.cursorUtc := by
  simp [barStart, found]

/-! Each step. -/

section Cycled

variable {store : Store} {symbol : ResolvedSymbol} {observedNow : Int} {cycle : SymbolCycle}
  {incidents : List QualityIncident}

private theorem ticks_own
    (describes : cycle.Describes env settings symbol observedNow store.tables store.moment) :
    ∀ tick ∈ cycle.ticks, tick.logicalSymbol = symbol.logicalSymbol := by
  intro tick member
  obtain ⟨item, -, receivedAtUtc, rfl⟩ := describes.ticks.exists_payload member
  rfl

/-- The new position of the ticks is no earlier than the old one. -/
private theorem ticks_forward (resolved : Resolves env settings symbol)
    (describes : cycle.Describes env settings symbol observedNow store.tables store.moment)
    (positioned : Positioned ticks store) {last : TickRecord}
    (found : cycle.ticks.getLast? = some last) {old : Cursor}
    (stored : store.tables.getCursor ⟨.ticks, symbol.logicalSymbol, none⟩ = some old) :
    old.cursorUtc ≤ last.marketTimeUtc := by
  obtain ⟨moment, before, item, known, same⟩ := positioned.known _ _ stored
  rw [same]
  exact last_tick_forward ticks resolved describes.ticks found before known

theorem notEarlier_cycle (resolved : Resolves env settings symbol)
    (describes : cycle.Describes env settings symbol observedNow store.tables store.moment)
    (guard : KeepsForward bars store (.cycle symbol observedNow cycle incidents))
    (positioned : Positioned ticks store) :
    NotEarlier store.tables (committedTables store.tables symbol cycle.ticks
      (cycle.currentRows observedNow) (cycle.closedRows observedNow) incidents
      observedNow) := by
  constructor
  · intro key barKind
    rw [getLatestBar_committedTables]
    apply notBack_or
    intro new old fresh stored
    cases barKind with
    | closed => exact closed_forward resolved describes rfl guard fresh stored
    | current =>
        obtain ⟨-, load, inside, member, ownKey, -⟩ := lastGathered_newest fresh
        obtain ⟨loadKey, after⟩ := barStart_le bars resolved describes inside member
        obtain rfl := ownKey.symm.trans loadKey
        obtain ⟨cursor, found, same⟩ := positioned.current _ _ stored
        rw [barStart_of_cursor observedNow found] at after
        omega
  · intro logicalSymbol
    rw [getLatestTick_committedTables _ _ (ticks_own describes)]
    apply notBack_or
    intro new old fresh stored
    split at fresh
    next same =>
      subst same
      obtain ⟨cursor, found, sameTime⟩ := positioned.tick _ _ stored
      rw [← sameTime]
      exact ticks_forward resolved describes positioned fresh found
    next => cases fresh
  · intro key
    rw [getCursor_committedTables, ← Option.or_assoc]
    apply notBack_or
    intro new old fresh stored
    rcases Option.or_eq_some_iff.mp fresh with barCursor | ⟨-, tickCursor⟩
    · obtain ⟨row, inside, rfl, rfl⟩ := Tables.exists_row_of_cursorUnder barCursor
      obtain ⟨ownKey, -, load, loadInside, member⟩ := mem_gatherRows inside
      obtain ⟨loadKey, after⟩ := barStart_le bars resolved describes loadInside member
      have streamKey := ownKey.trans loadKey
      rw [streamKey] at stored
      rwa [barStart_of_cursor observedNow stored] at after
    · split at tickCursor
      next same =>
        subst same
        obtain ⟨last, found, rfl⟩ := Option.map_eq_some_iff.mp tickCursor
        exact ticks_forward resolved describes positioned found stored
      next => cases tickCursor

theorem positioned_cycle (resolved : Resolves env settings symbol)
    (describes : cycle.Describes env settings symbol observedNow store.tables store.moment)
    (positioned : Positioned ticks store) (files : List TableFile) :
    Positioned ticks
      { moment := cycle.tickLoad.newestMoment + 1
        tables := committedTables store.tables symbol cycle.ticks
          (cycle.currentRows observedNow) (cycle.closedRows observedNow) incidents observedNow
        files := files } := by
  have keyed : ∀ row ∈ cycle.currentRows observedNow, row.1 = row.2.rowKey :=
    fun _ member => (mem_gatherRows member).1
  have cursors := getCursor_committedTables store.tables symbol cycle.ticks
    (cycle.currentRows observedNow) (cycle.closedRows observedNow) incidents observedNow
  have tickCursors : ∀ logicalSymbol,
      (committedTables store.tables symbol cycle.ticks (cycle.currentRows observedNow)
        (cycle.closedRows observedNow) incidents observedNow).getCursor
          ⟨.ticks, logicalSymbol, none⟩ =
        (if logicalSymbol = symbol.logicalSymbol then tickCursor cycle.ticks else none).or
          (store.tables.getCursor ⟨.ticks, logicalSymbol, none⟩) := by
    intro logicalSymbol
    rw [cursors, Tables.cursorUnder_ticks, Option.none_or]
    simp
  have asked : store.moment ≤ cycle.tickLoad.newestMoment :=
    Nat.le_trans describes.ticks.earliest (Nat.le_of_lt describes.ticks.ordered)
  constructor
  · intro key row found
    rw [getLatestBar_committedTables] at found
    rw [cursors, cursorUnder_eq key keyed]
    rcases Option.or_eq_some_iff.mp found with fresh | ⟨absent, old⟩
    · rw [show Tables.lastUnder key (cycle.currentRows observedNow) = some row from fresh]
      exact ⟨_, rfl, rfl⟩
    · obtain ⟨cursor, stored, same⟩ := positioned.current key row old
      rw [show Tables.lastUnder key (cycle.currentRows observedNow) = none from absent]
      exact ⟨cursor, by simpa using stored, same⟩
  · intro logicalSymbol row found
    rw [getLatestTick_committedTables _ _ (ticks_own describes)] at found
    rw [tickCursors]
    rcases Option.or_eq_some_iff.mp found with fresh | ⟨absent, old⟩
    · split at fresh
      next same =>
        simp only [same, if_true, tickCursor, fresh, Option.map_some, Option.some_or]
        exact ⟨_, rfl, rfl⟩
      next => cases fresh
    · obtain ⟨cursor, stored, same⟩ := positioned.tick logicalSymbol row old
      refine ⟨cursor, ?_, same⟩
      split
      next here =>
        rw [if_pos here] at absent
        simpa [tickCursor, absent] using stored
      next => simpa using stored
  · intro logicalSymbol cursor found
    rw [tickCursors] at found
    rcases Option.or_eq_some_iff.mp found with fresh | ⟨-, old⟩
    · split at fresh
      next same =>
        subst same
        obtain ⟨last, isLast, rfl⟩ := Option.map_eq_some_iff.mp fresh
        obtain ⟨-, item, known, sameTime⟩ :=
          last_tick_known ticks resolved describes.ticks isLast
        exact ⟨_, Nat.lt_succ_self _, item, known, sameTime⟩
      next => cases fresh
    · obtain ⟨moment, before, item, known, same⟩ := positioned.known logicalSymbol cursor old
      exact ⟨moment, by dsimp only; omega, item, known, same⟩

end Cycled

section Chunked

variable {tables committed : Tables} {run : BackfillRun} {load : BarLoad} {chunkEnd : Int}

/-- The closed row that a chunk leaves opens last among its bars. -/
theorem ChunkOf.newest
    (chunk : ChunkOf env settings tables run load chunkEnd) {last : BarRecord}
    (found : load.bars.getLast? = some last) {key : String × Timeframe} {row : BarRecord}
    (fresh : Tables.lastUnder key
      (chunkRows run.resolved.logicalSymbol run.timeframe load.bars last).2 = some row) :
    key = (run.resolved.logicalSymbol, run.timeframe) ∧
      (∃ item ∈ load.payload, row = barRecord run.resolved.logicalSymbol
        run.resolved.brokerSymbol run.timeframe item chunkEnd) ∧
      ∀ item ∈ load.payload, item.openTime ≤ row.openTimeUtc := by
  have selected : Tables.lastUnder key
      (selectRows (hasClosed last.closeTimeUtc) load.bars []) = some row := by
    rw [← fresh]
    unfold chunkRows Tables.lastUnder underKey
    rw [split_eq_selectRows, ← List.map_reverse, List.find?_map, Option.map_map]
    rfl
  obtain ⟨sameKey, other, member, rfl⟩ := Tables.mem_of_lastUnder selected
  rcases mem_selectRows member with ⟨-, inside, -⟩ | none
  · obtain ⟨payload, replied, made⟩ := chunk.answers.exists_payload inside
    have ownKey : key = (run.resolved.logicalSymbol, run.timeframe) := by
      rw [← sameKey, made, ← chunk.timeframe]
      rfl
    refine ⟨ownKey, ⟨payload, replied, chunk.timeframe ▸ made⟩, ?_⟩
    intro item itemReplied
    obtain ⟨record, recordInside, sameId⟩ := chunk.answers.exists_record itemReplied
    obtain ⟨shown, -, same⟩ := chunk.answers.exists_payload recordInside
    have opens : record.openTimeUtc = item.openTime := by
      rw [same] at sameId ⊢
      exact openTime_of_barId sameId
    have recordKey : record.rowKey = key := by
      rw [ownKey, same, ← chunk.timeframe]
      rfl
    have kept : hasClosed last.closeTimeUtc record = true := by
      simpa [hasClosed] using chunk.close_le_last recordInside found
    rw [← opens]
    exact selectRows_newest load.bars_sorted
      (get?_of_lastUnder (selectRows_keys_nodup (by simp [OrderedDict.keys]))
        (fun row here => (mem_selectRows here).elim And.left (by simp)) selected)
      recordInside kept recordKey
  · cases none

/-- A chunk changes closed rows only, and leaves the last of its bars. -/
theorem chunk_changes (chunk : ChunkOf env settings tables run load chunkEnd)
    (changed : ChunkCommitted tables run.resolved.logicalSymbol run.timeframe load.bars
      committed) :
    committed.latestTicks = tables.latestTicks ∧ committed.cursors = tables.cursors ∧
      (∀ key : String × Timeframe, committed.getLatestBar ⟨key.1, key.2, .current⟩ =
        tables.getLatestBar ⟨key.1, key.2, .current⟩) ∧
      ∀ (key : String × Timeframe), ∃ fresh : Option BarRecord,
        committed.getLatestBar ⟨key.1, key.2, .closed⟩ =
          fresh.or (tables.getLatestBar ⟨key.1, key.2, .closed⟩) ∧
        ∀ row, fresh = some row → key = (run.resolved.logicalSymbol, run.timeframe) ∧
          (∃ item ∈ load.payload, row = barRecord run.resolved.logicalSymbol
            run.resolved.brokerSymbol run.timeframe item chunkEnd) ∧
          ∀ item ∈ load.payload, item.openTime ≤ row.openTimeUtc := by
  unfold ChunkCommitted at changed
  split at changed
  next =>
    subst changed
    exact ⟨rfl, rfl, fun _ => rfl, fun _ => ⟨none, by simp, by simp⟩⟩
  next last found =>
    obtain ⟨incidents, rfl⟩ := changed
    have noCurrent := chunk.currentRows_eq_nil found
    refine ⟨?_, ?_, ?_, ?_⟩
    · rw [Tables.read_foldl _ Tables.latestTicks Tables.recordIncident (fun _ _ => rfl)]
      apply (Tables.read_foldl _ Tables.latestTicks Tables.replaceClosedRow
        (fun _ _ => rfl) _).trans
      exact Tables.read_foldl _ Tables.latestTicks Tables.replaceCurrentRow (fun _ _ => rfl) _
    · rw [Tables.recordIncidents_cursors, noCurrent]
      exact Tables.read_foldl _ Tables.cursors Tables.replaceClosedRow (fun _ _ => rfl) _
    · intro key
      unfold Tables.getLatestBar
      rw [Tables.recordIncidents_latestBars]
      refine (Tables.getLatestBar_replaceRows _ _ _ key .current).trans ?_
      rw [BarKind.rowsOf, noCurrent]
      rfl
    · intro key
      refine ⟨Tables.lastUnder key
        (chunkRows run.resolved.logicalSymbol run.timeframe load.bars last).2, ?_, ?_⟩
      · unfold Tables.getLatestBar
        rw [Tables.recordIncidents_latestBars]
        exact Tables.getLatestBar_replaceRows _ _ _ key .closed
      · intro row fresh
        exact chunk.newest found fresh

theorem notEarlier_chunk {store : Store}
    (chunk : ChunkOf env settings store.tables run load chunkEnd)
    (changed : ChunkCommitted store.tables run.resolved.logicalSymbol run.timeframe load.bars
      committed)
    (guard : KeepsForward bars store (.chunk run load chunkEnd)) :
    NotEarlier store.tables committed := by
  obtain ⟨sameTicks, sameCursors, sameCurrent, closedRows⟩ := chunk_changes chunk changed
  constructor
  · intro key barKind
    cases barKind with
    | current =>
        rw [sameCurrent]
        exact .refl _
    | closed =>
        obtain ⟨fresh, left, newest⟩ := closedRows key
        rw [left]
        apply notBack_or
        intro new old isFresh stored
        obtain ⟨rfl, ⟨_, here, -⟩, last⟩ := newest new isFresh
        obtain ⟨item, replied, notBefore⟩ := guard old stored (List.ne_nil_of_mem here)
        exact Int.le_trans notBefore (last item replied)
  · intro logicalSymbol
    unfold Tables.getLatestTick
    rw [sameTicks]
    exact .refl _
  · intro key
    unfold Tables.getCursor
    rw [sameCursors]
    exact .refl _

theorem positioned_chunk {store : Store}
    (chunk : ChunkOf env settings store.tables run load chunkEnd)
    (changed : ChunkCommitted store.tables run.resolved.logicalSymbol run.timeframe load.bars
      committed)
    (positioned : Positioned ticks store) (files : List TableFile) :
    Positioned ticks { store with tables := committed, files := files } := by
  obtain ⟨sameTicks, sameCursors, sameCurrent, -⟩ := chunk_changes chunk changed
  constructor
  · intro key row found
    unfold Tables.getCursor
    rw [sameCursors]
    exact positioned.current key row (sameCurrent key ▸ found)
  · intro logicalSymbol row found
    unfold Tables.getCursor
    rw [sameCursors]
    apply positioned.tick logicalSymbol row
    unfold Tables.getLatestTick at found ⊢
    rwa [← sameTicks]
  · intro logicalSymbol cursor found
    unfold Tables.getCursor at found
    rw [sameCursors] at found
    exact positioned.known logicalSymbol cursor found

end Chunked

theorem Positioned.congr {store after : Store} (positioned : Positioned ticks store)
    (moment : after.moment = store.moment)
    (latestBars : after.tables.latestBars = store.tables.latestBars)
    (latestTicks : after.tables.latestTicks = store.tables.latestTicks)
    (cursors : after.tables.cursors = store.tables.cursors) : Positioned ticks after := by
  obtain ⟨current, tick, known⟩ := positioned
  constructor
  · simpa only [Tables.getLatestBar, Tables.getCursor, latestBars, cursors] using current
  · simpa only [Tables.getLatestTick, Tables.getCursor, latestTicks, cursors] using tick
  · simpa only [Tables.getCursor, cursors, moment] using known

theorem NotEarlier.of_same {before after : Tables}
    (latestBars : after.latestBars = before.latestBars)
    (latestTicks : after.latestTicks = before.latestTicks)
    (cursors : after.cursors = before.cursors) : NotEarlier before after := by
  have refl := NotEarlier.refl before
  constructor
  · simpa only [Tables.getLatestBar, latestBars] using refl.bars
  · simpa only [Tables.getLatestTick, latestTicks] using refl.ticks
  · simpa only [Tables.getCursor, cursors] using refl.cursors

theorem positioned_step {store after : Store} {event : StoreEvent}
    (step : StoreStep env settings store event after) (positioned : Positioned ticks store) :
    Positioned ticks after := by
  cases step with
  | cycle resolved describes => exact positioned_cycle resolved describes positioned _
  | chunk chunk changed => exact positioned_chunk chunk changed positioned _
  | wrote => exact positioned.congr rfl rfl rfl rfl
  | heartbeat => exact positioned.congr rfl rfl rfl rfl
  | progressed => exact positioned.congr rfl rfl rfl rfl
  | failed => exact positioned.congr rfl rfl rfl rfl

theorem notEarlier_step {store after : Store} {event : StoreEvent}
    (step : StoreStep env settings store event after) (guard : KeepsForward bars store event)
    (positioned : Positioned ticks store) : NotEarlier store.tables after.tables := by
  cases step with
  | cycle resolved describes => exact notEarlier_cycle resolved describes guard positioned
  | chunk chunk changed => exact notEarlier_chunk chunk changed guard
  | wrote => exact .refl _
  | heartbeat => exact .of_same rfl rfl rfl
  | progressed => exact .of_same rfl rfl rfl
  | failed => exact .of_same rfl rfl rfl

/-- A run of guarded steps leaves nothing earlier than it finds. -/
theorem notEarlier_run {start finish : Store} {events : List StoreEvent}
    (run : GuardedRun env settings (KeepsForward bars) start events finish)
    (positioned : Positioned ticks start) : NotEarlier start.tables finish.tables := by
  have both : NotEarlier start.tables finish.tables ∧ Positioned ticks finish :=
    run.invariant (fun store => NotEarlier start.tables store.tables ∧ Positioned ticks store)
      (fun _ _ _ step guard ⟨earlier, here⟩ =>
        ⟨earlier.trans (notEarlier_step step guard here), positioned_step step here⟩)
      ⟨.refl _, positioned⟩
  exact both.1

theorem positioned_run {start finish : Store} {events : List StoreEvent}
    {meets : Store → StoreEvent → Prop} (run : GuardedRun env settings meets start events finish)
    (positioned : Positioned ticks start) : Positioned ticks finish :=
  run.invariant (Positioned ticks) (fun _ _ _ step _ here => positioned_step step here) positioned

theorem positioned_fresh : Positioned ticks freshStore :=
  ⟨by intros; contradiction, by intros; contradiction, by intros; contradiction⟩

end Steps

/-- Calls and more calls are a run of steps and a later one, and from one point
of a run whose steps keep forward to a later one nothing becomes earlier. -/
theorem latest_state_forward
    (env : Environment) (settings : MarketDataSettings) (ticks : TickHistory env settings)
    (bars : ChangingBars env settings) (fuel : Nat) (calls more : List Call) :
    (∃ early middle, StoreRun env settings freshStore early middle ∧
      Stands middle (runCalls env settings fuel calls freshWorld) ∧
        Moved env settings middle (runCalls env settings fuel (calls ++ more) freshWorld)) ∧
      ∀ early middle late after,
        GuardedRun env settings (KeepsForward bars) freshStore early middle →
          Stands middle (runCalls env settings fuel calls freshWorld) →
        GuardedRun env settings (KeepsForward bars) middle late after →
          Stands after (runCalls env settings fuel (calls ++ more) freshWorld) →
            NotEarlier (runCalls env settings fuel calls freshWorld).tables
              (runCalls env settings fuel (calls ++ more) freshWorld).tables := by
  constructor
  · obtain ⟨early, middle, run, stands⟩ : Moved env settings freshStore _ :=
      moved_of_calls fuel calls stands_fresh
    refine ⟨early, middle, run, stands, ?_⟩
    unfold runCalls
    rw [List.foldl_append]
    exact moved_of_calls fuel more stands
  · intro early middle late after before standsMiddle run stands
    rw [standsMiddle.tables, stands.tables]
    exact notEarlier_run run (@positioned_run _ _ ticks _ _ _ _ before positioned_fresh)

/-- Bars of the broker for gold that do not change. -/
def steadyBars (ticks : Nat → List TickPayload) (bars : List BarPayload)
    (distinct : ∀ first ∈ bars, ∀ second ∈ bars, first.time = second.time → first = second) :
    ChangingBars (goldBroker ticks bars) goldSettings where
  bars := fun _ _ _ => bars
  distinct := fun _ _ _ => distinct
  exact := by
    intro symbol _ moment timeframe startAt endAt payload replied item
    obtain rfl := Option.some.inj (Except.ok.inj replied)
    simp

def noTicks (bars : List BarPayload) : TickHistory (goldBroker (fun _ => []) bars) goldSettings :=
  goldTicks _ _ (fun _ _ _ => List.prefix_refl _) (fun _ => .nil)

/-- A cycle that finds the bar of `goldCycle` closed. -/
def laterCycle : SymbolCycle :=
  { tickLoad :=
      { rangeMoment := 2
        newestMoment := 3
        range := []
        newest := none
        records := []
        readClock := fun _ => 0 }
    barLoads :=
      [{ timeframe := .M1
         startAt := 60000000
         moment := 2
         payload := [goldBar 60]
         records := [barRecord "XAUUSD" "XAUUSD" .M1 (goldBar 60) 200000000]
         readClock := fun _ => 0 }] }

/-- The stores after a collection that finds the bar forming. -/
def goldMiddle : Store :=
  { moment := 2
    tables := (committedTables freshStore.tables goldSymbol goldCycle.ticks
      (goldCycle.currentRows 90000000) (goldCycle.closedRows 90000000) [] 90000000).recordHeartbeat
        (goldHeartbeat 0 1 0 90000000)
    files := freshStore.files ++ tickFiles plainLibrary goldCycle.ticks ++
      barFiles plainLibrary goldCycle.bars }

theorem laterCycle_describes :
    laterCycle.Describes (goldBroker (fun _ => []) [goldBar 60]) goldSettings goldSymbol 200000000
      goldMiddle.tables goldMiddle.moment :=
  { ticks := ⟨by decide, by decide, rfl, rfl, .nil⟩
    timeframes := rfl
    starts := by simp [laterCycle]; decide +kernel
    bars := by
      simp only [laterCycle, List.mem_singleton, forall_eq]
      exact ⟨by decide, by decide +kernel, rfl⟩ }

theorem goldCollections_forward :
    NotEarlier
      (runCalls (goldBroker (fun _ => []) [goldBar 60]) goldSettings 1
        [.collectOnce none (some 90000000) none] freshWorld).tables
      (runCalls (goldBroker (fun _ => []) [goldBar 60]) goldSettings 1
        [.collectOnce none (some 90000000) none, .collectOnce none (some 200000000) none]
        freshWorld).tables := by
  have bars := steadyBars (fun _ => []) [goldBar 60] (by
    intro first known second otherKnown _
    rw [List.mem_singleton.mp known, List.mem_singleton.mp otherKnown])
  obtain ⟨-, forward⟩ := latest_state_forward _ _ (noTicks [goldBar 60]) bars 1
    [.collectOnce none (some 90000000) none] [.collectOnce none (some 200000000) none]
  have resolved := resolves_gold (fun _ => []) [goldBar 60]
  have still : ∀ store record, KeepsForward bars store (.heartbeat record) :=
    fun _ _ => trivial
  have guardFirst : KeepsForward bars freshStore (.cycle goldSymbol 90000000 goldCycle []) := by
    intro timeframe closed found
    contradiction
  have guardSecond : KeepsForward bars goldMiddle
      (.cycle goldSymbol 200000000 laterCycle []) := by
    intro timeframe closed found
    have absent : goldMiddle.tables.getLatestBar ⟨"XAUUSD", timeframe, .closed⟩ = none := by
      cases timeframe <;> decide +kernel
    cases absent.symm.trans found
  have first : GuardedRun (goldBroker (fun _ => []) [goldBar 60]) goldSettings (KeepsForward bars)
      freshStore _ goldMiddle :=
    .step (.step .start guardFirst (.cycle resolved goldCycle_describes))
      (still _ (goldHeartbeat 0 1 0 90000000)) .heartbeat
  have second : GuardedRun (goldBroker (fun _ => []) [goldBar 60]) goldSettings (KeepsForward bars)
      goldMiddle _ _ :=
    .step (.step .start guardSecond (.cycle resolved laterCycle_describes))
      (still _ (goldHeartbeat 0 1 0 200000000)) .heartbeat
  exact forward _ _ _ _ first ⟨by decide +kernel, by decide +kernel, by decide +kernel⟩
    second ⟨by decide +kernel, by decide +kernel, by decide +kernel⟩

/-- A backfill of the first minute replaces the closed bar of the second one. -/
theorem goldBackfill_back :
    ∃ (_ : TickHistory (goldBroker (fun _ => []) [goldBar 0, goldBar 60, goldBar 120]) goldSettings)
      (bars : ChangingBars (goldBroker (fun _ => []) [goldBar 0, goldBar 60, goldBar 120])
        goldSettings),
      (∀ logicalSymbol timeframe moment later,
        bars.bars logicalSymbol timeframe moment = bars.bars logicalSymbol timeframe later) ∧
      ¬NotEarlier
        (runCalls (goldBroker (fun _ => []) [goldBar 0, goldBar 60, goldBar 120]) goldSettings 1
          [.collectOnce none (some 120000000) none] freshWorld).tables
        (runCalls (goldBroker (fun _ => []) [goldBar 0, goldBar 60, goldBar 120]) goldSettings 1
          [.collectOnce none (some 120000000) none, .backfill "XAUUSD" "M1" 0 30000000 none]
          freshWorld).tables := by
  refine ⟨noTicks _, steadyBars _ _ ?_, fun _ _ _ _ => rfl, ?_⟩
  · decide
  · intro forward
    obtain ⟨closed, found, opens⟩ := Option.map_eq_some_iff.mp
      (show ((runCalls (goldBroker (fun _ => []) [goldBar 0, goldBar 60, goldBar 120])
          goldSettings 1 [.collectOnce none (some 120000000) none]
          freshWorld).tables.getLatestBar ⟨"XAUUSD", .M1, .closed⟩).map
            BarRecord.openTimeUtc = some 60000000 by decide +kernel)
    obtain ⟨back, foundBack, opensBack⟩ := Option.map_eq_some_iff.mp
      (show ((runCalls (goldBroker (fun _ => []) [goldBar 0, goldBar 60, goldBar 120])
          goldSettings 1
          [.collectOnce none (some 120000000) none, .backfill "XAUUSD" "M1" 0 30000000 none]
          freshWorld).tables.getLatestBar ⟨"XAUUSD", .M1, .closed⟩).map
            BarRecord.openTimeUtc = some 0 by decide +kernel)
    obtain ⟨new, foundNew, notBefore⟩ := forward.bars ("XAUUSD", .M1) .closed closed found
    obtain rfl := Option.some.inj (foundBack.symm.trans foundNew)
    omega

end SuperAdvisor.MarketData
