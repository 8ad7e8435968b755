import SuperAdvisor.MarketData.Collector
import SuperAdvisor.MarketData.StorageRules

/-!
# What a commit does to the stores

A commit that returns has written its batch to files of its own and changed the
tables by a function of the batch; a commit that raises has changed no table.
-/

namespace SuperAdvisor.MarketData

open Raising

/-- The rows of one kind. -/
def BarKind.rowsOf (currentRows closedRows : BarRows) : BarKind → BarRows
  | .current => currentRows
  | .closed => closedRows

namespace Tables

def replaceCurrentRow (tables : Tables) (row : (String × Timeframe) × BarRecord) : Tables :=
  (tables.upsertLatestBar row.2 .current).advanceCursor ⟨.bars, row.1.1, some row.1.2⟩
    { cursorUtc := row.2.openTimeUtc
      markerId := row.2.barId }

def replaceClosedRow (tables : Tables) (row : (String × Timeframe) × BarRecord) : Tables :=
  tables.upsertLatestBar row.2 .closed

def replaceRows (tables : Tables) (currentRows closedRows : BarRows) : Tables :=
  closedRows.foldl replaceClosedRow (currentRows.foldl replaceCurrentRow tables)

/-- The ticks of a batch, and the position after them. -/
def recordTicks (tables : Tables) (logicalSymbol : String) (ticks : List TickRecord) :
    Tables :=
  ticks.getLast?.toList.foldl (fun tables latestTick =>
      tables.advanceCursor ⟨.ticks, logicalSymbol, none⟩
        { cursorUtc := latestTick.marketTimeUtc
          markerId := latestTick.sequenceId })
    (ticks.foldl upsertLatestTick tables)

/-- The incidents found for a closed row. -/
def MutationOf (tables : Tables) (row : (String × Timeframe) × BarRecord)
    (found : List QualityIncident) : Prop :=
  ∃ readClock, found = detectClosedBarMutation readClock
    (tables.getLatestClosedBar row.1.1 row.1.2) (some row.2)

/-- The incidents found for the closed rows of a commit. -/
def MutationsOf (tables : Tables) (closedRows : BarRows) (found : List QualityIncident) :
    Prop :=
  ∃ mutations, List.Forall₂ tables.MutationOf closedRows mutations ∧
    found = mutations.flatten

def getLatestBar (tables : Tables) (key : BarKey) : Option BarRecord :=
  OrderedDict.get? tables.latestBars key

/-- The record that a loop over rows leaves under a key. -/
def lastUnder (key : String × Timeframe) (rows : BarRows) : Option BarRecord :=
  (rows.reverse.find? (fun row => row.2.rowKey = key)).map Prod.snd

theorem mem_of_lastUnder
    {key : String × Timeframe} {rows : BarRows} {record : BarRecord}
    (found : lastUnder key rows = some record) :
    record.rowKey = key ∧ ∃ row ∈ rows, row.2 = record := by
  obtain ⟨row, here, rfl⟩ := Option.map_eq_some_iff.mp found
  exact ⟨by simpa using List.find?_some here, row,
    List.mem_reverse.mp (List.mem_of_find?_eq_some here), rfl⟩

/-- The position that a loop over rows leaves under a key. -/
def cursorUnder (key : CursorKey) (rows : BarRows) : Option Cursor :=
  (rows.reverse.find? (fun row => (⟨.bars, row.1.1, some row.1.2⟩ : CursorKey) = key)).map
    (fun row =>
      { cursorUtc := row.2.openTimeUtc
        markerId := row.2.barId })

/-- A position that a loop over rows leaves is one of a row. -/
theorem exists_row_of_cursorUnder
    {key : CursorKey} {rows : BarRows} {cursor : Cursor}
    (found : cursorUnder key rows = some cursor) :
    ∃ row ∈ rows, key = ⟨.bars, row.1.1, some row.1.2⟩ ∧
      cursor = { cursorUtc := row.2.openTimeUtc, markerId := row.2.barId } := by
  obtain ⟨row, here, same⟩ := Option.map_eq_some_iff.mp found
  have matched := List.find?_some here
  exact ⟨row, List.mem_reverse.mp (List.mem_of_find?_eq_some here),
    (of_decide_eq_true matched).symm, same.symm⟩

/-- Rows of bars leave no position of ticks. -/
theorem cursorUnder_ticks
    (logicalSymbol : String) (timeframe : Option Timeframe) (rows : BarRows) :
    cursorUnder ⟨.ticks, logicalSymbol, timeframe⟩ rows = none := by
  by_contra left
  obtain ⟨cursor, found⟩ := Option.ne_none_iff_exists'.mp left
  obtain ⟨row, -, sameKey, -⟩ := exists_row_of_cursorUnder found
  cases congrArg CursorKey.streamKind sameKey

section Lookups

variable (tables : Tables) (currentRows closedRows : BarRows)

/-- A loop of operations that keep a part of the tables keeps it. -/
theorem read_foldl
    {α β : Type} (read : Tables → β) (change : Tables → α → Tables)
    (keeps : ∀ tables item, read (change tables item) = read tables) (items : List α) :
    read (items.foldl change tables) = read tables := by
  induction items generalizing tables with
  | nil => rfl
  | cons item items induction => exact (induction _).trans (keeps tables item)

theorem recordIncidents_cursors (incidents : List QualityIncident) :
    (incidents.foldl recordIncident tables).cursors = tables.cursors :=
  read_foldl tables cursors recordIncident (fun _ _ => rfl) incidents

theorem recordIncidents_latestBars (incidents : List QualityIncident) :
    (incidents.foldl recordIncident tables).latestBars = tables.latestBars :=
  read_foldl tables latestBars recordIncident (fun _ _ => rfl) incidents

theorem recordIncidents_backfillState (incidents : List QualityIncident) :
    (incidents.foldl recordIncident tables).backfillState = tables.backfillState :=
  read_foldl tables backfillState recordIncident (fun _ _ => rfl) incidents

theorem recordTicks_latestBars (logicalSymbol : String) (ticks : List TickRecord) :
    (tables.recordTicks logicalSymbol ticks).latestBars = tables.latestBars := by
  unfold recordTicks
  refine (read_foldl _ latestBars _ (fun _ _ => ?_) _).trans
    (read_foldl tables latestBars upsertLatestTick (fun _ _ => rfl) ticks)
  rfl

theorem recordTicks_incidents (logicalSymbol : String) (ticks : List TickRecord) :
    (tables.recordTicks logicalSymbol ticks).incidents = tables.incidents := by
  unfold recordTicks
  refine (read_foldl _ incidents _ (fun _ _ => ?_) _).trans
    (read_foldl tables incidents upsertLatestTick (fun _ _ => rfl) ticks)
  rfl

theorem replaceRows_incidents :
    (tables.replaceRows currentRows closedRows).incidents = tables.incidents :=
  (read_foldl _ incidents replaceClosedRow (fun _ _ => rfl) closedRows).trans
    (read_foldl _ incidents replaceCurrentRow (fun _ _ => rfl) currentRows)

theorem replaceRows_backfillState :
    (tables.replaceRows currentRows closedRows).backfillState = tables.backfillState :=
  (read_foldl _ backfillState replaceClosedRow (fun _ _ => rfl) closedRows).trans
    (read_foldl _ backfillState replaceCurrentRow (fun _ _ => rfl) currentRows)

theorem getCursor_replaceRows (key : CursorKey) :
    (tables.replaceRows currentRows closedRows).getCursor key =
      (cursorUnder key currentRows).or (tables.getCursor key) := by
  have closed : (tables.replaceRows currentRows closedRows).cursors =
      (currentRows.foldl replaceCurrentRow tables).cursors :=
    read_foldl _ cursors replaceClosedRow (fun _ _ => rfl) closedRows
  have current : currentRows.foldl (fun entries row =>
        OrderedDict.set entries ⟨.bars, row.1.1, some row.1.2⟩
          { cursorUtc := row.2.openTimeUtc, markerId := row.2.barId }) tables.cursors =
      (currentRows.foldl replaceCurrentRow tables).cursors :=
    List.foldl_hom cursors (fun _ _ => rfl)
  unfold getCursor
  rw [closed, ← current]
  exact OrderedDict.get?_foldl_set _ _ currentRows tables.cursors key

/-- A lookup among the bars after both loops. -/
private theorem get?_replaceRows (key : BarKey) :
    (tables.replaceRows currentRows closedRows).getLatestBar key =
      ((closedRows.reverse.find? (fun row =>
          (⟨row.2.logicalSymbol, row.2.timeframe, .closed⟩ : BarKey) = key)).map
        Prod.snd).or
      (((currentRows.reverse.find? (fun row =>
          (⟨row.2.logicalSymbol, row.2.timeframe, .current⟩ : BarKey) = key)).map
        Prod.snd).or (tables.getLatestBar key)) := by
  have closed : closedRows.foldl (fun entries row => OrderedDict.set entries
        ⟨row.2.logicalSymbol, row.2.timeframe, .closed⟩ row.2)
        (currentRows.foldl replaceCurrentRow tables).latestBars =
      (closedRows.foldl replaceClosedRow (currentRows.foldl replaceCurrentRow tables)).latestBars :=
    List.foldl_hom latestBars (fun _ _ => rfl)
  have current : currentRows.foldl (fun entries row => OrderedDict.set entries
        ⟨row.2.logicalSymbol, row.2.timeframe, .current⟩ row.2) tables.latestBars =
      (currentRows.foldl replaceCurrentRow tables).latestBars :=
    List.foldl_hom latestBars (fun _ _ => rfl)
  unfold getLatestBar replaceRows
  rw [← closed, OrderedDict.get?_foldl_set, ← current, OrderedDict.get?_foldl_set]

private theorem find?_other_kind
    {first second : BarKind} (different : first ≠ second) (rows : BarRows)
    (key : String × Timeframe) :
    rows.find? (fun row => (⟨row.2.logicalSymbol, row.2.timeframe, first⟩ : BarKey) =
      ⟨key.1, key.2, second⟩) = none :=
  List.find?_eq_none.mpr (fun row _ => by simp [different])

private theorem find?_same_kind
    (kind : BarKind) (rows : BarRows) (key : String × Timeframe) :
    (rows.reverse.find? (fun row => (⟨row.2.logicalSymbol, row.2.timeframe, kind⟩ : BarKey) =
      ⟨key.1, key.2, kind⟩)).map Prod.snd = lastUnder key rows := by
  unfold lastUnder
  congr 2
  funext row
  simp [BarRecord.rowKey, Prod.ext_iff]

theorem getLatestBar_replaceRows (key : String × Timeframe) (barKind : BarKind) :
    (tables.replaceRows currentRows closedRows).getLatestBar ⟨key.1, key.2, barKind⟩ =
      (lastUnder key (barKind.rowsOf currentRows closedRows)).or
        (tables.getLatestBar ⟨key.1, key.2, barKind⟩) := by
  rw [get?_replaceRows]
  cases barKind with
  | current =>
      rw [find?_same_kind, find?_other_kind (show BarKind.closed ≠ .current by decide)]
      rfl
  | closed =>
      rw [find?_same_kind, find?_other_kind (show BarKind.current ≠ .closed by decide)]
      rfl

end Lookups

end Tables

namespace Service

variable {env : Environment} {tables : Tables} {files : List TableFile} {earliest : Nat}

/-- Rows under the keys a commit uses for them. -/
def underKey (key : (String × Timeframe) × BarRecord → String × Timeframe) (rows : BarRows) :
    BarRows :=
  rows.map (fun row => (key row, row.2))

@[simp] theorem underKey_append
    {key : (String × Timeframe) × BarRecord → String × Timeframe} (early late : BarRows) :
    underKey key (early ++ late) = underKey key early ++ underKey key late :=
  List.map_append

@[simp] theorem underKey_fst (rows : BarRows) : underKey Prod.fst rows = rows :=
  List.map_id' rows

section Rows

variable {working : Tables}

theorem ensures_replaceCurrentRow (row : (String × Timeframe) × BarRecord) :
    Ensures (Inside tables files earliest working)
      (replaceCurrentRow env row.1.1 row.1.2 row.2)
      (fun _ => Inside tables files earliest (working.replaceCurrentRow row))
      (fun _ => At tables files earliest) := by
  refine ensures_bind ensures_statement ?_
  intro _
  exact ensures_statement

theorem ensures_replaceClosedRow (row : (String × Timeframe) × BarRecord) :
    Ensures (Inside tables files earliest working)
      (replaceClosedRow env row.1.1 row.1.2 row.2)
      (fun found world => tables.MutationOf row found ∧
        Inside tables files earliest (working.replaceClosedRow row) world)
      (fun _ => At tables files earliest) := by
  refine ensures_bind ensures_query_inside ?_
  intro previousClosed
  refine ensures_of_fact (fun read => ?_)
  refine ensures_bind ensures_incidentClock_inside ?_
  intro readClock
  refine ensures_bind ensures_statement ?_
  intro _
  exact ensures_pure (fun _ known => ⟨⟨readClock, by rw [read]⟩, known⟩)

theorem ensures_replaceRows
    {currentRows closedRows : BarRows}
    {key : (String × Timeframe) × BarRecord → String × Timeframe} :
    Ensures (Inside tables files earliest working)
      (replaceRows env key currentRows closedRows)
      (fun found world => tables.MutationsOf (underKey key closedRows) found ∧
        Inside tables files earliest
          (working.replaceRows (underKey key currentRows) (underKey key closedRows)) world)
      (fun _ => At tables files earliest) := by
  refine ensures_bind
    (ensures_forM (fun early => Inside tables files earliest
      ((underKey key early).foldl Tables.replaceCurrentRow working)) ?_) ?_
  · intro early row late shape
    rw [underKey_append, List.foldl_append]
    exact ensures_replaceCurrentRow (key row, row.2)
  intro _
  refine ensures_bind
    (ensures_weaken
      (ensures_mapM (fun early found world =>
        List.Forall₂ tables.MutationOf (underKey key early) found ∧
        Inside tables files earliest
          (working.replaceRows (underKey key currentRows) (underKey key early)) world) ?_)
      (fun _ known => ⟨.nil, known⟩) (fun _ _ known => known) (fun _ _ known => known)) ?_
  · intro early row late found shape
    refine ensures_of_fact (fun fitted => ?_)
    refine ensures_weaken (ensures_replaceClosedRow (key row, row.2))
      (fun _ known => known) ?_ (fun _ _ known => known)
    intro mutation world known
    rw [underKey_append]
    refine ⟨List.rel_append fitted (.cons known.1 .nil), ?_⟩
    unfold Tables.replaceRows at known ⊢
    rw [List.foldl_append]
    exact known.2
  intro mutations
  exact ensures_pure (fun _ known => ⟨⟨mutations, known.1, rfl⟩, known.2⟩)

end Rows

/-- The tables after a commit of a symbol. -/
def committedTables (tables : Tables) (symbol : ResolvedSymbol) (ticks : List TickRecord)
    (currentRows closedRows : BarRows) (incidents : List QualityIncident)
    (observedNow : Int) : Tables :=
  incidents.foldl Tables.recordIncident
    (((tables.recordSymbolMapping symbol.logicalSymbol
      { brokerSymbol := symbol.brokerSymbol
        aliases := symbol.aliases
        description := symbol.description
        point := symbol.point
        digits := symbol.digits
        visible := true
        updatedAtUtc := observedNow }).recordTicks symbol.logicalSymbol ticks).replaceRows
      currentRows closedRows)

theorem committedTables_backfillState
    (tables : Tables) (symbol : ResolvedSymbol) (ticks : List TickRecord)
    (currentRows closedRows : BarRows) (incidents : List QualityIncident)
    (observedNow : Int) :
    (committedTables tables symbol ticks currentRows closedRows incidents
      observedNow).backfillState = tables.backfillState := by
  unfold committedTables Tables.recordTicks
  rw [Tables.recordIncidents_backfillState, Tables.replaceRows_backfillState]
  refine (Tables.read_foldl _ Tables.backfillState _ (fun _ _ => ?_) _).trans ?_
  · rfl
  · exact Tables.read_foldl _ Tables.backfillState Tables.upsertLatestTick (fun _ _ => rfl) ticks

/-- The position a batch of ticks leaves. -/
def tickCursor (ticks : List TickRecord) : Option Cursor :=
  ticks.getLast?.map (fun latestTick =>
    { cursorUtc := latestTick.marketTimeUtc
      markerId := latestTick.sequenceId })

theorem getCursor_committedTables
    (tables : Tables) (symbol : ResolvedSymbol) (ticks : List TickRecord)
    (currentRows closedRows : BarRows) (incidents : List QualityIncident)
    (observedNow : Int) (key : CursorKey) :
    (committedTables tables symbol ticks currentRows closedRows incidents
        observedNow).getCursor key =
      (Tables.cursorUnder key currentRows).or
        ((if key = ⟨.ticks, symbol.logicalSymbol, none⟩ then tickCursor ticks else none).or
          (tables.getCursor key)) := by
  unfold committedTables Tables.getCursor
  rw [Tables.recordIncidents_cursors]
  refine (Tables.getCursor_replaceRows _ currentRows closedRows key).trans ?_
  congr 1
  unfold Tables.getCursor Tables.recordTicks tickCursor
  have unchanged : ∀ start : Tables,
      (ticks.foldl Tables.upsertLatestTick start).cursors = start.cursors :=
    fun start =>
      Tables.read_foldl start Tables.cursors Tables.upsertLatestTick (fun _ _ => rfl) ticks
  cases ticks.getLast? with
  | none =>
      simp only [Option.toList_none, List.foldl_nil, unchanged, Option.map_none, ite_self,
        Option.none_or]
      rfl
  | some latestTick =>
      simp only [Option.toList_some, List.foldl_cons, List.foldl_nil, Tables.advanceCursor,
        unchanged, Option.map_some]
      by_cases same : key = ⟨.ticks, symbol.logicalSymbol, none⟩
      · subst same
        simp [OrderedDict.get?_set_self]
      · rw [OrderedDict.get?_set_of_ne _ _ same, if_neg same]
        rfl

/-- A commit leaves the last rows it has, and the old ones where it has none. -/
theorem getLatestBar_committedTables
    (tables : Tables) (symbol : ResolvedSymbol) (ticks : List TickRecord)
    (currentRows closedRows : BarRows) (incidents : List QualityIncident)
    (observedNow : Int) (key : String × Timeframe) (barKind : BarKind) :
    (committedTables tables symbol ticks currentRows closedRows incidents
        observedNow).getLatestBar ⟨key.1, key.2, barKind⟩ =
      (Tables.lastUnder key (barKind.rowsOf currentRows closedRows)).or
        (tables.getLatestBar ⟨key.1, key.2, barKind⟩) := by
  unfold committedTables Tables.getLatestBar
  rw [Tables.recordIncidents_latestBars]
  refine (Tables.getLatestBar_replaceRows _ currentRows closedRows key barKind).trans ?_
  unfold Tables.getLatestBar
  rw [Tables.recordTicks_latestBars]
  rfl

theorem ensures_commitSymbol
    (env : Environment) (symbol : ResolvedSymbol) (ticks : List TickRecord)
    (bars : List BarRecord) (currentRows closedRows : BarRows)
    (incidents : List QualityIncident) (observedNow : Int) :
    Ensures (At tables files earliest)
      (commitSymbol env symbol ticks bars currentRows closedRows incidents observedNow)
      (fun result world => ∃ found,
        (tables.MutationsOf closedRows found ∧ result = incidents ++ found) ∧
        At (committedTables tables symbol ticks currentRows closedRows result observedNow)
          (files ++ tickFiles env.library ticks ++ barFiles env.library bars) earliest world)
      (fun _ => Kept tables files earliest) := by
  refine ensures_bind ensures_writeTicks ?_
  intro _
  refine ensures_bind
    (ensures_weaken ensures_writeBars (fun _ known => known) (fun _ _ known => known) ?_) ?_
  · intro _ world known
    exact ⟨known.tables, (List.prefix_append _ _).trans known.files, known.earliest⟩
  intro _
  refine ensures_weaken
    (ensures_transaction (fun value committed => ∃ found,
      (tables.MutationsOf closedRows found ∧ value = incidents ++ found) ∧
      committed = committedTables tables symbol ticks currentRows closedRows value
        observedNow) ?_) (fun _ known => known) ?_ ?_
  · refine ensures_bind ensures_statement ?_
    intro _
    refine ensures_bind (ensures_statements Tables.upsertLatestTick) ?_
    intro _
    refine ensures_bind
      (ensures_statements (fun tables (latestTick : TickRecord) =>
        tables.advanceCursor ⟨.ticks, symbol.logicalSymbol, none⟩
          { cursorUtc := latestTick.marketTimeUtc
            markerId := latestTick.sequenceId })) ?_
    intro _
    refine ensures_bind ensures_replaceRows ?_
    intro found
    refine ensures_of_fact (fun mutations => ?_)
    refine ensures_bind (ensures_statements Tables.recordIncident) ?_
    intro _
    rw [underKey_fst] at mutations
    rw [underKey_fst, underKey_fst]
    exact ensures_pure (fun _ known => ⟨_, ⟨found, ⟨mutations, rfl⟩, rfl⟩, known⟩)
  · intro value world known
    obtain ⟨committed, ⟨found, facts, same⟩, here⟩ := known
    exact ⟨found, facts, same ▸ here⟩
  · intro _ world known
    refine ⟨known.tables, ?_, known.earliest⟩
    rw [known.files, List.append_assoc]
    exact List.prefix_append _ _

/-- The rows of a chunk of one stream: a bar counts as closed when the last one
has closed. -/
def chunkRows (logicalSymbol : String) (timeframe : Timeframe) (bars : List BarRecord)
    (last : BarRecord) : BarRows × BarRows :=
  let rows := splitCurrentAndClosedBars bars last.closeTimeUtc
  (underKey (fun _ => (logicalSymbol, timeframe)) rows.1,
    underKey (fun _ => (logicalSymbol, timeframe)) rows.2)

/-- The tables after a commit of a chunk. -/
def ChunkCommitted (tables : Tables) (logicalSymbol : String) (timeframe : Timeframe)
    (bars : List BarRecord) (committed : Tables) : Prop :=
  match bars.getLast? with
  | none => committed = tables
  | some last => ∃ incidents : List QualityIncident, committed = incidents.foldl Tables.recordIncident
      (tables.replaceRows (chunkRows logicalSymbol timeframe bars last).1
        (chunkRows logicalSymbol timeframe bars last).2)

/-- The same, with the incidents that a commit of a chunk records. -/
def ChunkRecorded (tables : Tables) (logicalSymbol : String) (timeframe : Timeframe)
    (bars : List BarRecord) (incidents : List QualityIncident) (committed : Tables) : Prop :=
  match bars.getLast? with
  | none => committed = tables
  | some last => ∃ found,
      tables.MutationsOf (chunkRows logicalSymbol timeframe bars last).2 found ∧
        committed = (incidents ++ found).foldl Tables.recordIncident
          (tables.replaceRows (chunkRows logicalSymbol timeframe bars last).1
            (chunkRows logicalSymbol timeframe bars last).2)

theorem ChunkRecorded.chunkCommitted
    {logicalSymbol : String} {timeframe : Timeframe} {bars : List BarRecord}
    {incidents : List QualityIncident} {committed : Tables}
    (recorded : ChunkRecorded tables logicalSymbol timeframe bars incidents committed) :
    ChunkCommitted tables logicalSymbol timeframe bars committed := by
  unfold ChunkRecorded at recorded
  unfold ChunkCommitted
  split at recorded
  next => exact recorded
  next =>
    obtain ⟨found, -, same⟩ := recorded
    exact ⟨incidents ++ found, same⟩

theorem ensures_commitBars_recorded
    {logicalSymbol : String} {timeframe : Timeframe} {bars : List BarRecord}
    {incidents : List QualityIncident} :
    Ensures (At tables files earliest)
      (commitBars env logicalSymbol timeframe bars incidents)
      (fun _ world => ∃ committed,
        ChunkRecorded tables logicalSymbol timeframe bars incidents committed ∧
        At committed (files ++ barFiles env.library bars) earliest world)
      (fun _ => Kept tables files earliest) := by
  unfold commitBars ChunkRecorded
  cases found : bars.getLast? with
  | none =>
      obtain rfl := List.getLast?_eq_none_iff.mp found
      refine ensures_pure (fun _ known => ⟨tables, rfl, ?_⟩)
      simpa [barFiles, OrderedDict.groupBy] using known
  | some last =>
      refine ensures_bind ensures_writeBars ?_
      intro _
      refine ensures_weaken (ensures_transaction _ ?_) (fun _ known => known)
        (fun _ _ known => known) ?_
      · refine ensures_bind ensures_replaceRows ?_
        intro found
        refine ensures_of_fact (fun mutations => ?_)
        refine ensures_weaken (ensures_statements Tables.recordIncident)
          (fun _ known => known) ?_ (fun _ _ known => known)
        intro _ world known
        exact ⟨_, ⟨found, mutations, rfl⟩, known⟩
      · intro _ world known
        exact ⟨known.tables, known.files ▸ List.prefix_append _ _, known.earliest⟩

theorem ensures_commitBars
    {logicalSymbol : String} {timeframe : Timeframe} {bars : List BarRecord}
    {incidents : List QualityIncident} :
    Ensures (At tables files earliest)
      (commitBars env logicalSymbol timeframe bars incidents)
      (fun _ world => ∃ committed,
        ChunkCommitted tables logicalSymbol timeframe bars committed ∧
        At committed (files ++ barFiles env.library bars) earliest world)
      (fun _ => Kept tables files earliest) := by
  refine ensures_weaken ensures_commitBars_recorded (fun _ known => known) ?_
    (fun _ _ known => known)
  intro _ world known
  obtain ⟨committed, recorded, stands⟩ := known
  exact ⟨committed, recorded.chunkCommitted, stands⟩

end Service

end SuperAdvisor.MarketData
