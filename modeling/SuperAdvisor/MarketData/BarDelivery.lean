import SuperAdvisor.MarketData.CollectionRuns

/-!
# Delivery of closed bars

The position of a bar stream moves with forming bars only.  Until a cycle has
seen one, every cycle looks back from its own time, and a bar that has opened
and closed before the look-back is skipped.
-/

namespace SuperAdvisor.MarketData

open Raising Service

/-- The bars of a broker, by symbol and timeframe, as they are when they have
closed: a reply has one bar for each that opens in its range, and the bar
itself once it has closed. -/
structure GrowingBars (env : Environment) (settings : MarketDataSettings) where
  bars : String → Timeframe → Set BarPayload
  distinct : ∀ logicalSymbol timeframe,
    ∀ first ∈ bars logicalSymbol timeframe, ∀ second ∈ bars logicalSymbol timeframe,
      first.time = second.time → first = second
  opened : ∀ symbol, Resolves env settings symbol →
    ∀ moment timeframe startAt endAt payload,
      env.copyRatesRange moment symbol.brokerSymbol (mt5TimeframeMap timeframe) startAt endAt =
        .ok (some payload) →
      ∀ bar ∈ bars symbol.logicalSymbol timeframe,
        startAt ≤ bar.openTime → bar.openTime ≤ endAt →
          ∃ item ∈ payload, item.time = bar.time
  known : ∀ symbol, Resolves env settings symbol →
    ∀ moment timeframe startAt endAt payload,
      env.copyRatesRange moment symbol.brokerSymbol (mt5TimeframeMap timeframe) startAt endAt =
        .ok (some payload) →
      ∀ item ∈ payload, startAt ≤ item.openTime ∧ item.openTime ≤ endAt ∧
        ∃ bar ∈ bars symbol.logicalSymbol timeframe, bar.time = item.time
  final : ∀ symbol, Resolves env settings symbol →
    ∀ moment timeframe startAt endAt payload,
      env.copyRatesRange moment symbol.brokerSymbol (mt5TimeframeMap timeframe) startAt endAt =
        .ok (some payload) →
      ∀ item ∈ payload, item.closeTime timeframe ≤ endAt →
        item ∈ bars symbol.logicalSymbol timeframe

/-- A batch with the bar as a closed one was written, with the files of all its
partitions. -/
def ClosedBarWritten (library : MarketLibrary) (files : List TableFile)
    (logicalSymbol : String) (timeframe : Timeframe) (item : BarPayload) : Prop :=
  ∃ records, barFiles library records <:+: files ∧
    ∃ record ∈ records, record.isClosed = true ∧ ∃ brokerSymbol asOfUtc,
      record = barRecord logicalSymbol brokerSymbol timeframe item asOfUtc

theorem ClosedBarWritten.mono
    {library : MarketLibrary} {files more : List TableFile} {logicalSymbol : String}
    {timeframe : Timeframe} {item : BarPayload}
    (written : ClosedBarWritten library files logicalSymbol timeframe item)
    (grown : files <+: more) : ClosedBarWritten library more logicalSymbol timeframe item := by
  obtain ⟨records, batch, here⟩ := written
  exact ⟨records, batch.trans grown.isInfix, here⟩

variable {env : Environment} {settings : MarketDataSettings} {logicalSymbol : String}
  {timeframe : Timeframe}

/-- Where the cycle starts to read the bars of a timeframe. -/
def CycleEntry.barStart (settings : MarketDataSettings) (logicalSymbol : String)
    (timeframe : Timeframe) (entry : CycleEntry) : Int :=
  MarketData.barStart settings entry.store.tables logicalSymbol entry.observedNow timeframe

/-- No cycle starts to read after a bar that has closed since the cycle before. -/
def ClosedBarsInRange (history : GrowingBars env settings) (logicalSymbol : String)
    (timeframe : Timeframe) (lower : Int) (entries : List CycleEntry) : Prop :=
  ∀ early previous next late, entries = early ++ previous :: next :: late →
    ∀ item ∈ history.bars logicalSymbol timeframe, lower ≤ item.openTime →
      previous.observedNow < item.closeTime timeframe →
        item.closeTime timeframe ≤ next.observedNow →
          next.barStart settings logicalSymbol timeframe ≤ item.openTime

/-- A bar of a reply that has closed has a record of its own in the batch. -/
theorem GrowingBars.exists_record
    (history : GrowingBars env settings) {symbol : ResolvedSymbol}
    (resolved : Resolves env settings symbol) {load : BarLoad} {observedNow : Int}
    {earliest : Nat} (answers : load.Answers env symbol observedNow observedNow earliest)
    {item : BarPayload} (member : item ∈ history.bars symbol.logicalSymbol load.timeframe)
    (after : load.startAt ≤ item.openTime)
    (closed : item.closeTime load.timeframe ≤ observedNow) :
    barRecord symbol.logicalSymbol symbol.brokerSymbol load.timeframe item observedNow ∈
      load.bars := by
  have positive := timeframeDelta_pos load.timeframe
  have opened : item.openTime ≤ observedNow := by
    unfold BarPayload.closeTime at closed
    omega
  obtain ⟨shown, replied, sameTime⟩ :=
    history.opened symbol resolved _ _ _ _ _ answers.payload item member after opened
  obtain ⟨record, inside, sameId⟩ := answers.exists_record replied
  obtain ⟨other, otherReplied, rfl⟩ := answers.exists_payload inside
  have sameOpen : other.openTime = item.openTime := by
    rw [openTime_of_barId sameId, BarPayload.openTime, sameTime]
    rfl
  have otherClosed : other.closeTime load.timeframe ≤ observedNow := by
    unfold BarPayload.closeTime at closed ⊢
    rwa [sameOpen]
  have otherFinal := history.final symbol resolved _ _ _ _ _ answers.payload other otherReplied
    otherClosed
  have same : other = item := history.distinct _ _ other otherFinal item member (by
    unfold BarPayload.openTime ofSeconds at sameOpen
    omega)
  exact same ▸ inside

/-- A cycle writes the bars that have closed, from its start on. -/
theorem closedBarWritten_cycle
    (history : GrowingBars env settings) {store after : Store} {symbol : ResolvedSymbol}
    {observedNow : Int} {cycle : SymbolCycle} {incidents : List QualityIncident}
    (configured : timeframe ∈ settings.timeframes)
    (step : StoreStep env settings store (.cycle symbol observedNow cycle incidents) after)
    {item : BarPayload} (member : item ∈ history.bars symbol.logicalSymbol timeframe)
    (afterStart : barStart settings store.tables symbol.logicalSymbol observedNow timeframe ≤
      item.openTime)
    (closed : item.closeTime timeframe ≤ observedNow) :
    ClosedBarWritten env.library after.files symbol.logicalSymbol timeframe item := by
  cases step with
  | cycle resolved describes =>
      obtain ⟨load, inside, rfl⟩ : ∃ load ∈ cycle.barLoads, load.timeframe = timeframe := by
        rw [← describes.timeframes] at configured
        exact List.mem_map.mp configured
      rw [← describes.starts load inside] at afterStart
      have record := history.exists_record resolved (describes.bars load inside) member
        afterStart closed
      exact ⟨cycle.bars, (List.suffix_append _ _).isInfix, _,
        List.mem_flatMap.mpr ⟨load, inside, record⟩, by simpa [barRecord] using closed,
        _, _, rfl⟩

theorem closedBars_run
    {history : GrowingBars env settings} {lower : Int} {start finish : Store}
    {entries : List CycleEntry} (configured : timeframe ∈ settings.timeframes)
    (run : CycleRun env settings logicalSymbol start entries finish)
    (begins : ∀ first ∈ entries.head?, lower = first.barStart settings logicalSymbol timeframe)
    (covered : ClosedBarsInRange history logicalSymbol timeframe lower entries) :
    ∀ last ∈ entries.getLast?, ∀ item ∈ history.bars logicalSymbol timeframe,
      lower ≤ item.openTime → item.closeTime timeframe ≤ last.observedNow →
        ClosedBarWritten env.library finish.files logicalSymbol timeframe item := by
  induction run with
  | start => simp
  | @cycle entries middle finish symbol observedNow cycle incidents before sameSymbol last
      induction =>
      subst sameSymbol
      have earlier := induction
        (fun first member => begins first (by simp [List.head?_append, Option.mem_def.mp member]))
        (fun early previous next late shape => covered early previous next
          (late ++ [⟨middle, symbol, observedNow, cycle⟩]) (by simp [shape]))
      simp only [List.getLast?_concat, Option.mem_some_iff, forall_eq']
      intro item member afterLower closed
      cases found : entries.getLast? with
      | none =>
          obtain rfl := List.getLast?_eq_none_iff.mp found
          rw [begins _ rfl] at afterLower
          exact closedBarWritten_cycle history configured last member afterLower closed
      | some previous =>
          by_cases already : item.closeTime timeframe ≤ previous.observedNow
          · exact (earlier previous found item member afterLower already).mono last.files_prefix
          · obtain ⟨early, rfl⟩ := List.getLast?_eq_some_iff.mp found
            refine closedBarWritten_cycle history configured last member ?_ closed
            exact covered early previous ⟨middle, symbol, observedNow, cycle⟩ [] (by simp) item
              member afterLower (Int.not_le.mp already) closed
  | other before another last induction =>
      exact fun entry isLast item member afterLower closed =>
        (induction begins covered entry isLast item member afterLower closed).mono
          last.files_prefix

/-- Collections that return are cycles, and cycles none of which starts to read
after a bar that has closed since the one before deliver every closed bar. -/
theorem closedBars_delivered
    (env : Environment) (settings : MarketDataSettings) (history : GrowingBars env settings)
    {calls : List CollectCall} {start after : World} {reports : List CollectReport}
    (ran : runCollections env settings calls start = some (reports, after))
    (logicalSymbol : String) {timeframe : Timeframe}
    (configured : timeframe ∈ settings.timeframes) :
    (∃ entries, CyclesOf env settings logicalSymbol start reports after entries) ∧
    ∀ entries, CyclesOf env settings logicalSymbol start reports after entries →
      ∀ firstTime ∈ (observedTimes logicalSymbol reports).head?,
      ∀ lastTime ∈ (observedTimes logicalSymbol reports).getLast?,
        ClosedBarsInRange history logicalSymbol timeframe
            (barStart settings start.tables logicalSymbol firstTime timeframe) entries →
          ∀ item ∈ history.bars logicalSymbol timeframe,
            barStart settings start.tables logicalSymbol firstTime timeframe ≤ item.openTime →
              item.closeTime timeframe ≤ lastTime →
                ClosedBarWritten env.library after.files logicalSymbol timeframe item := by
  refine ⟨exists_cyclesOf ran logicalSymbol, ?_⟩
  intro entries cycles firstTime isFirst lastTime isLast covered item member afterStart closed
  have begins : ∀ first ∈ entries.head?,
      barStart settings start.tables logicalSymbol firstTime timeframe =
        first.barStart settings logicalSymbol timeframe := by
    intro first isHead
    obtain ⟨sameTime, sameCursor⟩ := cycles.first isFirst first isHead
    unfold CycleEntry.barStart MarketData.barStart
    rw [sameTime, sameCursor _ rfl]
  obtain ⟨finish, run, stands⟩ := cycles.run
  obtain ⟨last, isLastEntry, sameTime⟩ := cycles.last isLast
  rw [stands.files]
  exact closedBars_run configured run begins covered last isLastEntry item member afterStart
    (sameTime ▸ closed)

/-! A cycle that finds a position starts early enough. -/

/-- Two bars of one stream open at the same time or lie apart. -/
def GrowingBars.Apart (history : GrowingBars env settings) : Prop :=
  ∀ logicalSymbol timeframe, ∀ first ∈ history.bars logicalSymbol timeframe,
    ∀ second ∈ history.bars logicalSymbol timeframe,
      first.openTime = second.openTime ∨ first.closeTime timeframe ≤ second.openTime ∨
        second.closeTime timeframe ≤ first.openTime

/-- The position is that of the start, or a bar that had opened by the last cycle. -/
def PositionedAt (history : GrowingBars env settings) (logicalSymbol : String)
    (timeframe : Timeframe) (lower : Int) (entries : List CycleEntry) (store : Store) : Prop :=
  ∀ last ∈ entries.getLast?, ∀ cursor,
    store.tables.getCursor ⟨.bars, logicalSymbol, some timeframe⟩ = some cursor →
      cursor.cursorUtc ≤ lower ∨ (cursor.cursorUtc ≤ last.observedNow ∧
        ∃ bar ∈ history.bars logicalSymbol timeframe, bar.openTime = cursor.cursorUtc)

/-- A position that a cycle leaves is that of a bar of the broker. -/
private theorem opened_of_cursorUnder
    (history : GrowingBars env settings) {store : Store} {symbol : ResolvedSymbol}
    {observedNow : Int} {cycle : SymbolCycle} (resolved : Resolves env settings symbol)
    (describes : cycle.Describes env settings symbol observedNow store.tables store.moment)
    {cursor : Cursor}
    (found : Tables.cursorUnder ⟨.bars, symbol.logicalSymbol, some timeframe⟩
      (cycle.currentRows observedNow) = some cursor) :
    cursor.cursorUtc ≤ observedNow ∧
      ∃ bar ∈ history.bars symbol.logicalSymbol timeframe, bar.openTime = cursor.cursorUtc := by
  obtain ⟨row, member, sameKey, rfl⟩ := Tables.exists_row_of_cursorUnder found
  obtain ⟨rowKey, -, load, inside, here⟩ := mem_gatherRows member
  have answers := describes.bars load inside
  obtain ⟨item, replied, made⟩ := answers.exists_payload here
  have sameTimeframe : load.timeframe = timeframe := by
    rw [made] at rowKey
    simpa [rowKey, BarRecord.rowKey, barRecord, eq_comm] using sameKey
  obtain ⟨-, before, bar, known, sameTime⟩ :=
    history.known symbol resolved _ _ _ _ _ answers.payload item replied
  have opens : row.2.openTimeUtc = item.openTime := by
    rw [made]
    rfl
  refine ⟨opens ▸ before, bar, sameTimeframe ▸ known, ?_⟩
  simp only [opens, BarPayload.openTime, sameTime]

private theorem positionedAt_run
    {history : GrowingBars env settings} {lower : Int} {start finish : Store}
    {entries : List CycleEntry}
    (run : CycleRun env settings logicalSymbol start entries finish)
    (begins : ∀ first ∈ entries.head?, lower = first.barStart settings logicalSymbol timeframe)
    (increasing : entries.Pairwise (fun early late => early.observedNow ≤ late.observedNow)) :
    PositionedAt history logicalSymbol timeframe lower entries finish := by
  induction run with
  | start => exact fun last isLast => nomatch isLast
  | @cycle entries middle finish symbol observedNow cycle incidents before sameSymbol last
      induction =>
      subst sameSymbol
      obtain ⟨ordered, -, later⟩ := List.pairwise_append.mp increasing
      have earlier := induction
        (fun first member => begins first (by simp [List.head?_append, Option.mem_def.mp member]))
        ordered
      cases last with
      | cycle resolved describes =>
          unfold PositionedAt
          simp only [List.getLast?_concat, Option.mem_some_iff, forall_eq']
          intro cursor found
          rw [getCursor_committedTables] at found
          rcases Option.or_eq_some_iff.mp found with row | ⟨-, rest⟩
          · exact .inr (opened_of_cursorUnder history resolved describes row)
          · have old : middle.tables.getCursor
                ⟨.bars, symbol.logicalSymbol, some timeframe⟩ = some cursor := by
              simpa using rest
            cases isLast : entries.getLast? with
            | none =>
                obtain rfl := List.getLast?_eq_none_iff.mp isLast
                have started := begins _ rfl
                unfold CycleEntry.barStart MarketData.barStart at started
                rw [old] at started
                exact .inl (Int.le_of_eq started.symm)
            | some previous =>
                refine (earlier previous isLast cursor old).imp id (fun opened => ?_)
                exact ⟨Int.le_trans opened.1 (later previous (List.mem_of_getLast? isLast) _
                  (List.mem_singleton.mpr rfl)), opened.2⟩
  | other before another last induction =>
      intro entry isLast cursor found
      rw [getCursor_of_other rfl another last] at found
      exact induction begins increasing entry isLast cursor found

/-- Only a cycle that finds no position can start too late. -/
theorem closedBarsInRange_of_lookback
    {history : GrowingBars env settings} (apart : history.Apart) {lower : Int}
    {start finish : Store} {entries : List CycleEntry}
    (run : CycleRun env settings logicalSymbol start entries finish)
    (begins : ∀ first ∈ entries.head?, lower = first.barStart settings logicalSymbol timeframe)
    (increasing : entries.Pairwise (fun early late => early.observedNow ≤ late.observedNow))
    (lookback : ∀ early previous next late, entries = early ++ previous :: next :: late →
      next.store.tables.getCursor ⟨.bars, logicalSymbol, some timeframe⟩ = none →
        ∀ item ∈ history.bars logicalSymbol timeframe, lower ≤ item.openTime →
          previous.observedNow < item.closeTime timeframe →
            item.closeTime timeframe ≤ next.observedNow →
              next.barStart settings logicalSymbol timeframe ≤ item.openTime) :
    ClosedBarsInRange history logicalSymbol timeframe lower entries := by
  intro early previous next late shape item member afterLower notYet closed
  cases found : next.store.tables.getCursor ⟨.bars, logicalSymbol, some timeframe⟩ with
  | none =>
      exact lookback early previous next late shape found item member afterLower notYet closed
  | some cursor =>
      have opensAfter : cursor.cursorUtc ≤ item.openTime := by
        have soFar : entries = (early ++ [previous]) ++ next :: late := by simp [shape]
        have positioned : PositionedAt history _ _ _ _ _ := positionedAt_run (run.before soFar)
          (fun first isFirst => begins first (by
            rw [soFar, List.head?_append, Option.mem_def.mp isFirst]
            rfl))
          (List.pairwise_append.mp (soFar ▸ increasing)).1
        rcases positioned previous (by simp) cursor found with atStart | ⟨opened, bar, known, same⟩
        · exact Int.le_trans atStart afterLower
        · have positive := timeframeDelta_pos timeframe
          have places := apart _ _ bar known item member
          unfold BarPayload.closeTime at places notYet
          omega
      unfold CycleEntry.barStart MarketData.barStart
      rw [found]
      exact opensAfter

theorem ClosedBarWritten.exists_file
    {library : MarketLibrary} {files : List TableFile} {item : BarPayload}
    (written : ClosedBarWritten library files logicalSymbol timeframe item) :
    ∃ file ∈ files, ∃ record ∈ file.bars, record.openTimeUtc = item.openTime := by
  obtain ⟨records, batch, record, inside, -, brokerSymbol, asOfUtc, rfl⟩ := written
  obtain ⟨file, member, here⟩ := exists_barFile library inside
  exact ⟨file, batch.subset member, _, here, rfl⟩

/-- The bars of the broker for gold, if they open at different times. -/
def goldBars
    (bars : List BarPayload)
    (distinct : ∀ first ∈ bars, ∀ second ∈ bars, first.time = second.time → first = second) :
    GrowingBars (goldBroker (fun _ => []) bars) goldSettings where
  bars := fun _ _ => { bar | bar ∈ bars }
  distinct := fun _ _ => distinct
  opened := by
    intro symbol _ moment timeframe startAt endAt payload replied bar member after before
    obtain rfl := Option.some.inj (Except.ok.inj replied)
    exact ⟨bar, List.mem_filter.mpr ⟨member, by simp [after, before]⟩, rfl⟩
  known := by
    intro symbol _ moment timeframe startAt endAt payload replied item member
    obtain rfl := Option.some.inj (Except.ok.inj replied)
    obtain ⟨inside, within⟩ := List.mem_filter.mp member
    obtain ⟨after, before⟩ := of_decide_eq_true within
    exact ⟨after, before, item, inside, rfl⟩
  final := by
    intro symbol _ moment timeframe startAt endAt payload replied item member _
    obtain rfl := Option.some.inj (Except.ok.inj replied)
    exact (List.mem_filter.mp member).1

theorem goldBar_delivered :
    ∃ reports after, runCollections (goldBroker (fun _ => []) [goldBar 60]) goldSettings
        [⟨none, some 120000000, none⟩, ⟨none, some 150000000, none⟩] freshWorld =
          some (reports, after) ∧
      ClosedBarWritten plainLibrary after.files "XAUUSD" .M1 (goldBar 60) := by
  obtain ⟨⟨reports, after⟩, ran, times⟩ := Option.map_eq_some_iff.mp
    (show (runCollections (goldBroker (fun _ => []) [goldBar 60]) goldSettings
        [⟨none, some 120000000, none⟩, ⟨none, some 150000000, none⟩] freshWorld).map
          (fun result => observedTimes "XAUUSD" result.1) = some [120000000, 150000000]
      by decide +kernel)
  obtain ⟨⟨entries, cycles⟩, delivered⟩ := closedBars_delivered _ _
    (goldBars [goldBar 60] (by simp)) ran "XAUUSD"
    (show Timeframe.M1 ∈ goldSettings.timeframes from List.mem_singleton.mpr rfl)
  refine ⟨reports, after, ran, delivered entries cycles 120000000 (by rw [times]; rfl) 150000000
    (by rw [times]; rfl) ?_ (goldBar 60) (List.mem_singleton.mpr rfl) (by decide) (by decide)⟩
  intro early previous next late shape item member _ later _
  obtain rfl : item = goldBar 60 := List.mem_singleton.mp member
  -- the bar has closed by the time of every cycle
  have observed : previous.observedNow ∈ ([120000000, 150000000] : List Int) := by
    rw [← times, ← cycles.times, shape]
    simp
  have closes : (goldBar 60).closeTime .M1 = 120000000 := by decide
  simp at observed
  omega

/-- A bar that opens and closes between two cycles, before the look-back of the
second one, when no forming bar has been seen. -/
theorem gapBar_lost :
    ∃ reports after, runCollections (goldBroker (fun _ => []) [goldBar 60, goldBar 180])
        goldSettings [⟨none, some 120000000, none⟩, ⟨none, some 600000000, none⟩] freshWorld =
          some (reports, after) ∧
      goldBar 180 ∈ (goldBars [goldBar 60, goldBar 180] (by decide)).bars "XAUUSD" .M1 ∧
      barStart goldSettings freshWorld.tables "XAUUSD" 120000000 .M1 ≤
        (goldBar 180).openTime ∧
      (goldBar 180).closeTime .M1 ≤ 600000000 ∧
      ¬ClosedBarWritten plainLibrary after.files "XAUUSD" .M1 (goldBar 180) := by
  obtain ⟨⟨reports, after⟩, ran, absent⟩ := Option.map_eq_some_iff.mp
    (show (runCollections (goldBroker (fun _ => []) [goldBar 60, goldBar 180]) goldSettings
        [⟨none, some 120000000, none⟩, ⟨none, some 600000000, none⟩] freshWorld).map
          (fun result => result.2.files.all (fun file =>
            file.bars.all (fun record => record.openTimeUtc ≠ 180000000))) = some true
      by decide +kernel)
  refine ⟨reports, after, ran, by simp [goldBars], by decide, by decide, ?_⟩
  intro written
  obtain ⟨file, member, record, here, same⟩ := written.exists_file
  simp only [List.all_eq_true, decide_eq_true_eq] at absent
  exact absent file member record here same

end SuperAdvisor.MarketData
