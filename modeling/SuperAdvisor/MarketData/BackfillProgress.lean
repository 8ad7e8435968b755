import SuperAdvisor.MarketData.Calls

/-!
# Progress of backfills

The position of a backfill is stored after the bars before it are, never goes
back and never passes the end.  A backfill that returns has therefore stored
every bar of its range, however often it failed before.
-/

namespace SuperAdvisor.MarketData

open Raising Service

/-- The bars of a broker, by symbol and timeframe: no two open at the same
time, and a reply about a range has exactly those that open in it. -/
structure BarHistory (env : Environment) (settings : MarketDataSettings) where
  bars : String → Timeframe → List BarPayload
  distinct : ∀ logicalSymbol timeframe,
    ∀ first ∈ bars logicalSymbol timeframe, ∀ second ∈ bars logicalSymbol timeframe,
      first.time = second.time → first = second
  exact : ∀ symbol, Resolves env settings symbol →
    ∀ moment timeframe startAt endAt payload,
      env.copyRatesRange moment symbol.brokerSymbol (mt5TimeframeMap timeframe) startAt endAt =
        .ok (some payload) →
      ∀ item, item ∈ payload ↔ item ∈ bars symbol.logicalSymbol timeframe ∧
        startAt ≤ item.openTime ∧ item.openTime ≤ endAt

/-- Different backfills have different keys. -/
def RunKeysInjective (library : MarketLibrary) : Prop :=
  ∀ symbol timeframe start finish symbol' timeframe' start' finish',
    library.backfillDigest symbol timeframe start finish =
        library.backfillDigest symbol' timeframe' start' finish' →
      symbol = symbol' ∧ timeframe = timeframe' ∧ start = start' ∧ finish = finish'

/-- A batch with the bar was written, with the files of all its partitions. -/
def BarWritten (library : MarketLibrary) (files : List TableFile) (logicalSymbol : String)
    (timeframe : Timeframe) (item : BarPayload) : Prop :=
  ∃ records, barFiles library records <:+: files ∧
    ∃ record ∈ records, ∃ brokerSymbol asOfUtc,
      record = barRecord logicalSymbol brokerSymbol timeframe item asOfUtc

theorem BarWritten.mono
    {library : MarketLibrary} {files more : List TableFile} {logicalSymbol : String}
    {timeframe : Timeframe} {item : BarPayload}
    (written : BarWritten library files logicalSymbol timeframe item) :
    BarWritten library (files ++ more) logicalSymbol timeframe item := by
  obtain ⟨records, batch, here⟩ := written
  exact ⟨records, batch.trans (List.prefix_append _ _).isInfix, here⟩

theorem Timeframe.value_injective {first second : Timeframe}
    (same : first.value = second.value) : first = second := by
  cases first <;> cases second <;> first | rfl | simp [Timeframe.value] at same

variable {env : Environment} {settings : MarketDataSettings}

/-- What the row of a backfill says of the files. -/
structure RowProgress (history : BarHistory env settings) (files : List TableFile)
    (key : String) (row : BackfillState) : Prop where
  key : key = env.library.backfillDigest row.logicalSymbol row.timeframe.value row.startAtUtc
    row.endAtUtc
  started : row.startAtUtc ≤ row.nextStartUtc
  bounded : row.nextStartUtc ≤ row.endAtUtc
  complete : row.status = .complete → row.nextStartUtc = row.endAtUtc
  written : row.nextStartUtc = row.startAtUtc ∨
    ∀ item ∈ history.bars row.logicalSymbol row.timeframe,
      row.startAtUtc ≤ item.openTime → item.openTime ≤ row.nextStartUtc →
        BarWritten env.library files row.logicalSymbol row.timeframe item

def Progress (history : BarHistory env settings) (store : Store) : Prop :=
  ∀ key row, store.tables.getBackfillState key = some row →
    RowProgress history store.files key row

theorem RowProgress.mono
    {history : BarHistory env settings} {files more : List TableFile} {key : String}
    {row : BackfillState} (progress : RowProgress history files key row) :
    RowProgress history (files ++ more) key row :=
  { progress with
    written := progress.written.imp id
      (fun written item member after before => (written item member after before).mono) }

/-- A window is not empty and does not pass the end. -/
theorem advanceWindow_bounds
    (lookback : 0 < settings.barLookbackCount) {start finish : Int} (timeframe : Timeframe)
    (unfinished : start < finish) :
    start < advanceWindow start finish timeframe settings.barLookbackCount ∧
      advanceWindow start finish timeframe settings.barLookbackCount ≤ finish := by
  have positive := Int.mul_pos (timeframeDelta_pos timeframe) lookback
  unfold advanceWindow
  omega

/-- The bars of the broker in a chunk are written when the records of its
reading are. -/
theorem barWritten_of_chunk
    (history : BarHistory env settings) {tables : Tables} {files : List TableFile}
    {run : BackfillRun} {load : BarLoad} {chunkEnd : Int}
    (chunk : ChunkOf env settings tables run load chunkEnd)
    (written : barFiles env.library load.bars <:+: files)
    {item : BarPayload}
    (member : item ∈ history.bars run.resolved.logicalSymbol run.timeframe)
    (after : load.startAt ≤ item.openTime) (before : item.openTime ≤ chunkEnd) :
    BarWritten env.library files run.resolved.logicalSymbol run.timeframe item := by
  have exact := history.exact _ chunk.resolved _ _ _ _ _ chunk.answers.payload
  have inPayload : item ∈ load.payload :=
    (exact item).mpr ⟨chunk.timeframe ▸ member, after, before⟩
  obtain ⟨record, kept, sameId⟩ := chunk.answers.exists_record inPayload
  obtain ⟨other, otherInPayload, rfl⟩ := chunk.answers.exists_payload kept
  -- the record kept under the id is the one of this bar
  have sameOpen := openTime_of_barId sameId
  have sameTime : other.time = item.time := by
    unfold BarPayload.openTime ofSeconds at sameOpen
    omega
  have sameBar := history.distinct _ _ other ((exact other).mp otherInPayload).1 item
    (chunk.timeframe ▸ member) sameTime
  subst sameBar
  exact ⟨load.bars, written, _, kept, _, _, by rw [chunk.timeframe]⟩

/-- A row after progress was recorded is an old one or the one of the run, with
the symbol, the timeframe and the range it had. -/
theorem row_of_upsert
    {tables : Tables} {state : BackfillState} {key : String} {row : BackfillState}
    (found : (tables.upsertBackfillState state).getBackfillState key = some row) :
    (key ≠ state.runKey ∧ tables.getBackfillState key = some row) ∨
      key = state.runKey ∧
        ((tables.getBackfillState key = none ∧ row = state) ∨
          ∃ old, tables.getBackfillState key = some old ∧
            row = { old with
              nextStartUtc := state.nextStartUtc
              status := state.status
              lastError := state.lastError }) := by
  unfold Tables.getBackfillState Tables.upsertBackfillState at found
  by_cases same : key = state.runKey
  · subst same
    right
    rw [OrderedDict.get?_set_self] at found
    refine ⟨rfl, ?_⟩
    unfold Tables.getBackfillState
    split at found
    next none => exact .inl ⟨none, (Option.some.inj found).symm⟩
    next old here => exact .inr ⟨old, here, (Option.some.inj found).symm⟩
  · left
    exact ⟨same, (OrderedDict.get?_set_of_ne _ _ same).symm.trans found⟩

section Steps

variable {history : BarHistory env settings} {store : Store} {run : BackfillRun}

/-- A stored row under the key of a run is about the run. -/
theorem row_of_runKey
    (injective : RunKeysInjective env.library) (progress : Progress history store)
    {row : BackfillState}
    (found : store.tables.getBackfillState (run.runKey env.library) = some row) :
    row.logicalSymbol = run.resolved.logicalSymbol ∧ row.timeframe = run.timeframe ∧
      row.startAtUtc = run.observedStart ∧ row.endAtUtc = run.observedEnd := by
  obtain ⟨symbol, timeframe, start, finish⟩ :=
    injective _ _ _ _ _ _ _ _ (progress _ _ found).key
  exact ⟨symbol.symm, (Timeframe.value_injective timeframe).symm, start.symm, finish.symm⟩

/-- Recording progress of a run keeps the rows right if it is right for the run. -/
private theorem progress_upsert
    (injective : RunKeysInjective env.library) (progress : Progress history store)
    {next : Int} {status : BackfillStatus} {lastError : Option String}
    (started : run.observedStart ≤ next) (bounded : next ≤ run.observedEnd)
    (complete : status = .complete → next = run.observedEnd)
    (written : next = run.observedStart ∨
      ∀ item ∈ history.bars run.resolved.logicalSymbol run.timeframe,
        run.observedStart ≤ item.openTime → item.openTime ≤ next →
          BarWritten env.library store.files run.resolved.logicalSymbol run.timeframe item) :
    Progress history { store with
      tables := store.tables.upsertBackfillState (run.state env.library next status
        lastError) } := by
  intro key row found
  rcases row_of_upsert found with ⟨-, old⟩ | ⟨rfl, ⟨-, rfl⟩ | ⟨old, here, rfl⟩⟩
  · exact progress key row old
  · exact ⟨rfl, started, bounded, complete, written⟩
  · obtain ⟨symbol, timeframe, start, finish⟩ := row_of_runKey injective progress here
    have before := progress _ old here
    refine ⟨before.key, ?_, ?_, ?_, ?_⟩
    · rw [start]
      exact started
    · rw [finish]
      exact bounded
    · rw [finish]
      exact complete
    · simp only [symbol, timeframe, start]
      exact written

/-- Where a run goes on from is right for the run. -/
private theorem nextStart_facts
    (run : BackfillRun) (injective : RunKeysInjective env.library) (progress : Progress history store) :
    run.observedStart ≤ nextStart env store.tables run ∧
      (nextStart env store.tables run = run.observedStart ∨
        ∀ item ∈ history.bars run.resolved.logicalSymbol run.timeframe,
          run.observedStart ≤ item.openTime →
            item.openTime ≤ nextStart env store.tables run →
              BarWritten env.library store.files run.resolved.logicalSymbol run.timeframe
                item) := by
  unfold nextStart
  cases found : store.tables.getBackfillState (run.runKey env.library) with
  | none => exact ⟨Int.le_refl _, .inl rfl⟩
  | some row =>
      obtain ⟨symbol, timeframe, start, -⟩ := row_of_runKey injective progress found
      have before := progress _ row found
      rw [← symbol, ← timeframe, ← start]
      exact ⟨before.started, before.written⟩

theorem progress_step
    (lookback : 0 < settings.barLookbackCount) (injective : RunKeysInjective env.library)
    {event : StoreEvent} {after : Store} (step : StoreStep env settings store event after)
    (progress : Progress history store) : Progress history after := by
  cases step with
  | wrote => exact fun key row found => (progress key row found).mono
  | cycle resolved describes =>
      intro key row found
      unfold Tables.getBackfillState at found
      rw [Service.committedTables_backfillState] at found
      exact (progress key row found).mono.mono
  | heartbeat => exact progress
  | chunk chunk changed =>
      intro key row found
      unfold Tables.getBackfillState at found
      rw [Service.backfillState_of_chunkCommitted changed] at found
      exact (progress key row found).mono
  | @progressed run load chunkEnd chunk written =>
      obtain ⟨started, before⟩ := nextStart_facts run injective progress
      have bounds := advanceWindow_bounds lookback run.timeframe chunk.unfinished
      rw [← chunk.window, chunk.start] at bounds
      refine progress_upsert injective progress (Int.le_trans started (Int.le_of_lt bounds.1))
        bounds.2 ?_ (.inr ?_)
      · intro complete
        split at complete
        next => cases complete
        next finished => omega
      · intro item member after upTo
        by_cases inChunk : load.startAt ≤ item.openTime
        · exact barWritten_of_chunk history chunk written member inChunk upTo
        · rw [chunk.start] at inChunk
          rcases before with first | earlier
          · omega
          · exact earlier item member after (by omega)
  | failed nonempty unfinished =>
      obtain ⟨started, before⟩ := nextStart_facts _ injective progress
      exact progress_upsert injective progress started (Int.le_of_lt unfinished)
        (fun impossible => nomatch impossible) before

private theorem exists_row_of_upsert
    {tables : Tables} {state : BackfillState} {key : String} {row : BackfillState}
    (found : tables.getBackfillState key = some row)
    (notBack : key = state.runKey → row.nextStartUtc ≤ state.nextStartUtc) :
    ∃ later, (tables.upsertBackfillState state).getBackfillState key = some later ∧
      row.nextStartUtc ≤ later.nextStartUtc := by
  unfold Tables.getBackfillState Tables.upsertBackfillState at *
  by_cases same : key = state.runKey
  · subst same
    rw [OrderedDict.get?_set_self, found]
    exact ⟨_, rfl, notBack rfl⟩
  · rw [OrderedDict.get?_set_of_ne _ _ same]
    exact ⟨row, found, Int.le_refl _⟩

private theorem nextStart_of_row
    {tables : Tables} {row : BackfillState}
    (found : tables.getBackfillState (run.runKey env.library) = some row) :
    nextStart env tables run = row.nextStartUtc := by
  simp [nextStart, found]

/-- A step keeps every row and never puts its position back. -/
theorem row_step
    (lookback : 0 < settings.barLookbackCount)
    {event : StoreEvent} {after : Store} (step : StoreStep env settings store event after)
    {key : String} {row : BackfillState}
    (found : store.tables.getBackfillState key = some row) :
    ∃ later, after.tables.getBackfillState key = some later ∧
      row.nextStartUtc ≤ later.nextStartUtc := by
  cases step with
  | wrote => exact ⟨row, found, Int.le_refl _⟩
  | cycle resolved describes =>
      refine ⟨row, ?_, Int.le_refl _⟩
      unfold Tables.getBackfillState
      rw [Service.committedTables_backfillState]
      exact found
  | heartbeat => exact ⟨row, found, Int.le_refl _⟩
  | chunk chunk changed =>
      refine ⟨row, ?_, Int.le_refl _⟩
      unfold Tables.getBackfillState
      rw [Service.backfillState_of_chunkCommitted changed]
      exact found
  | @progressed run load chunkEnd chunk written =>
      refine exists_row_of_upsert found ?_
      rintro rfl
      have bounds := advanceWindow_bounds lookback run.timeframe chunk.unfinished
      rw [← chunk.window, chunk.start, nextStart_of_row found] at bounds
      exact Int.le_of_lt bounds.1
  | failed nonempty unfinished =>
      refine exists_row_of_upsert found ?_
      rintro rfl
      exact Int.le_of_eq (nextStart_of_row found).symm

theorem row_run
    (lookback : 0 < settings.barLookbackCount) {events : List StoreEvent} {after : Store}
    (steps : StoreRun env settings store events after) {key : String} {row : BackfillState}
    (found : store.tables.getBackfillState key = some row) :
    ∃ later, after.tables.getBackfillState key = some later ∧
      row.nextStartUtc ≤ later.nextStartUtc := by
  refine steps.invariant (fun store => ∃ later,
    store.tables.getBackfillState key = some later ∧ row.nextStartUtc ≤ later.nextStartUtc)
    ?_ ⟨row, found, Int.le_refl _⟩
  intro middle event last step before
  obtain ⟨known, here, forward⟩ := before
  obtain ⟨later, there, further⟩ := row_step lookback step here
  exact ⟨later, there, Int.le_trans forward further⟩

end Steps

/-! A backfill comes to its end. -/

private theorem ensures_backfillLoop_ends
    (lookback : 0 < settings.barLookbackCount) {run : BackfillRun} (fuel : Nat) {start : Int}
    (enough : (run.observedEnd - start).toNat ≤ fuel) :
    Ensures (fun _ => True) (backfillLoop env settings run fuel start)
      (fun result _ => result.isSome = true) (fun _ _ => True) := by
  induction fuel generalizing start with
  | zero =>
      refine ensures_pure (fun _ _ => ?_)
      rw [if_neg (by omega)]
      rfl
  | succ fuel induction =>
      unfold backfillLoop
      split
      next unfinished =>
        have bounds := advanceWindow_bounds lookback run.timeframe unfinished
        refine ensures_bind (ensures_any _) ?_
        intro chunk
        refine ensures_bind (induction (by omega)) ?_
        intro rest
        exact ensures_pure (fun _ known => by simpa using known)
      next => exact ensures_pure (fun _ _ => rfl)

/-- From where the rows are right, enough fuel for the range is enough. -/
theorem ensures_backfill_ends
    {history : BarHistory env settings} {store : Store}
    (lookback : 0 < settings.barLookbackCount) (injective : RunKeysInjective env.library)
    (progress : Progress history store) {fuel : Nat} (canonicalSymbol timeframe : String)
    {startAt endAt : Int} (dryRun : Option Bool) (enough : (endAt - startAt).toNat ≤ fuel) :
    Ensures (Stands store)
      (backfill env settings fuel canonicalSymbol timeframe startAt endAt dryRun)
      (fun result _ => result.isSome = true) (fun _ _ => True) := by
  unfold backfill
  split
  next => exact ensures_throw (fun _ _ => trivial)
  next =>
    refine ensures_bind
      (ensures_ofExcept (fun _ _ _ stands => stands) (fun _ _ _ _ => trivial) :
        Ensures _ _ (fun _ => Stands store) _) ?_
    intro timeframeValue
    refine ensures_bind
      (ensures_weaken ensures_resolveSymbol (fun _ known => known) (fun _ _ known => known.2)
        (fun _ _ _ => trivial)) ?_
    intro resolved
    refine ensures_bind
      (ensures_weaken ensures_query (fun _ known => known) (fun _ _ known => known)
        (fun _ _ _ => trivial)) ?_
    intro state
    refine ensures_of_fact (fun read => ?_)
    subst read
    have started := (nextStart_facts ⟨resolved, timeframeValue, startAt, endAt,
      dryRun.getD settings.dryRunDefault⟩ injective progress).1
    refine ensures_bind
      (ensures_weaken (ensures_backfillLoop_ends lookback fuel ?_) (fun _ _ => trivial)
        (fun _ _ known => known) (fun _ _ _ => trivial)) ?_
    · unfold nextStart at started
      simp only at started ⊢
      omega
    · intro done
      exact ensures_pure (fun _ known => by simpa using known)

/-- Every row is about its own range, stands inside it, is complete at its end
only, and is put back by no call. -/
def RowsAdvance (env : Environment) (settings : MarketDataSettings) (world : World) : Prop :=
  ∀ key row, world.tables.getBackfillState key = some row →
    key = env.library.backfillDigest row.logicalSymbol row.timeframe.value row.startAtUtc
      row.endAtUtc ∧
    row.nextStartUtc ≤ row.endAtUtc ∧
    (row.status = .complete → row.nextStartUtc = row.endAtUtc) ∧
    ∀ fuel call, ∃ later,
      (Call.perform env settings fuel world call).tables.getBackfillState key = some later ∧
        row.nextStartUtc ≤ later.nextStartUtc

/-- A backfill has fuel enough, and one that returns leaves every bar of its
range in files. -/
def BackfillStores (history : BarHistory env settings) (fuel : Nat)
    (canonicalSymbol timeframe : String) (startAt endAt : Int) (dryRun : Option Bool)
    (world : World) : Prop :=
  ∀ result after,
    (backfill env settings fuel canonicalSymbol timeframe startAt endAt dryRun).run world =
        .ok result after →
      ∃ report, result = some report ∧
        env.library.upper report.run.resolved.logicalSymbol =
          env.library.upper canonicalSymbol ∧
        report.run.timeframe.value = timeframe ∧
        ∀ item ∈ history.bars report.run.resolved.logicalSymbol report.run.timeframe,
          startAt ≤ item.openTime → item.openTime ≤ endAt →
            BarWritten env.library after.files report.run.resolved.logicalSymbol
              report.run.timeframe item

theorem progress_run
    {history : BarHistory env settings} (lookback : 0 < settings.barLookbackCount)
    (injective : RunKeysInjective env.library) {events : List StoreEvent} {store after : Store}
    (steps : StoreRun env settings store events after) (progress : Progress history store) :
    Progress history after :=
  steps.invariant (Progress history)
    (fun _ _ _ step before => progress_step lookback injective step before) progress

theorem value_of_ofText
    {text : String} {timeframe : Timeframe} (parsed : Timeframe.ofText text = .ok timeframe) :
    timeframe.value = text := by
  unfold Timeframe.ofText at parsed
  split at parsed
  next found =>
    obtain rfl := Except.ok.inj parsed
    simpa using List.find?_some found
  next => cases parsed

/-- Whatever was called before, with whatever failures, the rows of backfills
advance, and a backfill that returns has stored its whole range. -/
theorem backfill_completes
    (env : Environment) (settings : MarketDataSettings) (history : BarHistory env settings)
    (lookback : 0 < settings.barLookbackCount) (injective : RunKeysInjective env.library)
    (fuel : Nat) (calls : List Call) :
    RowsAdvance env settings (runCalls env settings fuel calls freshWorld) ∧
      ∀ canonicalSymbol timeframe startAt endAt dryRun fuel',
        dryRun.getD settings.dryRunDefault = false → (endAt - startAt).toNat ≤ fuel' →
          BackfillStores history fuel' canonicalSymbol timeframe startAt endAt dryRun
            (runCalls env settings fuel calls freshWorld) := by
  obtain ⟨events, store, steps, stands⟩ : Moved env settings freshStore _ :=
    moved_of_calls fuel calls stands_fresh
  have progress : Progress history store :=
    progress_run lookback injective steps (fun _ _ none => by cases none)
  constructor
  · intro key row found
    rw [stands.tables] at found
    have row_progress := progress key row found
    refine ⟨row_progress.key, row_progress.bounded, row_progress.complete, ?_⟩
    intro fuel' call
    obtain ⟨_, after, more, there⟩ : Moved env settings store _ :=
      moved_of_call fuel' call stands
    obtain ⟨later, still, forward⟩ := row_run lookback more found
    exact ⟨later, by rw [there.tables, still], forward⟩
  · intro canonicalSymbol timeframe startAt endAt dryRun fuel' stored enough
    have ended := ensures_backfill_ends lookback injective progress canonicalSymbol timeframe
      dryRun enough _ stands
    have returned := ensures_backfill env settings fuel' canonicalSymbol timeframe startAt endAt
      dryRun _ stands
    intro result after ran
    rw [ran] at ended returned
    obtain ⟨report, rfl⟩ := Option.isSome_iff_exists.mp ended
    obtain ⟨_, last, ⟨more, finishes⟩, there⟩ := returned
    obtain ⟨sameDryRun, finished⟩ := finishes report rfl
    have done := finished (sameDryRun.trans stored)
    refine ⟨report, rfl, done.symbol, value_of_ofText done.timeframe, ?_⟩
    intro item member afterStart beforeEnd
    have facts := nextStart_facts report.run injective
      (progress_run lookback injective more progress)
    have nonempty := done.nonempty
    have reached := done.finished
    rw [done.observedStart] at facts
    rw [there.files]
    rcases facts.2 with first | written
    · omega
    · exact written item member afterStart (Int.le_trans beforeEnd reached)

theorem runKeysInjective_plain : RunKeysInjective plainLibrary := by
  intro symbol timeframe start finish symbol' timeframe' start' finish' same
  have parsed := congrArg JsonText.parse (String.ofList_injective same)
  rw [JsonText.parse_render_of_distinctKeys, JsonText.parse_render_of_distinctKeys] at parsed
  · simpa using parsed
  · simp [JsonText.Document.DistinctKeys, JsonText.Document.DistinctKeysItems]
  · simp [JsonText.Document.DistinctKeys, JsonText.Document.DistinctKeysItems]

def goldHistory : BarHistory (goldBroker (fun _ => []) [goldBar 60]) goldSettings where
  bars := fun _ _ => [goldBar 60]
  distinct := fun _ _ first here second there _ =>
    (List.mem_singleton.mp here).trans (List.mem_singleton.mp there).symm
  exact := by
    intro symbol _ moment timeframe startAt endAt payload replied item
    obtain rfl := Option.some.inj (Except.ok.inj replied)
    simp

/-- Two minutes of gold, asked for a second time. -/
theorem goldBackfill_completes :
    BackfillStores goldHistory 120000000 "XAUUSD" "M1" 0 120000000 (some false)
      (runCalls (goldBroker (fun _ => []) [goldBar 60]) goldSettings 5
        [.backfill "XAUUSD" "M1" 0 120000000 (some false)] freshWorld) := by
  obtain ⟨-, stores⟩ := backfill_completes _ _ goldHistory (by decide) runKeysInjective_plain 5
    [.backfill "XAUUSD" "M1" 0 120000000 (some false)]
  exact stores "XAUUSD" "M1" 0 120000000 (some false) 120000000 rfl (by decide)

end SuperAdvisor.MarketData
