import SuperAdvisor.MarketData.Storage

/-!
# The collector

A configured symbol is resolved when exactly one symbol of the broker has its
name or one of its aliases.  A collection reads the ticks and the bars of every
symbol from its cursors on and commits them; a backfill reads a range in chunks
and remembers how far it has come.
-/

namespace SuperAdvisor.MarketData

open Python

section Symbols

structure SymbolTarget where
  logicalSymbol : String
  aliases : List String
  deriving DecidableEq

variable (library : MarketLibrary)

def normalizedSymbolName (value : String) : String :=
  String.ofList ((library.upper value).toList.filter library.isAlphanumeric)

/-- The symbols under their normalised names and descriptions. -/
def symbolLookup (discovered : List DiscoveredSymbol) :
    List (String × List DiscoveredSymbol) :=
  (discovered.flatMap (fun symbol =>
    [symbol.brokerSymbol, symbol.description].dedup.map (fun candidate =>
      (normalizedSymbolName library candidate, symbol)))).foldl (fun lookup entry =>
    OrderedDict.set lookup entry.1
      ((OrderedDict.get? lookup entry.1).getD [] ++ [entry.2])) []

/-- The matches of a target by the name of the broker's symbol. -/
def uniqueMatches (lookup : List (String × List DiscoveredSymbol)) (target : SymbolTarget) :
    List (String × DiscoveredSymbol) :=
  let found := (target.logicalSymbol :: target.aliases).flatMap (fun candidate =>
    (OrderedDict.get? lookup (normalizedSymbolName library candidate)).getD [])
  OrderedDict.ofPairs ((found.filter (fun item => item.brokerSymbol ≠ "")).map (fun item =>
    (item.brokerSymbol, item)))

def symbolIncident (readClock : String → Int) (eventKind logicalSymbol detail : String) :
    QualityIncident :=
  let incidentKey := eventKind ++ ":" ++ logicalSymbol
  { eventKind := eventKind
    logicalSymbol := logicalSymbol
    timeframe := none
    detail := detail
    observedAtUtc := readClock incidentKey
    incidentKey := incidentKey }

def resolveTarget (readClock : String → Int) (lookup : List (String × List DiscoveredSymbol))
    (target : SymbolTarget) : Except QualityIncident ResolvedSymbol :=
  match uniqueMatches library lookup target with
  | [] =>
      .error (symbolIncident readClock "missing_symbol_mapping" target.logicalSymbol
        "configured symbol could not be resolved from broker discovery")
  | [(_, symbol)] =>
      .ok
        { logicalSymbol := target.logicalSymbol
          brokerSymbol := symbol.brokerSymbol
          aliases := target.aliases
          description := symbol.description
          point := symbol.point
          digits := symbol.digits
          visible := symbol.visible }
  | _ =>
      .error (symbolIncident readClock "ambiguous_symbol_mapping" target.logicalSymbol
        "configured symbol resolved to multiple broker symbols")

/-- The resolved symbols, and the incidents of the others. -/
def resolveSymbols (readClock : String → Int) (targets : List SymbolTarget)
    (discovered : List DiscoveredSymbol) : List ResolvedSymbol × List QualityIncident :=
  let outcomes := targets.map
    (resolveTarget library readClock (symbolLookup library discovered))
  (outcomes.filterMap (fun outcome =>
      match outcome with
      | .ok symbol => some symbol
      | .error _ => none),
    outcomes.filterMap (fun outcome =>
      match outcome with
      | .ok _ => none
      | .error problem => some problem))

/-! What the broker replies about its symbols. -/

/-- Whether a symbol can be used, and the clock of the incident if it cannot. -/
structure Selection where
  selected : Bool
  readClock : String → Int

def Selection.incidents (selection : Selection) (symbol : ResolvedSymbol) :
    List QualityIncident :=
  if selection.selected then []
  else
    [symbolIncident selection.readClock "symbol_select_failed" symbol.logicalSymbol
      "matched broker symbol could not be enabled in MarketWatch"]

structure SymbolReplies where
  discovered : List DiscoveredSymbol
  readClock : String → Int
  selections : List Selection

namespace SymbolReplies

variable (targets : List SymbolTarget) (replies : SymbolReplies)

def matched : List ResolvedSymbol × List QualityIncident :=
  resolveSymbols library replies.readClock targets replies.discovered

/-- The incidents of symbols that are not found, ambiguous or not selected. -/
def incidents : List QualityIncident :=
  (replies.matched library targets).2 ++
    (List.zipWith (fun symbol selection => selection.incidents symbol)
      (replies.matched library targets).1 replies.selections).flatten

/-- Every target is found once, and can be used. -/
structure Settled : Prop where
  found : ∀ target ∈ targets,
    (uniqueMatches library (symbolLookup library replies.discovered) target).length = 1
  selected : ∀ selection ∈ replies.selections, selection.selected = true

end SymbolReplies

end Symbols

structure MarketDataSettings where
  symbols : List SymbolTarget
  timeframes : List Timeframe
  tickLookbackSeconds : Int
  barLookbackCount : Int
  freshnessThresholdSeconds : Int
  retryMaxAttempts : Nat
  dryRunDefault : Bool

def advanceWindow (startAtUtc endAtUtc : Int) (timeframe : Timeframe) (maxBars : Int) : Int :=
  min endAtUtc (startAtUtc + timeframeDelta timeframe * maxBars)

section Backend

variable (env : Environment)

/-- One attempt of the retry runner. -/
def attempt {α : Type} (operation : Market α) : Market α := do
  if ← ask env.initializes then operation
  else
    throw (.backendConnection
      ("backend initialize failed: " ++ env.lastError (← nextMoment)))

/-- The rest of the attempts, after the error of the last one. -/
def retryFrom {α : Type} (operation : Market α) :
    (attempts : Nat) → (lastError : MarketProblem) → Market α
  | 0, lastError => throw lastError
  | attempts + 1, _ =>
      tryCatch (attempt env operation) (fun problem =>
        match problem with
        | .backendConnection _ => retryFrom operation attempts problem
        | _ => throw problem)

/-- `BoundedRetryRunner.run`: only connection errors are tried again. -/
def retryRun {α : Type} (maxAttempts : Nat) (operation : Market α) : Market α :=
  retryFrom env operation maxAttempts (.backendConnection
    "market-data operation failed without an explicit backend error")

/-- A call whose missing reply is a connection error. -/
def askPayload {α : Type} (name : String) (reply : Nat → Except MarketProblem (Option α)) :
    Market α := do
  match ← ask reply with
  | some payload => return payload
  | none =>
      throw (.backendConnection
        ("MetaTrader5 " ++ name ++ " failed: " ++ env.lastError (← nextMoment)))

end Backend

namespace Service

variable (env : Environment) (settings : MarketDataSettings)

def listSymbols : Market (List DiscoveredSymbol) :=
  retryRun env settings.retryMaxAttempts (askPayload env "symbols_get" env.symbolsGet)

/-- A symbol that is not visible is selected first. -/
def finalizeSymbol (symbol : ResolvedSymbol) :
    Market (ResolvedSymbol × List QualityIncident) := do
  if symbol.visible then return (symbol, [])
  else
    let selected ← retryRun env settings.retryMaxAttempts
      (ask (fun moment => env.symbolSelect moment symbol.brokerSymbol))
    let readClock ← incidentClock env
    return ({ symbol with visible := selected },
      if selected then []
      else
        [symbolIncident readClock "symbol_select_failed" symbol.logicalSymbol
          "matched broker symbol could not be enabled in MarketWatch"])

def resolveSymbols : Market (List ResolvedSymbol × List QualityIncident) := do
  let discovered ← listSymbols env settings
  let readClock ← incidentClock env
  let (resolved, incidents) :=
    MarketData.resolveSymbols env.library readClock settings.symbols discovered
  let finalized ← resolved.mapM (finalizeSymbol env settings)
  return (finalized.map Prod.fst, incidents ++ finalized.flatMap Prod.snd)

def resolveSymbol (logicalSymbol : String) : Market ResolvedSymbol := do
  let (resolved, incidents) ← resolveSymbols env settings
  let wanted := env.library.upper logicalSymbol
  match resolved.find? (fun symbol => env.library.upper symbol.logicalSymbol = wanted) with
  | some symbol => return symbol
  | none =>
      let matching :=
        incidents.find? (fun item => env.library.upper item.logicalSymbol = wanted)
      let detail := (matching.map QualityIncident.detail).getD "symbol was not configured"
      throw (.configValidation
        ("Unable to resolve symbol " ++ quotedText logicalSymbol ++ ": " ++ detail))

def normalizeReceived (symbol : ResolvedSymbol) (payload : TickPayload) :
    Market TickRecord := do
  MonadExcept.ofExcept (normalizeTick env.library symbol.logicalSymbol symbol.brokerSymbol
    payload (← utcNow env) symbol.point)

/-- The ticks of a range, and the newest tick, which is asked for after them. -/
def loadTicks (symbol : ResolvedSymbol) (startAt endAt : Int) :
    Market (List TickRecord × List QualityIncident) := do
  let payload ← retryRun env settings.retryMaxAttempts
    (askPayload env "copy_ticks_range" (fun moment =>
      env.copyTicksRange moment symbol.brokerSymbol startAt endAt))
  let records ← payload.mapM (normalizeReceived env symbol)
  let latestTick ← retryRun env settings.retryMaxAttempts
    (ask (fun moment => env.symbolInfoTick moment symbol.brokerSymbol))
  let latest ← latestTick.toList.mapM (normalizeReceived env symbol)
  let readClock ← incidentClock env
  return normalizeTickBatch readClock (records ++ latest)

def loadBars (symbol : ResolvedSymbol) (timeframe : Timeframe)
    (startAt endAt asOfUtc : Int) : Market (List BarRecord) := do
  let payload ← retryRun env settings.retryMaxAttempts
    (askPayload env "copy_rates_range" (fun moment =>
      env.copyRatesRange moment symbol.brokerSymbol (mt5TimeframeMap timeframe) startAt endAt))
  MonadExcept.ofExcept (payload.mapM (fun item =>
    normalizeBar symbol.logicalSymbol symbol.brokerSymbol timeframe item asOfUtc))

/-- A forming bar becomes the current row and the position of its stream. -/
def replaceCurrentRow (logicalSymbol : String) (timeframe : Timeframe) (record : BarRecord) :
    Market Unit := do
  upsertLatestBar env record .current
  advanceCursor env ⟨.bars, logicalSymbol, some timeframe⟩
    { cursorUtc := record.openTimeUtc
      markerId := record.barId }

/-- A closed bar is compared with the stored one before it replaces it. -/
def replaceClosedRow (logicalSymbol : String) (timeframe : Timeframe) (record : BarRecord) :
    Market (List QualityIncident) := do
  let previousClosed ← getLatestClosedBar env logicalSymbol timeframe
  let readClock ← incidentClock env
  upsertLatestBar env record .closed
  return detectClosedBarMutation readClock previousClosed (some record)

/-- The rows of a commit, under the keys it uses for them; the result is the
incidents of changed bars. -/
def replaceRows (key : (String × Timeframe) × BarRecord → String × Timeframe)
    (currentRows closedRows : BarRows) : Market (List QualityIncident) := do
  currentRows.forM (fun row => replaceCurrentRow env (key row).1 (key row).2 row.2)
  let mutations ← closedRows.mapM (fun row =>
    replaceClosedRow env (key row).1 (key row).2 row.2)
  return mutations.flatten

/-- `_commit_symbol`: the files first, then the tables in one transaction. The
result is the incidents, to which those of changed bars are added. -/
def commitSymbol (symbol : ResolvedSymbol) (ticks : List TickRecord) (bars : List BarRecord)
    (currentRows closedRows : BarRows) (incidents : List QualityIncident)
    (observedNow : Int) : Market (List QualityIncident) := do
  let _ ← writeTicks env ticks
  let _ ← writeBars env bars
  transaction env (do
    recordSymbolMapping env symbol.logicalSymbol
      { brokerSymbol := symbol.brokerSymbol
        aliases := symbol.aliases
        description := symbol.description
        point := symbol.point
        digits := symbol.digits
        visible := true
        updatedAtUtc := observedNow }
    ticks.forM (upsertLatestTick env)
    ticks.getLast?.toList.forM (fun latestTick =>
      advanceCursor env ⟨.ticks, symbol.logicalSymbol, none⟩
        { cursorUtc := latestTick.marketTimeUtc
          markerId := latestTick.sequenceId })
    let mutations ← replaceRows env Prod.fst currentRows closedRows
    recordIncidents env (incidents ++ mutations)
    return incidents ++ mutations)

/-- `_commit_bars`: a bar counts as closed when the last one has closed. -/
def commitBars (logicalSymbol : String) (timeframe : Timeframe) (bars : List BarRecord)
    (incidents : List QualityIncident) : Market Unit := do
  match bars.getLast? with
  | none => return ()
  | some last =>
      let _ ← writeBars env bars
      let (currentRows, closedRows) := splitCurrentAndClosedBars bars last.closeTimeUtc
      transaction env (do
        let mutations ← replaceRows env (fun _ => (logicalSymbol, timeframe)) currentRows
          closedRows
        recordIncidents env (incidents ++ mutations))

/-- What the loop over the timeframes has gathered. -/
structure GatheredBars where
  bars : List BarRecord := []
  incidents : List QualityIncident := []
  currentRows : BarRows := []
  closedRows : BarRows := []

/-- `rows.update(changed)` -/
def updateRows (rows changed : BarRows) : BarRows :=
  changed.foldl (fun rows row => OrderedDict.set rows row.1 row.2) rows

/-- The bars of one timeframe from its cursor on, or from the look-back. -/
def collectTimeframe (symbol : ResolvedSymbol) (observedNow : Int) (gathered : GatheredBars)
    (timeframe : Timeframe) : Market GatheredBars := do
  let barCursor ← getCursor env ⟨.bars, symbol.logicalSymbol, some timeframe⟩
  let barStart :=
    match barCursor with
    | none =>
        observedNow -
          ofSeconds (mt5TimeframeMap timeframe * 60 * settings.barLookbackCount)
    | some cursor => cursor.cursorUtc
  let timeframeBars ← loadBars env settings symbol timeframe barStart observedNow observedNow
  let readClock ← incidentClock env
  let (normalizedBars, batchIncidents) := normalizeBarBatch readClock timeframeBars
  let (currentUpdate, closedUpdate) := splitCurrentAndClosedBars normalizedBars observedNow
  pure
    { bars := gathered.bars ++ normalizedBars
      incidents := gathered.incidents ++ batchIncidents ++
        detectMissingBars readClock normalizedBars
      currentRows := updateRows gathered.currentRows currentUpdate
      closedRows := updateRows gathered.closedRows closedUpdate }

structure SymbolReport where
  ticks : List TickRecord
  bars : List BarRecord
  incidents : List QualityIncident
  freshness : Freshness

def collectSymbol (symbol : ResolvedSymbol) (observedNow : Int) (dryRun : Bool) :
    Market SymbolReport := do
  let tickCursor ← getCursor env ⟨.ticks, symbol.logicalSymbol, none⟩
  let tickStart :=
    match tickCursor with
    | none => observedNow - ofSeconds settings.tickLookbackSeconds
    | some cursor => cursor.cursorUtc
  let (ticks, tickIncidents) ← loadTicks env settings symbol tickStart observedNow
  let gathered ← settings.timeframes.foldlM (collectTimeframe env settings symbol observedNow)
    { incidents := tickIncidents }
  let (freshness, freshnessIncidents) :=
    classifyFreshness observedNow ticks gathered.bars settings.freshnessThresholdSeconds
  let incidents := gathered.incidents ++ freshnessIncidents
  if dryRun then return ⟨ticks, gathered.bars, incidents, freshness⟩
  else
    let incidents ← commitSymbol env symbol ticks gathered.bars gathered.currentRows
      gathered.closedRows incidents observedNow
    return ⟨ticks, gathered.bars, incidents, freshness⟩

structure CollectReport where
  dryRun : Bool
  symbols : List String
  tickCount : Nat
  barCount : Nat
  qualityIncidents : List QualityIncident
  freshness : List (String × Freshness)
  observedAtUtc : Int

/-- The given time, or the clock's. -/
def observedAt (now : Option Int) : Market Int :=
  match now with
  | some now => pure now
  | none => utcNow env

/-- The symbols a collection is for. -/
def wantedSymbols (symbolFilter : Option (List String)) (resolved : List ResolvedSymbol) :
    List ResolvedSymbol :=
  match symbolFilter with
  | none => resolved
  | some wanted => resolved.filter (fun item =>
      env.library.upper item.logicalSymbol ∈ wanted.map env.library.upper)

def collectOnce (symbolFilter : Option (List String)) (now : Option Int)
    (dryRun : Option Bool) : Market CollectReport := do
  let observedNow ← observedAt env now
  let effectiveDryRun := dryRun.getD settings.dryRunDefault
  let (allResolved, incidents) ← resolveSymbols env settings
  let resolved := wantedSymbols env symbolFilter allResolved
  let reports ← resolved.mapM (fun symbol =>
    collectSymbol env settings symbol observedNow effectiveDryRun)
  let symbols := resolved.map ResolvedSymbol.logicalSymbol
  let allIncidents := incidents ++ reports.flatMap SymbolReport.incidents
  let report : CollectReport :=
    { dryRun := effectiveDryRun
      symbols := symbols
      tickCount := (reports.map (fun report => report.ticks.length)).sum
      barCount := (reports.map (fun report => report.bars.length)).sum
      qualityIncidents := allIncidents
      freshness := OrderedDict.ofPairs (symbols.zip (reports.map SymbolReport.freshness))
      observedAtUtc := observedNow }
  if effectiveDryRun then return report
  else
    transaction env (recordHeartbeat env
      { collectorName := "market-data-collector"
        status := "ok"
        symbols := symbols
        tickCount := report.tickCount
        barCount := report.barCount
        incidentCount := allIncidents.length
        observedAtUtc := observedNow })
    return report

/-- A run of `backfill`: what its rows are about. -/
structure BackfillRun where
  resolved : ResolvedSymbol
  timeframe : Timeframe
  observedStart : Int
  observedEnd : Int
  dryRun : Bool

def BackfillRun.runKey (library : MarketLibrary) (run : BackfillRun) : String :=
  library.backfillDigest run.resolved.logicalSymbol run.timeframe.value run.observedStart
    run.observedEnd

def BackfillRun.state (library : MarketLibrary) (run : BackfillRun) (nextStartUtc : Int)
    (status : BackfillStatus) (lastError : Option String) : BackfillState :=
  { runKey := run.runKey library
    logicalSymbol := run.resolved.logicalSymbol
    timeframe := run.timeframe
    startAtUtc := run.observedStart
    endAtUtc := run.observedEnd
    nextStartUtc := nextStartUtc
    status := status
    lastError := lastError }

/-- The body of a chunk: its bars are stored before the progress is. -/
def backfillChunk (run : BackfillRun) (nextStart chunkEnd : Int) :
    Market (List QualityIncident × Nat) := do
  let bars ← loadBars env settings run.resolved run.timeframe nextStart chunkEnd chunkEnd
  let readClock ← incidentClock env
  let (normalizedBars, batchIncidents) := normalizeBarBatch readClock bars
  let incidents := batchIncidents ++ detectMissingBars readClock normalizedBars
  if run.dryRun then return (incidents, normalizedBars.length)
  else
    commitBars env run.resolved.logicalSymbol run.timeframe normalizedBars incidents
    transaction env (upsertBackfillState env (run.state env.library chunkEnd
      (if chunkEnd < run.observedEnd then .running else .complete) none))
    return (incidents, normalizedBars.length)

/-- What is remembered of a chunk that raised. -/
def backfillFailed (run : BackfillRun) (nextStart : Int) (problem : MarketProblem) :
    Market (List QualityIncident × Nat) := do
  if run.dryRun then throw problem
  else
    transaction env (upsertBackfillState env (run.state env.library nextStart .failed
      (some problem.text)))
    throw problem

/-- The chunks from a start on; without a result when they are more than the
fuel. -/
def backfillLoop (run : BackfillRun) :
    (fuel : Nat) → (nextStart : Int) → Market (Option (List QualityIncident × Nat))
  | 0, nextStart => return if nextStart < run.observedEnd then none else some ([], 0)
  | fuel + 1, nextStart =>
      if nextStart < run.observedEnd then do
        let chunkEnd := advanceWindow nextStart run.observedEnd run.timeframe
          settings.barLookbackCount
        let chunk ← tryCatch (backfillChunk env settings run nextStart chunkEnd)
          (backfillFailed env run nextStart)
        let rest ← backfillLoop run fuel chunkEnd
        return rest.map (fun rest => (chunk.1 ++ rest.1, chunk.2 + rest.2))
      else return some ([], 0)

def Timeframe.ofText (text : String) : Except MarketProblem Timeframe :=
  match [Timeframe.M1, .M5, .M15, .H1, .H4, .D1].find? (fun item => item.value = text) with
  | some timeframe => .ok timeframe
  | none => .error (.valueError (quotedText text ++ " is not a valid Timeframe"))

structure BackfillReport where
  run : BackfillRun
  barCount : Nat
  qualityIncidents : List QualityIncident
  runKey : String

def backfill (fuel : Nat) (canonicalSymbol timeframe : String) (startAt endAt : Int)
    (dryRun : Option Bool) : Market (Option BackfillReport) := do
  if endAt ≤ startAt then throw (.valueError "backfill end must be after start")
  else
    let timeframeValue ← MonadExcept.ofExcept (Timeframe.ofText timeframe)
    let resolved ← resolveSymbol env settings canonicalSymbol
    let run : BackfillRun :=
      { resolved := resolved
        timeframe := timeframeValue
        observedStart := startAt
        observedEnd := endAt
        dryRun := dryRun.getD settings.dryRunDefault }
    let runKey := run.runKey env.library
    let state ← getBackfillState env runKey
    let nextStart := (state.map BackfillState.nextStartUtc).getD startAt
    let done ← backfillLoop env settings run fuel nextStart
    return done.map (fun done =>
      { run := run, barCount := done.2, qualityIncidents := done.1, runKey := runKey })

end Service

end SuperAdvisor.MarketData
