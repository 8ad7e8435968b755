import SuperAdvisor.MarketData.Quality

/-!
# The two stores

Records go to Parquet files first and to SQLite tables after.  Every operation
of a store happens at its own step and may raise there; a transaction works on
a copy of the tables that only its commit makes the stored ones.
-/

namespace SuperAdvisor.MarketData

open Python Raising

/-! The tables of the state store. -/

inductive StreamKind where
  | ticks
  | bars
  deriving DecidableEq

inductive BarKind where
  | current
  | closed
  deriving DecidableEq

inductive BackfillStatus where
  | running
  | complete
  | failed
  deriving DecidableEq

/-- The cursor of a tick stream has no timeframe. -/
structure CursorKey where
  streamKind : StreamKind
  logicalSymbol : String
  timeframe : Option Timeframe
  deriving DecidableEq

structure Cursor where
  cursorUtc : Int
  markerId : String
  deriving DecidableEq

structure BarKey where
  logicalSymbol : String
  timeframe : Timeframe
  barKind : BarKind
  deriving DecidableEq

structure SymbolMapping where
  brokerSymbol : String
  aliases : List String
  description : String
  point : Rat
  digits : Int
  visible : Bool
  updatedAtUtc : Int
  deriving DecidableEq

/-- The row of an incident key: what was recorded first, and the last payload. -/
structure IncidentRow where
  recorded : QualityIncident
  firstSeenUtc : Int
  lastSeenUtc : Int
  hitCount : Nat
  payload : QualityIncident
  deriving DecidableEq

structure BackfillState where
  runKey : String
  logicalSymbol : String
  timeframe : Timeframe
  startAtUtc : Int
  endAtUtc : Int
  nextStartUtc : Int
  status : BackfillStatus
  lastError : Option String
  deriving DecidableEq

structure HeartbeatRecord where
  collectorName : String
  status : String
  symbols : List String
  tickCount : Nat
  barCount : Nat
  incidentCount : Nat
  observedAtUtc : Int
  deriving DecidableEq

structure Tables where
  symbolMappings : List (String × SymbolMapping) := []
  cursors : List (CursorKey × Cursor) := []
  latestTicks : List (String × TickRecord) := []
  latestBars : List (BarKey × BarRecord) := []
  incidents : List (String × IncidentRow) := []
  backfillState : List (String × BackfillState) := []
  heartbeats : List HeartbeatRecord := []
  deriving DecidableEq

namespace Tables

variable (tables : Tables)

def getCursor (key : CursorKey) : Option Cursor :=
  OrderedDict.get? tables.cursors key

def getLatestClosedBar (logicalSymbol : String) (timeframe : Timeframe) : Option BarRecord :=
  OrderedDict.get? tables.latestBars ⟨logicalSymbol, timeframe, .closed⟩

def getBackfillState (runKey : String) : Option BackfillState :=
  OrderedDict.get? tables.backfillState runKey

def advanceCursor (key : CursorKey) (cursor : Cursor) : Tables :=
  { tables with cursors := OrderedDict.set tables.cursors key cursor }

def recordSymbolMapping (logicalSymbol : String) (mapping : SymbolMapping) : Tables :=
  { tables with
    symbolMappings := OrderedDict.set tables.symbolMappings logicalSymbol mapping }

def upsertLatestTick (record : TickRecord) : Tables :=
  { tables with
    latestTicks := OrderedDict.set tables.latestTicks record.logicalSymbol record }

def upsertLatestBar (record : BarRecord) (barKind : BarKind) : Tables :=
  { tables with
    latestBars := OrderedDict.set tables.latestBars
      ⟨record.logicalSymbol, record.timeframe, barKind⟩ record }

def recordIncident (incident : QualityIncident) : Tables :=
  let row : IncidentRow :=
    match OrderedDict.get? tables.incidents incident.incidentKey with
    | none =>
        { recorded := incident
          firstSeenUtc := incident.observedAtUtc
          lastSeenUtc := incident.observedAtUtc
          hitCount := 1
          payload := incident }
    | some row =>
        { row with
          lastSeenUtc := incident.observedAtUtc
          hitCount := row.hitCount + 1
          payload := incident }
  { tables with incidents := OrderedDict.set tables.incidents incident.incidentKey row }

/-- A row that exists keeps its symbol, timeframe and range. -/
def upsertBackfillState (state : BackfillState) : Tables :=
  let row : BackfillState :=
    match OrderedDict.get? tables.backfillState state.runKey with
    | none => state
    | some row =>
        { row with
          nextStartUtc := state.nextStartUtc
          status := state.status
          lastError := state.lastError }
  { tables with backfillState := OrderedDict.set tables.backfillState state.runKey row }

def recordHeartbeat (heartbeat : HeartbeatRecord) : Tables :=
  { tables with heartbeats := tables.heartbeats ++ [heartbeat] }

end Tables

/-! The files of the record store. -/

inductive TableRows where
  | ticks (records : List TickRecord)
  | bars (records : List BarRecord)
  deriving DecidableEq

/-- The directories and the name of a file. -/
structure TablePath where
  dataset : String
  logicalSymbol : String
  timeframe : Option Timeframe
  partitionDate : Int
  count : Nat
  checksum : String
  deriving DecidableEq

structure TableFile where
  path : TablePath
  rows : TableRows
  deriving DecidableEq

/-! Brokers and the world. -/

structure DiscoveredSymbol where
  brokerSymbol : String
  description : String
  visible : Bool
  point : Rat
  digits : Int
  deriving DecidableEq

structure ResolvedSymbol where
  logicalSymbol : String
  brokerSymbol : String
  aliases : List String
  description : String
  point : Rat
  digits : Int
  visible : Bool
  deriving DecidableEq

/-- What answers the collector, by the number of the step at which it asks: the
clock, the faults of the stores and the backend, whose replies may be missing
or raise. -/
structure Environment where
  library : MarketLibrary
  utcNow : Nat → Int
  incidentClock : Nat → String → Int
  fault : Nat → Option MarketProblem
  initializes : Nat → Except MarketProblem Bool
  lastError : Nat → String
  symbolsGet : Nat → Except MarketProblem (Option (List DiscoveredSymbol))
  symbolSelect : Nat → String → Except MarketProblem Bool
  copyTicksRange : Nat → (symbol : String) → (start finish : Int) →
    Except MarketProblem (Option (List TickPayload))
  symbolInfoTick : Nat → (symbol : String) → Except MarketProblem (Option TickPayload)
  copyRatesRange : Nat → (symbol : String) → (timeframe start finish : Int) →
    Except MarketProblem (Option (List BarPayload))

/-- `working` is the copy of an open transaction; `files` lists the files in
the order in which they were written. -/
structure World where
  moment : Nat
  tables : Tables
  working : Tables
  files : List TableFile

abbrev Market := EStateM MarketProblem World

def nextMoment : Market Nat :=
  modifyGet (fun world => (world.moment, { world with moment := world.moment + 1 }))

section Operations

variable (env : Environment)

def utcNow : Market Int := do
  return env.utcNow (← nextMoment)

def incidentClock : Market (String → Int) := do
  return env.incidentClock (← nextMoment)

/-- A call of the backend. -/
def ask {α : Type} (reply : Nat → Except MarketProblem α) : Market α := do
  ofExcept (reply (← nextMoment))

/-- An operation of a store: it raises without an effect or has its effect. -/
def store (effect : World → World) : Market Unit := do
  match env.fault (← nextMoment) with
  | some problem => throw problem
  | none => modify effect

/-- A read on a connection of its own sees the stored tables. -/
def query {α : Type} (read : Tables → α) : Market α := do
  store env id
  return read (← get).tables

def statement (change : Tables → Tables) : Market Unit :=
  store env (fun world => { world with working := change world.working })

/-- `transaction`: connect, begin, the statements, commit; roll back if one of
the last three raises. -/
def transaction {α : Type} (body : Market α) : Market α := do
  store env id
  tryCatch
    (do
      store env (fun world => { world with working := world.tables })
      let value ← body
      store env (fun world => { world with tables := world.working })
      return value)
    (fun problem => do
      store env (fun world => { world with working := world.tables })
      throw problem)

def getCursor (key : CursorKey) : Market (Option Cursor) :=
  query env (fun tables => tables.getCursor key)

def getLatestClosedBar (logicalSymbol : String) (timeframe : Timeframe) :
    Market (Option BarRecord) :=
  query env (fun tables => tables.getLatestClosedBar logicalSymbol timeframe)

def getBackfillState (runKey : String) : Market (Option BackfillState) :=
  query env (fun tables => tables.getBackfillState runKey)

def advanceCursor (key : CursorKey) (cursor : Cursor) : Market Unit :=
  statement env (fun tables => tables.advanceCursor key cursor)

def recordSymbolMapping (logicalSymbol : String) (mapping : SymbolMapping) : Market Unit :=
  statement env (fun tables => tables.recordSymbolMapping logicalSymbol mapping)

def upsertLatestTick (record : TickRecord) : Market Unit :=
  statement env (fun tables => tables.upsertLatestTick record)

def upsertLatestBar (record : BarRecord) (barKind : BarKind) : Market Unit :=
  statement env (fun tables => tables.upsertLatestBar record barKind)

def recordIncidents (incidents : List QualityIncident) : Market Unit :=
  incidents.forM (fun incident => statement env (fun tables => tables.recordIncident incident))

def upsertBackfillState (state : BackfillState) : Market Unit :=
  statement env (fun tables => tables.upsertBackfillState state)

def recordHeartbeat (heartbeat : HeartbeatRecord) : Market Unit :=
  statement env (fun tables => tables.recordHeartbeat heartbeat)

/-- `_write_table`: the file is complete or not there. -/
def writeTable (path : TablePath) (rows : TableRows) : Market Unit :=
  store env (fun world => { world with files := world.files ++ [⟨path, rows⟩] })

/-- The path of a batch of one partition. -/
def tablePath (library : MarketLibrary) (dataset logicalSymbol : String)
    (timeframe : Option Timeframe) (partitionDate : Int) (ids : List String) : TablePath :=
  { dataset := dataset
    logicalSymbol := logicalSymbol
    timeframe := timeframe
    partitionDate := partitionDate
    count := ids.length
    checksum := library.fileChecksum dataset logicalSymbol
      ((timeframe.map Timeframe.value).getD "tick") partitionDate
      (ids.head?.getD "") (ids.getLast?.getD "") ids.length }

/-- The records of each partition, in the order of the batch. -/
def writeTicks (records : List TickRecord) : Market (List TablePath) :=
  (OrderedDict.groupBy
      (fun record : TickRecord => (record.logicalSymbol, dayOf record.marketTimeUtc))
      records).mapM (fun group => do
    let path := tablePath env.library "ticks" group.1.1 none group.1.2
      (group.2.map TickRecord.sequenceId)
    writeTable env path (.ticks group.2)
    return path)

def writeBars (records : List BarRecord) : Market (List TablePath) :=
  (OrderedDict.groupBy
      (fun record : BarRecord => (record.rowKey, dayOf record.openTimeUtc))
      records).mapM (fun group => do
    let path := tablePath env.library "bars" group.1.1.1 (some group.1.1.2) group.1.2
      (group.2.map BarRecord.barId)
    writeTable env path (.bars group.2)
    return path)

end Operations

end SuperAdvisor.MarketData
