import SuperAdvisor.Foundation.IsoText
import SuperAdvisor.Foundation.PlainDump

/-!
# Ticks and bars as stored

The records with their times and numbers as they are written: `to_dict`, the
JSON text of the SQLite tables, and the decoders of `_bar_from_json` and
`MarketDataService.snapshot`.  The two decoders of a bar differ in how they read
a time and a number.
-/

namespace SuperAdvisor.MarketData.Stored

open Python Calendar JsonText

/-- A `datetime`; a naive one has no offset. -/
abbrev Time := DateTime × Option Int

def IsUtc (time : Time) : Prop :=
  time.2 = some 0

/-- `astimezone(UTC)` of a time with an offset. -/
def ofOffset (time : DateTime) (offset : Int) : Except Failure DateTime :=
  if offset = 0 then .ok time
  else
    match DateTime.ofInstant? (time.instant - offset) with
    | some moved => .ok moved
    | none => .error (.overflowError "date value out of range")

def toIsoZ (time : Time) : Except Failure String :=
  match time.2 with
  | none => .error (.valueError "datetime must be timezone-aware UTC")
  | some offset => (ofOffset time.1 offset).map (fun moved => String.ofList (isoZ moved))

/-- `None if value is None else _to_iso_z(value)` -/
def isoOrNone : Option Time → Except Failure Value
  | none => .ok .none
  | some time => (toIsoZ time).map .str

def realtimeClassComputed : String := "COMPUTED"

def realtimeClassAllowed : List String :=
  ["REALTIME", "DELAYED_15MIN", "DAILY_MACRO", "COMPUTED", "STALE", "UNKNOWN"]

/-- Where a record comes from; `__post_init__` has checked it. -/
structure Provenance where
  source : String
  sourceSystem : String
  fetchedAtUtc : Option Time
  realtimeClass : String
  formulaVersion : Option String
  allowed : realtimeClass ∈ realtimeClassAllowed
  formula : realtimeClass = realtimeClassComputed → formulaVersion.getD "" ≠ ""
  aware : (isoOrNone fetchedAtUtc).isOk = true

/-- `__post_init__` -/
def Provenance.make (source sourceSystem : String) (fetchedAtUtc : Option Time)
    (realtimeClass : String) (formulaVersion : Option String) : Except Failure Provenance :=
  if allowed : realtimeClass ∈ realtimeClassAllowed then
    if formula : realtimeClass = realtimeClassComputed → formulaVersion.getD "" ≠ "" then
      match found : isoOrNone fetchedAtUtc with
      | .ok _ =>
          .ok
            { source := source
              sourceSystem := sourceSystem
              fetchedAtUtc := fetchedAtUtc
              realtimeClass := realtimeClass
              formulaVersion := formulaVersion
              allowed := allowed
              formula := formula
              aware := by rw [found]; rfl }
      | .error failure => .error failure
    else .error (.valueError "COMPUTED market data requires formula_version")
  else .error (.valueError ("invalid realtime_class: " ++ realtimeClass))

/-- The numbers are floats as Python prints them. -/
structure TickRecord extends Provenance where
  schemaVersion : String
  collectorVersion : String
  logicalSymbol : String
  brokerSymbol : String
  marketTimeUtc : Time
  marketTimeMsc : Int
  receivedAtUtc : Time
  bid : FloatLiteral
  ask : FloatLiteral
  last : FloatLiteral
  volume : FloatLiteral
  volumeReal : FloatLiteral
  flags : Int
  spreadPoints : Int
  sequenceId : String
  dataQuality : String
  qualityFlags : List String

structure BarRecord extends Provenance where
  schemaVersion : String
  collectorVersion : String
  logicalSymbol : String
  brokerSymbol : String
  timeframe : String
  openTimeUtc : Time
  closeTimeUtc : Time
  openPrice : FloatLiteral
  highPrice : FloatLiteral
  lowPrice : FloatLiteral
  closePrice : FloatLiteral
  tickVolume : Int
  realVolume : Int
  spread : Int
  isClosed : Bool
  barId : String
  dataQuality : String
  qualityFlags : List String

/-- The last five fields of both dictionaries. -/
def Provenance.entries (provenance : Provenance) (fetchedAtUtc : Value) :
    List (String × Value) :=
  [("source", .str provenance.source),
    ("source_system", .str provenance.sourceSystem),
    ("fetched_at_utc", fetchedAtUtc),
    ("realtime_class", .str provenance.realtimeClass),
    ("formula_version", optionalText provenance.formulaVersion)]

def TickRecord.entries (record : TickRecord) (marketTimeUtc receivedAtUtc : String)
    (fetchedAtUtc : Value) : List (String × Value) :=
  [("schema_version", .str record.schemaVersion),
    ("collector_version", .str record.collectorVersion),
    ("logical_symbol", .str record.logicalSymbol),
    ("broker_symbol", .str record.brokerSymbol),
    ("market_time_utc", .str marketTimeUtc),
    ("market_time_msc", .int record.marketTimeMsc),
    ("received_at_utc", .str receivedAtUtc),
    ("bid", .float record.bid),
    ("ask", .float record.ask),
    ("last", .float record.last),
    ("volume", .float record.volume),
    ("volume_real", .float record.volumeReal),
    ("flags", .int record.flags),
    ("spread_points", .int record.spreadPoints),
    ("sequence_id", .str record.sequenceId),
    ("data_quality", .str record.dataQuality),
    ("quality_flags", textList record.qualityFlags)] ++
    record.toProvenance.entries fetchedAtUtc

def TickRecord.toDict (record : TickRecord) : Except Failure (List (String × Value)) := do
  let marketTimeUtc ← toIsoZ record.marketTimeUtc
  let receivedAtUtc ← toIsoZ record.receivedAtUtc
  let fetchedAtUtc ← isoOrNone record.fetchedAtUtc
  .ok (record.entries marketTimeUtc receivedAtUtc fetchedAtUtc)

def BarRecord.entries (record : BarRecord) (openTimeUtc closeTimeUtc : String)
    (fetchedAtUtc : Value) : List (String × Value) :=
  [("schema_version", .str record.schemaVersion),
    ("collector_version", .str record.collectorVersion),
    ("logical_symbol", .str record.logicalSymbol),
    ("broker_symbol", .str record.brokerSymbol),
    ("timeframe", .str record.timeframe),
    ("open_time_utc", .str openTimeUtc),
    ("close_time_utc", .str closeTimeUtc),
    ("open", .float record.openPrice),
    ("high", .float record.highPrice),
    ("low", .float record.lowPrice),
    ("close", .float record.closePrice),
    ("tick_volume", .int record.tickVolume),
    ("real_volume", .int record.realVolume),
    ("spread", .int record.spread),
    ("is_closed", .bool record.isClosed),
    ("bar_id", .str record.barId),
    ("data_quality", .str record.dataQuality),
    ("quality_flags", textList record.qualityFlags)] ++
    record.toProvenance.entries fetchedAtUtc

def BarRecord.toDict (record : BarRecord) : Except Failure (List (String × Value)) := do
  let openTimeUtc ← toIsoZ record.openTimeUtc
  let closeTimeUtc ← toIsoZ record.closeTimeUtc
  let fetchedAtUtc ← isoOrNone record.fetchedAtUtc
  .ok (record.entries openTimeUtc closeTimeUtc fetchedAtUtc)

/-! The times and the dictionaries of records in UTC. -/

/-- The times of a record are in UTC. -/
structure TickRecord.InUtc (record : TickRecord) : Prop where
  market : IsUtc record.marketTimeUtc
  received : IsUtc record.receivedAtUtc
  fetched : ∀ time, record.fetchedAtUtc = some time → IsUtc time

structure BarRecord.InUtc (record : BarRecord) : Prop where
  opens : IsUtc record.openTimeUtc
  closes : IsUtc record.closeTimeUtc
  fetched : ∀ time, record.fetchedAtUtc = some time → IsUtc time

/-- The text of a time in UTC. -/
def utcText (time : Time) : String :=
  String.ofList (isoZ time.1)

theorem toIsoZ_of_utc {time : Time} (utc : IsUtc time) : toIsoZ time = .ok (utcText time) := by
  obtain ⟨clock, offset⟩ := time
  obtain rfl : offset = some 0 := utc
  rfl

theorem isoOrNone_of_utc
    {time? : Option Time} (utc : ∀ time, time? = some time → IsUtc time) :
    isoOrNone time? = .ok (optionalText (time?.map utcText)) := by
  cases time? with
  | none => rfl
  | some time => simp [isoOrNone, toIsoZ_of_utc (utc time rfl), Except.map, optionalText]

theorem TickRecord.toDict_of_utc {record : TickRecord} (utc : record.InUtc) :
    record.toDict = .ok (record.entries (utcText record.marketTimeUtc)
      (utcText record.receivedAtUtc) (optionalText (record.fetchedAtUtc.map utcText))) := by
  simp [toDict, toIsoZ_of_utc utc.market, toIsoZ_of_utc utc.received, isoOrNone_of_utc utc.fetched,
    bind, Except.bind]

theorem BarRecord.toDict_of_utc {record : BarRecord} (utc : record.InUtc) :
    record.toDict = .ok (record.entries (utcText record.openTimeUtc)
      (utcText record.closeTimeUtc) (optionalText (record.fetchedAtUtc.map utcText))) := by
  simp [toDict, toIsoZ_of_utc utc.opens, toIsoZ_of_utc utc.closes, isoOrNone_of_utc utc.fetched,
    bind, Except.bind]

theorem Provenance.make_self (provenance : Provenance) :
    Provenance.make provenance.source provenance.sourceSystem provenance.fetchedAtUtc
      provenance.realtimeClass provenance.formulaVersion = .ok provenance := by
  have aware := provenance.aware
  unfold make
  rw [dif_pos provenance.allowed, dif_pos provenance.formula]
  split
  next => rfl
  next failure found =>
    rw [found] at aware
    cases aware

/-! One tick. -/

def goldTime : Time :=
  ({ Date.noon ⟨2026, 1, 1, yearRange_2026, monthRange_january, by decide⟩ with
     hour := 0
     minute := 3
     microsecond := 123000
     hourRange := by decide
     minuteRange := by decide
     microsecondRange := by decide }, some 0)

def goldTick : TickRecord :=
  { source := "mt5_tick"
    sourceSystem := "MetaTrader5"
    fetchedAtUtc := some goldTime
    realtimeClass := "REALTIME"
    formulaVersion := none
    allowed := by decide
    formula := by decide
    aware := rfl
    schemaVersion := "1.2.0"
    collectorVersion := "1.2.15"
    logicalSymbol := "XAUUSD"
    brokerSymbol := "XAUUSD."
    marketTimeUtc := goldTime
    marketTimeMsc := 1767225780123
    receivedAtUtc := goldTime
    bid := ⟨"2600.1".toList, by decide⟩
    ask := ⟨"2600.3".toList, by decide⟩
    last := ⟨"2600.2".toList, by decide⟩
    volume := ⟨"1.0".toList, by decide⟩
    volumeReal := ⟨"1.0".toList, by decide⟩
    flags := 6
    spreadPoints := 20
    sequenceId := "XAUUSD:XAUUSD.:1767225780123"
    dataQuality := "valid"
    qualityFlags := [] }

end SuperAdvisor.MarketData.Stored
