import SuperAdvisor.Foundation.StableDump
import SuperAdvisor.Foundation.TypedFields
import SuperAdvisor.MarketData.StoredRecords

/-!
# Records read back from their JSON text

The decoders of a stored tick and a stored bar.  Both decoders of a bar read the
same fields with different readers of times and numbers; on the text of a record
in UTC the readers agree, and the record comes back as it was.
-/

namespace SuperAdvisor.MarketData.Stored

open Python Calendar JsonText

/-! Writing. -/

inductive StoreProblem where
  | python (failure : Failure)
  | json (problem : JsonError)
  deriving DecidableEq

/-- `json.dumps(record.to_dict(), ensure_ascii=True, sort_keys=True)` -/
def payloadOptions : DumpOptions :=
  { sortKeys := true, allowNan := true, spaced := true }

def payloadJson (fields : Except Failure (List (String × Value))) :
    Except StoreProblem (List Char) := do
  let fields ← fields.mapError .python
  (dumps payloadOptions (.dict (named fields))).mapError .json

/-- The payload of `upsert_latest_tick` -/
def latestTickJson (record : TickRecord) : Except StoreProblem (List Char) :=
  payloadJson record.toDict

/-- The payload of `upsert_latest_bar` -/
def latestBarJson (record : BarRecord) : Except StoreProblem (List Char) :=
  payloadJson record.toDict

/-! Reading. -/

/-- Conversions of the language: a float of an integer or a text, an integer of
a text, and a naive local time in UTC. -/
structure Builtins where
  floatOfInt : Int → Except Failure FloatLiteral
  floatOfText : String → Except Failure FloatLiteral
  intOfText : String → Except Failure Int
  localToUtc : DateTime → Except Failure DateTime

/-- `float(value)` -/
def toFloat (builtins : Builtins) : Value → Except Failure FloatLiteral
  | .float number => .ok number
  | .int number => builtins.floatOfInt number
  | .bool truth => builtins.floatOfInt (if truth then 1 else 0)
  | .str text => builtins.floatOfText text
  | value => .error (.typeError ("float() argument must be a string or a real number, not " ++
      quotedText value.typeName))

/-- The integer part of a number. -/
def truncated (number : Rat) : Int :=
  if number < 0 then number.ceil else number.floor

/-- `int(value)` -/
def toInt (builtins : Builtins) : Value → Except Failure Int
  | .int number => .ok number
  | .bool truth => .ok (if truth then 1 else 0)
  | .float number =>
      if number.isFinite then .ok (truncated (floatToRat number))
      else if number.text = "NaN".toList then
        .error (.valueError "cannot convert float NaN to integer")
      else .error (.overflowError "cannot convert float infinity to integer")
  | .str text => builtins.intOfText text
  | value => .error (.typeError
      ("int() argument must be a string, a bytes-like object or a real number, not " ++
        quotedText value.typeName))

/-- `_field`: the payload of a row is a dictionary, and no other value has a field. -/
def field (payload : Value) (name : String) : Value :=
  match payload with
  | .dict entries => getOr entries name .none
  | _ => .none

/-- `isinstance(value, str | bytes | int | float)` -/
def isNumberLike : Value → Bool
  | .str _ | .int _ | .float _ | .bool _ => true
  | _ => false

def asFloat (builtins : Builtins) (payload : Value) (name : String) :
    Except Failure FloatLiteral :=
  match field payload name with
  | .none => .ok ⟨"0.0".toList, by decide⟩
  | value =>
      if isNumberLike value then toFloat builtins value
      else .error (.valueError (name ++ " must be numeric, got " ++ value.shown))

def asInt (builtins : Builtins) (payload : Value) (name : String) : Except Failure Int :=
  match field payload name with
  | .none => .ok 0
  | value =>
      if isNumberLike value then toInt builtins value
      else .error (.valueError (name ++ " must be integer-like, got " ++ value.shown))

/-- `text.replace("Z", "+00:00")` -/
def withUtcOffset (text : String) : String :=
  String.ofList (replaceText ['Z'] utcOffset text.toList)

/-- `from_iso_z` -/
def fromIsoZ (builtins : Builtins) (text : String) : Except Failure Time := do
  let time ← fromisoformat (withUtcOffset text)
  let moved ← match time.2 with
    | none => builtins.localToUtc time.1
    | some offset => ofOffset time.1 offset
  .ok (moved, some 0)

def snapshotDatetime (value : Value) : Except Failure Time :=
  fromisoformat (withUtcOffset value.text)

/-- `payload.get(name, default)` -/
def payloadGet (payload : Value) (name : String) (default : Value) : Except Failure Value :=
  match payload with
  | .dict entries => .ok (getOr entries name default)
  | value => .error (noAttribute value "get")

/-- How a decoder reads a time, and the number under a name. -/
structure FieldReaders where
  time : Value → Except Failure Time
  float : Value → String → Except Failure FloatLiteral
  int : Value → String → Except Failure Int

/-- `from_iso_z(str(..))`, `float(payload[..])` and `int(payload[..])` -/
def storeReaders (builtins : Builtins) : FieldReaders :=
  { time := fun value => fromIsoZ builtins value.text
    float := fun payload name => do
      let value ← getItem payload name
      toFloat builtins value
    int := fun payload name => do
      let value ← getItem payload name
      toInt builtins value }

/-- `_snapshot_datetime(..)`, `as_float(payload, ..)` and `as_int(payload, ..)` -/
def snapshotReaders (builtins : Builtins) : FieldReaders :=
  { time := snapshotDatetime
    float := asFloat builtins
    int := asInt builtins }

/-- `str(payload[name])` -/
def textAt (payload : Value) (name : String) : Except Failure String :=
  (getItem payload name).map Value.text

/-- `str(payload.get(name, "UNKNOWN"))` -/
def textOrUnknown (payload : Value) (name : String) : Except Failure String :=
  (payloadGet payload name (.str "UNKNOWN")).map Value.text

/-- `None if payload.get(name) is None else read(payload[name])` -/
def optionalAt {α : Type} (read : Value → Except Failure α) (payload : Value) (name : String) :
    Except Failure (Option α) := do
  match ← payloadGet payload name .none with
  | .none => .ok none
  | _ =>
      let value ← getItem payload name
      (read value).map some

/-- `tuple(str(item) for item in payload[name])` -/
def textsAt (payload : Value) (name : String) : Except Failure (List String) := do
  let value ← getItem payload name
  let items ← listOf value
  .ok (items.map Value.text)

def decodeProvenance (readers : FieldReaders) (payload : Value) : Except Failure Provenance := do
  let source ← textOrUnknown payload "source"
  let sourceSystem ← textOrUnknown payload "source_system"
  let fetchedAtUtc ← optionalAt readers.time payload "fetched_at_utc"
  let realtimeClass ← textOrUnknown payload "realtime_class"
  let formulaVersion ← optionalAt (fun value => .ok value.text) payload "formula_version"
  Provenance.make source sourceSystem fetchedAtUtc realtimeClass formulaVersion

def timeAt (readers : FieldReaders) (payload : Value) (name : String) : Except Failure Time := do
  let value ← getItem payload name
  readers.time value

/-- The fields of a bar, in the order of both decoders. -/
def decodeBar (readers : FieldReaders) (payload : Value) : Except Failure BarRecord := do
  let schemaVersion ← textAt payload "schema_version"
  let collectorVersion ← textAt payload "collector_version"
  let logicalSymbol ← textAt payload "logical_symbol"
  let brokerSymbol ← textAt payload "broker_symbol"
  let timeframe ← textAt payload "timeframe"
  let openTimeUtc ← timeAt readers payload "open_time_utc"
  let closeTimeUtc ← timeAt readers payload "close_time_utc"
  let openPrice ← readers.float payload "open"
  let highPrice ← readers.float payload "high"
  let lowPrice ← readers.float payload "low"
  let closePrice ← readers.float payload "close"
  let tickVolume ← readers.int payload "tick_volume"
  let realVolume ← readers.int payload "real_volume"
  let spread ← readers.int payload "spread"
  let isClosed ← getItem payload "is_closed"
  let barId ← textAt payload "bar_id"
  let dataQuality ← textAt payload "data_quality"
  let qualityFlags ← textsAt payload "quality_flags"
  let provenance ← decodeProvenance readers payload
  .ok
    { provenance with
      schemaVersion := schemaVersion
      collectorVersion := collectorVersion
      logicalSymbol := logicalSymbol
      brokerSymbol := brokerSymbol
      timeframe := timeframe
      openTimeUtc := openTimeUtc
      closeTimeUtc := closeTimeUtc
      openPrice := openPrice
      highPrice := highPrice
      lowPrice := lowPrice
      closePrice := closePrice
      tickVolume := tickVolume
      realVolume := realVolume
      spread := spread
      isClosed := isClosed.truthy
      barId := barId
      dataQuality := dataQuality
      qualityFlags := qualityFlags }

def decodeTick (readers : FieldReaders) (payload : Value) : Except Failure TickRecord := do
  let logicalSymbol ← textAt payload "logical_symbol"
  let schemaVersion ← textAt payload "schema_version"
  let collectorVersion ← textAt payload "collector_version"
  let brokerSymbol ← textAt payload "broker_symbol"
  let marketTimeUtc ← timeAt readers payload "market_time_utc"
  let marketTimeMsc ← readers.int payload "market_time_msc"
  let receivedAtUtc ← timeAt readers payload "received_at_utc"
  let bid ← readers.float payload "bid"
  let ask ← readers.float payload "ask"
  let last ← readers.float payload "last"
  let volume ← readers.float payload "volume"
  let volumeReal ← readers.float payload "volume_real"
  let flags ← readers.int payload "flags"
  let spreadPoints ← readers.int payload "spread_points"
  let sequenceId ← textAt payload "sequence_id"
  let dataQuality ← textAt payload "data_quality"
  let qualityFlags ← textsAt payload "quality_flags"
  let provenance ← decodeProvenance readers payload
  .ok
    { provenance with
      schemaVersion := schemaVersion
      collectorVersion := collectorVersion
      logicalSymbol := logicalSymbol
      brokerSymbol := brokerSymbol
      marketTimeUtc := marketTimeUtc
      marketTimeMsc := marketTimeMsc
      receivedAtUtc := receivedAtUtc
      bid := bid
      ask := ask
      last := last
      volume := volume
      volumeReal := volumeReal
      flags := flags
      spreadPoints := spreadPoints
      sequenceId := sequenceId
      dataQuality := dataQuality
      qualityFlags := qualityFlags }

/-- `json.loads`; the messages of its errors are not told apart. -/
def loadPayload (text : List Char) : Except Failure Value :=
  match loads text with
  | some value => .ok value
  | none => .error (.valueError "Expecting value")

/-- `_bar_from_json` -/
def barFromJson (builtins : Builtins) (text : List Char) : Except Failure BarRecord := do
  let payload ← loadPayload text
  decodeBar (storeReaders builtins) payload

/-- The records `MarketDataService.snapshot` makes of its rows: each tick, with
the bars of its symbol. -/
def snapshotRecords (builtins : Builtins) (tickTexts barTexts : List (List Char)) :
    Except Failure (List (TickRecord × List BarRecord)) := do
  let ticks ← tickTexts.mapM loadPayload
  let bars ← barTexts.mapM loadPayload
  ticks.mapM (fun tick => do
    let logicalSymbol ← textAt tick "logical_symbol"
    let rows ← bars.mapM (fun row => do
      let symbol ← payloadGet row "logical_symbol" .none
      .ok (symbol.text, row))
    let related := rows.filter (fun row => decide (row.1 = logicalSymbol))
    let tickRecord ← decodeTick (snapshotReaders builtins) tick
    let barRecords ← related.mapM (fun row => decodeBar (snapshotReaders builtins) row.2)
    .ok (tickRecord, barRecords))

/-! The text of a record. -/

/-- The value is dumped and loads back as itself. -/
def Fixed (value : Value) : Prop :=
  (∃ document, value.toDocument payloadOptions = .ok document) ∧
    value.reload payloadOptions = value

theorem fixed_str (text : String) : Fixed (.str text) := ⟨⟨_, rfl⟩, rfl⟩

theorem fixed_int (number : Int) : Fixed (.int number) := ⟨⟨_, rfl⟩, rfl⟩

theorem fixed_bool (truth : Bool) : Fixed (.bool truth) := ⟨⟨_, rfl⟩, rfl⟩

theorem fixed_float (number : FloatLiteral) : Fixed (.float number) := by
  have converted : (Value.float number).toDocument payloadOptions = .ok (.float number) := by
    simp [Value.toDocument, floatAllowed, payloadOptions]
  exact ⟨⟨_, converted⟩, by simp [Value.reload, converted, Document.loaded, ofDocument]⟩

theorem fixed_optionalText (text : Option String) : Fixed (optionalText text) := by
  cases text with
  | none => exact ⟨⟨_, rfl⟩, rfl⟩
  | some text => exact fixed_str text

theorem fixed_textList (items : List String) : Fixed (textList items) :=
  ⟨toDocument_textList items, reload_strings payloadOptions items⟩

/-- A dictionary of such values is read back with its keys sorted. -/
theorem loadPayload_of_fixed
    {entries : List (String × Value)} (distinct : (OrderedDict.keys entries).Nodup)
    (fixed : ∀ entry ∈ entries, Fixed entry.2) :
    ∃ text, payloadJson (.ok entries) = .ok text ∧
      loadPayload text = .ok (.dict (named (sortByName entries))) := by
  obtain ⟨document, converted⟩ := @toDocument_named_ok payloadOptions rfl entries
    (fun entry member => (fixed entry member).1)
  have dumped : dumps payloadOptions (.dict (named entries)) = .ok (render true document) := by
    rw [dumps, converted]
    rfl
  have unchanged : (sortByName entries).map
      (fun entry => (entry.1, entry.2.reload payloadOptions)) = sortByName entries := by
    refine (List.map_congr_left (fun entry member => ?_)).trans (List.map_id _)
    rw [(fixed entry ((sortByName_perm entries).mem_iff.mp member)).2]
    rfl
  refine ⟨render true document, by rw [payloadJson, Except.mapError, ok_bind, dumped]; rfl, ?_⟩
  rw [loadPayload, loads_dumps dumped, reload_named rfl distinct converted, unchanged]

/-! Reading the fields. -/

/-- The readers read back what a record in UTC has written. -/
structure FieldReaders.Exact (readers : FieldReaders) : Prop where
  time : ∀ time, IsUtc time → readers.time (.str (utcText time)) = .ok time
  float : ∀ entries name number, OrderedDict.get? entries name = some (.float number) →
    readers.float (.dict (named entries)) name = .ok number
  int : ∀ entries name number, OrderedDict.get? entries name = some (.int number) →
    readers.int (.dict (named entries)) name = .ok number

theorem fromisoformat_utcText {time : Time} (utc : IsUtc time) :
    fromisoformat (withUtcOffset (utcText time)) = .ok time := by
  obtain ⟨clock, offset⟩ := time
  obtain rfl : offset = some 0 := utc
  have text : withUtcOffset (utcText (clock, some 0)) = String.ofList (isoformat clock) := by
    rw [withUtcOffset, utcText, String.toList_ofList, replaceText_isoZ]
  rw [text, fromisoformat_isoformat]

theorem storeReaders_exact (builtins : Builtins) : (storeReaders builtins).Exact := by
  constructor
  · intro time utc
    have read := fromisoformat_utcText utc
    obtain ⟨clock, offset⟩ := time
    obtain rfl : offset = some 0 := utc
    simp only [storeReaders, Value.text, fromIsoZ, read, ok_bind]
    rfl
  · intro entries name number found
    show (getItem (.dict (named entries)) name >>= toFloat builtins) = .ok number
    rw [getItem_named, found]
    rfl
  · intro entries name number found
    show (getItem (.dict (named entries)) name >>= toInt builtins) = .ok number
    rw [getItem_named, found]
    rfl

theorem snapshotReaders_exact (builtins : Builtins) : (snapshotReaders builtins).Exact := by
  constructor
  · intro time utc
    simp only [snapshotReaders, snapshotDatetime, Value.text, fromisoformat_utcText utc]
  · intro entries name number found
    show asFloat builtins (.dict (named entries)) name = .ok number
    simp [asFloat, field, getOr_named, found, isNumberLike, toFloat]
  · intro entries name number found
    show asInt builtins (.dict (named entries)) name = .ok number
    simp [asInt, field, getOr_named, found, isNumberLike, toInt]

section Fields

variable {readers : FieldReaders} {entries : List (String × Value)} {name : String}

theorem textAt_named {text : String} (found : OrderedDict.get? entries name = some (.str text)) :
    textAt (.dict (named entries)) name = .ok text := by
  rw [textAt, getItem_named, found]
  rfl

theorem timeAt_named
    (exact : readers.Exact) {time : Time} (utc : IsUtc time)
    (found : OrderedDict.get? entries name = some (.str (utcText time))) :
    timeAt readers (.dict (named entries)) name = .ok time := by
  rw [timeAt, getItem_named, found]
  exact exact.time time utc

theorem textOrUnknown_named
    {text : String} (found : OrderedDict.get? entries name = some (.str text)) :
    textOrUnknown (.dict (named entries)) name = .ok text := by
  simp [textOrUnknown, payloadGet, getOr_named, found, Except.map, Value.text]

theorem textsAt_named
    {items : List String} (found : OrderedDict.get? entries name = some (textList items)) :
    textsAt (.dict (named entries)) name = .ok items := by
  have texts : (items.map Value.str).map Value.text = items := by
    simp [Function.comp_def, Value.text]
  rw [textsAt, getItem_named, found]
  show Except.ok ((items.map Value.str).map Value.text) = _
  rw [texts]

theorem optionalAt_named
    {α : Type} {read : Value → Except Failure α} {text? : Option String} {value? : Option α}
    (found : OrderedDict.get? entries name = some (optionalText text?))
    (absent : text? = none → value? = none)
    (present : ∀ text, text? = some text → (read (.str text)).map some = .ok value?) :
    optionalAt read (.dict (named entries)) name = .ok value? := by
  rw [optionalAt, payloadGet, getOr_named, ok_bind, getItem_named, found]
  cases text? with
  | none => rw [absent rfl]; rfl
  | some text => exact present text rfl

/-- The dictionary has these fields. -/
def HasFields (entries fields : List (String × Value)) : Prop :=
  ∀ field ∈ fields, OrderedDict.get? entries field.1 = some field.2

theorem decodeProvenance_named
    (exact : readers.Exact) (provenance : Provenance)
    (utc : ∀ time, provenance.fetchedAtUtc = some time → IsUtc time)
    (has : HasFields entries
      (provenance.entries (optionalText (provenance.fetchedAtUtc.map utcText)))) :
    decodeProvenance readers (.dict (named entries)) = .ok provenance := by
  simp only [HasFields, Provenance.entries, List.forall_mem_cons] at has
  obtain ⟨source, sourceSystem, fetchedAtUtc, realtimeClass, formulaVersion, -⟩ := has
  have fetched : optionalAt readers.time (.dict (named entries)) "fetched_at_utc" =
      .ok provenance.fetchedAtUtc := by
    refine optionalAt_named fetchedAtUtc (by simp) ?_
    intro text found
    obtain ⟨time, isFetched, rfl⟩ := Option.map_eq_some_iff.mp found
    rw [exact.time time (utc time isFetched), isFetched]
    rfl
  have formula : optionalAt (fun value => .ok value.text) (.dict (named entries))
      "formula_version" = .ok provenance.formulaVersion := by
    refine optionalAt_named formulaVersion id ?_
    intro text found
    rw [found]
    rfl
  simp only [decodeProvenance, textOrUnknown_named source, textOrUnknown_named sourceSystem,
    fetched, textOrUnknown_named realtimeClass, formula, ok_bind]
  exact provenance.make_self

theorem decodeBar_named
    (exact : readers.Exact) {record : BarRecord} (utc : record.InUtc)
    (has : HasFields entries (record.entries (utcText record.openTimeUtc)
      (utcText record.closeTimeUtc) (optionalText (record.fetchedAtUtc.map utcText)))) :
    decodeBar readers (.dict (named entries)) = .ok record := by
  simp only [HasFields, BarRecord.entries, List.forall_mem_append, List.forall_mem_cons] at has
  obtain ⟨⟨schemaVersion, collectorVersion, logicalSymbol, brokerSymbol, timeframe, openTimeUtc,
    closeTimeUtc, openPrice, highPrice, lowPrice, closePrice, tickVolume, realVolume, spread,
    isClosed, barId, dataQuality, qualityFlags, -⟩, provenance⟩ := has
  simp only [decodeBar, textAt_named schemaVersion, textAt_named collectorVersion,
    textAt_named logicalSymbol, textAt_named brokerSymbol, textAt_named timeframe,
    timeAt_named exact utc.opens openTimeUtc, timeAt_named exact utc.closes closeTimeUtc,
    exact.float _ _ _ openPrice, exact.float _ _ _ highPrice, exact.float _ _ _ lowPrice,
    exact.float _ _ _ closePrice, exact.int _ _ _ tickVolume, exact.int _ _ _ realVolume,
    exact.int _ _ _ spread, getItem_named, isClosed, textAt_named barId,
    textAt_named dataQuality, textsAt_named qualityFlags,
    decodeProvenance_named exact record.toProvenance utc.fetched provenance, ok_bind]
  rfl

theorem decodeTick_named
    (exact : readers.Exact) {record : TickRecord} (utc : record.InUtc)
    (has : HasFields entries (record.entries (utcText record.marketTimeUtc)
      (utcText record.receivedAtUtc) (optionalText (record.fetchedAtUtc.map utcText)))) :
    decodeTick readers (.dict (named entries)) = .ok record := by
  simp only [HasFields, TickRecord.entries, List.forall_mem_append, List.forall_mem_cons] at has
  obtain ⟨⟨schemaVersion, collectorVersion, logicalSymbol, brokerSymbol, marketTimeUtc,
    marketTimeMsc, receivedAtUtc, bid, ask, last, volume, volumeReal, flags, spreadPoints,
    sequenceId, dataQuality, qualityFlags, -⟩, provenance⟩ := has
  simp only [decodeTick, textAt_named schemaVersion, textAt_named collectorVersion,
    textAt_named logicalSymbol, textAt_named brokerSymbol,
    timeAt_named exact utc.market marketTimeUtc, exact.int _ _ _ marketTimeMsc,
    timeAt_named exact utc.received receivedAtUtc, exact.float _ _ _ bid,
    exact.float _ _ _ ask, exact.float _ _ _ last, exact.float _ _ _ volume,
    exact.float _ _ _ volumeReal, exact.int _ _ _ flags, exact.int _ _ _ spreadPoints,
    textAt_named sequenceId, textAt_named dataQuality, textsAt_named qualityFlags,
    decodeProvenance_named exact record.toProvenance utc.fetched provenance, ok_bind]

end Fields

/-! Whole records. -/

/-- The text of a dictionary, which is read back as one with the same fields. -/
theorem exists_payloadJson
    {toDict : Except Failure (List (String × Value))} {fields : List (String × Value)}
    (isDict : toDict = .ok fields) (distinct : (OrderedDict.keys fields).Nodup)
    (fixed : ∀ field ∈ fields, Fixed field.2) :
    ∃ text entries, payloadJson toDict = .ok text ∧
      loadPayload text = .ok (.dict (named entries)) ∧ HasFields entries fields := by
  obtain ⟨text, printed, loaded⟩ := loadPayload_of_fixed distinct fixed
  refine ⟨text, _, isDict ▸ printed, loaded, fun field member => ?_⟩
  rw [get?_sortByName distinct]
  exact OrderedDict.get?_eq_some_of_mem distinct member

/-- A tick in UTC has a text, and the tick is read from it. -/
theorem exists_latestTickJson {record : TickRecord} (utc : record.InUtc) :
    ∃ text entries, latestTickJson record = .ok text ∧
      loadPayload text = .ok (.dict (named entries)) ∧
      OrderedDict.get? entries "logical_symbol" = some (.str record.logicalSymbol) ∧
      ∀ readers : FieldReaders, readers.Exact →
        decodeTick readers (.dict (named entries)) = .ok record := by
  obtain ⟨text, entries, printed, loaded, has⟩ := exists_payloadJson
    (TickRecord.toDict_of_utc utc)
    (by
      show List.Nodup ["schema_version", "collector_version", "logical_symbol", "broker_symbol",
        "market_time_utc", "market_time_msc", "received_at_utc", "bid", "ask", "last", "volume",
        "volume_real", "flags", "spread_points", "sequence_id", "data_quality", "quality_flags",
        "source", "source_system", "fetched_at_utc", "realtime_class", "formula_version"]
      decide)
    (by
      simp [TickRecord.entries, Provenance.entries, fixed_str, fixed_int, fixed_float,
        fixed_optionalText, fixed_textList])
  have symbol := has ("logical_symbol", .str record.logicalSymbol) (by simp [TickRecord.entries])
  exact ⟨text, entries, printed, loaded, symbol, fun _ exact => decodeTick_named exact utc has⟩

/-- A bar in UTC has a text, and the bar is read from it. -/
theorem exists_latestBarJson {record : BarRecord} (utc : record.InUtc) :
    ∃ text entries, latestBarJson record = .ok text ∧
      loadPayload text = .ok (.dict (named entries)) ∧
      OrderedDict.get? entries "logical_symbol" = some (.str record.logicalSymbol) ∧
      ∀ readers : FieldReaders, readers.Exact →
        decodeBar readers (.dict (named entries)) = .ok record := by
  obtain ⟨text, entries, printed, loaded, has⟩ := exists_payloadJson
    (BarRecord.toDict_of_utc utc)
    (by
      show List.Nodup ["schema_version", "collector_version", "logical_symbol", "broker_symbol",
        "timeframe", "open_time_utc", "close_time_utc", "open", "high", "low", "close",
        "tick_volume", "real_volume", "spread", "is_closed", "bar_id", "data_quality",
        "quality_flags", "source", "source_system", "fetched_at_utc", "realtime_class",
        "formula_version"]
      decide)
    (by
      simp [BarRecord.entries, Provenance.entries, fixed_str, fixed_int, fixed_bool, fixed_float,
        fixed_optionalText, fixed_textList])
  have symbol := has ("logical_symbol", .str record.logicalSymbol) (by simp [BarRecord.entries])
  exact ⟨text, entries, printed, loaded, symbol, fun _ exact => decodeBar_named exact utc has⟩

/-! Stores of records. -/

/-- Every record of a list has its text and what the text is loaded as. -/
private theorem exists_texts
    {Record : Type} {json : Record → Except StoreProblem (List Char)}
    {reads : Record → List (String × Value) → Prop} {records : List Record}
    (each : ∀ record ∈ records, ∃ text entries, json record = .ok text ∧
      loadPayload text = .ok (.dict (named entries)) ∧ reads record entries) :
    ∃ texts payloads, records.mapM json = .ok texts ∧
      texts.mapM loadPayload = .ok (payloads.map (fun entries => .dict (named entries))) ∧
      List.Forall₂ reads records payloads := by
  induction records with
  | nil => exact ⟨[], [], rfl, rfl, .nil⟩
  | cons record records induction =>
      obtain ⟨text, entries, printed, loaded, first⟩ := each record List.mem_cons_self
      obtain ⟨texts, payloads, allPrinted, allLoaded, rest⟩ :=
        induction (fun other member => each other (List.mem_cons_of_mem _ member))
      refine ⟨text :: texts, entries :: payloads, ?_, ?_, .cons first rest⟩
      · exact mapM_eq_ok_iff.mpr (.cons printed (mapM_eq_ok_iff.mp allPrinted))
      · exact mapM_eq_ok_iff.mpr (.cons loaded (mapM_eq_ok_iff.mp allLoaded))

private theorem mapM_bind_eq_ok
    {ε α β γ : Type} {first : α → Except ε β} {next : β → Except ε γ} {items : List α}
    {middle : List β} {results : List γ} (passed : items.mapM first = .ok middle)
    (ended : middle.mapM next = .ok results) :
    items.mapM (fun item => first item >>= next) = .ok results := by
  rw [mapM_eq_ok_iff] at passed ⊢
  induction passed generalizing results with
  | nil =>
      obtain rfl : [] = results := Except.ok.inj ended
      exact .nil
  | cons step _ induction =>
      obtain ⟨result, others, here, rest, rfl⟩ :=
        List.forall₂_cons_left_iff.mp (mapM_eq_ok_iff.mp ended)
      exact .cons (by rw [step]; exact here) (induction (mapM_eq_ok_iff.mpr rest))

/-- A row of the snapshot that stands for a bar. -/
def StandsFor (readers : FieldReaders) (bar : BarRecord) (row : String × Value) : Prop :=
  row.1 = bar.logicalSymbol ∧ decodeBar readers row.2 = .ok bar

/-- The rows of the bars, each with its symbol. -/
private theorem exists_rows
    {readers : FieldReaders} {bars : List BarRecord} {payloads : List (List (String × Value))}
    (reads : List.Forall₂ (fun bar entries =>
      OrderedDict.get? entries "logical_symbol" = some (.str bar.logicalSymbol) ∧
        decodeBar readers (.dict (named entries)) = .ok bar) bars payloads) :
    ∃ rows, (payloads.map (fun entries => Value.dict (named entries))).mapM (fun row => do
        let symbol ← payloadGet row "logical_symbol" .none
        .ok (symbol.text, row)) = .ok rows ∧ List.Forall₂ (StandsFor readers) bars rows := by
  induction reads with
  | nil => exact ⟨[], rfl, .nil⟩
  | @cons bar entries _ _ first _ induction =>
      obtain ⟨rows, read, standing⟩ := induction
      refine ⟨(bar.logicalSymbol, .dict (named entries)) :: rows,
        mapM_eq_ok_iff.mpr (.cons ?_ (mapM_eq_ok_iff.mp read)), .cons ⟨rfl, first.2⟩ standing⟩
      simp [payloadGet, getOr_named, first.1, ok_bind, Value.text]

/-- The rows of one symbol are read as the bars of that symbol. -/
private theorem related_bars
    {readers : FieldReaders} {bars : List BarRecord} {rows : List (String × Value)}
    (standing : List.Forall₂ (StandsFor readers) bars rows) (symbol : String) :
    (rows.filter (fun row => decide (row.1 = symbol))).mapM
        (fun row => decodeBar readers row.2) =
      .ok (bars.filter (fun bar => decide (bar.logicalSymbol = symbol))) := by
  have related := List.rel_filter (p := fun bar : BarRecord => decide (bar.logicalSymbol = symbol))
    (q := fun row : String × Value => decide (row.1 = symbol))
    (fun bar row stands => by simp [stands.1]) standing
  exact mapM_eq_ok_iff.mpr (related.imp (fun _ _ stands => stands.2)).flip

/-- Ticks and bars in UTC are stored as texts from which every decoder reads them
back: `_bar_from_json` each bar, and the snapshot each tick with the bars of its
symbol. -/
theorem stored_records_read_back
    (builtins : Builtins) (ticks : List TickRecord) (bars : List BarRecord)
    (ticksUtc : ∀ tick ∈ ticks, tick.InUtc) (barsUtc : ∀ bar ∈ bars, bar.InUtc) :
    ∃ tickTexts barTexts, ticks.mapM latestTickJson = .ok tickTexts ∧
      bars.mapM latestBarJson = .ok barTexts ∧
      barTexts.mapM (barFromJson builtins) = .ok bars ∧
      snapshotRecords builtins tickTexts barTexts =
        .ok (ticks.map (fun tick =>
          (tick, bars.filter (fun bar => decide (bar.logicalSymbol = tick.logicalSymbol))))) := by
  obtain ⟨tickTexts, tickPayloads, ticksPrinted, ticksLoaded, readTicks⟩ :=
    exists_texts (fun tick member => exists_latestTickJson (ticksUtc tick member))
  obtain ⟨barTexts, barPayloads, barsPrinted, barsLoaded, readBars⟩ :=
    exists_texts (fun bar member => exists_latestBarJson (barsUtc bar member))
  refine ⟨tickTexts, barTexts, ticksPrinted, barsPrinted, ?_, ?_⟩
  · refine mapM_bind_eq_ok barsLoaded (mapM_eq_ok_iff.mpr ?_)
    exact List.forall₂_map_left_iff.mpr
      (readBars.imp (fun _ _ reads => reads.2 _ (storeReaders_exact builtins))).flip
  · have snapshotExact := snapshotReaders_exact builtins
    obtain ⟨rows, rowsRead, standing⟩ :=
      exists_rows (readBars.imp (fun _ _ reads => ⟨reads.1, reads.2 _ snapshotExact⟩))
    rw [snapshotRecords, ticksLoaded, ok_bind, barsLoaded, ok_bind]
    refine mapM_eq_ok_iff.mpr (List.forall₂_map_left_iff.mpr (List.forall₂_map_right_iff.mpr
      (readTicks.imp (fun tick entries reads => ?_)).flip))
    show (textAt (.dict (named entries)) "logical_symbol" >>= _) = _
    rw [textAt_named reads.1, ok_bind, rowsRead, ok_bind, reads.2 _ snapshotExact, ok_bind,
      related_bars standing tick.logicalSymbol]
    rfl

/-! One tick and one bar. -/

def goldBar : BarRecord :=
  { goldTick.toProvenance with
    source := "mt5_bar"
    schemaVersion := "1.2.0"
    collectorVersion := "1.2.15"
    logicalSymbol := "XAUUSD"
    brokerSymbol := "XAUUSD."
    timeframe := "M1"
    openTimeUtc := goldTime
    closeTimeUtc := goldTime
    openPrice := goldTick.bid
    highPrice := goldTick.ask
    lowPrice := ⟨"2599.9".toList, by decide⟩
    closePrice := goldTick.last
    tickVolume := 40
    realVolume := 0
    spread := 20
    isClosed := true
    barId := "XAUUSD:M1:1767225780"
    dataQuality := "valid"
    qualityFlags := ["gap_before"] }

/-- Conversions on a machine whose local time is UTC. -/
def utcBuiltins : Builtins :=
  { floatOfInt := fun number => .ok (wholeFloat number)
    floatOfText := fun text =>
      if accepted : isFloatLiteral text.toList = true then .ok ⟨text.toList, accepted⟩
      else .error (.valueError ("could not convert string to float: " ++ quotedText text))
    intOfText := fun text =>
      if isIntegerLiteral text.toList then .ok (integerOf text.toList)
      else .error (.valueError ("invalid literal for int() with base 10: " ++ quotedText text))
    localToUtc := .ok }

theorem gold_read_back :
    ∃ tickTexts barTexts, [goldTick].mapM latestTickJson = .ok tickTexts ∧
      [goldBar].mapM latestBarJson = .ok barTexts ∧
      barTexts.mapM (barFromJson utcBuiltins) = .ok [goldBar] ∧
      snapshotRecords utcBuiltins tickTexts barTexts = .ok [(goldTick, [goldBar])] :=
  stored_records_read_back utcBuiltins [goldTick] [goldBar]
    (by
      intro tick member
      obtain rfl := List.mem_singleton.mp member
      exact ⟨rfl, rfl, by simp [goldTick, goldTime, IsUtc]⟩)
    (by
      intro bar member
      obtain rfl := List.mem_singleton.mp member
      exact ⟨rfl, rfl, by simp [goldBar, goldTick, goldTime, IsUtc]⟩)

end SuperAdvisor.MarketData.Stored
