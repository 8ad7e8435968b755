import Mathlib.Data.Rat.Floor
import SuperAdvisor.Foundation.Raising
import SuperAdvisor.Foundation.PythonJson

/-!
# Ticks and bars

Payloads of the broker become records with an id that names the symbol and the
time.  A moment, a `datetime` in UTC, is the number of microseconds since the
epoch; a price is the exact value of its floating-point number.
-/

namespace SuperAdvisor.MarketData

open Python

def ofSeconds (seconds : Int) : Int :=
  1000000 * seconds

def ofMilliseconds (milliseconds : Int) : Int :=
  1000 * milliseconds

/-- The whole seconds since the epoch. -/
def secondsOf (moment : Int) : Int :=
  moment / 1000000

/-- The number of the date: days since the epoch. -/
def dayOf (moment : Int) : Int :=
  moment / 86400000000

/-- `weekday()`: the epoch was a Thursday. -/
def weekday (moment : Int) : Int :=
  (dayOf moment + 3) % 7

inductive Timeframe where
  | M1
  | M5
  | M15
  | H1
  | H4
  | D1
  deriving DecidableEq

def Timeframe.value : Timeframe → String
  | .M1 => "M1"
  | .M5 => "M5"
  | .M15 => "M15"
  | .H1 => "H1"
  | .H4 => "H4"
  | .D1 => "D1"

def timeframeSeconds : Timeframe → Int
  | .M1 => 60
  | .M5 => 300
  | .M15 => 900
  | .H1 => 3600
  | .H4 => 14400
  | .D1 => 86400

def timeframeDelta (timeframe : Timeframe) : Int :=
  ofSeconds (timeframeSeconds timeframe)

def mt5TimeframeMap : Timeframe → Int
  | .M1 => 1
  | .M5 => 5
  | .M15 => 15
  | .H1 => 60
  | .H4 => 240
  | .D1 => 1440

theorem timeframeDelta_pos (timeframe : Timeframe) : 0 < timeframeDelta timeframe := by
  cases timeframe <;> decide

/-- The two tables of timeframes agree. -/
theorem mt5TimeframeMap_mul (timeframe : Timeframe) :
    mt5TimeframeMap timeframe * 60 = timeframeSeconds timeframe := by
  cases timeframe <;> rfl

/-- The exceptions of the collector. -/
inductive MarketProblem where
  | valueError (message : String)
  | backendConnection (message : String)
  | configValidation (message : String)
  /-- Any other exception of the storage or the backend. -/
  | other (message : String)
  deriving DecidableEq

/-- `str(exc)` -/
def MarketProblem.text : MarketProblem → String
  | .valueError message | .backendConnection message | .configValidation message
  | .other message => message

/-- Functions the collector calls: `str.upper`, `str.isalnum` of a character,
the spread of a bid and an ask in points, the digest in the name of a file and
the digest that names a backfill. -/
structure MarketLibrary where
  upper : String → String
  isAlphanumeric : Char → Bool
  spreadPoints : (bid ask point : Rat) → Int
  fileChecksum : (dataset symbol timeframe : String) → (day : Int) →
    (firstId lastId : String) → (count : Nat) → String
  backfillDigest : (symbol timeframe : String) → (start finish : Int) → String

structure TickPayload where
  timeMsc : Int
  time : Int
  bid : Rat
  ask : Rat
  last : Rat
  volume : Rat
  volumeReal : Rat
  flags : Int
  deriving DecidableEq

structure BarPayload where
  time : Int
  openPrice : Rat
  highPrice : Rat
  lowPrice : Rat
  closePrice : Rat
  tickVolume : Int
  realVolume : Int
  spread : Int
  deriving DecidableEq

def marketDataSchemaVersion : String := "1.2.0"

def collectorVersion : String := "1.2.15"

def realtimeClassRealtime : String := "REALTIME"

structure TickRecord where
  schemaVersion : String
  collectorVersion : String
  logicalSymbol : String
  brokerSymbol : String
  marketTimeUtc : Int
  marketTimeMsc : Int
  receivedAtUtc : Int
  bid : Rat
  ask : Rat
  last : Rat
  volume : Rat
  volumeReal : Rat
  flags : Int
  spreadPoints : Int
  sequenceId : String
  dataQuality : String
  qualityFlags : List String
  source : String
  sourceSystem : String
  fetchedAtUtc : Option Int
  realtimeClass : String
  formulaVersion : Option String
  deriving DecidableEq

structure BarRecord where
  schemaVersion : String
  collectorVersion : String
  logicalSymbol : String
  brokerSymbol : String
  timeframe : Timeframe
  openTimeUtc : Int
  closeTimeUtc : Int
  openPrice : Rat
  highPrice : Rat
  lowPrice : Rat
  closePrice : Rat
  tickVolume : Int
  realVolume : Int
  spread : Int
  isClosed : Bool
  barId : String
  dataQuality : String
  qualityFlags : List String
  source : String
  sourceSystem : String
  fetchedAtUtc : Option Int
  realtimeClass : String
  formulaVersion : Option String
  deriving DecidableEq

/-- An incident without a timeframe is about ticks or about the symbol. -/
structure QualityIncident where
  eventKind : String
  logicalSymbol : String
  timeframe : Option Timeframe
  detail : String
  observedAtUtc : Int
  incidentKey : String
  deriving DecidableEq

/-- `round` and the `f` format: halves go to the even neighbour. -/
def roundHalfEven (value : Rat) : Int :=
  let down := value.floor
  let rest := value - down
  if rest < 1 / 2 then down
  else if 1 / 2 < rest then down + 1
  else if down % 2 = 0 then down
  else down + 1

def leftPad (width : Nat) (digits : List Char) : List Char :=
  List.replicate (width - digits.length) '0' ++ digits

/-- `f"{value:.8f}"` -/
def fixed8 (value : Rat) : String :=
  let scaled := (roundHalfEven (|value| * 100000000)).toNat
  String.ofList ((if value < 0 then ['-'] else []) ++
    Nat.toDigits 10 (scaled / 100000000) ++
    '.' :: leftPad 8 (Nat.toDigits 10 (scaled % 100000000)))

/-- The time of a tick in milliseconds: `time` stands in for a missing `time_msc`. -/
def TickPayload.marketTimeMsc (payload : TickPayload) : Int :=
  if payload.timeMsc ≤ 0 then payload.time * 1000 else payload.timeMsc

def tickSequenceId (logicalSymbol brokerSymbol : String) (payload : TickPayload) : String :=
  logicalSymbol ++ ":" ++ brokerSymbol ++ ":" ++ intText payload.marketTimeMsc ++ ":" ++
    fixed8 payload.bid ++ ":" ++ fixed8 payload.ask ++ ":" ++ fixed8 payload.last ++ ":" ++
    fixed8 payload.volumeReal

def tickRecord (library : MarketLibrary) (logicalSymbol brokerSymbol : String)
    (payload : TickPayload) (receivedAtUtc : Int) (point : Rat) : TickRecord :=
  { schemaVersion := marketDataSchemaVersion
    collectorVersion := collectorVersion
    logicalSymbol := logicalSymbol
    brokerSymbol := brokerSymbol
    marketTimeUtc := ofMilliseconds payload.marketTimeMsc
    marketTimeMsc := payload.marketTimeMsc
    receivedAtUtc := receivedAtUtc
    bid := payload.bid
    ask := payload.ask
    last := payload.last
    volume := payload.volume
    volumeReal := payload.volumeReal
    flags := payload.flags
    spreadPoints :=
      if 0 < point then library.spreadPoints payload.bid payload.ask point else 0
    sequenceId := tickSequenceId logicalSymbol brokerSymbol payload
    dataQuality := "valid"
    qualityFlags := []
    source := "mt5_tick"
    sourceSystem := "MetaTrader5"
    fetchedAtUtc := some receivedAtUtc
    realtimeClass := realtimeClassRealtime
    formulaVersion := none }

def normalizeTick (library : MarketLibrary) (logicalSymbol brokerSymbol : String)
    (payload : TickPayload) (receivedAtUtc : Int) (point : Rat) :
    Except MarketProblem TickRecord :=
  if payload.bid ≤ 0 ∨ payload.ask ≤ 0 ∨ payload.ask < payload.bid then
    .error (.valueError "tick bid/ask prices must be positive with ask >= bid")
  else .ok (tickRecord library logicalSymbol brokerSymbol payload receivedAtUtc point)

def BarPayload.openTime (payload : BarPayload) : Int :=
  ofSeconds payload.time

def BarPayload.closeTime (payload : BarPayload) (timeframe : Timeframe) : Int :=
  payload.openTime + timeframeDelta timeframe

def barId (logicalSymbol : String) (timeframe : Timeframe) (openTimeUtc : Int) : String :=
  logicalSymbol ++ ":" ++ timeframe.value ++ ":" ++ intText (secondsOf openTimeUtc)

def barRecord (logicalSymbol brokerSymbol : String) (timeframe : Timeframe)
    (payload : BarPayload) (asOfUtc : Int) : BarRecord :=
  { schemaVersion := marketDataSchemaVersion
    collectorVersion := collectorVersion
    logicalSymbol := logicalSymbol
    brokerSymbol := brokerSymbol
    timeframe := timeframe
    openTimeUtc := payload.openTime
    closeTimeUtc := payload.closeTime timeframe
    openPrice := payload.openPrice
    highPrice := payload.highPrice
    lowPrice := payload.lowPrice
    closePrice := payload.closePrice
    tickVolume := payload.tickVolume
    realVolume := payload.realVolume
    spread := payload.spread
    isClosed := payload.closeTime timeframe ≤ asOfUtc
    barId := barId logicalSymbol timeframe payload.openTime
    dataQuality := "valid"
    qualityFlags := []
    source := "mt5_bar"
    sourceSystem := "MetaTrader5"
    fetchedAtUtc := some asOfUtc
    realtimeClass := realtimeClassRealtime
    formulaVersion := none }

def normalizeBar (logicalSymbol brokerSymbol : String) (timeframe : Timeframe)
    (payload : BarPayload) (asOfUtc : Int) : Except MarketProblem BarRecord :=
  if [payload.openPrice, payload.highPrice, payload.lowPrice, payload.closePrice].any
      (fun price => price ≤ 0) then
    .error (.valueError "bar prices must be positive")
  else if payload.highPrice < max payload.openPrice (max payload.closePrice payload.lowPrice)
      then
    .error (.valueError "bar high must be >= open, close, and low")
  else if min payload.openPrice (min payload.closePrice payload.highPrice) < payload.lowPrice
      then
    .error (.valueError "bar low must be <= open, close, and high")
  else if payload.tickVolume < 0 ∨ payload.realVolume < 0 then
    .error (.valueError "bar volumes must be >= 0")
  else .ok (barRecord logicalSymbol brokerSymbol timeframe payload asOfUtc)

section Ids

variable {library : MarketLibrary} {logicalSymbol brokerSymbol : String}

theorem normalizeTick_ok
    {payload : TickPayload} {receivedAtUtc : Int} {point : Rat} {record : TickRecord}
    (normal : normalizeTick library logicalSymbol brokerSymbol payload receivedAtUtc point =
      .ok record) :
    record = tickRecord library logicalSymbol brokerSymbol payload receivedAtUtc point := by
  unfold normalizeTick at normal
  split at normal
  · cases normal
  · exact (Except.ok.inj normal).symm

theorem normalizeBar_ok
    {timeframe : Timeframe} {payload : BarPayload} {asOfUtc : Int} {record : BarRecord}
    (normal : normalizeBar logicalSymbol brokerSymbol timeframe payload asOfUtc =
      .ok record) :
    record = barRecord logicalSymbol brokerSymbol timeframe payload asOfUtc := by
  unfold normalizeBar at normal
  split at normal
  · cases normal
  · split at normal
    · cases normal
    · split at normal
      · cases normal
      · split at normal
        · cases normal
        · exact (Except.ok.inj normal).symm

theorem intText_injective {left right : Int} (same : intText left = intText right) :
    left = right := by
  have rendered : JsonText.renderInt left = JsonText.renderInt right :=
    String.ofList_injective same
  rw [← JsonText.integerOf_renderInt left, rendered, JsonText.integerOf_renderInt]

private theorem renderInt_ne_colon (value : Int) :
    ∀ symbol ∈ JsonText.renderInt value, symbol ≠ ':' := by
  have digits : ∀ magnitude : Nat, ∀ symbol ∈ Nat.toDigits 10 magnitude, symbol ≠ ':' := by
    intro magnitude symbol member colon
    have digit := Nat.isDigit_of_mem_toDigits (by decide) (by decide) member
    subst colon
    revert digit
    decide
  cases value with
  | ofNat magnitude => exact digits magnitude
  | negSucc magnitude =>
      intro symbol member
      rcases List.mem_cons.mp member with rfl | later
      · decide
      · exact digits (magnitude + 1) symbol later

/-- A number before a colon can be read back. -/
private theorem intText_of_append_colon
    {left right : Int} {after after' : String}
    (same : intText left ++ (":" ++ after) = intText right ++ (":" ++ after')) :
    left = right := by
  have texts : JsonText.renderInt left ++ ':' :: after.toList =
      JsonText.renderInt right ++ ':' :: after'.toList := by
    simpa [intText] using congrArg String.toList same
  have before : ∀ value rest, (JsonText.renderInt value ++ ':' :: rest).takeWhile (· ≠ ':') =
      JsonText.renderInt value := by
    intro value rest
    rw [List.takeWhile_append_of_pos (by simpa using renderInt_ne_colon value)]
    simp
  have rendered := congrArg (List.takeWhile (· ≠ ':')) texts
  rw [before, before] at rendered
  rw [← JsonText.integerOf_renderInt left, rendered, JsonText.integerOf_renderInt]

/-- Ticks of one symbol with the same id have the same time. -/
theorem marketTimeMsc_of_tickSequenceId
    {first second : TickPayload}
    (same : tickSequenceId logicalSymbol brokerSymbol first =
      tickSequenceId logicalSymbol brokerSymbol second) :
    first.marketTimeMsc = second.marketTimeMsc := by
  simp only [tickSequenceId, String.append_assoc, String.append_right_inj] at same
  exact intText_of_append_colon same

/-- Bars of one symbol and timeframe with the same id open at the same time. -/
theorem openTime_of_barId
    {timeframe : Timeframe} {first second : BarPayload}
    (same : barId logicalSymbol timeframe first.openTime =
      barId logicalSymbol timeframe second.openTime) :
    first.openTime = second.openTime := by
  have seconds := intText_injective (by simpa [barId, String.append_assoc] using same)
  unfold secondsOf at seconds
  unfold BarPayload.openTime ofSeconds at seconds ⊢
  omega

end Ids

end SuperAdvisor.MarketData
