import SuperAdvisor.Foundation.IsoText
import SuperAdvisor.Foundation.Machine
import SuperAdvisor.Foundation.OrderedDict
import SuperAdvisor.Foundation.PythonDict

/-!
# The FRED adapter

`FredAdapter.fetch_series` with its cache, its circuit breaker, its retries and
the last known observations.  A call brings the readings of the clocks at the
places where it may read them, and what the network does at each attempt.
-/

namespace SuperAdvisor.MarketData

open Calendar Python

/-- The entries of `FRED_SERIES` the adapter reads. -/
structure FredSeries where
  seriesId : String
  internalId : String
  isProxy : Bool
  isExactDxy : Bool

def fredSeries : List (String × FredSeries) :=
  [("US10Y",
      { seriesId := "DGS10"
        internalId := "US10Y_DAILY"
        isProxy := false
        isExactDxy := false }),
    ("USD_BROAD",
      { seriesId := "DTWEXBGS"
        internalId := "DXY_PROXY_FRED"
        isProxy := true
        isExactDxy := false })]

structure FredObservation (Number : Type) where
  seriesId : String
  internalId : String
  date : String
  value : Number
  realtimeClass : String
  isProxy : Bool
  isExactDxy : Bool
  source : String
  stale : Bool
  retrievedAtUtc : String
  deriving DecidableEq

inductive FredStatus where
  | valid
  | stale
  | sourceUnavailable
  deriving DecidableEq

structure FredSeriesResult (Number : Type) where
  internalId : String
  seriesId : String
  realtimeClass : String
  isProxy : Bool
  isExactDxy : Bool
  latestObservation : Option (FredObservation Number)
  status : FredStatus
  error : Option String
  retrievedAtUtc : String
  deriving DecidableEq

/-- `float` and `strptime` of the standard library, on whatever the service
sends. -/
structure Conversions (Number : Type) where
  float : Value → Except Failure Number
  parseDate : String → Except Failure Date

/-- What one request of the network ends with.  A body is decoded JSON; `raised`
is any other exception, with its text. -/
inductive Attempt where
  | body (value : Value)
  | httpError (code : Int)
  | urlError
  | raised (text : String)

/-- The clocks: `retrieved` for the result, `parsed`, `assumed` and `aged` for
its observation, and the monotonic clock where the cache is read and written,
the breaker is asked and a failure is recorded. -/
structure Readings where
  retrieved : DateTime
  parsed : DateTime
  assumed : DateTime
  aged : DateTime
  cacheRead : Rat
  breakerRead : Rat
  failed : Rat
  cacheWritten : Rat

structure FetchCall where
  seriesKey : String
  readings : Readings
  attempts : Nat → Attempt

structure CircuitBreaker where
  failures : Nat := 0
  openedAt : Option Rat := none
  deriving DecidableEq

namespace CircuitBreaker

def threshold : Nat := 3

def resetSeconds : Rat := 300

def isOpen (breaker : CircuitBreaker) (now : Rat) : Bool × CircuitBreaker :=
  match breaker.openedAt with
  | none => (false, breaker)
  | some openedAt =>
      if resetSeconds < now - openedAt then (false, {}) else (true, breaker)

def recordFailure (breaker : CircuitBreaker) (now : Rat) : CircuitBreaker :=
  let failures := breaker.failures + 1
  { failures := failures
    openedAt := if threshold ≤ failures then some now else breaker.openedAt }

def recordSuccess (_ : CircuitBreaker) : CircuitBreaker := {}

end CircuitBreaker

/-- The arguments of the constructor that decide something. -/
structure FredConfig where
  apiKey : String
  maxRetries : Int := 3
  cacheTtlSeconds : Int := 3600

structure FredAdapter (Number : Type) where
  cache : List (String × (Rat × FredSeriesResult Number)) := []
  circuit : CircuitBreaker := {}
  lastKnown : List (String × FredObservation Number) := []

variable {Number : Type}

/-- `FredCache.get` -/
def FredAdapter.cached (adapter : FredAdapter Number) (config : FredConfig) (seriesId : String)
    (now : Rat) : Option (FredSeriesResult Number) :=
  match OrderedDict.get? adapter.cache seriesId with
  | none => none
  | some (storedAt, result) =>
      if (config.cacheTtlSeconds : Rat) < now - storedAt then none else some result

/-- `list(body.get("observations", []))` -/
def observationsOf : Value → Except Failure (List Value)
  | .dict fields => listOf (getOr fields "observations" (.list []))
  | body => .error (noAttribute body "get")

/-- The codes that are not tried again. -/
def nonRetryable : List Int := [400, 401, 403]

/-- The retry loop, with so many attempts left. -/
def tryAttempts (maxRetries : Int) (seriesId : String) (failed : Rat)
    (attempts : Nat → Attempt) :
    Nat → Nat → CircuitBreaker → Except String (List Value) × CircuitBreaker
  | 0, _, breaker =>
      (.error ("FRED " ++ seriesId ++ " failed after " ++ intText maxRetries ++ " retries"),
        breaker.recordFailure failed)
  | left + 1, attempt, breaker =>
      match attempts attempt with
      | .body value =>
          match observationsOf value with
          | .ok items => (.ok items, breaker.recordSuccess)
          | .error problem =>
              (.error ("FRED fetch error for " ++ seriesId ++ ": " ++ problem.text),
                breaker.recordSuccess.recordFailure failed)
      | .httpError code =>
          if code ∈ nonRetryable then
            (.error ("FRED API non-retryable HTTP " ++ intText code ++ ": " ++ seriesId),
              breaker.recordFailure failed)
          else tryAttempts maxRetries seriesId failed attempts left (attempt + 1) breaker
      | .urlError => tryAttempts maxRetries seriesId failed attempts left (attempt + 1) breaker
      | .raised text =>
          (.error ("FRED fetch error for " ++ seriesId ++ ": " ++ text),
            breaker.recordFailure failed)

def fetchObservations (config : FredConfig) (seriesId : String) (call : FetchCall)
    (breaker : CircuitBreaker) : Except String (List Value) × CircuitBreaker :=
  let (opened, breaker) := breaker.isOpen call.readings.breakerRead
  if opened then (.error ("circuit breaker open for FRED " ++ seriesId), breaker)
  else
    tryAttempts config.maxRetries seriesId call.readings.failed call.attempts
      config.maxRetries.toNat 0 breaker

def realtimeClassDailyMacro : String := "DAILY_MACRO"

def realtimeClassUnknown : String := "UNKNOWN"

/-- Midnight of a date. -/
def midnight (date : Date) : Int := (date.toOrdinal * microsecondsPerDay : Nat)

/-- The observation made of the first usable item. -/
def observationOf (conversions : Conversions Number) (readings : Readings) (series : FredSeries)
    (fields : List (Key × Value)) (value : Number) : Except Failure (FredObservation Number) := do
  let date := (getOr fields "date" (.str "")).text
  let observed ←
    if date = "" then .ok (readings.assumed.instant : Int)
    else (conversions.parseDate date).map midnight
  let ageDays := ((readings.aged.instant : Int) - observed) / microsecondsPerDay
  .ok
    { seriesId := series.seriesId
      internalId := series.internalId
      date := date
      value := value
      realtimeClass := realtimeClassDailyMacro
      isProxy := series.isProxy
      isExactDxy := series.isExactDxy
      source := "FRED"
      stale := decide (5 < ageDays)
      retrievedAtUtc := String.ofList (isoZ readings.parsed) }

/-- `_parse_latest`: an item without a number is passed over. -/
def parseLatest (conversions : Conversions Number) (readings : Readings) (series : FredSeries) :
    List Value → Except Failure (Option (FredObservation Number))
  | [] => .ok none
  | .dict fields :: items =>
      let rawValue := getOr fields "value" (.str ".")
      if rawValue.equals (.str ".") then parseLatest conversions readings series items
      else
        match conversions.float rawValue with
        | .ok value => (observationOf conversions readings series fields value).map some
        | .error (.valueError _) => parseLatest conversions readings series items
        | .error problem => .error problem
  | item :: _ => .error (noAttribute item "get")

/-- The fetch and the parse.  A `FredApiError` and any other exception give
the same result but for the text of its error. -/
def observe (config : FredConfig) (conversions : Conversions Number) (series : FredSeries)
    (call : FetchCall) (breaker : CircuitBreaker) :
    Except String (Option (FredObservation Number)) × CircuitBreaker :=
  let (fetched, breaker) := fetchObservations config series.seriesId call breaker
  match fetched with
  | .error message => (.error message, breaker)
  | .ok items =>
      match parseLatest conversions call.readings series items with
      | .error problem => (.error ("unexpected error: " ++ problem.text), breaker)
      | .ok observation => (.ok observation, breaker)

def statusOf (observation : Option (FredObservation Number)) : FredStatus :=
  match observation with
  | none => .sourceUnavailable
  | some observation => if observation.stale then .stale else .valid

/-- A result for a known series. -/
def seriesResult (series : FredSeries) (readings : Readings)
    (latest : Option (FredObservation Number)) (status : FredStatus) (error : Option String) :
    FredSeriesResult Number :=
  { internalId := series.internalId
    seriesId := series.seriesId
    realtimeClass := realtimeClassDailyMacro
    isProxy := series.isProxy
    isExactDxy := series.isExactDxy
    latestObservation := latest
    status := status
    error := error
    retrievedAtUtc := String.ofList (isoZ readings.retrieved) }

def unknownSeries (call : FetchCall) : FredSeriesResult Number :=
  { internalId := call.seriesKey
    seriesId := call.seriesKey
    realtimeClass := realtimeClassUnknown
    isProxy := false
    isExactDxy := false
    latestObservation := none
    status := .sourceUnavailable
    error := some ("unknown FRED series key: " ++ quotedText call.seriesKey)
    retrievedAtUtc := String.ofList (isoZ call.readings.retrieved) }

/-- What a parsed observation leaves behind: `_last_known`, and the result in
the cache. -/
def FredAdapter.stored (adapter : FredAdapter Number) (series : FredSeries) (now : Rat)
    (observation : Option (FredObservation Number)) (result : FredSeriesResult Number) :
    FredAdapter Number :=
  { adapter with
    lastKnown :=
      match observation with
      | some observation => OrderedDict.set adapter.lastKnown series.seriesId observation
      | none => adapter.lastKnown
    cache := OrderedDict.set adapter.cache series.seriesId (now, result) }

/-- The part of `fetch_series` for a known series. -/
def fetchKnown (config : FredConfig) (conversions : Conversions Number)
    (adapter : FredAdapter Number) (call : FetchCall) (series : FredSeries) :
    FredSeriesResult Number × FredAdapter Number :=
  let lastKnown := OrderedDict.get? adapter.lastKnown series.seriesId
  if config.apiKey = "" then
    (seriesResult series call.readings lastKnown .sourceUnavailable
      (some "FRED_API_KEY not configured"), adapter)
  else
    match adapter.cached config series.seriesId call.readings.cacheRead with
    | some result => (result, adapter)
    | none =>
        let (observed, circuit) := observe config conversions series call adapter.circuit
        let adapter := { adapter with circuit := circuit }
        match observed with
        | .error message =>
            (seriesResult series call.readings lastKnown .sourceUnavailable (some message),
              adapter)
        | .ok observation =>
            let result := seriesResult series call.readings observation (statusOf observation) none
            (result,
              adapter.stored series call.readings.cacheWritten observation result)

def fetchSeries (config : FredConfig) (conversions : Conversions Number)
    (adapter : FredAdapter Number) (call : FetchCall) :
    FredSeriesResult Number × FredAdapter Number :=
  match OrderedDict.get? fredSeries call.seriesKey with
  | none => (unknownSeries call, adapter)
  | some series => fetchKnown config conversions adapter call series

/-- The call gets as far as the circuit breaker. -/
def AsksBreaker (config : FredConfig) (adapter : FredAdapter Number) (call : FetchCall) : Prop :=
  config.apiKey ≠ "" ∧ ∃ series, OrderedDict.get? fredSeries call.seriesKey = some series ∧
    adapter.cached config series.seriesId call.readings.cacheRead = none

abbrev FredEvent (Number : Type) :=
  Machine.Event (FredAdapter Number) FetchCall (FredSeriesResult Number)

/-- The series have ids of their own. -/
theorem seriesKey_eq_of_seriesId
    {leftKey rightKey : String} {left right : FredSeries}
    (leftKnown : OrderedDict.get? fredSeries leftKey = some left)
    (rightKnown : OrderedDict.get? fredSeries rightKey = some right)
    (same : left.seriesId = right.seriesId) : leftKey = rightKey := by
  have listed : ∀ key series, OrderedDict.get? fredSeries key = some series →
      (key = "US10Y" ∧ series.seriesId = "DGS10") ∨
        (key = "USD_BROAD" ∧ series.seriesId = "DTWEXBGS") := by
    intro key series known
    rcases List.mem_pair.mp (OrderedDict.mem_of_get? known) with same | same
    · obtain ⟨rfl, rfl⟩ := Prod.mk.inj same
      exact .inl ⟨rfl, rfl⟩
    · obtain ⟨rfl, rfl⟩ := Prod.mk.inj same
      exact .inr ⟨rfl, rfl⟩
  rcases listed leftKey left leftKnown with ⟨rfl, leftId⟩ | ⟨rfl, leftId⟩ <;>
    rcases listed rightKey right rightKnown with ⟨rfl, rightId⟩ | ⟨rfl, rightId⟩ <;>
      simp [leftId, rightId] at same ⊢

/-- A call for one series leaves the others alone. -/
theorem fetchSeries_frame
    (config : FredConfig) (conversions : Conversions Number) (adapter : FredAdapter Number)
    {call : FetchCall} {key : String} {series : FredSeries}
    (known : OrderedDict.get? fredSeries key = some series) (different : key ≠ call.seriesKey) :
    OrderedDict.get? (fetchSeries config conversions adapter call).2.cache series.seriesId =
        OrderedDict.get? adapter.cache series.seriesId ∧
      OrderedDict.get? (fetchSeries config conversions adapter call).2.lastKnown series.seriesId =
        OrderedDict.get? adapter.lastKnown series.seriesId := by
  unfold fetchSeries
  split
  · exact ⟨rfl, rfl⟩
  next asked found =>
    have apart : series.seriesId ≠ asked.seriesId := fun same =>
      different (seriesKey_eq_of_seriesId known found same)
    unfold fetchKnown
    simp only
    split
    · exact ⟨rfl, rfl⟩
    · split
      · exact ⟨rfl, rfl⟩
      · split
        · exact ⟨rfl, rfl⟩
        · refine ⟨OrderedDict.get?_set_of_ne _ _ apart, ?_⟩
          simp only [FredAdapter.stored]
          split
          · exact OrderedDict.get?_set_of_ne _ _ apart
          · rfl

/-- Decimal texts and ISO dates. -/
def decimalConversions : Conversions Rat :=
  { float := fun value =>
      match value with
      | .str text => .ok (unsignedDecimal text.toList)
      | value => .error (.typeError value.typeName)
    parseDate := fun text =>
      match readDate text.toList with
      | some date => .ok date
      | none => .error (.valueError text) }

def fredNoon : DateTime :=
  Date.noon
    { year := 2026
      month := 6
      day := 14
      yearRange := yearRange_2026
      monthRange := monthRange_june
      dayRange := by decide }

def fredReadings : Readings :=
  { retrieved := fredNoon
    parsed := fredNoon
    assumed := fredNoon
    aged := fredNoon
    cacheRead := 0
    breakerRead := 0
    failed := 0
    cacheWritten := 0 }

def fredCall (seriesKey : String) (attempt : Attempt) : FetchCall :=
  { seriesKey := seriesKey
    readings := fredReadings
    attempts := fun _ => attempt }

/-- A response with one observation. -/
def observed (value : String) : Attempt :=
  .body (.dict [(.str "observations", .list [.dict
    [(.str "date", .str "2026-06-13"), (.str "value", .str value)]])])

end SuperAdvisor.MarketData
