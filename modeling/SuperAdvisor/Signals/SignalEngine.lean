import Mathlib.Algebra.Order.Ring.Rat
import SuperAdvisor.Events.Consumer
import SuperAdvisor.Foundation.IsoText

/-!
# The signal engine

`evaluateSignal` checks a signal against the gates and thresholds of a
configuration, and `buildSignalEvent` makes the event of a decision that has
one.  Scores are exact rational numbers; how a number is written as a float is
a parameter.
-/

namespace SuperAdvisor.Signals

open Python Calendar Events

inductive SignalState where
  | noSetup
  | candidateInternal
  | confirmed
  | invalidated
  | expired
  deriving DecidableEq

def SignalState.name : SignalState → String
  | .noSetup => "NO_SETUP"
  | .candidateInternal => "CANDIDATE_INTERNAL"
  | .confirmed => "CONFIRMED"
  | .invalidated => "INVALIDATED"
  | .expired => "EXPIRED"

structure ThresholdConfig where
  version : String := "signal-thresholds-p2.4-v1"
  candidateThreshold : Rat := 65
  confirmedThreshold : Rat := 80
  invalidationThreshold : Rat := 45
  minimumEvidenceCount : Int := 3
  minimumDataQuality : String := "VALID"
  minimumHeadroomAtr : Rat := 1
  minimumTimeframeAgreement : Int := 2
  freshnessSeconds : Int := 180
  cooldownSeconds : Int := 3600
  deduplicationWindowSeconds : Int := 3600
  invalidationExpirySeconds : Int := 1800

structure SignalInput where
  symbol : String
  timeframe : String
  setupId : String
  triggerVersion : String
  scoreComponents : Dict String Rat
  evidenceIds : List String
  dataQuality : String
  headroomAtr : Rat
  timeframeAgreement : Int
  fetchedAtUtc : String
  invalidationRule : String
  provenance : List (Key × Value)

structure SignalDecision where
  state : SignalState
  score : Rat
  thresholdVersion : String
  triggerReasons : List String
  failedGates : List String
  invalidationRule : String
  evidenceIds : List String
  provenance : List (Key × Value)
  createdAtUtc : String
  expiresAtUtc : String
  dedupKey : String

/-- The nearest integer, the even one of two. -/
def roundHalfEven (value : Rat) : Int :=
  let rest := value - value.floor
  if rest < 1 / 2 then value.floor
  else if 1 / 2 < rest then value.floor + 1
  else if value.floor % 2 = 0 then value.floor
  else value.floor + 1

/-- `round(value, 4)` -/
def round4 (value : Rat) : Rat :=
  roundHalfEven (value * 10000) / 10000

def microsecondsPerSecond : Int := 1000000

/-- The gates a signal fails, once the time it was fetched is known. -/
def failedGates (signal : SignalInput) (config : ThresholdConfig) (now : DateTime)
    (fetched : Int) : List String :=
  (if (signal.evidenceIds.length : Int) < config.minimumEvidenceCount then
    ["minimum_evidence_count"] else []) ++
  (if signal.dataQuality ≠ config.minimumDataQuality then ["minimum_data_quality"] else []) ++
  (if signal.headroomAtr < config.minimumHeadroomAtr then ["minimum_headroom"] else []) ++
  (if signal.timeframeAgreement < config.minimumTimeframeAgreement then
    ["timeframe_agreement"] else []) ++
  (if config.freshnessSeconds * microsecondsPerSecond < now.instant - fetched then
    ["freshness"] else []) ++
  (if signal.provenance.isEmpty then ["provenance"] else [])

def stateOf (config : ThresholdConfig) (score : Rat) (failed : List String) : SignalState :=
  if !failed.isEmpty then .noSetup
  else if config.confirmedThreshold ≤ score then .confirmed
  else if config.candidateThreshold ≤ score then .candidateInternal
  else if score ≤ config.invalidationThreshold then .invalidated
  else .noSetup

def expirySeconds (config : ThresholdConfig) (state : SignalState) : Int :=
  if state = .invalidated then config.invalidationExpirySeconds
  else config.deduplicationWindowSeconds

/-- The components with a positive score, in name order. -/
def triggerReasons (components : Dict String Rat) : List String :=
  ((sortByName components.entries).filter (fun component => decide (0 < component.2))).map
    Prod.fst

def dedupKeyOf (signal : SignalInput) (state : SignalState) : String :=
  "SUPER_POTENTIAL_" ++ state.name ++ ":" ++ signal.symbol ++ ":" ++ signal.timeframe ++ ":" ++
    signal.setupId ++ ":" ++ signal.triggerVersion

/-- The decision at `now`; it raises if the fetch time cannot be read or the
expiry lies outside of the calendar. -/
def evaluateSignal (localInstant : DateTime → Except Failure Int) (signal : SignalInput)
    (thresholds : Option ThresholdConfig) (now : DateTime) : Except Failure SignalDecision := do
  let config := thresholds.getD {}
  let score := round4 (signal.scoreComponents.entries.map Prod.snd).sum
  let fetched ← instantOfText localInstant (withOffset signal.fetchedAtUtc)
  let failed := failedGates signal config now fetched
  let state := stateOf config score failed
  match now.add? (expirySeconds config state * microsecondsPerSecond) with
  | none => .error (.overflowError "date value out of range")
  | some expires =>
      .ok
        { state := state
          score := score
          thresholdVersion := config.version
          triggerReasons := triggerReasons signal.scoreComponents
          failedGates := failed
          invalidationRule := signal.invalidationRule
          evidenceIds := signal.evidenceIds
          provenance := signal.provenance
          createdAtUtc := String.ofList (isoZ now)
          expiresAtUtc := String.ofList (isoZ expires)
          dedupKey := dedupKeyOf signal state }

/-- The event type of a state that has one. -/
def signalEventType : SignalState → Option String
  | .candidateInternal => some "SUPER_POTENTIAL_CANDIDATE_INTERNAL"
  | .confirmed => some "SUPER_POTENTIAL_CONFIRMED"
  | .invalidated => some "SUPER_POTENTIAL_INVALIDATED"
  | _ => none

/-- A float that is finite. -/
def FiniteFloat : Type := { literal : JsonText.FloatLiteral // literal.isFinite = true }

section Event

variable (floatOf : Rat → FiniteFloat)

def floatValue (number : Rat) : Value :=
  .float (floatOf number).1

/-- The score; the sum of no components is the integer zero. -/
def scoreValue (signal : SignalInput) (decision : SignalDecision) : Value :=
  if signal.scoreComponents.entries.isEmpty then .int 0 else floatValue floatOf decision.score

def texts (items : List String) : Value :=
  .list (items.map .str)

def signalPayload (signal : SignalInput) (decision : SignalDecision) : List (Key × Value) :=
  named
    [("score", scoreValue floatOf signal decision),
      ("score_components", .dict (named (signal.scoreComponents.entries.map
        (fun component => (component.1, floatValue floatOf component.2))))),
      ("threshold_version", .str decision.thresholdVersion),
      ("trigger_reasons", texts decision.triggerReasons),
      ("failed_gates", texts decision.failedGates),
      ("invalidation_rule", .str decision.invalidationRule),
      ("evidence_ids", texts decision.evidenceIds),
      ("created_at_utc", .str decision.createdAtUtc),
      ("expires_at_utc", .str decision.expiresAtUtc),
      ("dedup_key", .str decision.dedupKey)]

def scoreProvenance (signal : SignalInput) (decision : SignalDecision) : List (Key × Value) :=
  named
    [("source", .str "python_signal_engine"),
      ("source_system", .str "python"),
      ("fetched_at_utc", .str signal.fetchedAtUtc),
      ("realtime_class", .str "COMPUTED"),
      ("formula_version", .str decision.thresholdVersion)]

/-- The provenance of the decision, with the provenance of its score. -/
def signalProvenance (signal : SignalInput) (decision : SignalDecision) : List (Key × Value) :=
  setEntry decision.provenance (.str "numeric_fields")
    (.dict (named [("score", .dict (scoreProvenance signal decision))]))

def signalArguments (signal : SignalInput) (decision : SignalDecision) (eventType : String) :
    EnvelopeArguments :=
  { eventType := eventType
    payload := signalPayload floatOf signal decision
    sourceComponent := "python-signal-engine"
    sourceAgent := "super-advisor"
    evidenceReference := ",".intercalate decision.evidenceIds
    symbol := signal.symbol
    timeframe := signal.timeframe
    provenance := some (signalProvenance signal decision) }

def buildSignalEvent (sha256Hex : List Char → String) (signal : SignalInput)
    (decision : SignalDecision) (eventId freshCorrelationId utcNow : String) :
    Except EventProblem (List (Key × Value)) :=
  match signalEventType decision.state with
  | none =>
      .error (.python (.valueError
        ("state " ++ decision.state.name ++ " is not publishable as a signal event")))
  | some eventType =>
      (buildEventEnvelope sha256Hex (signalArguments floatOf signal decision eventType) eventId
        freshCorrelationId utcNow).mapError .json

end Event

end SuperAdvisor.Signals
