import SuperAdvisor.Events.FailClosed
import SuperAdvisor.Foundation.JsonValues
import SuperAdvisor.Foundation.Sha256
import SuperAdvisor.Signals.SignalEngine
import SuperAdvisor.Telegram.MarketAlerts

/-!
# From a signal to its publication

The event of a decision is valid, its score has provenance and its expiry is
read back as the instant it was made from.  So the consumer publishes a
confirmed or invalidated signal until it expires and holds a candidate, and the
deduplication key is the one that publications must carry.
-/

namespace SuperAdvisor.Signals

open Python Calendar Events

/-- A value that canonical JSON can print. -/
def Converts (value : Value) : Prop :=
  ∃ document, value.toDocument canonicalOptions = .ok document

theorem converts_named_iff {fields : List (String × Value)} :
    Converts (.dict (named fields)) ↔ ∀ field ∈ fields, Converts field.2 :=
  toDocument_named_iff rfl

@[simp] theorem converts_str (text : String) : Converts (.str text) := ⟨_, rfl⟩

@[simp] theorem converts_texts (items : List String) : Converts (texts items) :=
  ⟨_, by rw [texts, Value.toDocument, toDocuments_strings]; rfl⟩

@[simp] theorem converts_floatValue (floatOf : Rat → FiniteFloat) (number : Rat) :
    Converts (floatValue floatOf number) := by
  have finite := (floatOf number).2
  exact ⟨.float (floatOf number).1, by simp [floatValue, Value.toDocument, floatAllowed, finite]⟩

@[simp] theorem converts_scoreValue
    (floatOf : Rat → FiniteFloat) (signal : SignalInput) (decision : SignalDecision) :
    Converts (scoreValue floatOf signal decision) := by
  unfold scoreValue
  split
  · exact ⟨_, rfl⟩
  · exact converts_floatValue _ _

section Event

variable {floatOf : Rat → FiniteFloat} {signal : SignalInput} {decision : SignalDecision}

theorem converts_signalPayload : Converts (.dict (signalPayload floatOf signal decision)) := by
  refine converts_named_iff.mpr ?_
  have components : Converts (.dict (named (signal.scoreComponents.entries.map
      (fun component => (component.1, floatValue floatOf component.2))))) :=
    converts_named_iff.mpr (by
      intro field member
      obtain ⟨component, -, rfl⟩ := List.mem_map.mp member
      exact converts_floatValue _ _)
  simp [components]

theorem converts_signalProvenance
    (json : (Value.dict decision.provenance).IsJson)
    (finite : (Value.dict decision.provenance).FiniteNumbers) :
    Converts (.dict (signalProvenance signal decision)) := by
  have converted : Converts (.dict decision.provenance) :=
    (exists_toDocument_iff rfl rfl _ json).mpr finite
  obtain ⟨fields, same⟩ := exists_named json.1
  rw [same] at converted
  rw [signalProvenance, same, setEntry_named]
  refine converts_named_iff.mpr ?_
  intro field member
  rcases OrderedDict.mem_set member with written | old
  · rw [written]
    refine converts_named_iff.mpr ?_
    have score : Converts (.dict (scoreProvenance signal decision)) :=
      converts_named_iff.mpr (by simp)
    simpa using score
  · exact converts_named_iff.mp converted field old

theorem numeric_fields_signalProvenance (json : (Value.dict decision.provenance).IsJson) :
    lookupEntry (signalProvenance signal decision) (.str "numeric_fields") =
      some (.dict (named [("score", .dict (scoreProvenance signal decision))])) := by
  obtain ⟨fields, same⟩ := exists_named json.1
  rw [signalProvenance, same, setEntry_named, lookupEntry_named, OrderedDict.get?_set_self]

theorem truthy_signalProvenance (json : (Value.dict decision.provenance).IsJson) :
    (Value.dict (signalProvenance signal decision)).truthy = true := by
  have present := @numeric_fields_signalProvenance signal decision json
  cases entries : signalProvenance signal decision with
  | nil =>
      rw [entries] at present
      cases present
  | cons entry rest => rfl

/-- Only the score is a number among the entries of the payload. -/
theorem numericPayloadFields_signalPayload :
    numericPayloadFields (signalPayload floatOf signal decision) = [.str "score"] := by
  unfold signalPayload scoreValue
  split <;> rfl

theorem validateNumericProvenance_signal
    (json : (Value.dict decision.provenance).IsJson) (fetched : signal.fetchedAtUtc ≠ "")
    (versioned : decision.thresholdVersion ≠ "") :
    validateNumericProvenance (signalPayload floatOf signal decision)
      (signalProvenance signal decision) = [] := by
  have entry : numericFieldIssues (.str "score")
      (.dict (scoreProvenance signal decision)) = [] := by
    have system : "python".toLower ∉ agentSources := by decide +kernel
    simp [numericFieldIssues, scoreProvenance, sourceSystem, getOr, lookupEntry, Key.same,
      Key.number?, Value.truthy, Value.text, Value.equals, isOneOf, realtimeClassAllowed,
      realtimeClassComputed, realtimeClassUnknown, fetched, versioned, system]
  simp [validateNumericProvenance, numericPayloadFields_signalPayload, getOr,
    numeric_fields_signalProvenance json, getKey, lookupEntry, Key.same, Key.number?, entry]

theorem hasAgentNumericSource_signal
    (json : (Value.dict decision.provenance).IsJson) {event : List (Key × Value)}
    (hasProvenance : lookupEntry event (.str "provenance") =
      some (.dict (signalProvenance signal decision))) :
    hasAgentNumericSource event = .ok false := by
  have system : "python".toLower ∉ agentSources := by decide +kernel
  simp [hasAgentNumericSource, getOr, hasProvenance, numeric_fields_signalProvenance json,
    scoreProvenance, sourceSystem, lookupEntry, Key.same, Key.number?, Value.text, system]

end Event

theorem withOffset_isoZ (time : DateTime) :
    withOffset (String.ofList (isoZ time)) = String.ofList (isoformat time) := by
  have kept : ∀ text : List Char, (∀ symbol ∈ text, symbol ≠ 'Z') →
      text.flatMap (fun symbol => if symbol = 'Z' then "+00:00".toList else [symbol]) = text := by
    intro text plain
    induction text with
    | nil => rfl
    | cons symbol text induction =>
        have later := induction (fun other member => plain other (List.mem_cons_of_mem _ member))
        rw [List.flatMap_cons, if_neg (plain symbol List.mem_cons_self), later,
          List.singleton_append]
  have symbols : (String.ofList (isoZ time)).toList = isoClock time ++ ['Z'] := by
    rw [String.toList_ofList, isoZ_eq]
  rw [withOffset, symbols, List.flatMap_append,
    kept _ (fun symbol member => (isoClock_plain time symbol member).2)]
  rfl

/-- What an evaluation that returned has read and computed. -/
theorem evaluateSignal_eq_ok
    {localInstant : DateTime → Except Failure Int} {signal : SignalInput}
    {thresholds : Option ThresholdConfig} {now : DateTime} {decision : SignalDecision}
    (evaluated : evaluateSignal localInstant signal thresholds now = .ok decision) :
    signal.fetchedAtUtc ≠ "" ∧ decision.thresholdVersion = (thresholds.getD {}).version ∧
      decision.provenance = signal.provenance ∧
      decision.dedupKey = dedupKeyOf signal decision.state ∧ decision.state ≠ .expired ∧
      ∃ expires : DateTime, decision.expiresAtUtc = String.ofList (isoZ expires) ∧
        (expires.instant : Int) = now.instant +
          expirySeconds (thresholds.getD {}) decision.state * microsecondsPerSecond := by
  simp only [evaluateSignal, except_bind_eq_ok] at evaluated
  obtain ⟨fetched, read, decided⟩ := evaluated
  split at decided
  next => cases decided
  next expires added =>
    cases decided
    refine ⟨?_, rfl, rfl, rfl, ?_, expires, rfl, instant_add? added⟩
    · intro empty
      rw [empty] at read
      cases read
    · unfold stateOf
      split_ifs <;> simp

theorem signalEventType_cases {state : SignalState} {eventType : String}
    (typed : signalEventType state = some eventType) :
    (state = .candidateInternal ∧ eventType = "SUPER_POTENTIAL_CANDIDATE_INTERNAL") ∨
      (state = .confirmed ∧ eventType = "SUPER_POTENTIAL_CONFIRMED") ∨
        (state = .invalidated ∧ eventType = "SUPER_POTENTIAL_INVALIDATED") := by
  cases state <;> cases typed <;> simp

theorem eventType_allowed {state : SignalState} {eventType : String}
    (typed : signalEventType state = some eventType) : eventType ∈ allowedEventTypes := by
  rcases signalEventType_cases typed with ⟨-, rfl⟩ | ⟨-, rfl⟩ | ⟨-, rfl⟩ <;>
    simp [allowedEventTypes]

theorem eventType_published {state : SignalState} {eventType : String}
    (typed : signalEventType state = some eventType) (published : state ≠ .candidateInternal) :
    eventType ∈ allowedMarketPublish := by
  rcases signalEventType_cases typed with ⟨candidate, -⟩ | ⟨-, rfl⟩ | ⟨-, rfl⟩
  · exact absurd candidate published
  · simp [allowedMarketPublish]
  · simp [allowedMarketPublish]

/-- The key of a decision is the key of its event type. -/
theorem dedupKeyOf_eq_expectedKey {signal : SignalInput} {state : SignalState}
    {eventType : String} (typed : signalEventType state = some eventType)
    (published : state ≠ .candidateInternal) :
    dedupKeyOf signal state = Telegram.expectedKey eventType signal.symbol signal.timeframe
      signal.setupId signal.triggerVersion := by
  rcases signalEventType_cases typed with ⟨candidate, -⟩ | ⟨rfl, rfl⟩ | ⟨rfl, rfl⟩
  · exact absurd candidate published
  · rfl
  · rfl

/-- What the policy does with the event of a state. -/
def policyAction : SignalState → Action
  | .candidateInternal => .hold
  | _ => .publish

/-- The event of a decision meets the policy: until it expires the consumer does
with it what the policy says, and the deduplication key of a published one is
the key its publication must carry. -/
structure Delivered (localInstant : DateTime → Except Failure Int)
    (sha256Hex : List Char → String) (signal : SignalInput) (decision : SignalDecision)
    (eventId : String) (now expires : Int) (event : List (Key × Value)) : Prop where
  expiry : ∃ payload expiresRaw, lookupEntry event (.str "payload") = some (.dict payload) ∧
    lookupEntry payload (.str "expires_at_utc") = some (.str expiresRaw) ∧
    instantOfText localInstant (withOffset expiresRaw) = .ok expires
  consumed : ∀ seenEventIds wallClock nowUtc time,
    (∀ seen, seenEventIds = some seen → eventId ∉ seen.items) →
      resolveNowUtc wallClock nowUtc = .ok time → now ≤ time → time < expires →
        ∃ result, consumeEvent (instantOfText localInstant) sha256Hex event seenEventIds
            wallClock nowUtc = .ok result ∧
          result.1.action = policyAction decision.state
  deduplicated : decision.state ≠ .candidateInternal →
    decision.dedupKey = Telegram.expectedKey (eventTypeOf event) signal.symbol signal.timeframe
      signal.setupId signal.triggerVersion

section Built

variable {sha256Hex : List Char → String} {floatOf : Rat → FiniteFloat} {signal : SignalInput}
  {decision : SignalDecision} {eventType eventId freshCorrelationId utcNow : String}
  {event : List (Key × Value)}

theorem exists_built
    (json : (Value.dict decision.provenance).IsJson)
    (finite : (Value.dict decision.provenance).FiniteNumbers) :
    ∃ event, buildEventEnvelope sha256Hex (signalArguments floatOf signal decision eventType)
      eventId freshCorrelationId utcNow = .ok event := by
  have payload : Converts (.dict (signalPayload floatOf signal decision)) :=
    converts_signalPayload
  have provenance : Converts (.dict (signalProvenance signal decision)) :=
    converts_signalProvenance json finite
  have whole : Converts (.dict (named (envelopeFields
      (signalArguments floatOf signal decision eventType) eventId freshCorrelationId utcNow
      ""))) := by
    refine converts_named_iff.mpr ?_
    simp [envelopeFields, signalArguments, payload, provenance]
  obtain ⟨document, converted⟩ := whole
  exact ⟨_, buildEventEnvelope_eq_ok.mpr
    ⟨JsonText.render false document, by rw [canonicalJson, dumps, converted]; rfl, rfl⟩⟩

theorem buildSignalEvent_eq_ok
    (built : buildSignalEvent floatOf sha256Hex signal decision eventId freshCorrelationId utcNow =
      .ok event) :
    ∃ eventType, signalEventType decision.state = some eventType ∧
      buildEventEnvelope sha256Hex (signalArguments floatOf signal decision eventType) eventId
        freshCorrelationId utcNow = .ok event := by
  unfold buildSignalEvent at built
  split at built
  next => cases built
  next eventType typed => exact ⟨eventType, typed, except_mapError_eq_ok.mp built⟩

/-- What the consumer reads of the event. -/
structure ReadsAs (floatOf : Rat → FiniteFloat) (signal : SignalInput)
    (decision : SignalDecision) (eventType eventId : String) (event : List (Key × Value)) :
    Prop where
  id : eventIdOf event = eventId
  type : eventTypeOf event = eventType
  payload : lookupEntry event (.str "payload") =
    some (.dict (signalPayload floatOf signal decision))
  provenance : lookupEntry event (.str "provenance") =
    some (.dict (signalProvenance signal decision))

theorem readsAs_of_built
    (built : buildEventEnvelope sha256Hex (signalArguments floatOf signal decision eventType)
      eventId freshCorrelationId utcNow = .ok event) :
    ReadsAs floatOf signal decision eventType eventId event := by
  obtain ⟨text, -, rfl⟩ := buildEventEnvelope_eq_ok.mp built
  constructor
  · rw [eventIdOf, getOr, lookupEntry_named]
    rfl
  · rw [eventTypeOf, getOr, lookupEntry_named]
    rfl
  · rw [lookupEntry_named]
    rfl
  · rw [lookupEntry_named]
    rfl

end Built

theorem signal_delivered
    (localInstant : DateTime → Except Failure Int) (sha256Hex : List Char → String)
    (floatOf : Rat → FiniteFloat) (signal : SignalInput)
    (json : (Value.dict signal.provenance).IsJson)
    (finite : (Value.dict signal.provenance).FiniteNumbers)
    (thresholds : Option ThresholdConfig) (versioned : (thresholds.getD {}).version ≠ "")
    (now : DateTime) (decision : SignalDecision)
    (evaluated : evaluateSignal localInstant signal thresholds now = .ok decision)
    (eventId freshCorrelationId utcNow : String) :
    ((∃ problem, buildSignalEvent floatOf sha256Hex signal decision eventId freshCorrelationId
        utcNow = .error problem) ↔ decision.state = .noSetup) ∧
      ∀ event, buildSignalEvent floatOf sha256Hex signal decision eventId freshCorrelationId
          utcNow = .ok event →
        Delivered localInstant sha256Hex signal decision eventId now.instant
          (now.instant +
            expirySeconds (thresholds.getD {}) decision.state * microsecondsPerSecond) event := by
  obtain ⟨fetched, version, provenance, dedupKey, notExpired, expires, expiryText, instant⟩ :=
    evaluateSignal_eq_ok evaluated
  rw [← version] at versioned
  rw [← provenance] at json finite
  constructor
  · unfold buildSignalEvent
    constructor
    · rintro ⟨problem, failed⟩
      split at failed
      next none => cases state : decision.state <;> simp_all [signalEventType]
      next eventType some =>
        obtain ⟨event, built⟩ := @exists_built sha256Hex floatOf signal decision eventType eventId
          freshCorrelationId utcNow json finite
        rw [built] at failed
        cases failed
    · intro state
      rw [state]
      exact ⟨_, rfl⟩
  · intro event built
    obtain ⟨eventType, typed, built⟩ := buildSignalEvent_eq_ok built
    have reads := readsAs_of_built built
    have provenanced : (getOr event "provenance" .none).truthy = true := by
      rw [getOr, reads.provenance]
      exact truthy_signalProvenance json
    have notAgent := hasAgentNumericSource_signal json reads.provenance
    have valid : IsValidEvent sha256Hex event :=
      isValidEvent_of_built built (eventType_allowed typed)
        (validateNumericProvenance_signal json fetched versioned)
    have readExpiry : instantOfText localInstant (withOffset decision.expiresAtUtc) =
        .ok (expires.instant : Int) := by
      rw [expiryText, withOffset_isoZ, instantOfText_isoformat]
    have payloadExpiry : lookupEntry (signalPayload floatOf signal decision)
        (.str "expires_at_utc") = some (.str decision.expiresAtUtc) := rfl
    rw [← instant]
    refine ⟨⟨_, _, reads.payload, payloadExpiry, readExpiry⟩, ?_, ?_⟩
    · intro seenEventIds wallClock nowUtc time unseen resolved since before
      have fresh : ∀ seen, seenEventIds = some seen → eventIdOf event ∉ seen.items := by
        rw [reads.id]
        exact unseen
      by_cases candidate : decision.state = .candidateInternal
      · refine ⟨_, consumeEvent_of_forbidden resolved valid notAgent provenanced fresh ?_, ?_⟩
        · rw [candidate] at typed
          cases typed
          rw [reads.type]
          exact List.mem_cons_self
        · rw [candidate]
          rfl
      · refine ⟨_, consumeEvent_of_gates resolved
          { valid := isValidEvent_iff.mpr valid
            notAgent := notAgent
            provenanced := provenanced
            unseen := fresh
            live := ?_
            allowed := ?_ }, ?_⟩
        · simp [isExpired, getOr, reads.payload, payloadExpiry, readExpiry, before]
        · rw [reads.type]
          exact eventType_published typed candidate
        · cases state : decision.state <;> first | rfl | exact absurd state candidate
    · intro published
      rw [dedupKey, reads.type]
      exact dedupKeyOf_eq_expectedKey typed published

def signalClock : DateTime :=
  noon

/-- A signal of three components that passes all gates. -/
def goldSignal : SignalInput :=
  { symbol := "XAUUSD"
    timeframe := "M15"
    setupId := "setup-e2e"
    triggerVersion := "trigger-v1"
    scoreComponents := ⟨[("trend", 35), ("structure", 25), ("macro", 20)], by decide⟩
    evidenceIds := ["ev-1", "ev-2", "ev-3"]
    dataQuality := "VALID"
    headroomAtr := 3 / 2
    timeframeAgreement := 3
    fetchedAtUtc := "2026-06-15T11:59:55Z"
    invalidationRule := "M15 close below support"
    provenance := [(.str "source", .str "python-evidence-packet")] }

/-- The texts of the numbers of `goldSignal`. -/
def goldFloat (number : Rat) : FiniteFloat :=
  if number = 35 then ⟨⟨"35.0".toList, by decide⟩, by decide⟩
  else if number = 25 then ⟨⟨"25.0".toList, by decide⟩, by decide⟩
  else if number = 20 then ⟨⟨"20.0".toList, by decide⟩, by decide⟩
  else ⟨⟨"80.0".toList, by decide⟩, by decide⟩

theorem goldSignal_delivered :
    ∃ decision event, decision.state = .confirmed ∧
      buildSignalEvent goldFloat sha256Hex goldSignal decision "event-1" "correlation-1"
        "2026-06-15T12:00:00Z" = .ok event ∧
      Delivered (fun _ => .ok 0) sha256Hex goldSignal decision "event-1" signalClock.instant
        (signalClock.instant + expirySeconds {} decision.state * microsecondsPerSecond)
        event := by
  have state : (evaluateSignal (fun _ => .ok 0) goldSignal none signalClock).map
      SignalDecision.state = .ok .confirmed := by
    decide +kernel
  cases evaluated : evaluateSignal (fun _ => .ok 0) goldSignal none signalClock with
  | error failure =>
      rw [evaluated] at state
      cases state
  | ok decision =>
      rw [evaluated] at state
      have confirmed : decision.state = .confirmed := Except.ok.inj state
      obtain ⟨raises, delivered⟩ := signal_delivered (fun _ => .ok 0) sha256Hex goldFloat goldSignal
        ⟨by simp [goldSignal, Key.isStr], by simp [goldSignal], trivial, trivial⟩
        (by simp [goldSignal, Value.FiniteNumbers, Value.FiniteNumbersEntries]) none (by simp) signalClock decision
        evaluated "event-1" "correlation-1" "2026-06-15T12:00:00Z"
      cases built : buildSignalEvent goldFloat sha256Hex goldSignal decision "event-1"
          "correlation-1" "2026-06-15T12:00:00Z" with
      | error problem =>
          have silent := raises.mp ⟨problem, built⟩
          rw [confirmed] at silent
          cases silent
      | ok event => exact ⟨decision, event, confirmed, built, delivered event built⟩

end SuperAdvisor.Signals
