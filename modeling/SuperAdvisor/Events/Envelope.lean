import SuperAdvisor.Events.CanonicalJson
import SuperAdvisor.Foundation.PythonDict
import SuperAdvisor.Foundation.StableDump

/-!
# Event envelopes

An event is a dictionary with a fixed set of fields.  `validateEventEnvelope`
collects the issues of an event; its numeric check looks at the direct entries
of the payload.  The order in which unknown fields are reported is the order of
the event; the source leaves it to the iteration of a set.
-/

namespace SuperAdvisor.Events

open Python

def eventSchemaVersion : String := "p2.4-event-v1"

def allowedEventTypes : List String :=
  ["SYSTEM_HEALTH",
    "DATA_QUALITY_WARNING",
    "SUPER_POTENTIAL_CANDIDATE_INTERNAL",
    "SUPER_POTENTIAL_CONFIRMED",
    "SUPER_POTENTIAL_INVALIDATED",
    "SYSTEM_INCIDENT"]

def requiredEventFields : List String :=
  ["schema_version",
    "event_id",
    "event_type",
    "created_at_utc",
    "correlation_id",
    "causation_id",
    "source_component",
    "source_agent",
    "symbol",
    "timeframe",
    "evidence_reference",
    "payload",
    "provenance",
    "redaction_status",
    "integrity_hash"]

def realtimeClassUnknown : String := "UNKNOWN"

def realtimeClassComputed : String := "COMPUTED"

def realtimeClassAllowed : List String :=
  ["REALTIME", "DELAYED_15MIN", "DAILY_MACRO", realtimeClassComputed, "STALE",
    realtimeClassUnknown]

structure EventIssue where
  path : String
  rule : String
  message : String
  deriving DecidableEq

structure EventValidationReport where
  valid : Bool
  issues : List EventIssue
  event : Option (List (Key × Value))

/-- The exceptions that can leave the event functions. -/
inductive EventProblem where
  | python (failure : Failure)
  | json (problem : JsonError)
  | consumer (message : String)
  deriving DecidableEq

/-- `isinstance(value, int | float) and not isinstance(value, bool)` -/
def isNumeric : Value → Bool
  | .int _ => true
  | .float _ => true
  | _ => false

def numericPayloadFields (payload : List (Key × Value)) : List Key :=
  (payload.filter (fun entry => isNumeric entry.2)).map Prod.fst

/-- `value in names`, for a tuple of names. -/
def isOneOf (value : Value) (names : List String) : Bool :=
  names.any (fun name => value.equals (.str name))

theorem isOneOf_iff {value : Value} {names : List String} :
    isOneOf value names = true ↔ ∃ name ∈ names, value = .str name := by
  simp [isOneOf, equals_str_iff]

/-- The source system of a provenance entry in lower case. -/
def sourceSystem (entry : List (Key × Value)) : String :=
  (getOr entry "source_system" (.str "")).text.toLower

def agentSources : List String := ["agent", "llm", "specialist"]

/-- The issues of the provenance of one numeric field. -/
def numericFieldIssues (field : Key) : Value → List EventIssue
  | .dict entry =>
      let path := "provenance.numeric_fields." ++ field.asValue.text
      let realtimeClass := getOr entry "realtime_class" .none
      (["source", "source_system", "fetched_at_utc", "realtime_class"].filter
          (fun required => !(getOr entry required .none).truthy)).map
        (fun required =>
          ⟨path ++ "." ++ required, "missing", "numeric provenance field is required"⟩) ++
      (if !isOneOf realtimeClass realtimeClassAllowed ||
          realtimeClass.equals (.str realtimeClassUnknown) then
        [⟨path ++ ".realtime_class", "invalid",
          "numeric provenance realtime_class must be explicit"⟩]
      else []) ++
      (if realtimeClass.equals (.str realtimeClassComputed) &&
          !(getOr entry "formula_version" .none).truthy then
        [⟨path ++ ".formula_version", "missing",
          "COMPUTED numeric provenance requires formula_version"⟩]
      else []) ++
      (if sourceSystem entry ∈ agentSources then
        [⟨path ++ ".source_system", "forbidden",
          "agents may not originate numeric market evidence"⟩]
      else [])
  | _ =>
      [⟨"provenance.numeric_fields." ++ field.asValue.text, "missing",
        "numeric field provenance is missing"⟩]

/-- `field_provenance.get(field)` -/
def getKey (entries : List (Key × Value)) (key : Key) : Value :=
  (lookupEntry entries key).getD .none

def validateNumericProvenance (payload provenance : List (Key × Value)) :
    List EventIssue :=
  let numericFields := numericPayloadFields payload
  if numericFields.isEmpty then []
  else
    match getOr provenance "numeric_fields" .none with
    | .dict fieldProvenance =>
        numericFields.flatMap
          (fun field => numericFieldIssues field (getKey fieldProvenance field))
    | _ =>
        [⟨"provenance.numeric_fields", "missing",
          "numeric payload fields require per-field provenance"⟩]

/-- `event_type not in ALLOWED_EVENT_TYPES`, which hashes the event type. -/
def eventTypeIssues (eventType : Value) : Except Failure (List EventIssue) :=
  match eventType.asKey with
  | none =>
      .error (.typeError ("unhashable type: " ++ quotedText eventType.typeName))
  | some _ =>
      .ok (if isOneOf eventType allowedEventTypes then []
        else [⟨"event_type", "unsupported", "unsupported event type"⟩])

def payloadIssues (payload provenance : Value) : List EventIssue :=
  (match payload with
    | .dict _ => []
    | _ => [⟨"payload", "type", "payload must be an object"⟩]) ++
  match provenance, payload with
  | .dict provenance, .dict payload => validateNumericProvenance payload provenance
  | .dict _, _ => []
  | _, _ => [⟨"provenance", "type", "provenance must be an object"⟩]

/-- The arguments of `build_event_envelope`. -/
structure EnvelopeArguments where
  eventType : String
  payload : List (Key × Value)
  sourceComponent : String
  sourceAgent : String
  evidenceReference : String
  symbol : String := "UNKNOWN"
  timeframe : String := "UNKNOWN"
  correlationId : Option String := none
  causationId : Option String := none
  provenance : Option (List (Key × Value)) := none
  redactionStatus : String := "REDACTED"

/-- `text or default` for an optional text. -/
def orElseText (text : Option String) (default : String) : String :=
  match text with
  | some "" => default
  | some text => text
  | none => default

section Digest

variable (sha256Hex : List Char → String)

/-- Build an event from two fresh ids and the clock. -/
def buildEventEnvelope (arguments : EnvelopeArguments)
    (eventId freshCorrelationId utcNow : String) : Except JsonError (List (Key × Value)) := do
  let event := named
    [("schema_version", .str eventSchemaVersion),
      ("event_id", .str eventId),
      ("event_type", .str arguments.eventType),
      ("created_at_utc", .str utcNow),
      ("correlation_id", .str (orElseText arguments.correlationId freshCorrelationId)),
      ("causation_id", .str (orElseText arguments.causationId "")),
      ("source_component", .str arguments.sourceComponent),
      ("source_agent", .str arguments.sourceAgent),
      ("symbol", .str arguments.symbol),
      ("timeframe", .str arguments.timeframe),
      ("evidence_reference", .str arguments.evidenceReference),
      ("payload", .dict arguments.payload),
      ("provenance", .dict (arguments.provenance.getD [])),
      ("redaction_status", .str arguments.redactionStatus),
      ("integrity_hash", .str "")]
  let text ← canonicalJson (.dict event)
  .ok (setEntry event (.str "integrity_hash") (.str (sha256Hex text)))

def integrityIssues (event : List (Key × Value)) : Except JsonError (List EventIssue) :=
  match getOr event "integrity_hash" .none with
  | .str integrityHash => do
      let text ← canonicalJson (.dict (setEntry event (.str "integrity_hash") (.str "")))
      .ok (if integrityHash ≠ sha256Hex text then
          [⟨"integrity_hash", "mismatch", "integrity hash does not match payload"⟩]
        else [])
  | _ => .ok [⟨"integrity_hash", "missing", "integrity hash is required"⟩]

def validateEventEnvelope (event : List (Key × Value)) :
    Except EventProblem EventValidationReport := do
  let missing := (requiredEventFields.filter
      (fun field => (lookupEntry event (.str field)).isNone)).map
    (fun field => (⟨field, "missing", "required event field is missing"⟩ : EventIssue))
  let version : List EventIssue :=
    if (getOr event "schema_version" .none).equals (.str eventSchemaVersion) then []
    else
      [⟨"schema_version", "version_mismatch", "expected " ++ quotedText eventSchemaVersion⟩]
  let eventType ← (eventTypeIssues (getOr event "event_type" .none)).mapError .python
  let unknown := (event.filter
      (fun entry => !isOneOf entry.1.asValue requiredEventFields)).map
    (fun entry =>
      (⟨entry.1.asValue.text, "unknown_field", "unknown field not allowed"⟩ : EventIssue))
  let payload := payloadIssues (getOr event "payload" .none) (getOr event "provenance" .none)
  let symbol : List EventIssue :=
    match getOr event "symbol" .none, getOr event "timeframe" .none with
    | .none, _ => [⟨"symbol", "missing", "symbol/timeframe required"⟩]
    | _, .none => [⟨"symbol", "missing", "symbol/timeframe required"⟩]
    | _, _ => []
  let integrity ← (integrityIssues sha256Hex event).mapError .json
  let issues := missing ++ version ++ eventType ++ unknown ++ payload ++ symbol ++ integrity
  .ok
    { valid := issues.isEmpty
      issues := issues
      event := if issues.isEmpty then some event else none }

end Digest

/-- What `validateEventEnvelope` asks of an event. -/
structure IsValidEvent (sha256Hex : List Char → String) (event : List (Key × Value)) : Prop where
  present : ∀ field ∈ requiredEventFields, ∃ value, lookupEntry event (.str field) = some value
  known : ∀ entry ∈ event, ∃ field ∈ requiredEventFields, entry.1 = .str field
  versioned : lookupEntry event (.str "schema_version") = some (.str eventSchemaVersion)
  typed : ∃ eventType ∈ allowedEventTypes,
    lookupEntry event (.str "event_type") = some (.str eventType)
  evidenced : ∃ payload provenance, lookupEntry event (.str "payload") = some (.dict payload) ∧
    lookupEntry event (.str "provenance") = some (.dict provenance) ∧
    validateNumericProvenance payload provenance = []
  located : getOr event "symbol" .none ≠ .none ∧ getOr event "timeframe" .none ≠ .none
  signed : ∃ text, canonicalJson
      (.dict (setEntry event (.str "integrity_hash") (.str ""))) = .ok text ∧
    lookupEntry event (.str "integrity_hash") = some (.str (sha256Hex text))

variable {sha256Hex : List Char → String} {event : List (Key × Value)}

theorem getOr_eq_iff {name : String} {value : Value} (present : value ≠ .none) :
    getOr event name .none = value ↔ lookupEntry event (.str name) = some value := by
  constructor
  · exact fun same => lookupEntry_of_getOr same present
  · exact fun found => by simp [getOr, found]

private theorem payloadIssues_eq_nil_iff {payload provenance : Value} :
    payloadIssues payload provenance = [] ↔
      ∃ fields sources, payload = .dict fields ∧ provenance = .dict sources ∧
        validateNumericProvenance fields sources = [] := by
  unfold payloadIssues
  cases payload <;> cases provenance <;> simp

private theorem eventTypeIssues_eq_nil_iff {eventType : Value} :
    eventTypeIssues eventType = .ok [] ↔
      ∃ name ∈ allowedEventTypes, eventType = .str name := by
  rw [← isOneOf_iff, eventTypeIssues]
  cases hashed : eventType.asKey with
  | none =>
      have other : isOneOf eventType allowedEventTypes ≠ true := by
        rw [Ne, isOneOf_iff]
        rintro ⟨name, -, rfl⟩
        cases hashed
      simp [other]
  | some key => simp

private theorem integrityIssues_eq_nil_iff :
    integrityIssues sha256Hex event = .ok [] ↔
      ∃ text, canonicalJson (.dict (setEntry event (.str "integrity_hash") (.str ""))) =
          .ok text ∧
        lookupEntry event (.str "integrity_hash") = some (.str (sha256Hex text)) := by
  unfold integrityIssues
  split
  next integrityHash found =>
    have looked := lookupEntry_of_getOr found (by simp)
    simp [except_bind_eq_ok, looked]
  next other =>
    refine iff_of_false (by simp) ?_
    rintro ⟨text, -, found⟩
    exact other (sha256Hex text) (by simp [getOr, found])

private theorem missingIssues_eq_nil_iff {message : String → EventIssue} :
    (requiredEventFields.filter
        (fun field => (lookupEntry event (.str field)).isNone)).map message = [] ↔
      ∀ field ∈ requiredEventFields, ∃ value, lookupEntry event (.str field) = some value := by
  simp [List.filter_eq_nil_iff, Option.ne_none_iff_exists']

private theorem unknownIssues_eq_nil_iff {message : Key × Value → EventIssue} :
    (event.filter (fun entry => !isOneOf entry.1.asValue requiredEventFields)).map message =
        [] ↔
      ∀ entry ∈ event, ∃ field ∈ requiredEventFields, entry.1 = .str field := by
  have isName : ∀ (key : Key) (field : String), key.asValue = .str field ↔ key = .str field := by
    intro key field
    cases key <;> simp [Key.asValue]
  simp only [List.map_eq_nil_iff, List.filter_eq_nil_iff, Bool.not_eq_true',
    Bool.not_eq_false, isOneOf_iff, isName]

private theorem versionIssues_eq_nil_iff {issue : EventIssue} :
    (if (getOr event "schema_version" .none).equals (.str eventSchemaVersion) then []
        else [issue]) = [] ↔
      lookupEntry event (.str "schema_version") = some (.str eventSchemaVersion) := by
  rw [← getOr_eq_iff (by simp), ← equals_str_iff]
  split <;> simp [*]

private theorem symbolIssues_eq_nil_iff {symbol timeframe : Value} {issue : EventIssue} :
    (match symbol, timeframe with
      | .none, _ => [issue]
      | _, .none => [issue]
      | _, _ => []) = [] ↔ symbol ≠ .none ∧ timeframe ≠ .none := by
  cases symbol <;> cases timeframe <;> simp

/-- An event is reported valid if it meets every demand. -/
theorem isValidEvent_iff :
    (∃ report, validateEventEnvelope sha256Hex event = .ok report ∧ report.valid = true) ↔
      IsValidEvent sha256Hex event := by
  simp only [validateEventEnvelope, except_bind_eq_ok, except_mapError_eq_ok]
  constructor
  · rintro ⟨report, ⟨eventType, typed, integrity, signed, same⟩, valid⟩
    cases same
    simp only [List.isEmpty_iff] at valid
    simp only [List.append_eq_nil_iff] at valid
    obtain ⟨⟨⟨⟨⟨⟨present, versioned⟩, rfl⟩, known⟩, evidenced⟩, located⟩, rfl⟩ := valid
    obtain ⟨name, allowed, isName⟩ := eventTypeIssues_eq_nil_iff.mp typed
    obtain ⟨payload, provenance, isPayload, isProvenance, clean⟩ :=
      payloadIssues_eq_nil_iff.mp evidenced
    exact
      { present := missingIssues_eq_nil_iff.mp present
        known := unknownIssues_eq_nil_iff.mp known
        versioned := versionIssues_eq_nil_iff.mp versioned
        typed := ⟨name, allowed, lookupEntry_of_getOr isName (by simp)⟩
        evidenced := ⟨payload, provenance, lookupEntry_of_getOr isPayload (by simp),
          lookupEntry_of_getOr isProvenance (by simp), clean⟩
        located := symbolIssues_eq_nil_iff.mp located
        signed := integrityIssues_eq_nil_iff.mp signed }
  · intro demands
    obtain ⟨name, allowed, isName⟩ := demands.typed
    obtain ⟨payload, provenance, isPayload, isProvenance, clean⟩ := demands.evidenced
    refine ⟨_, ⟨[], eventTypeIssues_eq_nil_iff.mpr ⟨name, allowed, by simp [getOr, isName]⟩, [],
      integrityIssues_eq_nil_iff.mpr demands.signed, rfl⟩, ?_⟩
    simp only [List.isEmpty_iff]
    simp only [List.append_eq_nil_iff]
    exact ⟨⟨⟨⟨⟨⟨missingIssues_eq_nil_iff.mpr demands.present,
      versionIssues_eq_nil_iff.mpr demands.versioned⟩, trivial⟩,
      unknownIssues_eq_nil_iff.mpr demands.known⟩,
      payloadIssues_eq_nil_iff.mpr ⟨payload, provenance, by simp [getOr, isPayload],
        by simp [getOr, isProvenance], clean⟩⟩,
      symbolIssues_eq_nil_iff.mpr demands.located⟩, trivial⟩

/-- The report of a valid event holds the event. -/
theorem event_of_valid
    {report : EventValidationReport}
    (validated : validateEventEnvelope sha256Hex event = .ok report)
    (valid : report.valid = true) : report.event = some event := by
  simp only [validateEventEnvelope, except_bind_eq_ok, except_mapError_eq_ok] at validated
  obtain ⟨eventType, -, integrity, -, same⟩ := validated
  cases same
  exact if_pos valid

/-- The payload and the provenance of an accepted event. -/
theorem accepted_payload
    {report : EventValidationReport}
    (validated : validateEventEnvelope sha256Hex event = .ok report)
    (valid : report.valid = true) :
    ∃ payload provenance, lookupEntry event (.str "payload") = some (.dict payload) ∧
      lookupEntry event (.str "provenance") = some (.dict provenance) ∧
      validateNumericProvenance payload provenance = [] :=
  (isValidEvent_iff.mp ⟨report, validated, valid⟩).evidenced

section Built

variable (arguments : EnvelopeArguments) (eventId freshCorrelationId utcNow : String)

/-- The fields of a built event. -/
def envelopeFields (integrityHash : String) : List (String × Value) :=
  [("schema_version", .str eventSchemaVersion),
    ("event_id", .str eventId),
    ("event_type", .str arguments.eventType),
    ("created_at_utc", .str utcNow),
    ("correlation_id", .str (orElseText arguments.correlationId freshCorrelationId)),
    ("causation_id", .str (orElseText arguments.causationId "")),
    ("source_component", .str arguments.sourceComponent),
    ("source_agent", .str arguments.sourceAgent),
    ("symbol", .str arguments.symbol),
    ("timeframe", .str arguments.timeframe),
    ("evidence_reference", .str arguments.evidenceReference),
    ("payload", .dict arguments.payload),
    ("provenance", .dict (arguments.provenance.getD [])),
    ("redaction_status", .str arguments.redactionStatus),
    ("integrity_hash", .str integrityHash)]

variable {arguments eventId freshCorrelationId utcNow}

theorem keys_envelopeFields (integrityHash : String) :
    OrderedDict.keys (envelopeFields arguments eventId freshCorrelationId utcNow integrityHash) =
      requiredEventFields := rfl

theorem setEntry_envelopeFields (integrityHash other : String) :
    setEntry (named (envelopeFields arguments eventId freshCorrelationId utcNow integrityHash))
        (.str "integrity_hash") (.str other) =
      named (envelopeFields arguments eventId freshCorrelationId utcNow other) := by
  rw [setEntry_named]
  rfl

theorem buildEventEnvelope_eq_ok :
    buildEventEnvelope sha256Hex arguments eventId freshCorrelationId utcNow = .ok event ↔
      ∃ text, canonicalJson (.dict (named
          (envelopeFields arguments eventId freshCorrelationId utcNow ""))) = .ok text ∧
        event = named
          (envelopeFields arguments eventId freshCorrelationId utcNow (sha256Hex text)) := by
  have shape : buildEventEnvelope sha256Hex arguments eventId freshCorrelationId utcNow =
      (canonicalJson (.dict (named
          (envelopeFields arguments eventId freshCorrelationId utcNow ""))) >>= fun text =>
        .ok (setEntry (named (envelopeFields arguments eventId freshCorrelationId utcNow ""))
          (.str "integrity_hash") (.str (sha256Hex text)))) := rfl
  simp only [shape, except_bind_eq_ok, setEntry_envelopeFields, Except.ok.injEq,
    @eq_comm _ event]

/-- A built event is valid if its type is allowed and its numbers have
provenance. -/
theorem isValidEvent_of_built
    (built : buildEventEnvelope sha256Hex arguments eventId freshCorrelationId utcNow = .ok event)
    (allowed : arguments.eventType ∈ allowedEventTypes)
    (clean : validateNumericProvenance arguments.payload (arguments.provenance.getD []) = []) :
    IsValidEvent sha256Hex event := by
  obtain ⟨text, dumped, rfl⟩ := buildEventEnvelope_eq_ok.mp built
  constructor
  · intro field required
    rw [lookupEntry_named]
    refine Option.ne_none_iff_exists'.mp ?_
    rw [Ne, OrderedDict.get?_eq_none_iff, keys_envelopeFields]
    exact not_not_intro required
  · intro entry member
    obtain ⟨field, inside, rfl⟩ := List.mem_map.mp member
    refine ⟨field.1, ?_, rfl⟩
    rw [← keys_envelopeFields]
    exact List.mem_map.mpr ⟨field, inside, rfl⟩
  · rw [lookupEntry_named]
    rfl
  · refine ⟨arguments.eventType, allowed, ?_⟩
    rw [lookupEntry_named]
    rfl
  · refine ⟨arguments.payload, arguments.provenance.getD [], ?_, ?_, clean⟩
    · rw [lookupEntry_named]
      rfl
    · rw [lookupEntry_named]
      rfl
  · simp only [getOr, lookupEntry_named]
    exact ⟨Value.noConfusion, Value.noConfusion⟩
  · refine ⟨text, by rw [setEntry_envelopeFields, dumped], ?_⟩
    rw [lookupEntry_named]
    rfl

end Built

end SuperAdvisor.Events
