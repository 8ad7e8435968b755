import SuperAdvisor.Events.PublishedNumbers
import SuperAdvisor.Foundation.IsoText
import SuperAdvisor.Foundation.JsonValues

/-!
# When the consumer decides

`consumeEvent` decides on every JSON event and rejects every faulty one, except
where an exception leaves it: an event type that cannot be hashed, a number that
is not finite in an event with a hash, an expiry that is read and has no instant
in UTC, or a clock that has none.
-/

namespace SuperAdvisor.Events

open Python Calendar

/-- The faults for which an event must be rejected. -/
inductive Faulty (sha256Hex : List Char → String) (event : List (Key × Value)) : Prop where
  | missing {field : String} (required : field ∈ requiredEventFields)
      (absent : lookupEntry event (.str field) = none)
  | unknown {entry : Key × Value} (member : entry ∈ event)
      (other : ∀ field ∈ requiredEventFields, entry.1 ≠ .str field)
  | version (different : lookupEntry event (.str "schema_version") ≠
      some (.str eventSchemaVersion))
  | eventType (unsupported : ∀ eventType ∈ allowedEventTypes,
      lookupEntry event (.str "event_type") ≠ some (.str eventType))
  | provenance {payload : List (Key × Value)} {entry : Key × Value}
      (isPayload : lookupEntry event (.str "payload") = some (.dict payload))
      (member : entry ∈ payload) (numeric : isNumeric entry.2 = true)
      (uncovered : ∀ provenance, lookupEntry event (.str "provenance") =
        some (.dict provenance) → ¬∃ covering, CoveringEntry provenance entry.1 covering)
  | integrity (mismatch : ∀ text,
      canonicalJson (.dict (setEntry event (.str "integrity_hash") (.str ""))) = .ok text →
        lookupEntry event (.str "integrity_hash") ≠ some (.str (sha256Hex text)))

section Gates

variable {sha256Hex : List Char → String} {event : List (Key × Value)}

/-- A valid event has no fault. -/
theorem IsValidEvent.not_faulty (valid : IsValidEvent sha256Hex event) :
    ¬Faulty sha256Hex event := by
  intro faulty
  cases faulty with
  | missing required absent =>
      obtain ⟨value, found⟩ := valid.present _ required
      simp [absent] at found
  | unknown member other =>
      obtain ⟨field, required, same⟩ := valid.known _ member
      exact other field required same
  | version different => exact different valid.versioned
  | eventType unsupported =>
      obtain ⟨eventType, allowed, found⟩ := valid.typed
      exact unsupported eventType allowed found
  | provenance isPayload member numeric uncovered =>
      obtain ⟨payload, provenance, hasPayload, hasProvenance, clean⟩ := valid.evidenced
      rw [hasPayload] at isPayload
      obtain rfl := Value.dict.inj (Option.some.inj isPayload)
      exact uncovered provenance hasProvenance (covered_of_no_issues clean _ member numeric)
  | integrity mismatch =>
      obtain ⟨text, dumped, found⟩ := valid.signed
      exact mismatch text dumped found

/-- The events whose expiry is read. -/
structure ReachesExpiry (sha256Hex : List Char → String) (event : List (Key × Value))
    (seenEventIds : Option (KeySet String)) : Prop where
  valid : IsValidEvent sha256Hex event
  notAgent : hasAgentNumericSource event = .ok false
  provenanced : (getOr event "provenance" .none).truthy = true
  unseen : ∀ seen, seenEventIds = some seen → eventIdOf event ∉ seen.items
  unforbidden : eventTypeOf event ∉ forbiddenMarketPublish

variable {Time : Type} [LinearOrder Time] {fromIsoformat : String → Except Failure Time}
  {seenEventIds : Option (KeySet String)} {wallClock : Time} {nowUtc : ReferenceClock Time}

/-- A decision on an event that is not valid is a rejection. -/
theorem rejected_of_not_valid
    {decision : ConsumptionDecision} {after : Option (KeySet String)}
    (consumed : consumeEvent fromIsoformat sha256Hex event seenEventIds wallClock nowUtc =
      .ok (decision, after)) (invalid : ¬IsValidEvent sha256Hex event) :
    decision.action = .reject := by
  simp only [consumeEvent, except_bind_eq_ok] at consumed
  obtain ⟨now, -, report, validated, decided⟩ := consumed
  have refused : report.valid = false :=
    eq_false_of_ne_true (fun valid => invalid (isValidEvent_iff.mp ⟨report, validated, valid⟩))
  simp only [refused, Bool.not_false, if_true] at decided
  cases decided
  rfl

theorem hasAgentNumericSource_isOk (valid : IsValidEvent sha256Hex event) :
    ∃ agentSource, hasAgentNumericSource event = .ok agentSource := by
  obtain ⟨-, provenance, -, hasProvenance, -⟩ := valid.evidenced
  simp only [hasAgentNumericSource, getOr, hasProvenance, Option.getD_some]
  split <;> exact ⟨_, rfl⟩

/-- The consumer decides if its clock has an instant, the validation ends and
the expiry can be read where it is read. -/
theorem consumeEvent_isOk_iff :
    (∃ result, consumeEvent fromIsoformat sha256Hex event seenEventIds wallClock nowUtc =
        .ok result) ↔
      ∃ now, resolveNowUtc wallClock nowUtc = .ok now ∧
        (∃ report, validateEventEnvelope sha256Hex event = .ok report) ∧
        (ReachesExpiry sha256Hex event seenEventIds →
          ∃ expired, isExpired fromIsoformat event now = .ok expired) := by
  simp only [consumeEvent, except_bind_eq_ok]
  constructor
  · rintro ⟨result, now, resolved, report, validated, decided⟩
    refine ⟨now, resolved, ⟨report, validated⟩, ?_⟩
    intro reaches
    obtain ⟨other, again, valid⟩ := isValidEvent_iff.mpr reaches.valid
    obtain rfl : report = other := by simpa [validated] using again
    simp only [valid, reaches.notAgent, reaches.provenanced, not_seen_iff.mpr reaches.unseen,
      reaches.unforbidden, Bool.not_true, Bool.false_eq_true, if_false, except_bind_eq_ok,
      except_mapError_eq_ok] at decided
    obtain ⟨agentSource, same, decided⟩ := decided
    cases same
    simp only [Bool.false_eq_true, if_false, except_bind_eq_ok, except_mapError_eq_ok] at decided
    obtain ⟨expired, read, -⟩ := decided
    exact ⟨expired, read⟩
  · rintro ⟨now, resolved, ⟨report, validated⟩, read⟩
    suffices decided : ∃ result, _ = Except.ok result from
      decided.imp (fun result same => ⟨now, resolved, report, validated, same⟩)
    split
    next => exact ⟨_, rfl⟩
    next valid =>
      have isValid : IsValidEvent sha256Hex event :=
        isValidEvent_iff.mp ⟨report, validated, by simpa using valid⟩
      obtain ⟨agentSource, gate⟩ := hasAgentNumericSource_isOk isValid
      simp only [gate, Except.mapError, bind, Except.bind]
      split
      next => exact ⟨_, rfl⟩
      next notAgent =>
        split
        next => exact ⟨_, rfl⟩
        next provenanced =>
          split
          next => exact ⟨_, rfl⟩
          next unseen =>
            split
            next => exact ⟨_, rfl⟩
            next unforbidden =>
              obtain ⟨expired, live⟩ := read
                { valid := isValid
                  notAgent := by simpa [notAgent] using gate
                  provenanced := by simpa using provenanced
                  unseen := not_seen_iff.mp (by simpa using unseen)
                  unforbidden := unforbidden }
              simp only [live]
              split
              next => exact ⟨_, rfl⟩
              next => split <;> exact ⟨_, rfl⟩

theorem validateEventEnvelope_isOk_iff :
    (∃ report, validateEventEnvelope sha256Hex event = .ok report) ↔
      (∃ issues, eventTypeIssues (getOr event "event_type" .none) = .ok issues) ∧
        ∃ issues, integrityIssues sha256Hex event = .ok issues := by
  simp only [validateEventEnvelope, except_bind_eq_ok, except_mapError_eq_ok]
  constructor
  · rintro ⟨report, eventType, typed, integrity, signed, -⟩
    exact ⟨⟨eventType, typed⟩, integrity, signed⟩
  · rintro ⟨⟨eventType, typed⟩, integrity, signed⟩
    exact ⟨_, eventType, typed, integrity, signed, rfl⟩

theorem eventTypeIssues_isOk_iff {eventType : Value} :
    (∃ issues, eventTypeIssues eventType = .ok issues) ↔ eventType.asKey.isSome = true := by
  unfold eventTypeIssues
  split
  next unhashable => simp [unhashable]
  next hashed => simp [hashed]

private theorem finiteNumbers_setEntry_iff
    {fields : List (String × Value)} (json : (Value.dict (named fields)).IsJson)
    {name integrityHash : String}
    (found : lookupEntry (named fields) (.str name) = some (.str integrityHash)) :
    (∃ document, (Value.dict (setEntry (named fields) (.str name) (.str ""))).toDocument
        canonicalOptions = .ok document) ↔ (Value.dict (named fields)).FiniteNumbers := by
  have distinct : (OrderedDict.keys fields).Nodup := by
    have keys := json.2.1
    simp only [named, List.map_map] at keys
    exact List.Nodup.of_map Key.str (by simpa [OrderedDict.keys, Function.comp_def] using keys)
  rw [lookupEntry_named] at found
  rw [← @exists_toDocument_iff canonicalOptions rfl rfl _ json, toDocument_named_iff rfl,
    setEntry_named, toDocument_named_iff rfl]
  constructor
  · intro written field member
    by_cases same : field.1 = name
    · have other := OrderedDict.get?_eq_some_of_mem distinct member
      rw [same, found] at other
      rw [← Option.some.inj other]
      exact ⟨_, rfl⟩
    · exact written field ((OrderedDict.set_perm distinct _ _).mem_iff.mpr (by simp [member, same]))
  · intro each field member
    rcases OrderedDict.mem_set member with same | old
    · rw [same]
      exact ⟨_, rfl⟩
    · exact each field old

/-- The hash of an event can be checked if its numbers are finite. -/
theorem integrityIssues_isOk_iff (json : (Value.dict event).IsJson) :
    (∃ issues, integrityIssues sha256Hex event = .ok issues) ↔
      ∀ integrityHash, lookupEntry event (.str "integrity_hash") = some (.str integrityHash) →
        (Value.dict event).FiniteNumbers := by
  obtain ⟨fields, rfl⟩ := exists_named json.1
  unfold integrityIssues
  split
  next integrityHash same =>
    have found := lookupEntry_of_getOr same (by simp)
    simp only [found, Option.some.injEq, Value.str.injEq, forall_eq',
      ← finiteNumbers_setEntry_iff json found, canonicalJson, dumps, except_bind_eq_ok,
      except_map_eq_ok]
    constructor
    · rintro ⟨-, text, ⟨document, converted, -⟩, -⟩
      exact ⟨document, converted⟩
    · rintro ⟨document, converted⟩
      exact ⟨_, _, ⟨document, converted, rfl⟩, rfl⟩
  next other =>
    refine iff_of_true ⟨_, rfl⟩ ?_
    intro integrityHash found
    exact absurd (by simp [getOr, found]) (other integrityHash)

end Gates

section Clock

variable (localInstant : DateTime → Except Failure Int)

/-- The texts that name a point in time without an instant in UTC. -/
inductive Overflows (text : String) : Prop where
  | aware {time : DateTime} {offset : Int} (read : fromisoformat text = .ok (time, some offset))
      (outside : ¬InRange (time.instant - offset))
  | naive {time : DateTime} {failure : Failure} (read : fromisoformat text = .ok (time, none))
      (failed : localInstant time = .error failure)
      (other : ∀ message, failure ≠ .valueError message)

variable {localInstant}

theorem overflows_iff {text : String} :
    Overflows localInstant text ↔ ∃ failure, instantOfText localInstant text = .error failure ∧
      ∀ message, failure ≠ .valueError message := by
  simp only [instantOfText, bind, Except.bind]
  constructor
  · rintro (⟨read, outside⟩ | ⟨read, failed, other⟩)
    · exact ⟨.overflowError "date value out of range",
        by simp only [read, astimezoneUtc, if_neg outside], by simp⟩
    · exact ⟨_, by simpa only [read, astimezoneUtc] using failed, other⟩
  · rintro ⟨failure, failed, other⟩
    cases read : fromisoformat text with
    | error problem =>
        simp only [read, Except.error.injEq] at failed
        subst failed
        unfold fromisoformat at read
        split at read
        · cases read
        · cases read
          exact absurd rfl (other _)
    | ok named =>
        obtain ⟨time, offset | offset⟩ := named
        · simp only [read, astimezoneUtc] at failed
          exact .naive read failed other
        · simp only [read, astimezoneUtc] at failed
          split at failed
          · cases failed
          · next outside => exact .aware read outside

variable {sha256Hex : List Char → String} {event : List (Key × Value)}

theorem isExpired_isOk_iff (valid : IsValidEvent sha256Hex event) (now : Int) :
    (∃ expired, isExpired (instantOfText localInstant) event now = .ok expired) ↔
      ∀ payload expiresRaw, lookupEntry event (.str "payload") = some (.dict payload) →
        lookupEntry payload (.str "expires_at_utc") = some (.str expiresRaw) →
          ¬Overflows localInstant (withOffset expiresRaw) := by
  obtain ⟨payload, -, hasPayload, -, -⟩ := valid.evidenced
  rw [forall_comm]
  simp only [isExpired, getOr, hasPayload, Option.getD_some, Option.some.injEq,
    Value.dict.injEq, forall_eq', overflows_iff]
  cases hasExpiry : lookupEntry payload (.str "expires_at_utc") with
  | none => simp
  | some value =>
      cases value with
      | str expiresRaw =>
          simp only [Option.getD_some, Option.some.injEq, Value.str.injEq, forall_eq']
          cases read : instantOfText localInstant (withOffset expiresRaw) with
          | ok expires => simp
          | error failure => cases failure <;> simp
      | _ => simp

end Clock

section Total

variable (localInstant : DateTime → Except Failure Int) (sha256Hex : List Char → String)
  (event : List (Key × Value)) (seenEventIds : Option (KeySet String)) (wallClock : Int)
  (clock : DateTime × Int)

/-- A call with an aware clock decides, and rejects a faulty event. -/
def FailsClosed : Prop :=
  ∃ decision after, consumeEvent (instantOfText localInstant) sha256Hex event seenEventIds
      wallClock (.aware (astimezoneUtc localInstant (clock.1, some clock.2))) =
        .ok (decision, after) ∧
    (Faulty sha256Hex event → decision.action = .reject)

/-- The event type can be hashed, an event with a hash has only finite numbers,
and the clock and an expiry that is read have instants in UTC. -/
structure Consumable : Prop where
  clock : InRange (clock.1.instant - clock.2)
  hashable : (getOr event "event_type" .none).asKey.isSome = true
  finite : ∀ integrityHash,
    lookupEntry event (.str "integrity_hash") = some (.str integrityHash) →
      (Value.dict event).FiniteNumbers
  expiry : ReachesExpiry sha256Hex event seenEventIds → ∀ payload expiresRaw,
    lookupEntry event (.str "payload") = some (.dict payload) →
      lookupEntry payload (.str "expires_at_utc") = some (.str expiresRaw) →
        ¬Overflows localInstant (withOffset expiresRaw)

end Total

/-- Noon of a day in June. -/
def noon : DateTime :=
  Date.noon
    { year := 2026
      month := 6
      day := 15
      yearRange := yearRange_2026
      monthRange := monthRange_june
      dayRange := by decide }

/-- An event whose type is a list. -/
def listTypedEvent : List (Key × Value) :=
  [(.str "event_type", .list [])]

end SuperAdvisor.Events
