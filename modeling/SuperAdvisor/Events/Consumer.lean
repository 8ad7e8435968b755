import SuperAdvisor.Events.Envelope
import SuperAdvisor.Foundation.Dict

/-!
# The event consumer

`consumeEvent` decides whether an event is published, and remembers the ids of
published events.  Reading a timestamp is a parameter.
-/

namespace SuperAdvisor.Events

open Python

def allowedMarketPublish : List String :=
  ["SUPER_POTENTIAL_CONFIRMED",
    "SUPER_POTENTIAL_INVALIDATED",
    "DATA_QUALITY_WARNING",
    "SYSTEM_INCIDENT"]

def forbiddenMarketPublish : List String :=
  ["SUPER_POTENTIAL_CANDIDATE_INTERNAL", "SYSTEM_HEALTH"]

inductive Action where
  | publish
  | hold
  | reject
  deriving DecidableEq

structure ConsumptionDecision where
  eventId : String
  eventType : String
  action : Action
  reason : String
  deriving DecidableEq

/-- The argument `now_utc`; an aware one is what `astimezone(UTC)` gives. -/
inductive ReferenceClock (Time : Type) where
  | wallClock
  | naive
  | aware (converted : Except Failure Time)

variable {Time : Type}

def resolveNowUtc (wallClock : Time) : ReferenceClock Time → Except EventProblem Time
  | .wallClock => .ok wallClock
  | .naive =>
      .error (.consumer "now_utc must be timezone-aware; received a naive datetime")
  | .aware converted => converted.mapError .python

/-- `text.replace("Z", "+00:00")` -/
def withOffset (text : String) : String :=
  String.ofList (text.toList.flatMap
    (fun symbol => if symbol = 'Z' then "+00:00".toList else [symbol]))

def hasAgentNumericSource (event : List (Key × Value)) : Except Failure Bool :=
  match getOr event "provenance" (.dict []) with
  | .dict provenance =>
      match getOr provenance "numeric_fields" .none with
      | .dict numeric =>
          .ok (numeric.any (fun field =>
            match field.2 with
            | .dict fieldProvenance => decide (sourceSystem fieldProvenance ∈ agentSources)
            | _ => false))
      | _ => .ok false
  | provenance => .error (noAttribute provenance "get")

def eventIdOf (event : List (Key × Value)) : String :=
  (getOr event "event_id" (.str "")).text

def eventTypeOf (event : List (Key × Value)) : String :=
  (getOr event "event_type" (.str "")).text

def decisionOf (event : List (Key × Value)) (action : Action) (reason : String) :
    ConsumptionDecision :=
  { eventId := eventIdOf event
    eventType := eventTypeOf event
    action := action
    reason := reason }

section Consumer

variable [LinearOrder Time] (fromIsoformat : String → Except Failure Time)
  (sha256Hex : List Char → String)

/-- Fail closed: an expiry that cannot be read has passed. -/
def isExpired (event : List (Key × Value)) (now : Time) : Except Failure Bool :=
  match getOr event "payload" (.dict []) with
  | .dict payload =>
      match getOr payload "expires_at_utc" .none with
      | .str expiresRaw =>
          match fromIsoformat (withOffset expiresRaw) with
          | .ok expires => .ok (decide (expires ≤ now))
          | .error (.valueError _) => .ok true
          | .error failure => .error failure
      | _ => .ok false
  | payload => .error (noAttribute payload "get")

/-- The decision, and the set of event ids as the call leaves it. -/
def consumeEvent (event : List (Key × Value)) (seenEventIds : Option (KeySet String))
    (wallClock : Time) (nowUtc : ReferenceClock Time) :
    Except EventProblem (ConsumptionDecision × Option (KeySet String)) := do
  let effectiveNow ← resolveNowUtc wallClock nowUtc
  let report ← validateEventEnvelope sha256Hex event
  if !report.valid then
    let issuesText := "; ".intercalate
      (report.issues.map (fun issue => issue.path ++ ": " ++ issue.message))
    .ok (decisionOf event .reject ("schema_invalid: " ++ issuesText), seenEventIds)
  else do
    let agentSource ← (hasAgentNumericSource event).mapError .python
    if agentSource then
      .ok (decisionOf event .reject "agent_numeric_source_forbidden", seenEventIds)
    else if !(getOr event "provenance" .none).truthy then
      .ok (decisionOf event .reject "missing_provenance", seenEventIds)
    else if (seenEventIds.map
        (fun seen => decide (eventIdOf event ∈ seen.items))).getD false then
      .ok (decisionOf event .reject "duplicate_event_id", seenEventIds)
    else if eventTypeOf event ∈ forbiddenMarketPublish then
      .ok (decisionOf event .hold "candidate_internal_not_published", seenEventIds)
    else do
      let expired ← (isExpired fromIsoformat event effectiveNow).mapError .python
      if expired then .ok (decisionOf event .reject "event_expired", seenEventIds)
      else if eventTypeOf event ∉ allowedMarketPublish then
        .ok (decisionOf event .hold
          ("event_type_not_in_publish_allowlist: " ++ eventTypeOf event),
          seenEventIds)
      else
        .ok (decisionOf event .publish "all_gates_passed",
          seenEventIds.map (fun seen => seen.insert (eventIdOf event)))

/-- What a published event has passed. -/
structure PassesGates (event : List (Key × Value)) (seenEventIds : Option (KeySet String))
    (now : Time) : Prop where
  valid : ∃ report, validateEventEnvelope sha256Hex event = .ok report ∧ report.valid = true
  notAgent : hasAgentNumericSource event = .ok false
  provenanced : (getOr event "provenance" .none).truthy = true
  unseen : ∀ seen, seenEventIds = some seen → eventIdOf event ∉ seen.items
  live : isExpired fromIsoformat event now = .ok false
  allowed : eventTypeOf event ∈ allowedMarketPublish

variable {fromIsoformat sha256Hex}

theorem not_seen_iff {event : List (Key × Value)} {seenEventIds : Option (KeySet String)} :
    (seenEventIds.map (fun seen => decide (eventIdOf event ∈ seen.items))).getD false = false ↔
      ∀ seen, seenEventIds = some seen → eventIdOf event ∉ seen.items := by
  cases seenEventIds <;> simp

section Decisions

variable {event : List (Key × Value)} {seenEventIds : Option (KeySet String)}
  {wallClock now : Time} {nowUtc : ReferenceClock Time}

theorem consumeEvent_of_gates
    (resolved : resolveNowUtc wallClock nowUtc = .ok now)
    (gates : PassesGates fromIsoformat sha256Hex event seenEventIds now) :
    consumeEvent fromIsoformat sha256Hex event seenEventIds wallClock nowUtc =
      .ok (decisionOf event .publish "all_gates_passed",
        seenEventIds.map (fun seen => seen.insert (eventIdOf event))) := by
  obtain ⟨report, validated, valid⟩ := gates.valid
  have unforbidden : eventTypeOf event ∉ forbiddenMarketPublish := by
    have allowed := gates.allowed
    simp only [allowedMarketPublish, List.mem_cons, List.not_mem_nil, or_false] at allowed
    rcases allowed with same | same | same | same <;> simp [same, forbiddenMarketPublish]
  simp only [consumeEvent, resolved, validated, valid, gates.notAgent, gates.provenanced,
    not_seen_iff.mpr gates.unseen, unforbidden, gates.live, gates.allowed, Except.mapError, bind,
    Except.bind, Bool.not_true, Bool.false_eq_true, not_true, if_false]

/-- A forbidden type is held before its expiry is read. -/
theorem consumeEvent_of_forbidden
    (resolved : resolveNowUtc wallClock nowUtc = .ok now)
    (valid : IsValidEvent sha256Hex event) (notAgent : hasAgentNumericSource event = .ok false)
    (provenanced : (getOr event "provenance" .none).truthy = true)
    (unseen : ∀ seen, seenEventIds = some seen → eventIdOf event ∉ seen.items)
    (forbidden : eventTypeOf event ∈ forbiddenMarketPublish) :
    consumeEvent fromIsoformat sha256Hex event seenEventIds wallClock nowUtc =
      .ok (decisionOf event .hold "candidate_internal_not_published", seenEventIds) := by
  obtain ⟨report, validated, isValid⟩ := isValidEvent_iff.mpr valid
  simp only [consumeEvent, resolved, validated, isValid, notAgent, provenanced,
    not_seen_iff.mpr unseen, forbidden, Except.mapError, bind, Except.bind, Bool.not_true,
    Bool.false_eq_true, if_true, if_false]

end Decisions

/-- An event that passes the gates is published and its id remembered; any other
decision leaves the ids as they are. -/
theorem consumeEvent_cases
    {event : List (Key × Value)} {seenEventIds after : Option (KeySet String)}
    {wallClock : Time} {nowUtc : ReferenceClock Time} {decision : ConsumptionDecision}
    (consumed : consumeEvent fromIsoformat sha256Hex event seenEventIds wallClock nowUtc =
      .ok (decision, after)) :
    decision.eventId = eventIdOf event ∧
      ((decision.action ≠ .publish ∧ after = seenEventIds) ∨
        (decision.action = .publish ∧
          after = seenEventIds.map (fun seen => seen.insert (eventIdOf event)) ∧
          ∃ now, resolveNowUtc wallClock nowUtc = .ok now ∧
            PassesGates fromIsoformat sha256Hex event seenEventIds now)) := by
  have unpublished : ∀ {action : Action} {reason : String}, action ≠ .publish →
      Except.ok (ε := EventProblem) (decisionOf event action reason, seenEventIds) =
        .ok (decision, after) →
      decision.eventId = eventIdOf event ∧ decision.action ≠ .publish ∧
        after = seenEventIds := by
    intro action reason other same
    cases same
    exact ⟨rfl, other, rfl⟩
  simp only [consumeEvent, except_bind_eq_ok] at consumed
  obtain ⟨now, resolved, report, validated, decided⟩ := consumed
  split at decided
  next => exact (unpublished (by simp) decided).imp id .inl
  next valid =>
    simp only [except_bind_eq_ok, except_mapError_eq_ok] at decided
    obtain ⟨agentSource, gate, decided⟩ := decided
    split at decided
    next => exact (unpublished (by simp) decided).imp id .inl
    next notAgent =>
      split at decided
      next => exact (unpublished (by simp) decided).imp id .inl
      next provenanced =>
        split at decided
        next => exact (unpublished (by simp) decided).imp id .inl
        next unseen =>
          split at decided
          next => exact (unpublished (by simp) decided).imp id .inl
          next =>
            simp only [except_bind_eq_ok, except_mapError_eq_ok] at decided
            obtain ⟨expired, read, decided⟩ := decided
            split at decided
            next => exact (unpublished (by simp) decided).imp id .inl
            next live =>
              split at decided
              next => exact (unpublished (by simp) decided).imp id .inl
              next allowed =>
                cases decided
                refine ⟨rfl, .inr ⟨rfl, rfl, now, resolved, ?_⟩⟩
                exact
                  { valid := ⟨report, validated, by simpa using valid⟩
                    notAgent := by simpa [notAgent] using gate
                    provenanced := by simpa using provenanced
                    unseen := by
                      rintro seen rfl
                      simpa using unseen
                    live := by simpa [live] using read
                    allowed := by simpa using allowed }

end Consumer

end SuperAdvisor.Events
