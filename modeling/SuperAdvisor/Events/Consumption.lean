import SuperAdvisor.Events.Consumer
import SuperAdvisor.Foundation.Machine

/-!
# Runs of the consumer

A session of calls that share one set of published ids.  The set holds the id
of every published event, so no id is published twice; an event that expired
is never published.
-/

namespace SuperAdvisor.Events

open Python Machine

variable {Time : Type}

/-- One call on the shared set, with the reading of the wall clock. -/
structure ConsumeCall (Time : Type) where
  event : List (Key × Value)
  wallClock : Time
  nowUtc : ReferenceClock Time

abbrev ConsumeEvent (Time : Type) : Type :=
  Machine.Event (KeySet String) (ConsumeCall Time) (Except EventProblem ConsumptionDecision)

/-- The id a reply publishes. -/
def publishedId : Except EventProblem ConsumptionDecision → Option String
  | .ok decision => if decision.action = .publish then some decision.eventId else none
  | .error _ => none

variable [LinearOrder Time] (fromIsoformat : String → Except Failure Time)
  (sha256Hex : List Char → String)

/-- An exception leaves the set as it was: the id is added last. -/
def consumeStep (seen : KeySet String) (call : ConsumeCall Time) :
    Except EventProblem ConsumptionDecision × KeySet String :=
  match consumeEvent fromIsoformat sha256Hex call.event (some seen) call.wallClock
      call.nowUtc with
  | .ok (decision, after) => (.ok decision, after.getD seen)
  | .error problem => (.error problem, seen)

/-- What holds of an event at the clock at which it is published. -/
structure Publishable (event : List (Key × Value)) (now : Time) : Prop where
  valid : ∃ report, validateEventEnvelope sha256Hex event = .ok report ∧ report.valid = true
  allowed : eventTypeOf event ∈ allowedMarketPublish
  provenanced : ∃ provenance, lookupEntry event (.str "provenance") = some (.dict provenance) ∧
    provenance ≠ []
  live : ∀ payload expiresRaw, lookupEntry event (.str "payload") = some (.dict payload) →
    lookupEntry payload (.str "expires_at_utc") = some (.str expiresRaw) →
      ∃ expires, fromIsoformat (withOffset expiresRaw) = .ok expires ∧ now < expires

variable {fromIsoformat sha256Hex}

theorem expires_later_of_isExpired
    {event : List (Key × Value)} {now : Time}
    (live : isExpired fromIsoformat event now = .ok false) {payload : List (Key × Value)}
    (hasPayload : lookupEntry event (.str "payload") = some (.dict payload)) {expiresRaw : String}
    (hasExpiry : lookupEntry payload (.str "expires_at_utc") = some (.str expiresRaw)) :
    ∃ expires, fromIsoformat (withOffset expiresRaw) = .ok expires ∧ now < expires := by
  simp only [isExpired, getOr, hasPayload, hasExpiry, Option.getD_some] at live
  split at live
  next expires read => exact ⟨expires, read, by simpa using live⟩
  next => cases live
  next => cases live

theorem publishable_of_gates
    {event : List (Key × Value)} {seen : Option (KeySet String)} {now : Time}
    (gates : PassesGates fromIsoformat sha256Hex event seen now) :
    Publishable fromIsoformat sha256Hex event now := by
  refine ⟨gates.valid, gates.allowed, ?_, ?_⟩
  · obtain ⟨report, validated, valid⟩ := gates.valid
    obtain ⟨payload, provenance, -, hasProvenance, -⟩ := accepted_payload validated valid
    refine ⟨provenance, hasProvenance, ?_⟩
    rintro rfl
    have provenanced := gates.provenanced
    simp [getOr, hasProvenance, Value.truthy] at provenanced
  · intro payload expiresRaw hasPayload hasExpiry
    exact expires_later_of_isExpired gates.live hasPayload hasExpiry

/-- One call: it publishes a fresh id and remembers it, or it publishes nothing
and leaves the set as it was. -/
theorem consumeStep_cases (seen : KeySet String) (call : ConsumeCall Time) :
    (publishedId (consumeStep fromIsoformat sha256Hex seen call).1 = none ∧
        (consumeStep fromIsoformat sha256Hex seen call).2 = seen) ∨
      (publishedId (consumeStep fromIsoformat sha256Hex seen call).1 =
          some (eventIdOf call.event) ∧
        eventIdOf call.event ∉ seen.items ∧
        (consumeStep fromIsoformat sha256Hex seen call).2 =
          seen.insert (eventIdOf call.event) ∧
        ∃ now, resolveNowUtc call.wallClock call.nowUtc = .ok now ∧
          Publishable fromIsoformat sha256Hex call.event now) := by
  unfold consumeStep
  split
  next decision after consumed =>
    obtain ⟨id, ⟨other, rfl⟩ | ⟨published, rfl, now, resolved, gates⟩⟩ :=
      consumeEvent_cases consumed
    · exact .inl ⟨by simp [publishedId, other], rfl⟩
    · exact .inr ⟨by simp [publishedId, published, id], gates.unseen seen rfl, rfl, now,
        resolved, publishable_of_gates gates⟩
  next => exact .inl ⟨rfl, rfl⟩

/-- The ids published so far are different and remembered. -/
structure Remembers (past : List (ConsumeEvent Time)) (seen : KeySet String) : Prop where
  distinct : (past.filterMap (fun event => publishedId event.reply)).Nodup
  remembered : ∀ id ∈ past.filterMap (fun event => publishedId event.reply), id ∈ seen.items

theorem remembers_step
    {past : List (ConsumeEvent Time)} {seen : KeySet String} (remembers : Remembers past seen)
    (call : ConsumeCall Time) :
    Remembers (past ++ [eventOf (consumeStep fromIsoformat sha256Hex) seen call])
      (consumeStep fromIsoformat sha256Hex seen call).2 := by
  obtain ⟨none, same⟩ | ⟨published, fresh, inserted, -⟩ :=
    @consumeStep_cases _ _ fromIsoformat sha256Hex seen call
  · constructor
    · simpa [eventOf, none] using remembers.distinct
    · simpa [eventOf, none, same] using remembers.remembered
  · have unseen : eventIdOf call.event ∉
        past.filterMap (fun event => publishedId event.reply) :=
      fun member => fresh (remembers.remembered _ member)
    constructor
    · rw [List.filterMap_append, List.nodup_append]
      refine ⟨remembers.distinct, by simp [eventOf, published], ?_⟩
      rintro id member last inside rfl
      obtain rfl : id = eventIdOf call.event := by simpa [eventOf, published] using inside
      exact unseen member
    · intro id member
      rw [inserted, KeySet.mem_insert]
      rcases List.mem_append.mp (by simpa only [List.filterMap_append] using member) with
        early | last
      · exact .inr (remembers.remembered id early)
      · exact .inl (by simpa [eventOf, published] using last)

/-- In every session each id is published at most once, only a publishable event
is published, and a call that does not publish leaves the set as it was. -/
theorem published_once_before_expiry
    (fromIsoformat : String → Except Failure Time) (sha256Hex : List Char → String)
    (seen : KeySet String) (calls : List (ConsumeCall Time)) :
    ((trace (consumeStep fromIsoformat sha256Hex) seen calls).filterMap
        (fun event => publishedId event.reply)).Nodup ∧
      ∀ event ∈ trace (consumeStep fromIsoformat sha256Hex) seen calls,
        (∀ id, publishedId event.reply = some id →
          id = eventIdOf event.call.event ∧
            ∃ now, resolveNowUtc event.call.wallClock event.call.nowUtc = .ok now ∧
              Publishable fromIsoformat sha256Hex event.call.event now) ∧
          (publishedId event.reply = none → event.after = event.before) := by
  constructor
  · have start : Remembers ([] : List (ConsumeEvent Time)) seen := ⟨List.nodup_nil, by simp⟩
    have whole := trace_invariant (consumeStep fromIsoformat sha256Hex) Remembers
      (fun past seen call remembers => remembers_step remembers call) start calls
    simpa using whole.distinct
  · intro event member
    obtain ⟨early, call, -, -, rfl⟩ := (mem_trace_iff _).mp member
    obtain ⟨none, same⟩ | ⟨published, -, -, publishable⟩ :=
      @consumeStep_cases _ _ fromIsoformat sha256Hex
        (final (consumeStep fromIsoformat sha256Hex) seen early) call
    · exact ⟨fun id found => by simp [eventOf, none] at found, fun _ => same⟩
    · refine ⟨?_, fun unpublished => by simp [eventOf, published] at unpublished⟩
      intro id found
      exact ⟨by simpa [eventOf, published] using found.symm, publishable⟩

end SuperAdvisor.Events
