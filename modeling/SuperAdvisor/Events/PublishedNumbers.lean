import SuperAdvisor.Events.Consumer
import SuperAdvisor.Foundation.Sha256

/-!
# The numbers of a published event

A published event has provenance for every number among the direct entries of
its payload, and no provenance entry names an agent as its source system.
Numbers deeper in the payload are not looked at.
-/

namespace SuperAdvisor.Events

open Python

/-- The entry of `numeric_fields` that covers a payload key. -/
structure CoveringEntry (provenance : List (Key × Value)) (field : Key)
    (entry : List (Key × Value)) : Prop where
  found : ∃ fields, lookupEntry provenance (.str "numeric_fields") = some (.dict fields) ∧
    lookupEntry fields field = some (.dict entry)
  sourced : ∀ required ∈ ["source", "source_system", "fetched_at_utc", "realtime_class"],
    (getOr entry required .none).truthy = true
  notAgent : sourceSystem entry ∉ agentSources
  explicit : ∃ realtimeClass ∈ realtimeClassAllowed, realtimeClass ≠ realtimeClassUnknown ∧
    lookupEntry entry (.str "realtime_class") = some (.str realtimeClass) ∧
    (realtimeClass = realtimeClassComputed →
      (getOr entry "formula_version" .none).truthy = true)

structure NumbersCovered (payload provenance : List (Key × Value)) : Prop where
  covered : ∀ entry ∈ payload, isNumeric entry.2 = true →
    ∃ covering, CoveringEntry provenance entry.1 covering
  notAgents : ∀ fields, lookupEntry provenance (.str "numeric_fields") = some (.dict fields) →
    ∀ field source, (field, Value.dict source) ∈ fields → sourceSystem source ∉ agentSources

/-- An entry without issues covers its field. -/
theorem coveringEntry_of_no_issues
    {provenance fields : List (Key × Value)} {field : Key}
    (known : lookupEntry provenance (.str "numeric_fields") = some (.dict fields))
    (clean : numericFieldIssues field (getKey fields field) = []) :
    ∃ covering, CoveringEntry provenance field covering := by
  unfold numericFieldIssues at clean
  split at clean
  next covering found =>
    refine ⟨covering, ?_⟩
    simp only [List.append_eq_nil_iff, List.map_eq_nil_iff, List.filter_eq_nil_iff] at clean
    obtain ⟨⟨⟨sourced, explicit⟩, computed⟩, notAgent⟩ := clean
    have looked : lookupEntry fields field = some (.dict covering) := by
      unfold getKey at found
      cases shape : lookupEntry fields field with
      | none => simp [shape] at found
      | some value => simpa [shape] using found
    have allowed : isOneOf (getOr covering "realtime_class" .none) realtimeClassAllowed = true ∧
        (getOr covering "realtime_class" .none).equals (.str realtimeClassUnknown) = false := by
      simpa using explicit
    obtain ⟨realtimeClass, member, same⟩ := isOneOf_iff.mp allowed.1
    refine ⟨⟨fields, known, looked⟩, ?_, ?_, realtimeClass, member, ?_, ?_, ?_⟩
    · exact fun required inside => by simpa using sourced required inside
    · simpa using notAgent
    · intro unknown
      rw [same, unknown] at allowed
      simp [equals_str_iff.mpr] at allowed
    · exact lookupEntry_of_getOr same (by simp)
    · intro isComputed
      have equal : (getOr covering "realtime_class" .none).equals
          (.str realtimeClassComputed) = true := by
        rw [same, isComputed]
        exact equals_str_iff.mpr rfl
      simpa [equal] using computed
  next => simp at clean

theorem covered_of_no_issues
    {payload provenance : List (Key × Value)}
    (clean : validateNumericProvenance payload provenance = []) :
    ∀ entry ∈ payload, isNumeric entry.2 = true →
      ∃ covering, CoveringEntry provenance entry.1 covering := by
  intro entry member numeric
  have listed : entry.1 ∈ numericPayloadFields payload :=
    List.mem_map.mpr ⟨entry, List.mem_filter.mpr ⟨member, numeric⟩, rfl⟩
  unfold validateNumericProvenance at clean
  dsimp only at clean
  split at clean
  next empty =>
    rw [List.isEmpty_iff.mp empty] at listed
    exact absurd listed List.not_mem_nil
  next =>
    split at clean
    next fields found =>
      refine coveringEntry_of_no_issues (lookupEntry_of_getOr found (by simp)) ?_
      exact List.flatMap_eq_nil_iff.mp clean entry.1 listed
    next => simp at clean

theorem notAgents_of_gate
    {event provenance : List (Key × Value)}
    (found : lookupEntry event (.str "provenance") = some (.dict provenance))
    (gate : hasAgentNumericSource event = .ok false) :
    ∀ fields, lookupEntry provenance (.str "numeric_fields") = some (.dict fields) →
      ∀ field source, (field, Value.dict source) ∈ fields →
        sourceSystem source ∉ agentSources := by
  intro fields known field source member
  simp only [hasAgentNumericSource, getOr, found, known, Option.getD_some, Except.ok.injEq,
    List.any_eq_false] at gate
  simpa using gate _ member

/-- The gates a published event has passed. -/
theorem published_gates
    {Time : Type} [LinearOrder Time] {fromIsoformat : String → Except Failure Time}
    {sha256Hex : List Char → String} {event : List (Key × Value)}
    {seen after : Option (KeySet String)} {wallClock : Time} {nowUtc : ReferenceClock Time}
    {decision : ConsumptionDecision}
    (consumed : consumeEvent fromIsoformat sha256Hex event seen wallClock nowUtc =
      .ok (decision, after)) (published : decision.action = .publish) :
    (∃ report, validateEventEnvelope sha256Hex event = .ok report ∧ report.valid = true) ∧
      hasAgentNumericSource event = .ok false := by
  obtain ⟨-, ⟨other, -⟩ | ⟨-, -, now, -, gates⟩⟩ := consumeEvent_cases consumed
  · exact absurd published other
  · exact ⟨gates.valid, gates.notAgent⟩

theorem published_numbersCovered
    {Time : Type} [LinearOrder Time] (fromIsoformat : String → Except Failure Time)
    (sha256Hex : List Char → String) (event : List (Key × Value))
    (seen : Option (KeySet String)) (wallClock : Time) (nowUtc : ReferenceClock Time)
    (decision : ConsumptionDecision) (after : Option (KeySet String))
    (consumed : consumeEvent fromIsoformat sha256Hex event seen wallClock nowUtc =
      .ok (decision, after)) (published : decision.action = .publish) :
    ∃ payload provenance, lookupEntry event (.str "payload") = some (.dict payload) ∧
      lookupEntry event (.str "provenance") = some (.dict provenance) ∧
      NumbersCovered payload provenance := by
  obtain ⟨⟨report, validated, valid⟩, gate⟩ := published_gates consumed published
  obtain ⟨payload, provenance, hasPayload, hasProvenance, clean⟩ :=
    accepted_payload validated valid
  exact ⟨payload, provenance, hasPayload, hasProvenance, covered_of_no_issues clean,
    notAgents_of_gate hasProvenance gate⟩

mutual

/-- The numbers anywhere in a value. -/
def numbersIn : Value → List Value
  | .int value => [.int value]
  | .float value => [.float value]
  | .list items => numbersInItems items
  | .tuple items => numbersInItems items
  | .dict entries => numbersInEntries entries
  | _ => []

def numbersInItems : List Value → List Value
  | [] => []
  | item :: items => numbersIn item ++ numbersInItems items

def numbersInEntries : List (Key × Value) → List Value
  | [] => []
  | (_, value) :: entries => numbersIn value ++ numbersInEntries entries

end

/-- A data quality warning with the given payload and provenance. -/
def warningEvent (payload provenance : List (Key × Value)) : List (Key × Value) :=
  let arguments : EnvelopeArguments :=
    { eventType := "DATA_QUALITY_WARNING"
      payload := payload
      sourceComponent := "component"
      sourceAgent := "agent"
      evidenceReference := "evidence"
      provenance := some provenance }
  (buildEventEnvelope sha256Hex arguments "event" "correlation" "now").toOption.getD []

/-- What the consumer does with an event that never expires. -/
def actionOn (event : List (Key × Value)) : Option Action :=
  (consumeEvent (fun _ => .ok (0 : Int)) sha256Hex event none 0 .wallClock).toOption.map
    (fun result => result.1.action)

/-- The provenance of a price read from a terminal. -/
def entryProvenance : List (Key × Value) :=
  [(.str "numeric_fields", .dict [(.str "entry", .dict (named
    [("source", .str "tick"),
      ("source_system", .str "MetaTrader5"),
      ("fetched_at_utc", .str "now"),
      ("realtime_class", .str "REALTIME")]))])]

theorem provenancedNumber_published :
    ∃ payload provenance,
      lookupEntry (warningEvent [(.str "entry", .int 2310)] entryProvenance)
        (.str "payload") = some (.dict payload) ∧
      lookupEntry (warningEvent [(.str "entry", .int 2310)] entryProvenance)
        (.str "provenance") = some (.dict provenance) ∧
      NumbersCovered payload provenance :=
  published_numbersCovered (fun _ => .ok (0 : Int)) sha256Hex
    (warningEvent [(.str "entry", .int 2310)] entryProvenance) none 0 .wallClock
    ⟨"event", "DATA_QUALITY_WARNING", .publish, "all_gates_passed"⟩ none (by decide +kernel)
    rfl

/-- A number inside an object is published without any numeric provenance. -/
theorem nestedNumber_published :
    actionOn (warningEvent
        [(.str "levels", .dict [(.str "entry", .int 1)])] [(.str "source", .str "s")]) =
      some .publish ∧
      Value.int 1 ∈ numbersIn (.dict [(.str "levels", .dict [(.str "entry", .int 1)])]) ∧
      lookupEntry [(.str "source", .str "s")] (.str "numeric_fields") = none := by
  refine ⟨by decide +kernel, ?_, rfl⟩
  simp [numbersIn, numbersInEntries]

end SuperAdvisor.Events
