import SuperAdvisor.Events.Consumption
import SuperAdvisor.Events.RedactedEvents

/-!
# Events that are sent as text

An event that is written as canonical JSON and loaded again has its entries in
another order, at every level.  Its hash still fits, and the consumer decides as
it does on the event itself, however often it is sent and whatever was consumed
before.
-/

namespace SuperAdvisor.Events

open JsonText Machine Python

/-- `json.loads(canonical_json(event))`; what does not come back is kept. -/
def sentFields (event : List (Key × Value)) : List (Key × Value) :=
  match canonicalJson (.dict event) with
  | .ok text =>
      match loads text with
      | some (.dict loaded) => loaded
      | _ => event
  | .error _ => event

/-! A dictionary and what it is loaded as. -/

/-- The entries are those of a plain dictionary after it was sent. -/
structure LoadedFrom (entries loaded : List (Key × Value)) : Prop where
  plain : (Value.dict entries).IsPlain
  reload : (Value.dict entries).reload canonicalOptions = .dict loaded

section Loaded

variable {entries loaded : List (Key × Value)} {value : Value}

theorem exists_sent (plain : (Value.dict entries).IsPlain) :
    ∃ text, canonicalJson (.dict entries) = .ok text ∧
      loads text = some (.dict (sentFields entries)) ∧
      LoadedFrom entries (sentFields entries) := by
  obtain ⟨document, converted⟩ := plain.exists_document (rfl : canonicalOptions.sortKeys = true) rfl
  have dumped : canonicalJson (.dict entries) = .ok (render false document) := by
    rw [canonicalJson, dumps, converted]
    rfl
  have reload := reload_dict converted
  have back := loads_dumps dumped
  rw [reload] at back
  have same : sentFields entries = reloadEntries canonicalOptions entries := by
    simp only [sentFields, dumped, back]
  rw [same]
  exact ⟨_, dumped, back, plain, reload⟩

theorem LoadedFrom.names (sent : LoadedFrom entries loaded) (name : String) :
    lookupEntry loaded (.str name) =
      (lookupEntry entries (.str name)).map (Value.reload canonicalOptions) := by
  obtain ⟨found, reload, -, names⟩ :=
    exists_reload_dict (rfl : canonicalOptions.sortKeys = true) rfl sent.plain
  obtain rfl := Value.dict.inj (sent.reload.symm.trans reload)
  exact names name

theorem LoadedFrom.mem_iff (sent : LoadedFrom entries loaded) {entry : Key × Value} :
    entry ∈ loaded ↔ ∃ name value, (.str name, value) ∈ entries ∧
      entry = (.str name, value.reload canonicalOptions) := by
  obtain ⟨plain, reload⟩ := sent
  obtain ⟨document, converted⟩ := plain.exists_document (rfl : canonicalOptions.sortKeys = true) rfl
  obtain ⟨fields, rfl, distinct, -⟩ := exists_named_of_isPlain plain
  obtain rfl := Value.dict.inj (reload.symm.trans (reload_named rfl distinct converted))
  constructor
  · intro member
    obtain ⟨field, inside, rfl⟩ := List.mem_map.mp member
    obtain ⟨before, sorted, rfl⟩ := List.mem_map.mp inside
    have known := (sortByName_perm fields).mem_iff.mp sorted
    exact ⟨before.1, before.2,
      List.mem_map_of_mem (f := fun field => (Key.str field.1, field.2)) known, rfl⟩
  · rintro ⟨name, value, member, rfl⟩
    obtain ⟨field, known, same⟩ := List.mem_map.mp member
    cases same
    apply List.mem_map.mpr
    exact ⟨_, List.mem_map_of_mem ((sortByName_perm fields).mem_iff.mpr known), rfl⟩

/-- The keys of a plain dictionary are texts. -/
theorem LoadedFrom.key_eq (sent : LoadedFrom entries loaded) {entry : Key × Value}
    (member : entry ∈ entries) : ∃ name, entry.1 = .str name := by
  obtain ⟨fields, rfl, -, -⟩ := exists_named_of_isPlain sent.plain
  obtain ⟨field, -, rfl⟩ := List.mem_map.mp member
  exact ⟨field.1, rfl⟩

theorem LoadedFrom.isPlain_of_mem (sent : LoadedFrom entries loaded) {entry : Key × Value}
    (member : entry ∈ entries) : entry.2.IsPlain := by
  obtain ⟨fields, rfl, -, each⟩ := exists_named_of_isPlain sent.plain
  obtain ⟨field, inside, rfl⟩ := List.mem_map.mp member
  exact each field inside

theorem LoadedFrom.isPlain_loaded (sent : LoadedFrom entries loaded) :
    (Value.dict loaded).IsPlain := by
  rw [← sent.reload]
  exact isPlain_reload rfl rfl sent.plain

theorem reload_eq_str_iff (plain : value.IsPlain) {text : String} :
    value.reload canonicalOptions = .str text ↔ value = .str text := by
  constructor
  · exact fun same => eq_of_reload plain same (by simp) (by simp)
  · rintro rfl
    exact reload_str text

theorem reload_eq_dict_iff (plain : value.IsPlain) :
    value.reload canonicalOptions = .dict loaded ↔
      ∃ entries, value = .dict entries ∧ LoadedFrom entries loaded := by
  constructor
  · intro same
    rcases reload_cases (rfl : canonicalOptions.sortKeys = true) rfl plain with
      kept | ⟨items, -, isList⟩ | ⟨entries, others, rfl, isDict, -⟩
    · obtain rfl := kept.symm.trans same
      exact ⟨loaded, rfl, plain, same⟩
    · cases isList.symm.trans same
    · exact ⟨entries, rfl, plain, same⟩
  · rintro ⟨entries, rfl, sent⟩
    exact sent.reload

/-- A value that can be hashed comes back as it is. -/
theorem reload_of_hashable (plain : value.IsPlain) (hashable : value.asKey.isSome = true) :
    value.reload canonicalOptions = value := by
  rcases reload_cases (rfl : canonicalOptions.sortKeys = true) rfl plain with
    kept | ⟨items, rfl, -⟩ | ⟨entries, loaded, rfl, -, -⟩
  · exact kept
  · cases hashable
  · cases hashable

/-- A text is found in what was sent exactly if it was there. -/
theorem LoadedFrom.lookup_str_iff (sent : LoadedFrom entries loaded) {name text : String} :
    lookupEntry loaded (.str name) = some (.str text) ↔
      lookupEntry entries (.str name) = some (.str text) := by
  rw [sent.names, Option.map_eq_some_iff]
  constructor
  · rintro ⟨value, found, same⟩
    rw [found, (reload_eq_str_iff (isPlain_of_lookup sent.plain found)).mp same]
  · exact fun found => ⟨_, found, reload_str text⟩

/-- A dictionary is found in what was sent exactly if one was there. -/
theorem LoadedFrom.lookup_dict_iff (sent : LoadedFrom entries loaded) {name : String}
    {inner : List (Key × Value)} :
    lookupEntry loaded (.str name) = some (.dict inner) ↔
      ∃ before, lookupEntry entries (.str name) = some (.dict before) ∧
        LoadedFrom before inner := by
  rw [sent.names, Option.map_eq_some_iff]
  constructor
  · rintro ⟨value, found, same⟩
    obtain ⟨before, rfl, inside⟩ :=
      (reload_eq_dict_iff (isPlain_of_lookup sent.plain found)).mp same
    exact ⟨before, found, inside⟩
  · rintro ⟨before, found, inside⟩
    exact ⟨_, found, inside.reload⟩

/-- A dictionary stands in what was sent exactly if one stood there. -/
theorem LoadedFrom.mem_dict_iff (sent : LoadedFrom entries loaded) {key : Key}
    {inner : List (Key × Value)} :
    (key, Value.dict inner) ∈ loaded ↔
      ∃ before, (key, Value.dict before) ∈ entries ∧ LoadedFrom before inner := by
  rw [sent.mem_iff]
  constructor
  · rintro ⟨name, value, member, same⟩
    obtain ⟨rfl, isDict⟩ := Prod.mk.inj same
    obtain ⟨before, rfl, inside⟩ :=
      (reload_eq_dict_iff (sent.isPlain_of_mem member)).mp isDict.symm
    exact ⟨before, member, inside⟩
  · rintro ⟨before, member, inside⟩
    obtain ⟨name, rfl⟩ : ∃ name, key = .str name := sent.key_eq member
    exact ⟨name, _, member, by rw [inside.reload]⟩

theorem exists_loadedFrom (plain : (Value.dict entries).IsPlain) :
    ∃ loaded, LoadedFrom entries loaded := by
  obtain ⟨loaded, reload, -, -⟩ :=
    exists_reload_dict (rfl : canonicalOptions.sortKeys = true) rfl plain
  exact ⟨loaded, plain, reload⟩

/-- A dictionary that was there is loaded. -/
theorem LoadedFrom.exists_lookup (sent : LoadedFrom entries loaded) {name : String}
    {before : List (Key × Value)} (found : lookupEntry entries (.str name) = some (.dict before)) :
    ∃ inner, lookupEntry loaded (.str name) = some (.dict inner) ∧ LoadedFrom before inner := by
  obtain ⟨inner, inside⟩ := exists_loadedFrom (isPlain_of_lookup sent.plain found)
  exact ⟨inner, sent.lookup_dict_iff.mpr ⟨before, found, inside⟩, inside⟩

theorem LoadedFrom.truthy_getOr (sent : LoadedFrom entries loaded) (name : String) :
    (getOr loaded name .none).truthy = (getOr entries name .none).truthy := by
  rw [reload_getOr sent.names rfl]
  exact truthy_reload rfl rfl (isPlain_getOr sent.plain isPlain_none name)

theorem LoadedFrom.getOr_eq_none_iff (sent : LoadedFrom entries loaded) {name : String} :
    getOr loaded name .none = .none ↔ getOr entries name .none = .none := by
  rw [reload_getOr sent.names rfl]
  constructor
  · intro same
    exact eq_of_reload (isPlain_getOr sent.plain isPlain_none name) same (by simp) (by simp)
  · intro same
    rw [same]
    rfl

end Loaded

/-! The provenance of what is sent. -/

section Provenance

variable {payload sentPayload provenance sentProvenance : List (Key × Value)}

/-- An agent is named as the source before it is sent exactly if it is named
afterwards. -/
theorem LoadedFrom.sourceSystem_iff (sent : LoadedFrom provenance sentProvenance) :
    sourceSystem sentProvenance ∈ agentSources ↔ sourceSystem provenance ∈ agentSources := by
  have plain := isPlain_getOr sent.plain (isPlain_str "") "source_system"
  rw [sourceSystem, sourceSystem, reload_getOr sent.names (reload_str "")]
  by_cases isText : ∃ text, getOr provenance "source_system" (.str "") = .str text
  · obtain ⟨text, same⟩ := isText
    rw [same, reload_str]
  · apply iff_of_false
    · apply not_agentSource
      intro text same
      exact isText ⟨text, (reload_eq_str_iff plain).mp same⟩
    · exact not_agentSource (fun text same => isText ⟨text, same⟩)

theorem LoadedFrom.covering_iff (sent : LoadedFrom provenance sentProvenance) (field : String) :
    (∃ covering, CoveringEntry sentProvenance (.str field) covering) ↔
      ∃ covering, CoveringEntry provenance (.str field) covering := by
  constructor
  · rintro ⟨covering, covers⟩
    obtain ⟨fields, known, found⟩ := covers.found
    obtain ⟨before, knownBefore, sentFields⟩ := sent.lookup_dict_iff.mp known
    obtain ⟨entry, foundBefore, sentEntry⟩ := sentFields.lookup_dict_iff.mp found
    refine ⟨entry, ⟨before, knownBefore, foundBefore⟩, ?_, ?_, ?_⟩
    · intro required inside
      rw [← sentEntry.truthy_getOr]
      exact covers.sourced required inside
    · rw [← sentEntry.sourceSystem_iff]
      exact covers.notAgent
    · obtain ⟨realtimeClass, allowed, notUnknown, looked, computed⟩ := covers.explicit
      refine ⟨realtimeClass, allowed, notUnknown, sentEntry.lookup_str_iff.mp looked, ?_⟩
      intro isComputed
      rw [← sentEntry.truthy_getOr]
      exact computed isComputed
  · rintro ⟨covering, covers⟩
    exact covering_reload sent.plain sent.names covers

theorem validateNumericProvenance_eq_nil_iff :
    validateNumericProvenance payload provenance = [] ↔
      ∀ entry ∈ payload, isNumeric entry.2 = true →
        ∃ covering, CoveringEntry provenance entry.1 covering :=
  ⟨covered_of_no_issues, validateNumericProvenance_of_covered⟩

/-- The numbers of a payload have provenance before it is sent exactly if they
have it afterwards. -/
theorem validateNumericProvenance_sent
    (sentP : LoadedFrom payload sentPayload) (sentQ : LoadedFrom provenance sentProvenance) :
    validateNumericProvenance sentPayload sentProvenance = [] ↔
      validateNumericProvenance payload provenance = [] := by
  rw [validateNumericProvenance_eq_nil_iff, validateNumericProvenance_eq_nil_iff]
  constructor
  · intro covered entry member isNumber
    obtain ⟨name, isName⟩ := sentP.key_eq member
    rw [isName, ← sentQ.covering_iff]
    refine covered (.str name, entry.2.reload canonicalOptions) (sentP.mem_iff.mpr ?_) ?_
    · exact ⟨name, entry.2, by rwa [← isName], rfl⟩
    · rw [isNumeric_reload (sentP.isPlain_of_mem member)]
      exact isNumber
  · intro covered entry member isNumber
    obtain ⟨name, value, before, rfl⟩ := sentP.mem_iff.mp member
    rw [sentQ.covering_iff]
    rw [isNumeric_reload (sentP.isPlain_of_mem before)] at isNumber
    exact covered _ before isNumber

/-- What the gate on agents reads. -/
theorem hasAgentNumericSource_iff
    {event : List (Key × Value)}
    (found : lookupEntry event (.str "provenance") = some (.dict provenance)) :
    ∃ named, hasAgentNumericSource event = .ok named ∧
      (named = true ↔ ∃ fields, lookupEntry provenance (.str "numeric_fields") =
        some (.dict fields) ∧ ∃ field source, (field, Value.dict source) ∈ fields ∧
          sourceSystem source ∈ agentSources) := by
  unfold hasAgentNumericSource
  rw [getOr, found]
  dsimp only [Option.getD_some]
  split
  next fields known =>
    have looked := lookupEntry_of_getOr known (by simp)
    refine ⟨_, rfl, ?_⟩
    rw [List.any_eq_true]
    constructor
    · rintro ⟨⟨field, value⟩, member, agent⟩
      split at agent
      next source isDict =>
        obtain rfl : value = .dict source := isDict
        exact ⟨fields, looked, field, source, member, of_decide_eq_true agent⟩
      next => cases agent
    · rintro ⟨others, looked', field, source, member, agent⟩
      obtain rfl := Value.dict.inj (Option.some.inj (looked.symm.trans looked'))
      exact ⟨_, member, decide_eq_true agent⟩
  next other =>
    refine ⟨false, rfl, ?_⟩
    apply iff_of_false Bool.false_ne_true
    rintro ⟨fields, looked, -⟩
    exact other fields (by rw [getOr, looked]; rfl)

theorem hasAgentNumericSource_sent
    {event sentEvent : List (Key × Value)} (sent : LoadedFrom event sentEvent)
    (found : lookupEntry event (.str "provenance") = some (.dict provenance)) :
    hasAgentNumericSource sentEvent = hasAgentNumericSource event := by
  obtain ⟨others, foundSent, inside⟩ := sent.exists_lookup found
  obtain ⟨named, decided, named_iff⟩ := hasAgentNumericSource_iff found
  obtain ⟨sentNamed, sentDecided, sentNamed_iff⟩ := hasAgentNumericSource_iff foundSent
  rw [decided, sentDecided]
  apply congrArg
  rw [Bool.eq_iff_iff, named_iff, sentNamed_iff]
  constructor
  · rintro ⟨fields, looked, field, source, member, agent⟩
    obtain ⟨before, lookedBefore, sentFields⟩ := inside.lookup_dict_iff.mp looked
    obtain ⟨origin, memberBefore, sentSource⟩ := sentFields.mem_dict_iff.mp member
    exact ⟨before, lookedBefore, field, origin, memberBefore, sentSource.sourceSystem_iff.mp agent⟩
  · rintro ⟨before, lookedBefore, field, source, member, agent⟩
    obtain ⟨fields, looked, sentFields⟩ := inside.exists_lookup lookedBefore
    obtain ⟨loaded, sentSource⟩ := exists_loadedFrom (sentFields.isPlain_of_mem member)
    exact ⟨fields, looked, field, loaded, sentFields.mem_dict_iff.mpr ⟨source, member, sentSource⟩,
      sentSource.sourceSystem_iff.mpr agent⟩

end Provenance

/-! The validation of what is sent. -/

section Validation

variable {sha256Hex : List Char → String} {event sentEvent : List (Key × Value)}

/-- The text that is signed is the same. -/
theorem LoadedFrom.exists_signed_text (sent : LoadedFrom event sentEvent) :
    ∃ text, canonicalJson (.dict (setEntry event (.str "integrity_hash") (.str ""))) = .ok text ∧
      canonicalJson (.dict (setEntry sentEvent (.str "integrity_hash") (.str ""))) = .ok text := by
  obtain ⟨plain, reload⟩ := sent
  obtain ⟨document, converted⟩ := plain.exists_document (rfl : canonicalOptions.sortKeys = true) rfl
  obtain ⟨fields, rfl, distinct, each⟩ := exists_named_of_isPlain plain
  have unsigned : (Value.dict (setEntry (named fields) (.str "integrity_hash")
      (.str ""))).IsPlain := by
    rw [setEntry_named]
    apply isPlain_named (OrderedDict.keys_nodup_set distinct _ _)
    intro field member
    rcases OrderedDict.mem_set member with written | old
    · rw [written]
      exact isPlain_str ""
    · exact each field old
  obtain ⟨text, dumped, -⟩ := exists_sent unsigned
  obtain rfl := Value.dict.inj ((reload_dict converted).symm.trans reload)
  refine ⟨text, dumped, ?_⟩
  exact dumps_setEntry_reload rfl _ _ (keyOrderStable_of_isJson _ unsigned.json) converted dumped

/-- An event is valid exactly if it is valid after it was sent. -/
theorem LoadedFrom.isValidEvent_iff (sent : LoadedFrom event sentEvent) :
    IsValidEvent sha256Hex sentEvent ↔ IsValidEvent sha256Hex event := by
  obtain ⟨text, signedText, sentText⟩ := sent.exists_signed_text
  constructor
  · intro valid
    constructor
    · intro field required
      obtain ⟨value, found⟩ := valid.present field required
      rw [sent.names, Option.map_eq_some_iff] at found
      obtain ⟨before, found, -⟩ := found
      exact ⟨before, found⟩
    · intro entry member
      obtain ⟨name, isName⟩ := sent.key_eq member
      rw [isName]
      apply valid.known (.str name, entry.2.reload canonicalOptions)
      exact sent.mem_iff.mpr ⟨name, entry.2, by rwa [← isName], rfl⟩
    · exact sent.lookup_str_iff.mp valid.versioned
    · obtain ⟨eventType, allowed, found⟩ := valid.typed
      exact ⟨eventType, allowed, sent.lookup_str_iff.mp found⟩
    · obtain ⟨payload, provenance, hasPayload, hasProvenance, clean⟩ := valid.evidenced
      obtain ⟨payloadBefore, foundPayload, sentPayload⟩ := sent.lookup_dict_iff.mp hasPayload
      obtain ⟨provenanceBefore, foundProvenance, sentProvenance⟩ :=
        sent.lookup_dict_iff.mp hasProvenance
      exact ⟨payloadBefore, provenanceBefore, foundPayload, foundProvenance,
        (validateNumericProvenance_sent sentPayload sentProvenance).mp clean⟩
    · rw [Ne, Ne, ← sent.getOr_eq_none_iff, ← sent.getOr_eq_none_iff]
      exact valid.located
    · obtain ⟨other, printed, found⟩ := valid.signed
      obtain rfl := Except.ok.inj (sentText.symm.trans printed)
      exact ⟨text, signedText, sent.lookup_str_iff.mp found⟩
  · intro valid
    constructor
    · intro field required
      obtain ⟨value, found⟩ := valid.present field required
      rw [sent.names, found]
      exact ⟨_, rfl⟩
    · intro entry member
      obtain ⟨name, value, before, rfl⟩ := sent.mem_iff.mp member
      exact valid.known (.str name, value) before
    · exact sent.lookup_str_iff.mpr valid.versioned
    · obtain ⟨eventType, allowed, found⟩ := valid.typed
      exact ⟨eventType, allowed, sent.lookup_str_iff.mpr found⟩
    · obtain ⟨payload, provenance, hasPayload, hasProvenance, clean⟩ := valid.evidenced
      obtain ⟨sentPayload, foundPayload, insidePayload⟩ := sent.exists_lookup hasPayload
      obtain ⟨sentProvenance, foundProvenance, insideProvenance⟩ :=
        sent.exists_lookup hasProvenance
      exact ⟨sentPayload, sentProvenance, foundPayload, foundProvenance,
        (validateNumericProvenance_sent insidePayload insideProvenance).mpr clean⟩
    · rw [Ne, Ne, sent.getOr_eq_none_iff, sent.getOr_eq_none_iff]
      exact valid.located
    · obtain ⟨other, printed, found⟩ := valid.signed
      obtain rfl := Except.ok.inj (signedText.symm.trans printed)
      exact ⟨text, sentText, sent.lookup_str_iff.mpr found⟩

/-- The check of the event type ends in the same way. -/
theorem LoadedFrom.eventTypeIssues_eq (sent : LoadedFrom event sentEvent) :
    eventTypeIssues (getOr sentEvent "event_type" .none) =
      eventTypeIssues (getOr event "event_type" .none) := by
  rw [reload_getOr sent.names rfl]
  have plain := isPlain_getOr sent.plain isPlain_none "event_type"
  rcases reload_cases (rfl : canonicalOptions.sortKeys = true) rfl plain with
    kept | ⟨items, isList, same⟩ | ⟨entries, loaded, isDict, same, -⟩
  · rw [kept]
  · rw [same, isList]
    rfl
  · rw [same, isDict]
    rfl

theorem LoadedFrom.integrityIssues_isOk (sent : LoadedFrom event sentEvent) :
    (∃ issues, integrityIssues sha256Hex event = .ok issues) ∧
      ∃ issues, integrityIssues sha256Hex sentEvent = .ok issues := by
  rw [integrityIssues_isOk_iff sent.plain.json,
    integrityIssues_isOk_iff sent.isPlain_loaded.json]
  exact ⟨fun _ _ => sent.plain.finite, fun _ _ => sent.isPlain_loaded.finite⟩

/-- The validation ends with the same verdict, or with the same error. -/
theorem LoadedFrom.validated_cases (sent : LoadedFrom event sentEvent) :
    (∃ problem, validateEventEnvelope sha256Hex event = .error problem ∧
        validateEventEnvelope sha256Hex sentEvent = .error problem) ∨
      ((getOr event "event_type" .none).asKey.isSome = true ∧
        ∃ report sentReport, validateEventEnvelope sha256Hex event = .ok report ∧
          validateEventEnvelope sha256Hex sentEvent = .ok sentReport ∧
          sentReport.valid = report.valid) := by
  obtain ⟨signed, sentSigned⟩ := @LoadedFrom.integrityIssues_isOk sha256Hex _ _ sent
  cases typed : eventTypeIssues (getOr event "event_type" .none) with
  | error failure =>
      left
      refine ⟨.python failure, ?_, ?_⟩
      · simp only [validateEventEnvelope, typed, Except.mapError, bind, Except.bind]
      · simp only [validateEventEnvelope, sent.eventTypeIssues_eq, typed, Except.mapError, bind,
          Except.bind]
  | ok issues =>
      right
      refine ⟨eventTypeIssues_isOk_iff.mp ⟨issues, typed⟩, ?_⟩
      obtain ⟨report, validated⟩ := validateEventEnvelope_isOk_iff.mpr ⟨⟨issues, typed⟩, signed⟩
      obtain ⟨sentReport, sentValidated⟩ := validateEventEnvelope_isOk_iff.mpr
        ⟨⟨issues, sent.eventTypeIssues_eq.trans typed⟩, sentSigned⟩
      refine ⟨report, sentReport, validated, sentValidated, ?_⟩
      have valid : report.valid = true ↔ IsValidEvent sha256Hex event := by
        rw [← Events.isValidEvent_iff, validated]
        simp
      have sentValid : sentReport.valid = true ↔ IsValidEvent sha256Hex sentEvent := by
        rw [← Events.isValidEvent_iff, sentValidated]
        simp
      rw [Bool.eq_iff_iff, sentValid, sent.isValidEvent_iff, valid]

end Validation

/-- An event with a JSON text and an id that can be hashed. -/
structure JsonEvent where
  fields : List (Key × Value)
  plain : (Value.dict fields).IsPlain
  identified : (getOr fields "event_id" (.str "")).asKey.isSome = true

theorem LoadedFrom.event_id_eq
    {event sentEvent : List (Key × Value)} (sent : LoadedFrom event sentEvent)
    (identified : (getOr event "event_id" (.str "")).asKey.isSome = true) :
    getOr sentEvent "event_id" (.str "") = getOr event "event_id" (.str "") := by
  rw [reload_getOr sent.names (reload_str "")]
  exact reload_of_hashable (isPlain_getOr sent.plain (isPlain_str "") _) identified

theorem JsonEvent.loadedFrom (event : JsonEvent) :
    LoadedFrom event.fields (sentFields event.fields) := by
  obtain ⟨-, -, -, sent⟩ := exists_sent event.plain
  exact sent

theorem JsonEvent.plain_sent (event : JsonEvent) :
    (Value.dict (sentFields event.fields)).IsPlain :=
  event.loadedFrom.isPlain_loaded

theorem JsonEvent.identified_sent (event : JsonEvent) :
    (getOr (sentFields event.fields) "event_id" (.str "")).asKey.isSome = true := by
  rw [event.loadedFrom.event_id_eq event.identified]
  exact event.identified

/-- The event as it arrives. -/
def JsonEvent.sent (event : JsonEvent) : JsonEvent :=
  { fields := sentFields event.fields
    plain := event.plain_sent
    identified := event.identified_sent }

/-! What the consumer does with it. -/

section Consumer

variable {Time : Type} [LinearOrder Time] {fromIsoformat : String → Except Failure Time}
  {sha256Hex : List Char → String}

theorem isExpired_of_no_text
    {event payload : List (Key × Value)} {now : Time}
    (hasPayload : lookupEntry event (.str "payload") = some (.dict payload))
    (noText : ∀ text, getOr payload "expires_at_utc" .none ≠ .str text) :
    isExpired fromIsoformat event now = .ok false := by
  unfold isExpired
  rw [getOr, hasPayload]
  dsimp only [Option.getD_some]
  split
  next expiresRaw same => exact absurd same (noText expiresRaw)
  next => rfl

theorem isExpired_of_text
    {event other payload otherPayload : List (Key × Value)} {now : Time} {text : String}
    (hasPayload : lookupEntry event (.str "payload") = some (.dict payload))
    (hasOther : lookupEntry other (.str "payload") = some (.dict otherPayload))
    (expires : getOr payload "expires_at_utc" .none = .str text)
    (otherExpires : getOr otherPayload "expires_at_utc" .none = .str text) :
    isExpired fromIsoformat other now = isExpired fromIsoformat event now := by
  unfold isExpired
  rw [getOr, getOr, hasPayload, hasOther]
  dsimp only [Option.getD_some]
  rw [expires, otherExpires]

theorem LoadedFrom.isExpired_eq
    {event sentEvent payload : List (Key × Value)} (sent : LoadedFrom event sentEvent)
    (hasPayload : lookupEntry event (.str "payload") = some (.dict payload)) (now : Time) :
    isExpired fromIsoformat sentEvent now = isExpired fromIsoformat event now := by
  obtain ⟨inner, hasInner, inside⟩ := sent.exists_lookup hasPayload
  have plain := isPlain_getOr inside.plain isPlain_none "expires_at_utc"
  have read : getOr inner "expires_at_utc" .none =
      (getOr payload "expires_at_utc" .none).reload canonicalOptions :=
    reload_getOr inside.names rfl "expires_at_utc"
  by_cases isText : ∃ text, getOr payload "expires_at_utc" .none = .str text
  · obtain ⟨text, same⟩ := isText
    apply isExpired_of_text hasPayload hasInner same
    rw [read, same, reload_str]
  · rw [isExpired_of_no_text hasPayload (fun text same => isText ⟨text, same⟩)]
    apply isExpired_of_no_text hasInner
    intro text same
    rw [read, reload_eq_str_iff plain] at same
    exact isText ⟨text, same⟩

/-- What a decision says but for its reason, which lists issues in the order of
the event. -/
def verdictOf (decision : ConsumptionDecision) : String × String × Action :=
  (decision.eventId, decision.eventType, decision.action)

variable {event sentEvent : List (Key × Value)} {seenEventIds : Option (KeySet String)}
  {wallClock : Time} {nowUtc : ReferenceClock Time}

theorem consumeEvent_of_invalid
    {now : Time} (resolved : resolveNowUtc wallClock nowUtc = .ok now)
    {report : EventValidationReport}
    (validated : validateEventEnvelope sha256Hex event = .ok report)
    (invalid : report.valid = false) :
    ∃ reason, consumeEvent fromIsoformat sha256Hex event seenEventIds wallClock nowUtc =
      .ok (decisionOf event .reject reason, seenEventIds) := by
  simp only [consumeEvent, resolved, validated, invalid, bind, Except.bind, Bool.not_false,
    if_true]
  exact ⟨_, rfl⟩

theorem LoadedFrom.event_type_eq (sent : LoadedFrom event sentEvent)
    (hashable : (getOr event "event_type" .none).asKey.isSome = true) :
    eventTypeOf sentEvent = eventTypeOf event := by
  have same : lookupEntry sentEvent (.str "event_type") =
      lookupEntry event (.str "event_type") := by
    rw [sent.names]
    cases found : lookupEntry event (.str "event_type") with
    | none => rfl
    | some value =>
        rw [getOr, found] at hashable
        rw [Option.map_some, reload_of_hashable (isPlain_of_lookup sent.plain found) hashable]
  rw [eventTypeOf, eventTypeOf, getOr, getOr, same]

/-- A valid event is consumed in the same way, reason included. -/
theorem LoadedFrom.consumeEvent_of_valid (sent : LoadedFrom event sentEvent)
    (identified : eventIdOf sentEvent = eventIdOf event)
    (typed : eventTypeOf sentEvent = eventTypeOf event) {now : Time}
    (resolved : resolveNowUtc wallClock nowUtc = .ok now)
    {report sentReport : EventValidationReport}
    (validated : validateEventEnvelope sha256Hex event = .ok report)
    (sentValidated : validateEventEnvelope sha256Hex sentEvent = .ok sentReport)
    (valid : report.valid = true) (sentValid : sentReport.valid = true) :
    consumeEvent fromIsoformat sha256Hex sentEvent seenEventIds wallClock nowUtc =
      consumeEvent fromIsoformat sha256Hex event seenEventIds wallClock nowUtc := by
  obtain ⟨payload, provenance, hasPayload, hasProvenance, -⟩ := accepted_payload validated valid
  have decided : decisionOf sentEvent = decisionOf event := by
    funext action reason
    rw [decisionOf, decisionOf, identified, typed]
  have expiry : isExpired fromIsoformat sentEvent = isExpired fromIsoformat event :=
    funext (sent.isExpired_eq hasPayload)
  simp only [consumeEvent, resolved, validated, sentValidated, valid, sentValid, decided, expiry,
    identified, typed, hasAgentNumericSource_sent sent hasProvenance, sent.truthy_getOr, bind,
    Except.bind, Bool.not_true, Bool.false_eq_true, if_false]

/-- The consumer ends with the same verdict and the same ids, or the same error. -/
theorem LoadedFrom.consumeEvent_eq (sent : LoadedFrom event sentEvent)
    (identified : (getOr event "event_id" (.str "")).asKey.isSome = true) :
    (consumeEvent fromIsoformat sha256Hex sentEvent seenEventIds wallClock nowUtc).map
        (Prod.map verdictOf id) =
      (consumeEvent fromIsoformat sha256Hex event seenEventIds wallClock nowUtc).map
        (Prod.map verdictOf id) := by
  cases resolved : resolveNowUtc wallClock nowUtc with
  | error problem => simp only [consumeEvent, resolved, bind, Except.bind, Except.map]
  | ok now =>
      have sameId : eventIdOf sentEvent = eventIdOf event :=
        congrArg Value.text (sent.event_id_eq identified)
      rcases @LoadedFrom.validated_cases sha256Hex _ _ sent with
        ⟨problem, failed, sentFailed⟩ |
          ⟨hashable, report, sentReport, validated, sentValidated, sameValid⟩
      · simp only [consumeEvent, resolved, failed, sentFailed, bind, Except.bind, Except.map]
      · have sameType := sent.event_type_eq hashable
        cases valid : report.valid with
        | true =>
            rw [sent.consumeEvent_of_valid sameId sameType resolved validated sentValidated valid
              (sameValid.trans valid)]
        | false =>
            obtain ⟨reason, rejected⟩ :=
              @consumeEvent_of_invalid _ _ fromIsoformat _ _ seenEventIds _ _ _ resolved _ validated
                valid
            obtain ⟨sentReason, sentRejected⟩ :=
              @consumeEvent_of_invalid _ _ fromIsoformat _ _ seenEventIds _ _ _ resolved _
                sentValidated (sameValid.trans valid)
            rw [rejected, sentRejected]
            simp only [Except.map, Prod.map, verdictOf, decisionOf, sameId, sameType]

theorem LoadedFrom.consumeStep_eq (sent : LoadedFrom event sentEvent)
    (identified : (getOr event "event_id" (.str "")).asKey.isSome = true)
    (seen : KeySet String) :
    (consumeStep fromIsoformat sha256Hex seen ⟨sentEvent, wallClock, nowUtc⟩).1.map verdictOf =
        (consumeStep fromIsoformat sha256Hex seen ⟨event, wallClock, nowUtc⟩).1.map verdictOf ∧
      (consumeStep fromIsoformat sha256Hex seen ⟨sentEvent, wallClock, nowUtc⟩).2 =
        (consumeStep fromIsoformat sha256Hex seen ⟨event, wallClock, nowUtc⟩).2 := by
  have same := @LoadedFrom.consumeEvent_eq _ _ fromIsoformat sha256Hex _ _ (some seen) wallClock
    nowUtc sent identified
  unfold consumeStep
  dsimp only
  cases consumed : consumeEvent fromIsoformat sha256Hex event (some seen) wallClock nowUtc with
  | error problem =>
      cases sentConsumed : consumeEvent fromIsoformat sha256Hex sentEvent (some seen) wallClock
          nowUtc with
      | error other =>
          rw [consumed, sentConsumed] at same
          obtain rfl := Except.error.inj same
          exact ⟨rfl, rfl⟩
      | ok result =>
          rw [consumed, sentConsumed] at same
          cases same
  | ok result =>
      cases sentConsumed : consumeEvent fromIsoformat sha256Hex sentEvent (some seen) wallClock
          nowUtc with
      | error other =>
          rw [consumed, sentConsumed] at same
          cases same
      | ok sentResult =>
          rw [consumed, sentConsumed] at same
          obtain ⟨verdict, after⟩ := Prod.mk.inj (Except.ok.inj same)
          exact ⟨congrArg Except.ok verdict, congrArg (Option.getD · seen) after⟩

end Consumer

/-! Runs of the consumer on events that were sent. -/

/-- A call with an event that is sent a number of times before. -/
structure SentCall (Time : Type) where
  event : JsonEvent
  hops : Nat
  wallClock : Time
  nowUtc : ReferenceClock Time

variable {Time : Type}

/-- The call on the event itself. -/
def SentCall.direct (call : SentCall Time) : ConsumeCall Time :=
  ⟨call.event.fields, call.wallClock, call.nowUtc⟩

/-- The call on what arrives. -/
def SentCall.arrived (call : SentCall Time) : ConsumeCall Time :=
  ⟨(JsonEvent.sent^[call.hops] call.event).fields, call.wallClock, call.nowUtc⟩

variable [LinearOrder Time]

theorem consumeStep_arrived
    (fromIsoformat : String → Except Failure Time) (sha256Hex : List Char → String)
    (seen : KeySet String) (call : SentCall Time) :
    (consumeStep fromIsoformat sha256Hex seen call.arrived).1.map verdictOf =
        (consumeStep fromIsoformat sha256Hex seen call.direct).1.map verdictOf ∧
      (consumeStep fromIsoformat sha256Hex seen call.arrived).2 =
        (consumeStep fromIsoformat sha256Hex seen call.direct).2 := by
  obtain ⟨event, hops, wallClock, nowUtc⟩ := call
  dsimp only [SentCall.arrived, SentCall.direct]
  induction hops with
  | zero => exact ⟨rfl, rfl⟩
  | succ hops induction =>
      rw [Function.iterate_succ_apply']
      obtain ⟨verdict, after⟩ := @LoadedFrom.consumeStep_eq Time _ fromIsoformat sha256Hex _ _
        wallClock nowUtc (JsonEvent.sent^[hops] event).loadedFrom
        (JsonEvent.sent^[hops] event).identified seen
      exact ⟨verdict.trans induction.1, after.trans induction.2⟩

/-- An event comes back from its text, and every run ends in the same verdicts
and the same ids whether its events were sent before or not. -/
theorem sent_events_consumed_alike
    (fromIsoformat : String → Except Failure Time) (sha256Hex : List Char → String)
    (seen : KeySet String) (calls : List (SentCall Time)) :
    (∀ call ∈ calls, ∃ text, canonicalJson (.dict call.event.fields) = .ok text ∧
        loads text = some (.dict call.event.sent.fields)) ∧
      (trace (consumeStep fromIsoformat sha256Hex) seen (calls.map SentCall.arrived)).map
          (fun event => (event.reply.map verdictOf, event.after)) =
        (trace (consumeStep fromIsoformat sha256Hex) seen (calls.map SentCall.direct)).map
          (fun event => (event.reply.map verdictOf, event.after)) := by
  constructor
  · intro call _
    obtain ⟨text, dumped, back, -⟩ := exists_sent call.event.plain
    exact ⟨text, dumped, back⟩
  · induction calls generalizing seen with
    | nil => rfl
    | cons call calls induction =>
        obtain ⟨verdict, after⟩ := consumeStep_arrived fromIsoformat sha256Hex seen call
        simp only [List.map_cons, trace, eventOf, verdict, after, induction]

end SuperAdvisor.Events
