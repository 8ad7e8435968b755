import SuperAdvisor.Events.FailClosed
import SuperAdvisor.Events.PublishedNumbers
import SuperAdvisor.Events.Redaction
import SuperAdvisor.Foundation.PlainEquality
import SuperAdvisor.Foundation.ShownText

/-!
# Redacted events are valid

Redacting an accepted event masks six values of its payload, changes nothing
else but the redaction status and the hash, and gives an accepted event that
redacting again leaves as it is.
-/

namespace SuperAdvisor.Events

open Python JsonText

/-- Both values are missing, or they are equal. -/
def Agree : Option Value → Option Value → Prop :=
  Option.Rel (fun left right => left.equals right = true)

/-- The masked payload has UNKNOWN under the redacted keys that are present, and
otherwise the entries of the payload. -/
def MaskedFrom (payload masked : List (Key × Value)) : Prop :=
  ∀ name, if name ∈ redactedKeys ∧ (lookupEntry payload (.str name)).isSome then
      lookupEntry masked (.str name) = some (.str "UNKNOWN")
    else Agree (lookupEntry payload (.str name)) (lookupEntry masked (.str name))

/-- What redacting an event makes of it. -/
structure RedactedFrom (sha256Hex : List Char → String) (event redacted : List (Key × Value)) :
    Prop where
  accepted : ∃ report, validateEventEnvelope sha256Hex redacted = .ok report ∧ report.valid = true
  status : lookupEntry redacted (.str "redaction_status") = some (.str "REDACTED")
  payload : ∃ payload masked, lookupEntry event (.str "payload") = some (.dict payload) ∧
    lookupEntry redacted (.str "payload") = some (.dict masked) ∧ MaskedFrom payload masked
  others : ∀ name, name ≠ "payload" → name ≠ "redaction_status" → name ≠ "integrity_hash" →
    Agree (lookupEntry event (.str name)) (lookupEntry redacted (.str name))
  stable : redactEvent sha256Hex (.dict redacted) = .ok redacted

/-! Numeric provenance. -/

theorem numericFieldIssues_of_covering
    {provenance : List (Key × Value)} {field : Key} {covering : List (Key × Value)}
    (covers : CoveringEntry provenance field covering) :
    numericFieldIssues field (.dict covering) = [] := by
  obtain ⟨realtimeClass, allowed, known, found, computed⟩ := covers.explicit
  have read : getOr covering "realtime_class" .none = .str realtimeClass := by
    rw [getOr, found]
    rfl
  have listed : isOneOf (.str realtimeClass) realtimeClassAllowed = true :=
    isOneOf_iff.mpr ⟨realtimeClass, allowed, rfl⟩
  have notUnknown : (Value.str realtimeClass).equals (.str realtimeClassUnknown) = false := by
    rw [← Bool.not_eq_true, equals_str_iff]
    exact fun same => known (Value.str.inj same)
  simp only [numericFieldIssues, List.append_eq_nil_iff, List.map_eq_nil_iff,
    List.filter_eq_nil_iff]
  refine ⟨⟨⟨?_, ?_⟩, ?_⟩, ?_⟩
  · exact fun required inside => by simp [covers.sourced required inside]
  · simp [read, listed, notUnknown]
  · rw [read]
    split
    next both =>
      obtain ⟨isComputed, unformulated⟩ := Bool.and_eq_true_iff.mp both
      have formula := computed (Value.str.inj (equals_str_iff.mp isComputed))
      simp [formula] at unformulated
    next => rfl
  · exact if_neg covers.notAgent

theorem validateNumericProvenance_of_covered
    {payload provenance : List (Key × Value)}
    (covered : ∀ entry ∈ payload, isNumeric entry.2 = true →
      ∃ covering, CoveringEntry provenance entry.1 covering) :
    validateNumericProvenance payload provenance = [] := by
  unfold validateNumericProvenance
  dsimp only
  split
  next => rfl
  next nonempty =>
    have each : ∀ field ∈ numericPayloadFields payload,
        ∃ covering, CoveringEntry provenance field covering := by
      intro field member
      obtain ⟨entry, inside, rfl⟩ := List.mem_map.mp member
      exact covered entry (List.mem_filter.mp inside).1 (List.mem_filter.mp inside).2
    obtain ⟨field, member⟩ := List.exists_mem_of_ne_nil (numericPayloadFields payload)
      (by simpa using nonempty)
    obtain ⟨_, ⟨fields, known, -⟩, -⟩ := each field member
    have read : getOr provenance "numeric_fields" .none = .dict fields := by
      rw [getOr, known]
      rfl
    rw [read]
    refine List.flatMap_eq_nil_iff.mpr (fun other inside => ?_)
    obtain ⟨covering, covers⟩ := each other inside
    obtain ⟨fields', known', found⟩ := covers.found
    rw [known] at known'
    obtain rfl : fields = fields' := by simpa using known'
    rw [getKey, found]
    exact numericFieldIssues_of_covering covers

/-! Values that are dumped and loaded. -/

section Reload

variable {value : Value}

theorem reload_getOr
    {entries loaded : List (Key × Value)}
    (names : ∀ name, lookupEntry loaded (.str name) =
      (lookupEntry entries (.str name)).map (Value.reload canonicalOptions))
    {default : Value} (fixed : default.reload canonicalOptions = default) (name : String) :
    getOr loaded name default = (getOr entries name default).reload canonicalOptions := by
  rw [getOr, getOr, names]
  cases lookupEntry entries (.str name) with
  | none => exact fixed.symm
  | some value => rfl

theorem isPlain_getOr
    {entries : List (Key × Value)} (plain : (Value.dict entries).IsPlain) {default : Value}
    (plainDefault : default.IsPlain) (name : String) : (getOr entries name default).IsPlain := by
  rw [getOr]
  cases found : lookupEntry entries (.str name) with
  | none => exact plainDefault
  | some value => exact isPlain_of_lookup plain found

theorem isPlain_none : Value.none.IsPlain :=
  ⟨trivial, trivial⟩

theorem isPlain_str (text : String) : (Value.str text).IsPlain :=
  ⟨trivial, trivial⟩

theorem reload_str (text : String) :
    (Value.str text).reload canonicalOptions = .str text := rfl

/-- A plain value that loads back as a value of another kind than a list or a
dictionary is that value. -/
theorem eq_of_reload
    (plain : value.IsPlain) {other : Value} (same : value.reload canonicalOptions = other)
    (notList : ∀ items, other ≠ .list items) (notDict : ∀ entries, other ≠ .dict entries) :
    value = other := by
  rcases reload_cases (rfl : canonicalOptions.sortKeys = true) rfl plain with
    kept | ⟨items, -, isList⟩ | ⟨entries, loaded, -, isDict, -⟩
  · rw [← same, kept]
  · exact absurd (same.symm.trans isList) (notList _)
  · exact absurd (same.symm.trans isDict) (notDict _)

theorem isNumeric_reload (plain : value.IsPlain) :
    isNumeric (value.reload canonicalOptions) = isNumeric value := by
  rcases reload_cases (rfl : canonicalOptions.sortKeys = true) rfl plain with
    kept | ⟨items, rfl, isList⟩ | ⟨entries, loaded, rfl, isDict, -⟩
  · rw [kept]
  · rw [isList]
    rfl
  · rw [isDict]
    rfl

private theorem toLower_of_opensValue {symbol : Char} (opens : opensValue symbol = true) :
    symbol.toLower ∉ ['a', 'l', 's'] := by
  have small : symbol.toNat < 128 := by
    rcases Bool.or_eq_true_iff.mp opens with digit | listed
    · have high : symbol.toNat ≤ 57 := (Char.isDigit_iff_toNat.mp digit).2
      omega
    · have each : ['-', 'N', 'T', 'F', 'n', 'i', '[', '(', Char.ofNat 0x7b, '<'].all
          (fun mark => decide (mark.toNat < 128)) = true := by decide
      exact of_decide_eq_true (List.all_eq_true.mp each symbol (List.contains_iff_mem.mp listed))
  have each : ∀ code < 128, opensValue (Char.ofNat code) = true →
      (Char.ofNat code).toLower ∉ ['a', 'l', 's'] := by decide +kernel
  have known := each symbol.toNat small
  rw [Char.ofNat_toNat] at known
  exact known opens

/-- The text of a value that is no string does not name an agent. -/
theorem not_agentSource
    (noText : ∀ text, value ≠ .str text) : value.text.toLower ∉ agentSources := by
  obtain ⟨symbol, head, opens⟩ := exists_opensValue noText
  intro listed
  have lowered : value.text.toLower.toList.head? = some symbol.toLower := by
    delta String.toLower
    rw [String.toList_map, List.head?_map, head]
    rfl
  have first : ∀ source ∈ agentSources,
      source.toList.head?.all (['a', 'l', 's'].contains ·) = true := by
    decide +kernel
  have known := first _ listed
  rw [lowered, Option.all_some, List.contains_iff_mem] at known
  exact toLower_of_opensValue opens known

private theorem sourceSystem_reload
    {entries loaded : List (Key × Value)} (plain : (Value.dict entries).IsPlain)
    (names : ∀ name, lookupEntry loaded (.str name) =
      (lookupEntry entries (.str name)).map (Value.reload canonicalOptions))
    (notAgent : sourceSystem entries ∉ agentSources) : sourceSystem loaded ∉ agentSources := by
  have plainSource := isPlain_getOr plain (isPlain_str "") "source_system"
  rw [sourceSystem, reload_getOr names (reload_str "")]
  by_cases isText : ∃ text, getOr entries "source_system" (.str "") = .str text
  · obtain ⟨text, same⟩ := isText
    rw [sourceSystem, same] at notAgent
    rw [same, reload_str]
    exact notAgent
  · refine not_agentSource (fun text same => isText ⟨text, ?_⟩)
    exact eq_of_reload plainSource same (by simp) (by simp)

/-- Provenance that covers a field still does after it was dumped and loaded. -/
theorem covering_reload
    {provenance loaded : List (Key × Value)} (plain : (Value.dict provenance).IsPlain)
    (names : ∀ name, lookupEntry loaded (.str name) =
      (lookupEntry provenance (.str name)).map (Value.reload canonicalOptions))
    {field : String} {covering : List (Key × Value)}
    (covers : CoveringEntry provenance (.str field) covering) :
    ∃ covering, CoveringEntry loaded (.str field) covering := by
  obtain ⟨fields, known, found⟩ := covers.found
  have plainFields := isPlain_of_lookup plain known
  have plainEntry := isPlain_of_lookup plainFields found
  obtain ⟨fields', sameFields, -, fieldNames⟩ :=
    exists_reload_dict (rfl : canonicalOptions.sortKeys = true) rfl plainFields
  obtain ⟨covering', sameEntry, -, entryNames⟩ :=
    exists_reload_dict (rfl : canonicalOptions.sortKeys = true) rfl plainEntry
  have read : ∀ name, getOr covering' name .none =
      (getOr covering name .none).reload canonicalOptions := reload_getOr entryNames rfl
  refine ⟨covering', ⟨fields', ?_, ?_⟩, ?_, sourceSystem_reload plainEntry entryNames
    covers.notAgent, ?_⟩
  · rw [names, known, Option.map_some, sameFields]
  · rw [fieldNames, found, Option.map_some, sameEntry]
  · intro required inside
    rw [read, truthy_reload rfl rfl (isPlain_getOr plainEntry isPlain_none required)]
    exact covers.sourced required inside
  · obtain ⟨realtimeClass, allowed, notUnknown, looked, computed⟩ := covers.explicit
    refine ⟨realtimeClass, allowed, notUnknown, by rw [entryNames, looked]; rfl, ?_⟩
    intro isComputed
    rw [read, truthy_reload rfl rfl (isPlain_getOr plainEntry isPlain_none "formula_version")]
    exact computed isComputed

end Reload

/-! The event. -/

section Event

variable {sha256Hex : List Char → String} {fields : List (String × Value)}

theorem redactEvent_named
    (distinct : (OrderedDict.keys fields).Nodup) {document : Document}
    (converted : (Value.dict (named fields)).toDocument canonicalOptions = .ok document) :
    redactEvent sha256Hex (.dict (named fields)) =
      withHash sha256Hex (named (redactedFields (reloadFields canonicalOptions fields))) := by
  have dumped : canonicalJson (.dict (named fields)) = .ok (render false document) := by
    rw [canonicalJson, dumps, converted]
    rfl
  have loaded := loads_dumps dumped
  rw [reload_named rfl distinct converted] at loaded
  simp only [redactEvent, dumped, loaded, Except.mapError, bind, Except.bind]
  rw [show (sortByName fields).map (fun entry => (entry.1, entry.2.reload canonicalOptions)) =
    reloadFields canonicalOptions fields from rfl, withRedactedPayload_named, setEntry_named,
    setEntry_named, redactedFields]

theorem isPlain_redactValue {value : Value} (plain : value.IsPlain) :
    (redactValue value).IsPlain := by
  cases value with
  | dict payload =>
      obtain ⟨fields, rfl, distinct, each⟩ := exists_named_of_isPlain plain
      rw [redactValue, redactPayload_named]
      refine isPlain_named (by rwa [keys_redactNames]) (fun field member => ?_)
      rcases mem_redactNames redactedKeys member with masked | old
      · rw [masked]
        exact isPlain_str "UNKNOWN"
      · exact each field old
  | _ => exact plain

/-- A redacted payload that is dumped and loaded is redacted already. -/
theorem redactValue_again {value : Value} (plain : value.IsPlain) :
    redactValue ((redactValue (value.reload canonicalOptions)).reload canonicalOptions) =
      redactValue (value.reload canonicalOptions) := by
  have loaded : (value.reload canonicalOptions).IsPlain := isPlain_reload rfl rfl plain
  have unique : UniqueKeys (value.reload canonicalOptions) := by
    cases shape : value.reload canonicalOptions with
    | dict entries =>
        rw [shape] at loaded
        exact loaded.json.2.1
    | _ => trivial
  have twice := redactValue_reload (rfl : canonicalOptions.sortKeys = true) unique
    (loaded.exists_document rfl rfl)
  rwa [reload_reload rfl rfl (isPlain_redactValue loaded), reload_reload rfl rfl loaded,
    reload_reload rfl rfl plain] at twice

/-- The fields of a redacted event with its hash. -/
def signedFields (fields : List (String × Value)) (integrityHash : String) :
    List (String × Value) :=
  OrderedDict.set (redactedFields (reloadFields canonicalOptions fields)) "integrity_hash"
    (.str integrityHash)

theorem get?_signedFields
    (distinct : (OrderedDict.keys fields).Nodup) (integrityHash name : String) :
    OrderedDict.get? (signedFields fields integrityHash) name =
      if name = "integrity_hash" then some (.str integrityHash)
      else if name = "redaction_status" then some (.str "REDACTED")
      else (OrderedDict.get? fields name).map (fun value =>
        if name = "payload" then redactValue (value.reload canonicalOptions)
        else value.reload canonicalOptions) := by
  rw [signedFields]
  by_cases isHash : name = "integrity_hash"
  · rw [isHash, OrderedDict.get?_set_self, if_pos rfl]
  · rw [OrderedDict.get?_set_of_ne _ _ isHash, if_neg isHash, get?_redactedFields, if_neg isHash,
      get?_reloadFields distinct, Option.map_map]
    rfl

theorem keys_signedFields (signed : IsSigned fields) (integrityHash : String) :
    OrderedDict.keys (signedFields fields integrityHash) =
      (OrderedDict.keys fields).insertionSort (fun left right => left ≤ right) := by
  have once : IsSigned (reloadFields canonicalOptions fields) := isSigned_reloadFields signed
  have hashed := once.hashed
  rw [← keys_redactedFields once] at hashed
  rw [signedFields, OrderedDict.keys_set_of_mem hashed, keys_redactedFields once,
    keys_reloadFields]

/-- The values of a plain record. -/
private theorem isPlain_of_get?
    (plain : (Value.dict (named fields)).IsPlain) {name : String} {value : Value}
    (found : OrderedDict.get? fields name = some value) : value.IsPlain :=
  isPlain_of_lookup plain (by rw [lookupEntry_named, found])

/-- Redacting the signed event gives the fields it was signed with. -/
theorem redactedFields_signed
    (signed : IsSigned fields) (plain : (Value.dict (named fields)).IsPlain)
    (integrityHash : String) :
    redactedFields (reloadFields canonicalOptions (signedFields fields integrityHash)) =
      redactedFields (reloadFields canonicalOptions fields) := by
  have keys := keys_signedFields signed integrityHash
  have once : IsSigned (reloadFields canonicalOptions fields) := isSigned_reloadFields signed
  have mem : ∀ name, name ∈ OrderedDict.keys (signedFields fields integrityHash) ↔
      name ∈ OrderedDict.keys fields := by
    intro name
    rw [keys]
    exact (List.perm_insertionSort _ _).mem_iff
  have again : IsSigned (signedFields fields integrityHash) :=
    { distinct := keys ▸ (List.perm_insertionSort _ _).nodup_iff.mpr signed.distinct
      hashed := (mem _).mpr signed.hashed
      classified := (mem _).mpr signed.classified }
  have twice : IsSigned (reloadFields canonicalOptions (signedFields fields integrityHash)) :=
    isSigned_reloadFields again
  refine OrderedDict.eq_of_get? ?_ ?_ ?_
  · rw [keys_redactedFields twice, keys_reloadFields, keys, keys_redactedFields once,
      keys_reloadFields]
    exact (List.pairwise_insertionSort _ _).insertionSort_eq
  · rw [keys_redactedFields twice]
    exact twice.distinct
  · intro name _
    rw [get?_redactedFields, get?_redactedFields]
    by_cases isHash : name = "integrity_hash"
    · rw [if_pos isHash, if_pos isHash]
    rw [if_neg isHash, if_neg isHash]
    by_cases isStatus : name = "redaction_status"
    · rw [if_pos isStatus, if_pos isStatus]
    rw [if_neg isStatus, if_neg isStatus, get?_reloadFields again.distinct,
      get?_reloadFields signed.distinct, get?_signedFields signed.distinct, if_neg isHash,
      if_neg isStatus]
    cases found : OrderedDict.get? fields name with
    | none => rfl
    | some value =>
        have plainValue := isPlain_of_get? plain found
        by_cases isPayload : name = "payload"
        · simp [isPayload, redactValue_again plainValue]
        · have fixed := reload_reload (rfl : canonicalOptions.sortKeys = true) rfl plainValue
          simp [isPayload, fixed]

/-- Redacting a plain event signs its redacted fields. -/
theorem exists_signed
    (signed : IsSigned fields) (plain : (Value.dict (named fields)).IsPlain) :
    ∃ text, canonicalJson
        (.dict (named (redactedFields (reloadFields canonicalOptions fields)))) = .ok text ∧
      redactEvent sha256Hex (.dict (named fields)) =
        .ok (named (signedFields fields (sha256Hex text))) ∧
      redactEvent sha256Hex (.dict (named (signedFields fields (sha256Hex text)))) =
        .ok (named (signedFields fields (sha256Hex text))) := by
  obtain ⟨document, converted⟩ := plain.exists_document (rfl : canonicalOptions.sortKeys = true) rfl
  obtain ⟨_, loadedAgain⟩ := exists_toDocument_reload (rfl : canonicalOptions.sortKeys = true)
    ⟨document, converted⟩
  rw [reload_named rfl signed.distinct converted] at loadedAgain
  have convertible := convertible_redactedFields (rfl : canonicalOptions.sortKeys = true)
    (fun field member => toDocument_named_field rfl loadedAgain member)
  obtain ⟨printed, accepted⟩ := toDocument_named_ok rfl convertible
  have text : canonicalJson
      (.dict (named (redactedFields (reloadFields canonicalOptions fields)))) =
        .ok (render false printed) := by
    rw [canonicalJson, dumps]
    exact congrArg (Except.map (render false)) accepted
  have hash : withHash sha256Hex
      (named (redactedFields (reloadFields canonicalOptions fields))) =
        .ok (named (signedFields fields (sha256Hex (render false printed)))) := by
    rw [withHash, text]
    simp only [Except.mapError, bind, Except.bind, setEntry_named, signedFields]
  obtain ⟨other, signedConverted⟩ := toDocument_named_ok rfl
    (@convertible_set _ _ convertible "integrity_hash"
      (.str (sha256Hex (render false printed))) ⟨_, rfl⟩)
  have distinct : (OrderedDict.keys
      (signedFields fields (sha256Hex (render false printed)))).Nodup := by
    rw [keys_signedFields signed]
    exact (List.perm_insertionSort _ _).nodup_iff.mpr signed.distinct
  refine ⟨_, text, ?_, ?_⟩
  · rw [redactEvent_named signed.distinct converted, hash]
  · rw [redactEvent_named distinct signedConverted, redactedFields_signed signed plain, hash]

/-- The fields of an accepted event, with plain values. -/
theorem signed_of_valid
    (json : (Value.dict (named fields)).IsJson) (valid : IsValidEvent sha256Hex (named fields)) :
    IsSigned fields ∧ (Value.dict (named fields)).IsPlain := by
  have listed : ∀ name ∈ requiredEventFields, name ∈ OrderedDict.keys fields := by
    intro name required
    obtain ⟨value, found⟩ := valid.present name required
    rw [lookupEntry_named] at found
    exact List.mem_map_of_mem (OrderedDict.mem_of_get? found)
  obtain ⟨text, printed, signature⟩ := valid.signed
  have finite : (Value.dict (named fields)).FiniteNumbers := by
    refine (@integrityIssues_isOk_iff sha256Hex _ json).mp ?_ _ signature
    exact ⟨_, by simp [integrityIssues, getOr, signature, printed, bind, Except.bind]; rfl⟩
  exact ⟨⟨keys_named_nodup json.2.1, listed _ (by decide), listed _ (by decide)⟩, json, finite⟩

/-- A payload that was dumped, loaded and redacted. -/
theorem exists_masked
    {payload : List (Key × Value)} (plain : (Value.dict payload).IsPlain) :
    ∃ masked, redactValue ((Value.dict payload).reload canonicalOptions) = .dict masked ∧
      MaskedFrom payload masked ∧
      ∀ entry ∈ masked, isNumeric entry.2 = true →
        ∃ name value, entry.1 = .str name ∧ (.str name, value) ∈ payload ∧
          isNumeric value = true := by
  obtain ⟨document, converted⟩ := plain.exists_document (rfl : canonicalOptions.sortKeys = true) rfl
  obtain ⟨fields, rfl, distinct, each⟩ := exists_named_of_isPlain plain
  have loaded : (Value.dict (named fields)).reload canonicalOptions =
      .dict (named (reloadFields canonicalOptions fields)) := reload_named rfl distinct converted
  refine ⟨named (redactNames redactedKeys (reloadFields canonicalOptions fields)), ?_, ?_, ?_⟩
  · rw [loaded, redactValue, redactPayload_named]
  · intro name
    rw [lookupEntry_named, lookupEntry_named, get?_redactNames, get?_reloadFields distinct]
    cases found : OrderedDict.get? fields name with
    | none => simp [Agree]
    | some value =>
        have plainValue := each _ (OrderedDict.mem_of_get? found)
        by_cases secret : name ∈ redactedKeys
        · simp [secret]
        · simp only [secret, false_and, if_false, Option.map_some, Agree, Option.rel_some_some]
          exact equals_reload rfl rfl value plainValue
  · intro entry member numeric
    obtain ⟨field, inside, rfl⟩ := List.mem_map.mp member
    rcases mem_redactNames redactedKeys inside with masked | old
    · rw [masked] at numeric
      cases numeric
    · obtain ⟨original, originalIn, rfl⟩ := List.mem_map.mp old
      have known := (sortByName_perm fields).mem_iff.mp originalIn
      refine ⟨original.1, original.2, rfl, List.mem_map_of_mem
        (f := fun field => (Key.str field.1, field.2)) known, ?_⟩
      rwa [isNumeric_reload (each original known)] at numeric

theorem setEntry_signedFields (integrityHash : String) :
    setEntry (named (signedFields fields integrityHash)) (.str "integrity_hash") (.str "") =
      named (redactedFields (reloadFields canonicalOptions fields)) := by
  rw [setEntry_named, signedFields, redactedFields, OrderedDict.set_set, OrderedDict.set_set]

/-- What the signed event has under a name. -/
theorem lookupEntry_signedFields (signed : IsSigned fields) (integrityHash name : String) :
    lookupEntry (named (signedFields fields integrityHash)) (.str name) =
      if name = "integrity_hash" then some (.str integrityHash)
      else if name = "redaction_status" then some (.str "REDACTED")
      else (lookupEntry (named fields) (.str name)).map (fun value =>
        if name = "payload" then redactValue (value.reload canonicalOptions)
        else value.reload canonicalOptions) := by
  rw [lookupEntry_named, lookupEntry_named, get?_signedFields signed.distinct]

private theorem mem_keys_signedFields (signed : IsSigned fields) {integrityHash name : String} :
    name ∈ OrderedDict.keys (signedFields fields integrityHash) ↔
      name ∈ OrderedDict.keys fields := by
  rw [keys_signedFields signed]
  exact (List.perm_insertionSort _ _).mem_iff

/-- The symbol and the timeframe are still there. -/
private theorem located_signedFields
    (signed : IsSigned fields) (plain : (Value.dict (named fields)).IsPlain)
    {integrityHash name : String} (notHash : name ≠ "integrity_hash")
    (notStatus : name ≠ "redaction_status") (notPayload : name ≠ "payload")
    (located : getOr (named fields) name .none ≠ .none) :
    getOr (named (signedFields fields integrityHash)) name .none ≠ .none := by
  have names : lookupEntry (named (signedFields fields integrityHash)) (.str name) =
      (lookupEntry (named fields) (.str name)).map (Value.reload canonicalOptions) := by
    rw [lookupEntry_signedFields signed, if_neg notHash, if_neg notStatus]
    simp [notPayload]
  intro missing
  rw [getOr, names] at missing
  rw [getOr] at located
  cases found : lookupEntry (named fields) (.str name) with
  | none => exact located (by rw [found]; rfl)
  | some value =>
      rw [found] at missing located
      exact located (eq_of_reload (isPlain_of_lookup plain found) missing (by simp) (by simp))

/-- The provenance of the redacted event covers the numbers that are left. -/
private theorem evidenced_signedFields
    (signed : IsSigned fields) (plain : (Value.dict (named fields)).IsPlain)
    {integrityHash : String} {payload provenance : List (Key × Value)}
    (hasPayload : lookupEntry (named fields) (.str "payload") = some (.dict payload))
    (hasProvenance : lookupEntry (named fields) (.str "provenance") = some (.dict provenance))
    (clean : validateNumericProvenance payload provenance = []) :
    ∃ masked loaded,
      lookupEntry (named (signedFields fields integrityHash)) (.str "payload") =
        some (.dict masked) ∧
      lookupEntry (named (signedFields fields integrityHash)) (.str "provenance") =
        some (.dict loaded) ∧
      MaskedFrom payload masked ∧ validateNumericProvenance masked loaded = [] := by
  have plainPayload := isPlain_of_lookup plain hasPayload
  have plainProvenance := isPlain_of_lookup plain hasProvenance
  obtain ⟨masked, isMasked, maskedFrom, numbers⟩ := exists_masked plainPayload
  obtain ⟨loaded, isLoaded, -, names⟩ :=
    exists_reload_dict (rfl : canonicalOptions.sortKeys = true) rfl plainProvenance
  refine ⟨masked, loaded, ?_, ?_, maskedFrom, validateNumericProvenance_of_covered ?_⟩
  · rw [lookupEntry_signedFields signed, hasPayload, ← isMasked]
    rfl
  · rw [lookupEntry_signedFields signed, hasProvenance, ← isLoaded]
    rfl
  · intro entry member numeric
    obtain ⟨name, value, isName, original, wasNumeric⟩ := numbers entry member numeric
    obtain ⟨covering, covers⟩ := covered_of_no_issues clean _ original wasNumeric
    rw [isName]
    exact covering_reload plainProvenance names covers

theorem isValidEvent_signedFields
    (signed : IsSigned fields) (plain : (Value.dict (named fields)).IsPlain)
    (valid : IsValidEvent sha256Hex (named fields)) {text : List Char}
    (printed : canonicalJson
      (.dict (named (redactedFields (reloadFields canonicalOptions fields)))) = .ok text) :
    IsValidEvent sha256Hex (named (signedFields fields (sha256Hex text))) := by
  constructor
  · intro field required
    obtain ⟨value, found⟩ := valid.present field required
    rw [lookupEntry_named] at found ⊢
    refine Option.ne_none_iff_exists'.mp ?_
    rw [Ne, OrderedDict.get?_eq_none_iff, mem_keys_signedFields signed]
    exact not_not_intro (List.mem_map_of_mem (OrderedDict.mem_of_get? found))
  · intro entry member
    obtain ⟨field, inside, rfl⟩ := List.mem_map.mp member
    have key := (mem_keys_signedFields signed).mp (List.mem_map_of_mem inside)
    obtain ⟨original, originalIn, same⟩ := List.mem_map.mp key
    obtain ⟨name, required, isName⟩ := valid.known _
      (List.mem_map_of_mem (f := fun field => (Key.str field.1, field.2)) originalIn)
    exact ⟨name, required, by rw [← isName, same]⟩
  · rw [lookupEntry_signedFields signed, valid.versioned]
    rfl
  · obtain ⟨eventType, allowed, found⟩ := valid.typed
    refine ⟨eventType, allowed, ?_⟩
    rw [lookupEntry_signedFields signed, found]
    rfl
  · obtain ⟨payload, provenance, hasPayload, hasProvenance, clean⟩ := valid.evidenced
    obtain ⟨masked, loaded, isMasked, isLoaded, -, covered⟩ :=
      evidenced_signedFields signed plain hasPayload hasProvenance clean
    exact ⟨masked, loaded, isMasked, isLoaded, covered⟩
  · exact ⟨located_signedFields signed plain (by simp) (by simp) (by simp) valid.located.1,
      located_signedFields signed plain (by simp) (by simp) (by simp) valid.located.2⟩
  · refine ⟨text, ?_, ?_⟩
    · rw [setEntry_signedFields, printed]
    · rw [lookupEntry_signedFields signed, if_pos rfl]

end Event

theorem redactEvent_redactedFrom
    (sha256Hex : List Char → String) (event : List (Key × Value))
    (json : (Value.dict event).IsJson)
    (accepted : ∃ report, validateEventEnvelope sha256Hex event = .ok report ∧
      report.valid = true) :
    ∃ redacted, redactEvent sha256Hex (.dict event) = .ok redacted ∧
      RedactedFrom sha256Hex event redacted := by
  obtain ⟨fields, rfl⟩ := exists_named json.1
  have valid := isValidEvent_iff.mp accepted
  obtain ⟨signed, plain⟩ := signed_of_valid json valid
  obtain ⟨text, printed, once, again⟩ := @exists_signed sha256Hex _ signed plain
  refine ⟨_, once, ?_⟩
  constructor
  · exact isValidEvent_iff.mpr (isValidEvent_signedFields signed plain valid printed)
  · rw [lookupEntry_signedFields signed]
    rfl
  · obtain ⟨payload, provenance, hasPayload, hasProvenance, clean⟩ := valid.evidenced
    obtain ⟨masked, -, isMasked, -, maskedFrom, -⟩ :=
      evidenced_signedFields signed plain hasPayload hasProvenance clean
    exact ⟨payload, masked, hasPayload, isMasked, maskedFrom⟩
  · intro name notPayload notStatus notHash
    rw [lookupEntry_signedFields signed, if_neg notHash, if_neg notStatus]
    cases found : lookupEntry (named fields) (.str name) with
    | none => exact .none
    | some value =>
        simp only [notPayload, if_false, Option.map_some]
        exact .some (equals_reload rfl rfl value (isPlain_of_lookup plain found))
  · exact again

/-- A price read from a terminal, as it is published. -/
def entryWarning : List (Key × Value) :=
  warningEvent [(.str "entry", .int 2310)] entryProvenance

private theorem isJson_entryWarning : (Value.dict entryWarning).IsJson := by
  have built : entryWarning.isEmpty = false := by decide +kernel
  rw [entryWarning, warningEvent] at built ⊢
  cases written : buildEventEnvelope sha256Hex
      { eventType := "DATA_QUALITY_WARNING"
        payload := [(.str "entry", .int 2310)]
        sourceComponent := "component"
        sourceAgent := "agent"
        evidenceReference := "evidence"
        provenance := some entryProvenance } "event" "correlation" "now" with
  | error problem => simp [written, Except.toOption] at built
  | ok event =>
      obtain ⟨text, -, rfl⟩ := buildEventEnvelope_eq_ok.mp written
      rw [Except.toOption, Option.getD_some]
      exact ⟨by simp [named, envelopeFields, Key.isStr], by simp [named, envelopeFields],
        by simp [named, envelopeFields, Value.IsJsonEntries, Value.IsJson, entryProvenance,
          Key.isStr]⟩

theorem entryWarning_redactedFrom :
    ∃ redacted, redactEvent sha256Hex (.dict entryWarning) = .ok redacted ∧
      RedactedFrom sha256Hex entryWarning redacted := by
  refine redactEvent_redactedFrom sha256Hex entryWarning isJson_entryWarning ?_
  have valid : (validateEventEnvelope sha256Hex entryWarning).toOption.map
      EventValidationReport.valid = some true := by
    decide +kernel
  cases validated : validateEventEnvelope sha256Hex entryWarning with
  | error problem => simp [validated, Except.toOption] at valid
  | ok report => exact ⟨report, rfl, by simpa [validated, Except.toOption] using valid⟩

end SuperAdvisor.Events
