import SuperAdvisor.Events.Envelope
import SuperAdvisor.Foundation.Reloading

/-!
# Redacted events

`redactEvent` loads the canonical JSON of an event and takes six values out of
its payload.  Taking them out before the event was stored, together with the
integrity hash, gives the same redacted event.
-/

namespace SuperAdvisor.Events

open Python

def redactedKeys : List String :=
  ["price", "probability", "entry", "stop_loss", "take_profit", "score"]

/-- `if key in payload: payload[key] = "UNKNOWN"` -/
def redactKey (payload : List (Key × Value)) (key : String) : List (Key × Value) :=
  if (lookupEntry payload (.str key)).isSome then setEntry payload (.str key) (.str "UNKNOWN")
  else payload

def redactPayload (payload : List (Key × Value)) : List (Key × Value) :=
  redactedKeys.foldl redactKey payload

/-- The event with its payload redacted, if that is a dictionary. -/
def withRedactedPayload (event : List (Key × Value)) : List (Key × Value) :=
  match getOr event "payload" .none with
  | .dict payload => setEntry event (.str "payload") (.dict (redactPayload payload))
  | _ => event

/-- An event with an empty hash gets its own. -/
def withHash (sha256Hex : List Char → String) (event : List (Key × Value)) :
    Except EventProblem (List (Key × Value)) := do
  let text ← (canonicalJson (.dict event)).mapError .json
  .ok (setEntry event (.str "integrity_hash") (.str (sha256Hex text)))

def redactEvent (sha256Hex : List Char → String) (event : Value) :
    Except EventProblem (List (Key × Value)) := do
  let text ← (canonicalJson event).mapError .json
  match loads text with
  | some (.dict loaded) =>
      withHash sha256Hex (setEntry (setEntry (withRedactedPayload loaded) (.str "redaction_status")
        (.str "REDACTED")) (.str "integrity_hash") (.str ""))
  | some other => .error (.python (noAttribute other "get"))
  | none => .error (.python (.valueError "Expecting value"))

/-- What is left of an event without the values that are redacted and without
the hash that is made from them. -/
def withoutSecrets (event : List (Key × Value)) : List (Key × Value) :=
  setEntry (withRedactedPayload event) (.str "integrity_hash") (.str "")

section Payload

/-- Redacting named entries, key by key. -/
def redactNames (keys : List String) (fields : List (String × Value)) : List (String × Value) :=
  keys.foldl (fun fields key =>
    if (OrderedDict.get? fields key).isSome then OrderedDict.set fields key (.str "UNKNOWN")
    else fields) fields

theorem redactPayload_named (fields : List (String × Value)) :
    redactPayload (named fields) = named (redactNames redactedKeys fields) := by
  unfold redactPayload redactNames
  induction redactedKeys generalizing fields with
  | nil => rfl
  | cons key keys induction =>
      rw [List.foldl_cons, List.foldl_cons, redactKey, lookupEntry_named, setEntry_named]
      split <;> exact induction _

variable {fields : List (String × Value)}

theorem keys_redactNames (keys : List String) :
    OrderedDict.keys (redactNames keys fields) = OrderedDict.keys fields := by
  unfold redactNames
  induction keys generalizing fields with
  | nil => rfl
  | cons key keys induction =>
      rw [List.foldl_cons, induction]
      split
      next present =>
        refine OrderedDict.keys_set_of_mem ?_ _
        by_contra absent
        rw [OrderedDict.get?_eq_none_iff.mpr absent] at present
        cases present
      next => rfl

theorem get?_redactNames (keys : List String) (name : String) :
    OrderedDict.get? (redactNames keys fields) name =
      (OrderedDict.get? fields name).map
        (fun value => if name ∈ keys then .str "UNKNOWN" else value) := by
  unfold redactNames
  induction keys generalizing fields with
  | nil => simp
  | cons key keys induction =>
      rw [List.foldl_cons, induction]
      by_cases same : name = key
      · subst same
        cases found : OrderedDict.get? fields name <;> simp [found, OrderedDict.get?_set_self]
      · by_cases present : (OrderedDict.get? fields key).isSome
        · simp [present, same, OrderedDict.get?_set_of_ne _ _ same]
        · simp [present, same]

theorem mem_redactNames (keys : List String) {field : String × Value}
    (member : field ∈ redactNames keys fields) : field.2 = .str "UNKNOWN" ∨ field ∈ fields := by
  unfold redactNames at member
  induction keys generalizing fields with
  | nil => exact .inr member
  | cons key keys induction =>
      rw [List.foldl_cons] at member
      rcases induction member with redacted | old
      · exact .inl redacted
      · split at old
        · exact OrderedDict.mem_set old
        · exact .inr old

/-- A dictionary without any of the keys stays as it is. -/
theorem redactPayload_of_absent
    {payload : List (Key × Value)}
    (absent : ∀ key ∈ redactedKeys, lookupEntry payload (.str key) = none) :
    redactPayload payload = payload := by
  unfold redactPayload
  revert absent
  induction redactedKeys with
  | nil => exact fun _ => rfl
  | cons key keys induction =>
      intro absent
      rw [List.foldl_cons, redactKey, absent key List.mem_cons_self]
      exact induction (fun other member => absent other (List.mem_cons_of_mem _ member))

/-- A payload with its values taken out. -/
def redactValue : Value → Value
  | .dict payload => .dict (redactPayload payload)
  | value => value

/-- A dictionary whose keys are all different. -/
def UniqueKeys : Value → Prop
  | .dict entries => (entries.map Prod.fst).Nodup
  | _ => True

theorem keys_named_nodup (distinct : ((named fields).map Prod.fst).Nodup) :
    (OrderedDict.keys fields).Nodup := by
  have keys : (named fields).map Prod.fst = (OrderedDict.keys fields).map Key.str := by
    simp [named, OrderedDict.keys]
  rw [keys] at distinct
  exact distinct.of_map

section Reload

variable {options : DumpOptions}

theorem redactNames_converted (sorting : options.sortKeys = true) (keys : List String)
    (converted : ∃ document, (Value.dict (named fields)).toDocument options = .ok document) :
    ∃ document, (Value.dict (named (redactNames keys fields))).toDocument options =
      .ok document := by
  obtain ⟨document, accepted⟩ := converted
  refine toDocument_named_ok sorting ?_
  intro field member
  rcases mem_redactNames keys member with redacted | old
  · rw [redacted]
    exact ⟨_, rfl⟩
  · exact toDocument_named_field sorting accepted old

theorem redactValue_converted (sorting : options.sortKeys = true) {value : Value}
    (converted : ∃ document, value.toDocument options = .ok document) :
    ∃ document, (redactValue value).toDocument options = .ok document := by
  cases value with
  | dict payload =>
      by_cases absent : ∀ key ∈ redactedKeys, lookupEntry payload (.str key) = none
      · rwa [redactValue, redactPayload_of_absent absent]
      · simp only [not_forall] at absent
        obtain ⟨key, listed, present⟩ := absent
        obtain ⟨value, found⟩ := Option.ne_none_iff_exists'.mp present
        obtain ⟨document, accepted⟩ := converted
        obtain ⟨fields, rfl⟩ := exists_named
          (texts_of_converted sorting accepted (mem_keys_of_lookupEntry found))
        rw [redactValue, redactPayload_named]
        exact redactNames_converted sorting redactedKeys ⟨document, accepted⟩
  | _ => exact converted

/-- A record that is dumped and loaded twice. -/
theorem reload_reload_named (sorting : options.sortKeys = true)
    (distinct : (OrderedDict.keys fields).Nodup)
    (converted : ∃ document, (Value.dict (named fields)).toDocument options = .ok document) :
    ((Value.dict (named fields)).reload options).reload options =
      .dict (named (reloadFields options (reloadFields options fields))) := by
  obtain ⟨document, accepted⟩ := converted
  obtain ⟨again, acceptedAgain⟩ := exists_toDocument_reload sorting ⟨document, accepted⟩
  have once : (Value.dict (named fields)).reload options =
      .dict (named (reloadFields options fields)) := reload_named sorting distinct accepted
  rw [once] at acceptedAgain ⊢
  exact reload_named sorting (keys_reloadFields_nodup distinct) acceptedAgain

/-- Taking the values out first changes nothing. -/
theorem redactValue_reload (sorting : options.sortKeys = true) {value : Value}
    (unique : UniqueKeys value)
    (converted : ∃ document, value.toDocument options = .ok document) :
    redactValue (((redactValue value).reload options).reload options) =
      redactValue ((value.reload options).reload options) := by
  cases value with
  | dict payload =>
      by_cases absent : ∀ key ∈ redactedKeys, lookupEntry payload (.str key) = none
      · rw [redactValue, redactPayload_of_absent absent]
      · simp only [not_forall] at absent
        obtain ⟨key, listed, present⟩ := absent
        obtain ⟨value, found⟩ := Option.ne_none_iff_exists'.mp present
        obtain ⟨document, accepted⟩ := converted
        obtain ⟨fields, rfl⟩ := exists_named
          (texts_of_converted sorting accepted (mem_keys_of_lookupEntry found))
        have distinct := keys_named_nodup unique
        have masked : (OrderedDict.keys (redactNames redactedKeys fields)).Nodup := by
          rw [keys_redactNames]
          exact distinct
        rw [redactValue, redactPayload_named, reload_reload_named sorting distinct ⟨_, accepted⟩,
          reload_reload_named sorting masked
            (redactNames_converted sorting redactedKeys ⟨_, accepted⟩),
          redactValue, redactValue, redactPayload_named, redactPayload_named]
        refine congrArg (fun fields => Value.dict (named fields)) (OrderedDict.eq_of_get? ?_ ?_ ?_)
        · simp only [keys_redactNames, keys_reloadFields]
        · rw [keys_redactNames]
          exact keys_reloadFields_nodup (keys_reloadFields_nodup masked)
        · intro name _
          simp only [get?_redactNames, get?_reloadFields (keys_reloadFields_nodup masked),
            get?_reloadFields masked, get?_reloadFields (keys_reloadFields_nodup distinct),
            get?_reloadFields distinct, Option.map_map]
          congr 1
          funext value
          by_cases listed : name ∈ redactedKeys <;> simp [listed]
  | _ => rfl

end Reload

end Payload

section Event

variable {fields : List (String × Value)}

/-- Every field has a JSON form. -/
def Convertible (options : DumpOptions) (fields : List (String × Value)) : Prop :=
  ∀ field ∈ fields, ∃ document, field.2.toDocument options = .ok document

theorem convertible_set {options : DumpOptions} (convertible : Convertible options fields)
    {name : String} {value : Value}
    (converted : ∃ document, value.toDocument options = .ok document) :
    Convertible options (OrderedDict.set fields name value) := by
  intro field member
  rcases OrderedDict.mem_set member with written | old
  · rw [written]
    exact converted
  · exact convertible field old

/-- `withRedactedPayload` of named entries. -/
def payloadFields (fields : List (String × Value)) : List (String × Value) :=
  match OrderedDict.get? fields "payload" with
  | some (.dict payload) => OrderedDict.set fields "payload" (.dict (redactPayload payload))
  | _ => fields

theorem withRedactedPayload_named (fields : List (String × Value)) :
    withRedactedPayload (named fields) = named (payloadFields fields) := by
  unfold withRedactedPayload payloadFields
  rw [getOr, lookupEntry_named]
  cases OrderedDict.get? fields "payload" with
  | none => rfl
  | some value => cases value <;> first | rfl | exact setEntry_named _ _ _

theorem keys_payloadFields : OrderedDict.keys (payloadFields fields) = OrderedDict.keys fields := by
  unfold payloadFields
  split
  next payload found =>
    exact OrderedDict.keys_set_of_mem
      (List.mem_map_of_mem (OrderedDict.mem_of_get? found)) _
  next => rfl

theorem get?_payloadFields (name : String) :
    OrderedDict.get? (payloadFields fields) name =
      (OrderedDict.get? fields name).map
        (fun value => if name = "payload" then redactValue value else value) := by
  unfold payloadFields
  by_cases same : name = "payload"
  · subst same
    cases found : OrderedDict.get? fields "payload" with
    | none => simp [found]
    | some value => cases value <;> simp [found, redactValue, OrderedDict.get?_set_self]
  · split <;> simp [same, OrderedDict.get?_set_of_ne _ _ same]

/-- The fields of an event without its secrets. -/
def publicFields (fields : List (String × Value)) : List (String × Value) :=
  OrderedDict.set (payloadFields fields) "integrity_hash" (.str "")

theorem withoutSecrets_named (fields : List (String × Value)) :
    withoutSecrets (named fields) = named (publicFields fields) := by
  rw [withoutSecrets, withRedactedPayload_named, setEntry_named, publicFields]

/-- The fields of a loaded event before it gets its new hash. -/
def redactedFields (fields : List (String × Value)) : List (String × Value) :=
  OrderedDict.set (OrderedDict.set (payloadFields fields) "redaction_status" (.str "REDACTED"))
    "integrity_hash" (.str "")

/-- The fields that a redaction writes. -/
structure IsSigned (fields : List (String × Value)) : Prop where
  distinct : (OrderedDict.keys fields).Nodup
  hashed : "integrity_hash" ∈ OrderedDict.keys fields
  classified : "redaction_status" ∈ OrderedDict.keys fields

theorem keys_publicFields (signed : IsSigned fields) :
    OrderedDict.keys (publicFields fields) = OrderedDict.keys fields := by
  have hashed := signed.hashed
  rw [← keys_payloadFields] at hashed
  rw [publicFields, OrderedDict.keys_set_of_mem hashed, keys_payloadFields]

theorem keys_redactedFields (signed : IsSigned fields) :
    OrderedDict.keys (redactedFields fields) = OrderedDict.keys fields := by
  have hashed := signed.hashed
  have classified := signed.classified
  rw [← keys_payloadFields] at hashed classified
  have still : "integrity_hash" ∈ OrderedDict.keys
      (OrderedDict.set (payloadFields fields) "redaction_status" (.str "REDACTED")) :=
    OrderedDict.mem_keys_set_iff.mpr (.inr hashed)
  rw [redactedFields, OrderedDict.keys_set_of_mem still, OrderedDict.keys_set_of_mem classified,
    keys_payloadFields]

theorem get?_redactedFields (name : String) :
    OrderedDict.get? (redactedFields fields) name =
      if name = "integrity_hash" then some (.str "")
      else if name = "redaction_status" then some (.str "REDACTED")
      else (OrderedDict.get? fields name).map
        (fun value => if name = "payload" then redactValue value else value) := by
  unfold redactedFields
  by_cases isHash : name = "integrity_hash"
  · subst isHash
    simp [OrderedDict.get?_set_self]
  · rw [OrderedDict.get?_set_of_ne _ _ isHash, if_neg isHash]
    by_cases isStatus : name = "redaction_status"
    · subst isStatus
      simp [OrderedDict.get?_set_self]
    · rw [OrderedDict.get?_set_of_ne _ _ isStatus, if_neg isStatus, get?_payloadFields]

theorem isSigned_reloadFields {options : DumpOptions} (signed : IsSigned fields) :
    IsSigned (reloadFields options fields) := by
  have same : ∀ name, name ∈ OrderedDict.keys (reloadFields options fields) ↔
      name ∈ OrderedDict.keys fields := by
    intro name
    rw [keys_reloadFields]
    exact (List.perm_insertionSort _ _).mem_iff
  exact
    { distinct := keys_reloadFields_nodup signed.distinct
      hashed := (same _).mpr signed.hashed
      classified := (same _).mpr signed.classified }

theorem isSigned_publicFields (signed : IsSigned fields) : IsSigned (publicFields fields) := by
  have keys := keys_publicFields signed
  exact
    { distinct := by rw [keys]; exact signed.distinct
      hashed := by rw [keys]; exact signed.hashed
      classified := by rw [keys]; exact signed.classified }

/-- What is redacted does not depend on the secrets. -/
theorem redactedFields_public {options : DumpOptions} (sorting : options.sortKeys = true)
    (signed : IsSigned fields)
    (unique : ∀ value, OrderedDict.get? fields "payload" = some value → UniqueKeys value)
    (converted : Convertible options fields) :
    redactedFields (reloadFields options (reloadFields options (publicFields fields))) =
      redactedFields (reloadFields options (reloadFields options fields)) := by
  have public_once : IsSigned (reloadFields options (publicFields fields)) :=
    isSigned_reloadFields (isSigned_publicFields signed)
  have once : IsSigned (reloadFields options fields) := isSigned_reloadFields signed
  have public_twice : IsSigned (reloadFields options (reloadFields options (publicFields fields))) :=
    isSigned_reloadFields public_once
  have twice : IsSigned (reloadFields options (reloadFields options fields)) :=
    isSigned_reloadFields once
  refine OrderedDict.eq_of_get? ?_ ?_ ?_
  · simp only [keys_redactedFields twice, keys_redactedFields public_twice, keys_reloadFields,
      keys_publicFields signed]
  · rw [keys_redactedFields public_twice]
    exact public_twice.distinct
  · intro name _
    rw [get?_redactedFields, get?_redactedFields]
    by_cases isHash : name = "integrity_hash"
    · rw [if_pos isHash, if_pos isHash]
    · rw [if_neg isHash, if_neg isHash, get?_reloadFields public_once.distinct,
        get?_reloadFields (isSigned_publicFields signed).distinct, get?_reloadFields once.distinct,
        get?_reloadFields signed.distinct, publicFields, OrderedDict.get?_set_of_ne _ _ isHash,
        get?_payloadFields]
      by_cases isPayload : name = "payload"
      · subst isPayload
        cases found : OrderedDict.get? fields "payload" with
        | none => rfl
        | some value =>
            have same := redactValue_reload sorting (unique value found)
              (converted ("payload", value) (OrderedDict.mem_of_get? found))
            simp [same]
      · simp [isPayload]

theorem convertible_payloadFields {options : DumpOptions} (sorting : options.sortKeys = true)
    (convertible : Convertible options fields) :
    Convertible options (payloadFields fields) := by
  unfold payloadFields
  split
  next payload found =>
    exact convertible_set convertible (redactValue_converted sorting
      (convertible ("payload", .dict payload) (OrderedDict.mem_of_get? found)))
  next => exact convertible

theorem convertible_redactedFields {options : DumpOptions} (sorting : options.sortKeys = true)
    (convertible : Convertible options fields) :
    Convertible options (redactedFields fields) :=
  convertible_set (convertible_set (convertible_payloadFields sorting convertible) ⟨_, rfl⟩)
    ⟨_, rfl⟩

variable {sha256Hex : List Char → String} {document : JsonText.Document}

/-- What `redactEvent` makes of an event that was stored. -/
theorem redactEvent_reload (distinct : (OrderedDict.keys fields).Nodup)
    (converted : (Value.dict (named fields)).toDocument canonicalOptions = .ok document) :
    redactEvent sha256Hex ((Value.dict (named fields)).reload canonicalOptions) =
      withHash sha256Hex (named (redactedFields
        (reloadFields canonicalOptions (reloadFields canonicalOptions fields)))) := by
  obtain ⟨again, stored⟩ := exists_toDocument_reload rfl ⟨document, converted⟩
  have dumped : canonicalJson ((Value.dict (named fields)).reload canonicalOptions) =
      .ok (JsonText.render false again) := by
    rw [canonicalJson, dumps, stored]
    rfl
  have loaded := loads_dumps dumped
  rw [reload_reload_named rfl distinct ⟨document, converted⟩] at loaded
  simp only [redactEvent, dumped, loaded, withRedactedPayload_named, setEntry_named,
    redactedFields, Except.mapError, bind, Except.bind]

/-- A stored event can be redacted, and the redacted event can be printed. -/
theorem exists_redactEvent (distinct : (OrderedDict.keys fields).Nodup)
    (converted : (Value.dict (named fields)).toDocument canonicalOptions = .ok document) :
    ∃ redacted again,
      redactEvent sha256Hex ((Value.dict (named fields)).reload canonicalOptions) =
        .ok redacted ∧
      (Value.dict redacted).toDocument canonicalOptions = .ok again := by
  have twice : ∃ document, (Value.dict (named (reloadFields canonicalOptions
      (reloadFields canonicalOptions fields)))).toDocument canonicalOptions = .ok document := by
    rw [← reload_reload_named rfl distinct ⟨document, converted⟩]
    exact exists_toDocument_reload rfl (exists_toDocument_reload rfl ⟨document, converted⟩)
  obtain ⟨_, accepted⟩ := twice
  have convertible := convertible_redactedFields (rfl : canonicalOptions.sortKeys = true)
    (fun field member => toDocument_named_field rfl accepted member)
  obtain ⟨document, printed⟩ := toDocument_named_ok rfl convertible
  obtain ⟨again, hashed⟩ := toDocument_named_ok rfl
    (@convertible_set _ _ convertible "integrity_hash"
      (.str (sha256Hex (JsonText.render false document))) ⟨_, rfl⟩)
  refine ⟨_, again, ?_, hashed⟩
  rw [redactEvent_reload distinct converted]
  simp [withHash, canonicalJson, dumps, printed, setEntry_named, Except.map, Except.mapError,
    bind, Except.bind]
  rfl

/-- The redacted event does not depend on the secrets of the stored one. -/
theorem redactEvent_public (signed : IsSigned fields)
    (unique : ∀ value, OrderedDict.get? fields "payload" = some value → UniqueKeys value)
    (converted : (Value.dict (named fields)).toDocument canonicalOptions = .ok document) :
    redactEvent sha256Hex
        ((Value.dict (named (publicFields fields))).reload canonicalOptions) =
      redactEvent sha256Hex ((Value.dict (named fields)).reload canonicalOptions) := by
  have convertible : Convertible canonicalOptions fields :=
    fun field member => toDocument_named_field rfl converted member
  obtain ⟨other, publicConverted⟩ := toDocument_named_ok rfl
    (@convertible_set _ _ (convertible_payloadFields rfl convertible) "integrity_hash"
      (.str "") ⟨_, rfl⟩)
  rw [redactEvent_reload (isSigned_publicFields signed).distinct publicConverted,
    redactEvent_reload signed.distinct converted,
    redactedFields_public rfl signed unique convertible]

end Event

end SuperAdvisor.Events
