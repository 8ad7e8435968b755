import SuperAdvisor.Events.CanonicalJson
import SuperAdvisor.Foundation.PythonDict

/-!
# Task results and checkpoints

A checkpoint is kept in a file as canonical JSON.  Writing it and reading it
back gives the same checkpoint with its dictionaries in name order and its
payloads reloaded.
-/

namespace SuperAdvisor.MainAgent

open Python JsonText

structure TaskResult where
  taskId : String
  agentId : String
  status : String
  evidenceReference : String
  payload : List (Key × Value)
  provenance : List (Key × Value)
  retryable : Bool := false

structure RuntimeCheckpoint where
  requestId : String
  idempotencyKey : String
  status : String
  completed : Dict String TaskResult := .empty
  failed : Dict String String := .empty
  dispatchedIdempotencyKeys : KeySet String := .empty
  paused : Bool := false
  stopped : Bool := false

/-- `asdict` of a result. -/
def TaskResult.toFields (result : TaskResult) : List (String × Value) :=
  [("task_id", .str result.taskId),
    ("agent_id", .str result.agentId),
    ("status", .str result.status),
    ("evidence_reference", .str result.evidenceReference),
    ("payload", .dict result.payload),
    ("provenance", .dict result.provenance),
    ("retryable", .bool result.retryable)]

def TaskResult.toValue (result : TaskResult) : Value :=
  .dict (named result.toFields)

/-- A dictionary with converted values. -/
def dictValue {α : Type} (dict : Dict String α) (change : α → Value) : Value :=
  .dict (named (dict.entries.map (fun entry => (entry.1, change entry.2))))

def RuntimeCheckpoint.toFields (checkpoint : RuntimeCheckpoint) :
    List (String × Value) :=
  [("request_id", .str checkpoint.requestId),
    ("idempotency_key", .str checkpoint.idempotencyKey),
    ("status", .str checkpoint.status),
    ("completed", dictValue checkpoint.completed TaskResult.toValue),
    ("failed", dictValue checkpoint.failed .str),
    ("dispatched_idempotency_keys",
      .list ((sortedKeys checkpoint.dispatchedIdempotencyKeys).items.map .str)),
    ("paused", .bool checkpoint.paused),
    ("stopped", .bool checkpoint.stopped)]

/-- `to_dict` -/
def RuntimeCheckpoint.toDict (checkpoint : RuntimeCheckpoint) : Value :=
  .dict (named checkpoint.toFields)

/-- A result read from one entry of `completed`. -/
def taskResultOf (entries : List (Key × Value)) : Except Failure TaskResult := do
  let taskId ← getItem (.dict entries) "task_id"
  let agentId ← getItem (.dict entries) "agent_id"
  let status ← getItem (.dict entries) "status"
  let evidenceReference ← getItem (.dict entries) "evidence_reference"
  let payload ← dictOf (← getItem (.dict entries) "payload")
  let provenance ← dictOf (← getItem (.dict entries) "provenance")
  .ok
    { taskId := taskId.text
      agentId := agentId.text
      status := status.text
      evidenceReference := evidenceReference.text
      payload := payload
      provenance := provenance
      retryable := (getOr entries "retryable" (.bool false)).truthy }

/-- One round of the loop over `completed`; items that are no dictionaries are
skipped. -/
def collectResult (completed : Dict String TaskResult) (entry : Key × Value) :
    Except Failure (Dict String TaskResult) :=
  match entry.2 with
  | .dict entries => do
      let result ← taskResultOf entries
      .ok (completed.set entry.1.asValue.text result)
  | _ => .ok completed

/-- `from_dict` -/
def RuntimeCheckpoint.fromDict (payload : Value) : Except Failure RuntimeCheckpoint :=
  match payload with
  | .dict entries => do
      let completed ←
        match getOr entries "completed" (.dict []) with
        | .dict items => items.foldlM collectResult .empty
        | _ => .ok .empty
      let requestId ← getItem payload "request_id"
      let idempotencyKey ← getItem payload "idempotency_key"
      let status ← getItem payload "status"
      let failed ← dictOf (getOr entries "failed" (.dict []))
      let dispatched ← listOf (getOr entries "dispatched_idempotency_keys" (.list []))
      .ok
        { requestId := requestId.text
          idempotencyKey := idempotencyKey.text
          status := status.text
          completed := completed
          failed := Dict.ofPairs
            (failed.map (fun entry => (entry.1.asValue.text, entry.2.text)))
          dispatchedIdempotencyKeys := KeySet.ofList (dispatched.map Value.text)
          paused := (getOr entries "paused" (.bool false)).truthy
          stopped := (getOr entries "stopped" (.bool false)).truthy }
  | payload => .error (noAttribute payload "get")

/-- A result after it was saved and loaded. -/
def TaskResult.reloaded (result : TaskResult) : TaskResult :=
  { result with
    payload := reloadEntries canonicalOptions result.payload
    provenance := reloadEntries canonicalOptions result.provenance }

/-- A checkpoint after it was saved and loaded. -/
def RuntimeCheckpoint.reloaded (checkpoint : RuntimeCheckpoint) : RuntimeCheckpoint :=
  { checkpoint with
    completed := (sortedDict checkpoint.completed).mapValues TaskResult.reloaded
    failed := sortedDict checkpoint.failed
    dispatchedIdempotencyKeys := sortedKeys checkpoint.dispatchedIdempotencyKeys }

private theorem sorting : canonicalOptions.sortKeys = true := rfl

/-- What a name finds in a reloaded record. -/
private theorem get?_reloaded
    {entries : List (String × Value)} (distinct : (OrderedDict.keys entries).Nodup)
    (name : String) :
    OrderedDict.get? ((sortByName entries).map
        (fun entry => (entry.1, entry.2.reload canonicalOptions))) name =
      (OrderedDict.get? entries name).map (Value.reload canonicalOptions) := by
  rw [OrderedDict.get?_map, get?_sortByName distinct]

private theorem taskResultOf_reloaded
    {result : TaskResult} {document : Document}
    (converted : result.toValue.toDocument canonicalOptions = .ok document) :
    ∃ entries, result.toValue.reload canonicalOptions = .dict entries ∧
      taskResultOf entries = .ok result.reloaded := by
  have distinct : (OrderedDict.keys result.toFields).Nodup := by
    simp [OrderedDict.keys, TaskResult.toFields]
  refine ⟨_, reload_named sorting distinct converted, ?_⟩
  obtain ⟨payload, payloadOk⟩ := toDocument_named_field sorting converted
    (show ("payload", Value.dict result.payload) ∈ result.toFields by
      simp [TaskResult.toFields])
  obtain ⟨provenance, provenanceOk⟩ := toDocument_named_field sorting converted
    (show ("provenance", Value.dict result.provenance) ∈ result.toFields by
      simp [TaskResult.toFields])
  have payloadReload := reload_dict payloadOk
  have provenanceReload := reload_dict provenanceOk
  simp only [taskResultOf, getItem_named, getOr_named, get?_reloaded distinct]
  simp [TaskResult.toFields, OrderedDict.get?, payloadReload, provenanceReload, dictOf,
    Value.text, Value.truthy, TaskResult.reloaded, bind, Except.bind]

private theorem foldlM_collectResult
    (results : List (String × TaskResult)) (built : Dict String TaskResult)
    (readable : ∀ entry ∈ results, ∃ entries,
      entry.2.toValue.reload canonicalOptions = .dict entries ∧
        taskResultOf entries = .ok entry.2.reloaded) :
    (named (results.map
        (fun entry => (entry.1, entry.2.toValue.reload canonicalOptions)))).foldlM
        collectResult built =
      .ok (results.foldl (fun dict entry => dict.set entry.1 entry.2.reloaded) built) := by
  induction results generalizing built with
  | nil => rfl
  | cons entry results induction =>
      obtain ⟨name, result⟩ := entry
      obtain ⟨entries, shape, read⟩ := readable (name, result) (by simp)
      have tail := induction (built.set name result.reloaded)
        (fun other member => readable other (by simp [member]))
      simp only [List.map_cons, named_cons, List.foldlM_cons, collectResult, shape,
        read, Key.asValue, Value.text]
      exact tail

/-- Dumping a dictionary of converted values and loading it sorts the dictionary. -/
private theorem reload_mapped
    {α : Type} (dict : Dict String α) (change : α → Value) {document : Document}
    (converted : (dictValue dict change).toDocument canonicalOptions = .ok document) :
    (dictValue dict change).reload canonicalOptions =
      dictValue (sortedDict dict)
        (fun value => (change value).reload canonicalOptions) := by
  have distinct : (OrderedDict.keys (dict.entries.map
      (fun entry => (entry.1, change entry.2)))).Nodup :=
    (dict.mapValues change).distinct
  rw [dictValue, reload_named sorting distinct converted, sortByName_map]
  simp [dictValue, sortedDict, Function.comp_def]

private theorem completed_reloaded
    {completed : Dict String TaskResult} {document : Document}
    (converted : (dictValue completed TaskResult.toValue).toDocument canonicalOptions =
      .ok document) :
    (named ((sortedDict completed).entries.map
        (fun entry => (entry.1, entry.2.toValue.reload canonicalOptions)))).foldlM
        collectResult .empty =
      .ok ((sortedDict completed).mapValues TaskResult.reloaded) := by
  rw [foldlM_collectResult]
  · congr 1
    rw [← Dict.ofPairs_entries ((sortedDict completed).mapValues TaskResult.reloaded)]
    simp [Dict.ofPairs, Dict.mapValues, List.foldl_map]
  · intro entry member
    have stored : entry ∈ completed.entries :=
      (sortByName_perm completed.entries).mem_iff.mp member
    obtain ⟨field, accepted⟩ := toDocument_named_field sorting converted
      (List.mem_map.mpr ⟨entry, stored, rfl⟩)
    exact taskResultOf_reloaded accepted

/-- Reading back what was written. -/
theorem RuntimeCheckpoint.fromDict_reload
    {checkpoint : RuntimeCheckpoint} {document : Document}
    (converted : checkpoint.toDict.toDocument canonicalOptions = .ok document) :
    fromDict (checkpoint.toDict.reload canonicalOptions) = .ok checkpoint.reloaded := by
  have distinct : (OrderedDict.keys checkpoint.toFields).Nodup := by
    simp [OrderedDict.keys, toFields]
  obtain ⟨completed, completedOk⟩ := toDocument_named_field sorting converted
    (show ("completed", dictValue checkpoint.completed TaskResult.toValue) ∈
      checkpoint.toFields by simp [toFields])
  obtain ⟨failed, failedOk⟩ := toDocument_named_field sorting converted
    (show ("failed", dictValue checkpoint.failed .str) ∈ checkpoint.toFields by
      simp [toFields])
  have completedReload := reload_mapped checkpoint.completed TaskResult.toValue completedOk
  have failedReload := reload_mapped checkpoint.failed Value.str failedOk
  have read := completed_reloaded completedOk
  have failedPairs : (named ((sortedDict checkpoint.failed).entries.map
      (fun entry => (entry.1, Value.str entry.2)))).map
        (fun entry => (entry.1.asValue.text, entry.2.text)) =
          (sortedDict checkpoint.failed).entries := by
    simp [named, Function.comp_def, Key.asValue, Value.text]
  have keyTexts : ((sortedKeys checkpoint.dispatchedIdempotencyKeys).items.map
      Value.str).map Value.text =
        (sortedKeys checkpoint.dispatchedIdempotencyKeys).items := by
    simp [Function.comp_def, Value.text]
  rw [toDict, reload_named sorting distinct converted]
  simp only [fromDict, getItem_named, getOr_named, get?_reloaded distinct]
  simp only [toFields, OrderedDict.get?, String.reduceEq, ↓reduceIte, Option.map_some,
    completedReload, Option.getD_some, reload_str, failedReload, reload_strings,
    reload_bool]
  simp only [dictValue, read, dictOf, listOf, bind, Except.bind, failedPairs, keyTexts,
    Dict.ofPairs_entries, KeySet.ofList_items]
  rfl

/-- Loading a saved checkpoint. -/
theorem RuntimeCheckpoint.load_save
    {checkpoint : RuntimeCheckpoint} {text : List Char}
    (saved : canonicalJson checkpoint.toDict = .ok text) :
    ∃ value, loads text = some value ∧ fromDict value = .ok checkpoint.reloaded := by
  obtain ⟨document, converted, -⟩ := except_map_eq_ok.mp saved
  exact ⟨_, loads_dumps saved, fromDict_reload converted⟩

end SuperAdvisor.MainAgent
