import SuperAdvisor.Research.Experiment

/-!
# Experiment records read back

A record that was written loads back as itself, with its digest filled in and
its result as JSON gives it back.  Creating and moving an experiment both end
in one write, which is all that callers need to know about them.
-/

namespace SuperAdvisor.Research

open Python

theorem plain_recordOptions : recordOptions.Plain :=
  ⟨rfl, rfl⟩

theorem isJson_transition (transition : ExperimentTransition) :
    (Value.dict (named transition.toDict)).IsJson := by
  refine isJson_named ?_ (by simp [ExperimentTransition.toDict])
  show List.Nodup
    ["from_state", "to_state", "transitioned_at_utc", "agent", "reason", "reviewer",
      "evidence_ids"]
  decide

theorem isJson_transitions (transitions : List ExperimentTransition) :
    (Value.list (transitions.map (fun transition =>
      .dict (named transition.toDict)))).IsJson := by
  refine isJsonItems_iff.mpr (fun value member => ?_)
  obtain ⟨transition, -, rfl⟩ := List.mem_map.mp member
  exact isJson_transition transition

theorem ofDict_toDict (transition : ExperimentTransition) :
    ExperimentTransition.ofDict (.dict (named transition.toDict)) = .ok transition := by
  have names : (named transition.toDict).all (fun entry => decide (entry.1 ∈
      ["from_state", "to_state", "transitioned_at_utc", "agent", "reason", "reviewer",
        "evidence_ids"].map Key.str)) = true := by
    simp [ExperimentTransition.toDict]
  simp only [ExperimentTransition.ofDict, typedDict, bind, Except.bind, names, readArgument_named]
  simp [OrderedDict.get?, ExperimentTransition.toDict, typedText,
    typedOptional_optionalText, typedTexts_textList]

theorem mapM_ofDict (transitions : List ExperimentTransition) :
    transitions.mapM (ExperimentTransition.ofDict ∘ fun transition =>
      .dict (named transition.toDict)) = .ok transitions := by
  refine mapM_eq_ok_iff.mpr ?_
  induction transitions with
  | nil => exact .nil
  | cons transition transitions induction => exact .cons (ofDict_toDict transition) induction

/-! The whole record. -/

/-- A record as a load gives it back. -/
def Experiment.stored (experiment : Experiment) (hash : String) : Experiment :=
  { experiment with
    result := experiment.result.map (reloadEntries recordOptions)
    integrityHash := hash }

theorem keys_payload (experiment : Experiment) (hash : String) :
    (OrderedDict.keys (experiment.toDict ++ [("integrity_hash", .str hash)])).Nodup := by
  show List.Nodup
    ["experiment_id", "correlation_id", "hypothesis", "proposer_agent", "owner_agent", "state",
      "created_at_utc", "updated_at_utc", "input_data_range", "dataset_hash", "formula_version",
      "evidence_ids", "transitions", "result", "failure_reason", "reviewer",
      "rollback_reference", "integrity_hash"]
  decide

/-- The written file holds the fields of the record that a load gives back. -/
theorem loads_payload
    {experiment : Experiment} {hash : String} {text : List Char}
    (dumped : dumpsIndented recordOptions
      (.dict (named (experiment.toDict ++ [("integrity_hash", .str hash)]))) = .ok text) :
    loads (text ++ ['\n']) =
      some (.dict (named
        ((experiment.stored hash).toDict ++ [("integrity_hash", .str hash)]))) := by
  obtain ⟨document, converted, -⟩ := except_map_eq_ok.mp dumped
  have fieldwise := converted
  rw [toDocument_named_plain plain_recordOptions] at fieldwise
  obtain ⟨fields, accepted, -⟩ := except_map_eq_ok.mp fieldwise
  have resultField : ("result", optionalDict experiment.result) ∈
      experiment.toDict ++ [("integrity_hash", .str hash)] := by
    simp [Experiment.toDict]
  obtain ⟨result, resultConverted⟩ := convertFields_field accepted resultField
  rw [loads_dumpsIndented dumped,
    reload_named_plain plain_recordOptions (keys_payload experiment hash) converted]
  simp [Experiment.toDict, Experiment.stored, reload_optionalDict resultConverted,
    reload_of_isJson plain_recordOptions (isJson_textDict _),
    reload_of_isJson plain_recordOptions (isJson_transitions _),
    reload_of_isJson plain_recordOptions (isJson_optionalText _),
    reload_of_isJson plain_recordOptions (isJson_textList _)]

theorem ofText_written
    {experiment : Experiment} {hash : String} {text : List Char}
    (dumped : dumpsIndented recordOptions
      (.dict (named (experiment.toDict ++ [("integrity_hash", .str hash)]))) = .ok text) :
    Experiment.ofText (text ++ ['\n']) = .ok (experiment.stored hash) := by
  simp only [Experiment.ofText, loads_payload dumped, typedDict, ok_bind, getOr_named,
    readItem_named]
  simp [OrderedDict.get?, Experiment.toDict, Experiment.stored, typedText, typedList, ok_bind,
    mapM_ofDict, typedOptional_optionalText, typedTexts_textList, typedTextDict_value,
    typedOptionalDict_optionalDict]

/-! Records that can be written. -/

theorem toDocument_transition (transition : ExperimentTransition) :
    ∃ document, (Value.dict (named transition.toDict)).toDocument fingerprintOptions =
      .ok document := by
  refine toDocument_named_ok rfl ?_
  simp [ExperimentTransition.toDict, toDocument_optionalText, toDocument_textList]

theorem toDocument_transitions (transitions : List ExperimentTransition) :
    ∃ document, (Value.list (transitions.map (fun transition =>
      .dict (named transition.toDict)))).toDocument fingerprintOptions = .ok document := by
  have each : ∀ item ∈ transitions.map (fun transition => Value.dict (named transition.toDict)),
      ∃ document, item.toDocument fingerprintOptions = .ok document := by
    intro item member
    obtain ⟨transition, -, rfl⟩ := List.mem_map.mp member
    exact toDocument_transition transition
  obtain ⟨documents, converted⟩ := toDocuments_ok each
  exact ⟨.array documents, by simp only [Value.toDocument, converted, Except.map]⟩

theorem toDocument_textDict (texts : TextDict) :
    ∃ document, texts.value.toDocument fingerprintOptions = .ok document := by
  refine toDocument_named_ok rfl ?_
  intro entry member
  obtain ⟨text, -, rfl⟩ := List.mem_map.mp member
  exact ⟨_, rfl⟩

/-- A record without a result has a digest. -/
theorem exists_fingerprint
    (library : ExperimentLibrary) {experiment : Experiment} (plain : experiment.result = none) :
    ∃ hash, recordFingerprint library experiment.toDict = .ok hash := by
  have fields : ∀ entry ∈ experiment.toDict,
      ∃ document, entry.2.toDocument fingerprintOptions = .ok document := by
    have absent : ∃ document, Value.none.toDocument fingerprintOptions = .ok document := ⟨_, rfl⟩
    simp [Experiment.toDict, toDocument_optionalText, toDocument_textList, plain, optionalDict,
      toDocument_textDict, toDocument_transitions, absent]
  obtain ⟨document, printed⟩ := toDocument_named_ok rfl fields
  exact ⟨_, by simp only [recordFingerprint, dumps, printed]; rfl⟩

/-- A record without a result can be laid out. -/
theorem exists_payload
    {experiment : Experiment} (plain : experiment.result = none) (hash : String) :
    ∃ text, dumpsIndented recordOptions
      (.dict (named (experiment.toDict ++ [("integrity_hash", .str hash)]))) = .ok text := by
  have json : (Value.dict (named (experiment.toDict ++
      [("integrity_hash", .str hash)]))).IsJson := by
    refine isJson_named (keys_payload experiment hash) ?_
    simp [Experiment.toDict, plain, optionalDict, isJson_textDict, isJson_transitions]
    trivial
  obtain ⟨document, converted⟩ := toDocument_of_isJson plain_recordOptions json
  exact ⟨_, by simp only [dumpsIndented, converted]; rfl⟩

end SuperAdvisor.Research
