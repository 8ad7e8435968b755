import SuperAdvisor.Foundation.RecordFiles
import SuperAdvisor.Foundation.Reloading
import SuperAdvisor.Persistence.SkillCandidates

/-!
# Skill candidates read back

A candidate that was written loads back with its dictionaries as JSON gives
them back; its digest stays valid if they keep the order of their keys.  Every
call ends in one write, or raises and leaves the files alone.
-/

namespace SuperAdvisor

open Python Raising SkillStore

variable {library : SkillLibrary}

/-! Reading a candidate back. -/

/-- A candidate as a load gives it back. -/
def SkillCandidate.stored (candidate : SkillCandidate) : SkillCandidate :=
  { candidate with
    evidence := reloadEntries canonicalOptions candidate.evidence
    testResult := candidate.testResult.map (reloadEntries canonicalOptions) }

private theorem keys_payload (candidate : SkillCandidate) :
    (OrderedDict.keys candidate.payload).Nodup := by
  show List.Nodup
    ["candidate_id", "skill_id", "state", "created_at_utc", "updated_at_utc", "proposer_agent",
      "evidence", "test_result", "reviewer", "release_version", "rollback_reference",
      "integrity_hash"]
  decide

theorem reload_optionalText (options : DumpOptions) (text : Option String) :
    (optionalText text).reload options = optionalText text := by
  cases text <;> rfl

private theorem field_of_payload
    {candidate : SkillCandidate} {document : JsonText.Document}
    (converted : (Value.dict (named candidate.payload)).toDocument canonicalOptions =
      .ok document) :
    (Value.dict candidate.evidence).reload canonicalOptions =
        .dict (reloadEntries canonicalOptions candidate.evidence) ∧
      (optionalDict candidate.testResult).reload canonicalOptions =
        optionalDict (candidate.testResult.map (reloadEntries canonicalOptions)) := by
  obtain ⟨evidence, evidenceConverted⟩ := toDocument_named_field rfl converted
    (show ("evidence", Value.dict candidate.evidence) ∈ candidate.payload by
      simp [SkillCandidate.payload, SkillCandidate.content])
  obtain ⟨result, resultConverted⟩ := toDocument_named_field rfl converted
    (show ("test_result", optionalDict candidate.testResult) ∈ candidate.payload by
      simp [SkillCandidate.payload, SkillCandidate.content])
  exact ⟨reload_dict evidenceConverted, reload_optionalDict resultConverted⟩

theorem reloadEntries_nil : reloadEntries canonicalOptions [] = [] := by
  have converted : (Value.dict []).toDocument canonicalOptions = .ok (.object []) := by
    rw [← named_nil, toDocument_named rfl]
    rfl
  have loaded := reload_dict converted
  simp only [Value.reload, converted] at loaded
  exact (Value.dict.inj loaded).symm

/-- The fields of a written candidate, each as it loads back, are those of the
stored one. -/
private theorem payload_stored
    {candidate : SkillCandidate} {document : JsonText.Document}
    (converted : (Value.dict (named candidate.payload)).toDocument canonicalOptions =
      .ok document) :
    candidate.payload.map (fun field => (field.1, field.2.reload canonicalOptions)) =
      candidate.stored.payload := by
  obtain ⟨evidence, result⟩ := field_of_payload converted
  simp [SkillCandidate.payload, SkillCandidate.content, SkillCandidate.stored, evidence, result,
    reload_optionalText]

private theorem names_payload (candidate : SkillCandidate) :
    (named (sortByName candidate.payload)).all (fun entry => decide (entry.1 ∈
      ["candidate_id", "skill_id", "state", "created_at_utc", "updated_at_utc",
        "proposer_agent", "evidence", "test_result", "reviewer", "release_version",
        "rollback_reference", "integrity_hash"].map Key.str)) = true := by
  refine List.all_eq_true.mpr (fun entry member => ?_)
  obtain ⟨field, inside, rfl⟩ := List.mem_map.mp member
  have known : field.1 ∈ candidate.payload.map Prod.fst :=
    List.mem_map_of_mem ((sortByName_perm candidate.payload).mem_iff.mp inside)
  exact decide_eq_true (List.mem_map_of_mem known)

theorem ofText_payload
    {candidate : SkillCandidate} {text : List Char}
    (dumped : canonicalJson (.dict (named candidate.payload)) = .ok text) :
    SkillCandidate.ofText (text ++ ['\n']) = .ok candidate.stored := by
  obtain ⟨document, converted⟩ := toDocument_of_dumps dumped
  have loaded : loads (text ++ ['\n']) =
      some (.dict (named (sortByName candidate.stored.payload))) := by
    rw [loads_dumps_line dumped, reload_named rfl (keys_payload candidate) converted,
      ← sortByName_map, payload_stored converted]
  have lookup := @get?_sortByName _ candidate.stored.payload (keys_payload _)
  simp only [SkillCandidate.ofText, loaded, typedDict, ok_bind, names_payload,
    readArgument_named, lookup]
  simp [OrderedDict.get?, SkillCandidate.payload, SkillCandidate.content, typedText, typedDict,
    ok_bind, typedOptional_optionalText, typedOptionalDict_optionalDict]

/-! The digest after a load. -/

/-- The dictionaries of a candidate keep the order of their keys. -/
structure SkillCandidate.Stable (candidate : SkillCandidate) : Prop where
  evidence : (Value.dict candidate.evidence).KeyOrderStable
  testResult : ∀ entries, candidate.testResult = some entries →
    (Value.dict entries).KeyOrderStable

private theorem stable_content
    {candidate : SkillCandidate} (stable : candidate.Stable) :
    ∀ field ∈ candidate.content, field.2.KeyOrderStable := by
  have text : ∀ value : String, (Value.str value).KeyOrderStable := fun _ => trivial
  have optional : ∀ value : Option String, (optionalText value).KeyOrderStable := by
    intro value
    cases value <;> trivial
  have result : (optionalDict candidate.testResult).KeyOrderStable := by
    cases found : candidate.testResult with
    | none => trivial
    | some entries => exact stable.testResult entries found
  simp [SkillCandidate.content, text, optional, result, stable.evidence]

/-- The digest of a stable candidate is valid after it was loaded. -/
theorem contentHash_stored
    {candidate : SkillCandidate} {hash : String}
    (hashed : contentHash library candidate = .ok hash) (stable : candidate.Stable)
    {document : JsonText.Document}
    (converted : (Value.dict (named candidate.payload)).toDocument canonicalOptions =
      .ok document) : contentHash library candidate.stored = .ok hash := by
  have content : candidate.content.map (fun field =>
      (field.1, field.2.reload canonicalOptions)) = candidate.stored.content := by
    obtain ⟨evidence, result⟩ := field_of_payload converted
    simp [SkillCandidate.content, SkillCandidate.stored, evidence, result, reload_optionalText]
  have same : canonicalJson (.dict (named candidate.stored.content)) =
      canonicalJson (.dict (named candidate.content)) := by
    obtain ⟨text, printed, -⟩ := except_bind_eq_ok.mp hashed
    obtain ⟨whole, accepted⟩ := toDocument_of_dumps (except_mapError_eq_ok.mp printed)
    rw [toDocument_named rfl] at accepted
    obtain ⟨fields, fieldwise, -⟩ := except_map_eq_ok.mp accepted
    have again := convertFields_reload rfl fieldwise (fun field member =>
      stable_content stable field ((sortByName_perm _).mem_iff.mp member))
    rw [← sortByName_map, content] at again
    simp only [canonicalJson, dumps, @toDocument_named canonicalOptions rfl, again,
      fieldwise]
  rw [← hashed, contentHash, contentHash, same]

/-- What was stored is stable. -/
theorem stable_stored
    {candidate : SkillCandidate} {document : JsonText.Document}
    (converted : (Value.dict (named candidate.payload)).toDocument canonicalOptions =
      .ok document) : candidate.stored.Stable := by
  obtain ⟨evidence, result⟩ := field_of_payload converted
  have reloaded := fun field (member : field ∈ candidate.payload) =>
    keyOrderStable_reload (toDocument_named_field rfl converted member)
  constructor
  · have kept := reloaded ("evidence", .dict candidate.evidence)
      (by simp [SkillCandidate.payload, SkillCandidate.content])
    rwa [evidence] at kept
  · intro entries found
    have kept := reloaded ("test_result", optionalDict candidate.testResult)
      (by simp [SkillCandidate.payload, SkillCandidate.content])
    rw [result] at kept
    have shape : optionalDict (candidate.testResult.map (reloadEntries canonicalOptions)) =
        .dict entries := congrArg optionalDict found
    rwa [shape] at kept

/-! One call. -/

namespace SkillStore

/-- What a write leaves behind. -/
structure Written (library : SkillLibrary) (candidate : SkillCandidate) (hash file : String)
    (text : List Char) : Prop where
  opened : library.fileOf candidate.candidateId = some file
  read : SkillCandidate.ofText text = .ok (candidate.withHash hash).stored
  stable : (candidate.withHash hash).stored.Stable
  valid : candidate.Stable →
    contentHash library (candidate.withHash hash).stored = .ok hash

private theorem write_ok
    {candidate : SkillCandidate} {hash file : String} {text : List Char}
    (hashed : contentHash library candidate = .ok hash)
    (dumped : canonicalJson (.dict (named (candidate.withHash hash).payload)) = .ok text)
    (opened : library.fileOf candidate.candidateId = some file) (store : SkillStore) :
    (write library candidate).run store =
        .ok (candidate.withHash hash) (OrderedDict.set store file (text ++ ['\n'])) ∧
      Written library candidate hash file (text ++ ['\n']) := by
  obtain ⟨document, converted⟩ := toDocument_of_dumps dumped
  refine ⟨?_, opened, ofText_payload dumped, stable_stored converted, fun stable => ?_⟩
  · simp [write, run_ofExcept, hashed, dumped, opened, Except.mapError, -bind_pure_comp]
  · exact contentHash_stored hashed ⟨stable.evidence, stable.testResult⟩ converted

theorem write_cases (library : SkillLibrary) (candidate : SkillCandidate) (store : SkillStore) :
    (∃ problem, (write library candidate).run store = .error problem store) ∨
    ∃ hash file text, (write library candidate).run store =
        .ok (candidate.withHash hash) (OrderedDict.set store file text) ∧
      Written library candidate hash file text := by
  cases hashed : contentHash library candidate with
  | error problem => exact .inl ⟨problem, by simp [write, run_ofExcept, hashed]⟩
  | ok hash =>
  cases dumped : canonicalJson (.dict (named (candidate.withHash hash).payload)) with
  | error problem =>
      exact .inl ⟨.json problem, by
        simp [write, run_ofExcept, hashed, dumped, Except.mapError]⟩
  | ok text =>
  cases opened : library.fileOf candidate.candidateId with
  | none =>
      refine .inl ⟨.fileNotFound, ?_⟩
      simp [write, run_ofExcept, hashed, dumped, opened, Except.mapError]
      rfl
  | some file =>
      exact .inr ⟨hash, file, text ++ ['\n'], write_ok hashed dumped opened store⟩

/-- A candidate without evidence is written if its file can be opened. -/
theorem write_returns
    {candidate : SkillCandidate} {file : String}
    (opened : library.fileOf candidate.candidateId = some file)
    (bare : candidate.evidence = []) (untested : candidate.testResult = none)
    (store : SkillStore) :
    ∃ hash text, (write library candidate).run store =
        .ok (candidate.withHash hash) (OrderedDict.set store file text) ∧
      Written library candidate hash file text := by
  have fields : ∀ field ∈ candidate.content,
      ∃ document, field.2.toDocument canonicalOptions = .ok document := by
    have nothing : ∃ document, (Value.dict []).toDocument canonicalOptions = .ok document :=
      toDocument_named_ok rfl (fun _ member => absurd member List.not_mem_nil)
    have absent : ∃ document, Value.none.toDocument canonicalOptions = .ok document := ⟨_, rfl⟩
    simp [SkillCandidate.content, bare, untested, optionalDict, toDocument_optionalText, nothing,
      absent]
  obtain ⟨content, contentConverted⟩ := toDocument_named_ok rfl fields
  obtain ⟨hash, hashed⟩ : ∃ hash, contentHash library candidate = .ok hash :=
    ⟨_, by simp only [contentHash, canonicalJson, dumps, contentConverted]; rfl⟩
  have payloadFields : ∀ field ∈ (candidate.withHash hash).payload,
      ∃ document, field.2.toDocument canonicalOptions = .ok document := by
    intro field member
    rcases List.mem_append.mp member with early | here
    · exact fields field early
    · obtain rfl := List.mem_singleton.mp here
      exact ⟨_, rfl⟩
  obtain ⟨payload, payloadConverted⟩ := toDocument_named_ok rfl payloadFields
  obtain ⟨text, dumped⟩ : ∃ text,
      canonicalJson (.dict (named (candidate.withHash hash).payload)) = .ok text :=
    ⟨_, by simp only [canonicalJson, dumps, payloadConverted]; rfl⟩
  exact ⟨hash, text ++ ['\n'], write_ok hashed dumped opened store⟩

/-- What a call makes of the store it meets. -/
def Makes (library : SkillLibrary) (store : SkillStore) : Call → SkillCandidate → Prop
  | .create proposal, candidate => candidate = proposal.candidate store
  | .transition move, candidate =>
      ∃ current, load library store move.candidateId = .ok current ∧
        checkMove current move = .ok () ∧ candidate = moved current move

/-- A call raises and leaves the files alone, or writes the candidate it
returns. -/
theorem step_cases (library : SkillLibrary) (store : SkillStore) (call : Call) :
    (∃ problem, step library store call = (.error problem, store)) ∨
    ∃ candidate hash file text,
      step library store call =
        (.ok (candidate.withHash hash), OrderedDict.set store file text) ∧
      Makes library store call candidate ∧ Written library candidate hash file text := by
  cases call with
  | create proposal =>
      rcases write_cases library (proposal.candidate store) store with
        ⟨problem, ran⟩ | ⟨hash, file, text, ran, written⟩
      · exact .inl ⟨problem, by simp [step, Call.perform, create, ran]⟩
      · refine .inr ⟨_, hash, file, text, ?_, rfl, written⟩
        simp [step, Call.perform, create, ran]
  | transition move =>
      cases found : load library store move.candidateId with
      | error problem =>
          exact .inl ⟨problem, by
            simp [step, Call.perform, transition, run_ofExcept, found]⟩
      | ok current =>
      cases checked : checkMove current move with
      | error problem =>
          exact .inl ⟨problem, by
            simp [step, Call.perform, transition, run_ofExcept, found, checked]⟩
      | ok =>
      rcases write_cases library (moved current move) store with
        ⟨problem, ran⟩ | ⟨hash, file, text, ran, written⟩
      · exact .inl ⟨problem, by
          simp [step, Call.perform, transition, run_ofExcept, found, checked, ran]⟩
      · refine .inr ⟨_, hash, file, text, ?_, ⟨current, found, checked, rfl⟩, written⟩
        simp [step, Call.perform, transition, run_ofExcept, found, checked, ran]

/-- A call that makes a candidate without evidence writes it. -/
theorem step_returns
    {store : SkillStore} {call : Call} {candidate : SkillCandidate} {file : String}
    (makes : Makes library store call candidate)
    (opened : library.fileOf candidate.candidateId = some file)
    (bare : candidate.evidence = []) (untested : candidate.testResult = none) :
    ∃ hash text, step library store call =
        (.ok (candidate.withHash hash), OrderedDict.set store file text) ∧
      Written library candidate hash file text := by
  obtain ⟨hash, text, ran, written⟩ := write_returns opened bare untested store
  refine ⟨hash, text, ?_, written⟩
  cases call with
  | create proposal =>
      obtain rfl : candidate = proposal.candidate store := makes
      simp [step, Call.perform, create, ran]
  | transition move =>
      obtain ⟨current, found, checked, rfl⟩ := makes
      simp [step, Call.perform, transition, run_ofExcept, found, checked, ran]

/-! All candidates. -/

/-- Every stored candidate is good. -/
def Holds (library : SkillLibrary) (good : SkillCandidate → Prop) : SkillStore → Prop :=
  RecordFiles.Holds SkillCandidate.ofText (fun candidate => library.fileOf candidate.candidateId)
    good

theorem Holds.of_load
    {good : SkillCandidate → Prop} {store : SkillStore} (holds : Holds library good store)
    {candidateId : String} {candidate : SkillCandidate}
    (found : load library store candidateId = .ok candidate) :
    library.fileOf candidate.candidateId = library.fileOf candidateId ∧ good candidate := by
  unfold load at found
  split at found
  next => cases found
  next text bound =>
    obtain ⟨file, opened, stored⟩ := Option.bind_eq_some_iff.mp bound
    obtain ⟨own, fine⟩ := RecordFiles.Holds.of_get holds stored found
    exact ⟨own.trans opened.symm, fine⟩

/-- A load finds what a call has just written. -/
theorem load_written
    {store : SkillStore} {candidate : SkillCandidate} {candidateId hash file : String}
    {text : List Char} (written : Written library candidate hash file text)
    (opened : library.fileOf candidateId = some file) :
    load library (OrderedDict.set store file text) candidateId =
      .ok (candidate.withHash hash).stored := by
  rw [load, opened, Option.bind_some, OrderedDict.get?_set_self]
  exact written.read

end SkillStore

end SuperAdvisor
