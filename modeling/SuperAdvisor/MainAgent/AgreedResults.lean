import SuperAdvisor.Foundation.Program
import SuperAdvisor.MainAgent.ConflictScan
import SuperAdvisor.Persistence.LogLines

/-!
# Checkpoints whose results agree

A checkpoint is agreed when its completed results are plain and agree with each
other, and none of its tasks was flagged.  Such a checkpoint can always be saved,
and it is agreed again when it is loaded.  A dispute is a dispatch that
completes its task with a result the stored checkpoint disagrees with.

A loaded checkpoint is the saved one up to the order of its dictionaries and of
its set.  Nothing is assumed but that the results hold plain JSON values.
-/

namespace SuperAdvisor.MainAgent

open Python
open Program (Ends)

variable {Time : Type}

structure RuntimeCheckpoint.Agreed (checkpoint : RuntimeCheckpoint) : Prop where
  plain : ∀ result ∈ resultsOf checkpoint.completed, result.IsPlain
  agree : ∀ left ∈ resultsOf checkpoint.completed,
    ∀ right ∈ resultsOf checkpoint.completed, left.Agrees right
  unflagged : ∀ entry ∈ checkpoint.failed.entries, entry.2 ≠ "conflict_detected"

/-- A completed result disagrees with the given one. -/
def RuntimeCheckpoint.Disagrees (checkpoint : RuntimeCheckpoint) (result : TaskResult) : Prop :=
  ∃ other ∈ resultsOf checkpoint.completed, ¬other.Agrees result

theorem mem_resultsOf_reloaded {checkpoint : RuntimeCheckpoint} {other : TaskResult} :
    other ∈ resultsOf checkpoint.reloaded.completed ↔
      ∃ result ∈ resultsOf checkpoint.completed, other = result.reloaded := by
  simp only [resultsOf, RuntimeCheckpoint.reloaded, Dict.mapValues, List.map_map, List.mem_map,
    Function.comp_apply]
  have same : ∀ entry, entry ∈ (sortedDict checkpoint.completed).entries ↔
      entry ∈ checkpoint.completed.entries :=
    fun entry => (sortByName_perm checkpoint.completed.entries).mem_iff
  constructor
  · rintro ⟨entry, member, rfl⟩
    exact ⟨entry.2, ⟨entry, (same entry).mp member, rfl⟩, rfl⟩
  · rintro ⟨_, ⟨entry, member, rfl⟩, rfl⟩
    exact ⟨entry, (same entry).mpr member, rfl⟩

theorem resultsOf_completeTask
    {checkpoint : RuntimeCheckpoint} {taskId : String}
    (fresh : taskId ∉ checkpoint.completed.keys) (result : TaskResult) :
    resultsOf (checkpoint.completeTask taskId result).completed =
      resultsOf checkpoint.completed ++ [result] := by
  show (OrderedDict.set checkpoint.completed.entries taskId result).map Prod.snd = _
  rw [OrderedDict.set_of_not_mem fresh]
  simp [resultsOf]

theorem plain_completeTask
    {checkpoint : RuntimeCheckpoint} {taskId : String} {result : TaskResult}
    (plain : ∀ other ∈ resultsOf checkpoint.completed, other.IsPlain)
    (fresh : taskId ∉ checkpoint.completed.keys) (resultPlain : result.IsPlain) :
    ∀ other ∈ resultsOf (checkpoint.completeTask taskId result).completed, other.IsPlain := by
  intro other member
  rw [resultsOf_completeTask fresh] at member
  rcases List.mem_append.mp member with old | new
  · exact plain other old
  · exact List.mem_singleton.mp new ▸ resultPlain

namespace RuntimeCheckpoint.Agreed

variable {checkpoint : RuntimeCheckpoint}

/-- Neither the status nor the flags nor the dispatch keys matter. -/
theorem of_eq
    (agreed : checkpoint.Agreed) {other : RuntimeCheckpoint}
    (completed : other.completed = checkpoint.completed)
    (failed : other.failed = checkpoint.failed) : other.Agreed := by
  refine ⟨?_, ?_, ?_⟩
  · rw [completed]
    exact agreed.plain
  · rw [completed]
    exact agreed.agree
  · rw [failed]
    exact agreed.unflagged

/-- Loading a saved checkpoint keeps the agreement. -/
theorem reloaded (agreed : checkpoint.Agreed) : checkpoint.reloaded.Agreed := by
  refine ⟨?_, ?_, ?_⟩
  · intro other member
    obtain ⟨result, inside, rfl⟩ := mem_resultsOf_reloaded.mp member
    exact (agreed.plain result inside).reloaded
  · intro left leftMember right rightMember
    obtain ⟨first, firstIn, rfl⟩ := mem_resultsOf_reloaded.mp leftMember
    obtain ⟨second, secondIn, rfl⟩ := mem_resultsOf_reloaded.mp rightMember
    have firstPlain := agreed.plain first firstIn
    have secondPlain := agreed.plain second secondIn
    refine (TaskResult.agrees_reloaded firstPlain secondPlain.reloaded).mpr ?_
    refine TaskResult.Agrees.symm secondPlain.reloaded firstPlain ?_
    exact (TaskResult.agrees_reloaded secondPlain firstPlain).mpr
      (agreed.agree second secondIn first firstIn)
  · intro entry member
    exact agreed.unflagged entry ((sortByName_perm checkpoint.failed.entries).mem_iff.mp member)

/-- The reloaded results disagree with the same results. -/
theorem disagrees_reloaded
    (agreed : checkpoint.Agreed) {result : TaskResult} (plain : result.IsPlain) :
    checkpoint.reloaded.Disagrees result ↔ checkpoint.Disagrees result := by
  constructor
  · rintro ⟨_, member, differs⟩
    obtain ⟨other, inside, rfl⟩ := mem_resultsOf_reloaded.mp member
    exact ⟨other, inside, fun same =>
      differs ((TaskResult.agrees_reloaded (agreed.plain other inside) plain).mpr same)⟩
  · rintro ⟨other, inside, differs⟩
    exact ⟨other.reloaded, mem_resultsOf_reloaded.mpr ⟨other, inside, rfl⟩, fun same =>
      differs ((TaskResult.agrees_reloaded (agreed.plain other inside) plain).mp same)⟩

/-- One more completed result that agrees with all the others. -/
theorem completeTask
    (agreed : checkpoint.Agreed) {taskId : String} {result : TaskResult}
    (fresh : taskId ∉ checkpoint.completed.keys) (plain : result.IsPlain)
    (agrees : ¬checkpoint.Disagrees result) : (checkpoint.completeTask taskId result).Agreed := by
  have toNew : ∀ other ∈ resultsOf checkpoint.completed, other.Agrees result := by
    intro other member
    by_contra differs
    exact agrees ⟨other, member, differs⟩
  refine ⟨plain_completeTask agreed.plain fresh plain, ?_, agreed.unflagged⟩
  · intro left leftMember right rightMember
    rw [resultsOf_completeTask fresh] at leftMember rightMember
    rcases List.mem_append.mp leftMember with leftOld | leftNew <;>
      rcases List.mem_append.mp rightMember with rightOld | rightNew
    · exact agreed.agree left leftOld right rightOld
    · exact List.mem_singleton.mp rightNew ▸ toNew left leftOld
    · rw [List.mem_singleton.mp leftNew]
      exact TaskResult.Agrees.symm (agreed.plain right rightOld) plain (toNew right rightOld)
    · rw [List.mem_singleton.mp leftNew, List.mem_singleton.mp rightNew]
      exact .refl plain

/-- A failed task whose error is no conflict. -/
theorem failTask
    (agreed : checkpoint.Agreed) (taskId : String) {error : String}
    (other : error ≠ "conflict_detected") : (checkpoint.failTask taskId error).Agreed := by
  refine ⟨agreed.plain, agreed.agree, ?_⟩
  intro entry member
  rcases OrderedDict.eq_or_mem_of_mem_set member with rfl | old
  · exact other
  · exact agreed.unflagged entry old

end RuntimeCheckpoint.Agreed

section Saving

private theorem exists_document_result
    {result : TaskResult} (plain : result.IsPlain) :
    ∃ document, result.toValue.toDocument canonicalOptions = .ok document := by
  refine toDocument_named_ok canonical_sorting ?_
  intro field member
  simp only [TaskResult.toFields, List.mem_cons, List.not_mem_nil, or_false] at member
  rcases member with rfl | rfl | rfl | rfl | rfl | rfl | rfl
  · exact ⟨_, rfl⟩
  · exact ⟨_, rfl⟩
  · exact ⟨_, rfl⟩
  · exact ⟨_, rfl⟩
  · exact plain.payload.exists_document canonical_sorting rfl
  · exact plain.provenance.exists_document canonical_sorting rfl
  · exact ⟨_, rfl⟩

private theorem exists_document_dictValue
    {α : Type} {dict : Dict String α} {change : α → Value}
    (each : ∀ entry ∈ dict.entries,
      ∃ document, (change entry.2).toDocument canonicalOptions = .ok document) :
    ∃ document, (dictValue dict change).toDocument canonicalOptions = .ok document := by
  refine toDocument_named_ok canonical_sorting ?_
  intro field member
  obtain ⟨entry, inside, rfl⟩ := List.mem_map.mp member
  exact each entry inside

/-- A checkpoint with plain results can be saved. -/
theorem RuntimeCheckpoint.exists_canonicalJson
    {checkpoint : RuntimeCheckpoint}
    (plain : ∀ result ∈ resultsOf checkpoint.completed, result.IsPlain) :
    ∃ text, canonicalJson checkpoint.toDict = .ok text := by
  have converted : ∃ document, checkpoint.toDict.toDocument canonicalOptions = .ok document := by
    refine toDocument_named_ok canonical_sorting ?_
    intro field member
    simp only [toFields, List.mem_cons, List.not_mem_nil, or_false] at member
    rcases member with rfl | rfl | rfl | rfl | rfl | rfl | rfl | rfl
    · exact ⟨_, rfl⟩
    · exact ⟨_, rfl⟩
    · exact ⟨_, rfl⟩
    · refine exists_document_dictValue (fun entry inside => ?_)
      exact exists_document_result (plain entry.2 (List.mem_map_of_mem inside))
    · exact exists_document_dictValue (fun _ _ => ⟨_, rfl⟩)
    · exact ⟨_, by simp [Value.toDocument, toDocuments_strings, Except.map]; rfl⟩
    · exact ⟨_, rfl⟩
    · exact ⟨_, rfl⟩
  obtain ⟨document, accepted⟩ := converted
  exact ⟨_, Persistence.canonicalJson_of_toDocument accepted⟩

end Saving

section Flagging

private theorem flagged_entries
    (taskId : String) (count : Nat) (failed : Dict String String) :
    (∀ entry ∈ ((List.replicate count taskId).foldl
        (fun failed taskId => failed.set taskId "conflict_detected") failed).entries,
      entry = (taskId, "conflict_detected") ∨ entry ∈ failed.entries) ∧
      (count ≠ 0 → (taskId, "conflict_detected") ∈ ((List.replicate count taskId).foldl
        (fun failed taskId => failed.set taskId "conflict_detected") failed).entries) := by
  induction count with
  | zero => exact ⟨fun _ member => .inr member, fun some => absurd rfl some⟩
  | succ count induction =>
      rw [List.replicate_succ', List.foldl_append]
      refine ⟨?_, fun _ => OrderedDict.mem_of_get? (OrderedDict.get?_set_self _ _ _)⟩
      intro entry member
      rcases OrderedDict.eq_or_mem_of_mem_set member with here | before
      · exact .inl here
      · exact induction.1 entry before

/-- When no task was flagged before, the report of a conflict lists the task. -/
theorem conflictTaskIds_conflict
    (sha256Hex : List Char → String) (request : RuntimeRequest Time)
    {checkpoint : RuntimeCheckpoint}
    (unflagged : ∀ entry ∈ checkpoint.failed.entries, entry.2 ≠ "conflict_detected")
    (taskId status : String) {count : Nat} (some : count ≠ 0) :
    (report sha256Hex request (checkpoint.conflict (List.replicate count taskId))
      status).conflictTaskIds = [taskId] := by
  obtain ⟨only, present⟩ := flagged_entries taskId count checkpoint.failed
  have present := present some
  generalize same : (List.replicate count taskId).foldl
    (fun failed taskId => failed.set taskId "conflict_detected") checkpoint.failed = failed
    at only present
  have distinct : (sortByName failed.entries).Nodup :=
    (keys_sortByName_nodup failed.distinct).of_map
  have listed : (sortByName failed.entries).filter
      (fun entry => entry.2 = "conflict_detected") = [(taskId, "conflict_detected")] := by
    refine List.perm_singleton.mp ((List.perm_ext_iff_of_nodup (distinct.filter _)
      (List.nodup_singleton _)).mpr ?_)
    intro entry
    rw [List.mem_filter, (sortByName_perm failed.entries).mem_iff, List.mem_singleton,
      decide_eq_true_eq]
    constructor
    · rintro ⟨member, flagged⟩
      rcases only entry member with here | before
      · exact here
      · exact absurd flagged (unflagged entry before)
    · rintro rfl
      exact ⟨present, rfl⟩
  simp only [report, RuntimeCheckpoint.conflict, same, sortedDict, listed, List.map_cons,
    List.map_nil]

end Flagging

/-- `left == right` for results: dictionaries are compared without order. -/
structure TaskResult.SameValue (left right : TaskResult) : Prop where
  taskId : left.taskId = right.taskId
  agentId : left.agentId = right.agentId
  status : left.status = right.status
  evidenceReference : left.evidenceReference = right.evidenceReference
  payload : (Value.dict left.payload).equals (.dict right.payload) = true
  provenance : (Value.dict left.provenance).equals (.dict right.provenance) = true
  retryable : left.retryable = right.retryable

/-- `left == right` for checkpoints. -/
structure RuntimeCheckpoint.SameValue (left right : RuntimeCheckpoint) : Prop where
  requestId : left.requestId = right.requestId
  idempotencyKey : left.idempotencyKey = right.idempotencyKey
  status : left.status = right.status
  completed : ∀ taskId,
    Option.Rel TaskResult.SameValue (left.completed.get? taskId) (right.completed.get? taskId)
  failed : ∀ taskId, left.failed.get? taskId = right.failed.get? taskId
  dispatched : ∀ key,
    key ∈ left.dispatchedIdempotencyKeys.items ↔ key ∈ right.dispatchedIdempotencyKeys.items
  paused : left.paused = right.paused
  stopped : left.stopped = right.stopped

/-- Reloaded entries equal the entries. -/
private theorem equals_reloadEntries
    {entries : List (Key × Value)} (plain : (Value.dict entries).IsPlain) :
    (Value.dict (reloadEntries canonicalOptions entries)).equals (.dict entries) = true := by
  obtain ⟨document, converted⟩ := plain.exists_document canonical_sorting rfl
  have reloaded : (Value.dict entries).reload canonicalOptions =
      .dict (reloadEntries canonicalOptions entries) := reload_dict converted
  have equal := equals_reload canonical_sorting rfl _ plain
  have reloadedPlain := isPlain_reload canonical_sorting rfl plain
  rw [reloaded] at equal reloadedPlain
  exact equals_symm _ _ plain reloadedPlain equal

theorem TaskResult.IsPlain.sameValue_reloaded {result : TaskResult} (plain : result.IsPlain) :
    result.reloaded.SameValue result :=
  { taskId := rfl
    agentId := rfl
    status := rfl
    evidenceReference := rfl
    payload := equals_reloadEntries plain.payload
    provenance := equals_reloadEntries plain.provenance
    retryable := rfl }

theorem RuntimeCheckpoint.sameValue_reloaded
    {checkpoint : RuntimeCheckpoint}
    (plain : ∀ result ∈ resultsOf checkpoint.completed, result.IsPlain) :
    checkpoint.reloaded.SameValue checkpoint where
  requestId := rfl
  idempotencyKey := rfl
  status := rfl
  completed taskId := by
    have found : checkpoint.reloaded.completed.get? taskId =
        (checkpoint.completed.get? taskId).map TaskResult.reloaded := by
      simp only [reloaded, Dict.get?, Dict.mapValues, OrderedDict.get?_map]
      exact congrArg _ (get?_sortByName checkpoint.completed.distinct taskId)
    rw [found]
    cases stored : checkpoint.completed.get? taskId with
    | none => exact .none
    | some result =>
        have listed : result ∈ resultsOf checkpoint.completed :=
          List.mem_map_of_mem (OrderedDict.mem_of_get? stored)
        exact .some (plain result listed).sameValue_reloaded
  failed taskId := get?_sortByName checkpoint.failed.distinct taskId
  dispatched key := by simp [reloaded]
  paused := rfl
  stopped := rfl

/-- A checkpoint with plain results can be saved, and what is loaded from its
text is the same value. -/
theorem checkpoint_survives_save_and_load
    {checkpoint : RuntimeCheckpoint}
    (plain : ∀ result ∈ resultsOf checkpoint.completed, result.IsPlain) :
    ∃ text value loaded, canonicalJson checkpoint.toDict = .ok text ∧ loads text = some value ∧
      RuntimeCheckpoint.fromDict value = .ok loaded ∧ loaded.SameValue checkpoint := by
  obtain ⟨text, saved⟩ := RuntimeCheckpoint.exists_canonicalJson plain
  obtain ⟨value, decoded, read⟩ := RuntimeCheckpoint.load_save saved
  exact ⟨text, value, _, saved, decoded, read, RuntimeCheckpoint.sameValue_reloaded plain⟩

/-- A result with nested fields that are not in the order of their names. -/
def nestedResult : TaskResult :=
  { taskId := "task-b"
    agentId := "coder"
    status := "SUCCEEDED"
    evidenceReference := "evidence://b"
    payload := named
      [("signals", .list [.int 1, .none, .dict (named [("b", .bool true), ("a", .str "x")])]),
        ("note", .str "done")]
    provenance := named [("source", .str "test")] }

def nestedCheckpoint : RuntimeCheckpoint :=
  { requestId := "r1"
    idempotencyKey := "k1"
    status := "PAUSED"
    completed := Dict.empty.set "task-b" nestedResult
    failed := (Dict.empty.set "task-z" "failed").set "task-c" "rejected"
    dispatchedIdempotencyKeys := KeySet.ofList ["k1:task-z", "k1:task-b", "k1:task-c"]
    paused := true }

theorem nestedCheckpoint_survives :
    ∃ text value loaded, canonicalJson nestedCheckpoint.toDict = .ok text ∧
      loads text = some value ∧ RuntimeCheckpoint.fromDict value = .ok loaded ∧
        loaded.SameValue nestedCheckpoint := by
  apply checkpoint_survives_save_and_load
  intro result member
  obtain rfl := List.mem_singleton.mp member
  constructor <;> constructor <;>
    simp [nestedResult, named, Value.IsJson, Value.IsJsonItems, Value.IsJsonEntries,
      Value.FiniteNumbers, Value.FiniteNumbersItems, Value.FiniteNumbersEntries, Key.isStr]

end SuperAdvisor.MainAgent
