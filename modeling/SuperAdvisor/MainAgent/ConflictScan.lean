import SuperAdvisor.Foundation.PlainEquality
import SuperAdvisor.MainAgent.CheckpointSteps

/-!
# The scan for conflicts

The scan remembers one value for every payload key.  While all results agree it
does not matter which: the value remembered under an evidence key equals all the
others, so a further result is flagged exactly when it disagrees with one of
the results before it.
-/

namespace SuperAdvisor.MainAgent

open Python

/-- The keys the gate looks at. -/
def isEvidenceKey (name : String) : Bool :=
  "evidence.".toList.isPrefixOf name.toList

/-- The two results have equal values under every evidence key of both. -/
def TaskResult.Agrees (left right : TaskResult) : Prop :=
  ∀ name, isEvidenceKey name = true → ∀ first second,
    lookupEntry left.payload (.str name) = some first →
      lookupEntry right.payload (.str name) = some second → first.equals second = true

/-- A result whose payload and provenance are JSON objects with finite numbers. -/
structure TaskResult.IsPlain (result : TaskResult) : Prop where
  payload : (Value.dict result.payload).IsPlain
  provenance : (Value.dict result.provenance).IsPlain

theorem TaskResult.Agrees.refl {result : TaskResult} (plain : result.IsPlain) :
    result.Agrees result := by
  intro name _ first second looked again
  obtain rfl : first = second := by simpa [looked] using again
  have plain := isPlain_of_lookup plain.payload looked
  exact equals_self first plain.json plain.finite

theorem TaskResult.Agrees.symm
    {left right : TaskResult} (leftPlain : left.IsPlain) (rightPlain : right.IsPlain)
    (agree : left.Agrees right) : right.Agrees left := by
  intro name evidence first second looked again
  exact equals_symm second first (isPlain_of_lookup leftPlain.payload again)
    (isPlain_of_lookup rightPlain.payload looked) (agree name evidence second first again looked)

section Reload

theorem canonical_sorting : canonicalOptions.sortKeys = true := rfl

private theorem canonical_strict : canonicalOptions.allowNan = false := rfl

private theorem lookupEntry_reloaded
    {entries : List (Key × Value)} (plain : (Value.dict entries).IsPlain) (name : String) :
    lookupEntry (reloadEntries canonicalOptions entries) (.str name) =
      (lookupEntry entries (.str name)).map (Value.reload canonicalOptions) := by
  obtain ⟨document, converted⟩ := plain.exists_document canonical_sorting canonical_strict
  obtain ⟨fields, rfl, distinct, -⟩ := exists_named_of_isPlain plain
  have reloaded := reload_named rfl distinct converted
  rw [reload_dict converted] at reloaded
  rw [Value.dict.inj reloaded, lookupEntry_named, OrderedDict.get?_map,
    get?_sortByName distinct, lookupEntry_named]

private theorem isPlain_reloadEntries
    {entries : List (Key × Value)} (plain : (Value.dict entries).IsPlain) :
    (Value.dict (reloadEntries canonicalOptions entries)).IsPlain := by
  obtain ⟨document, converted⟩ := plain.exists_document canonical_sorting canonical_strict
  rw [← reload_dict converted]
  exact isPlain_reload rfl rfl plain

theorem TaskResult.IsPlain.reloaded {result : TaskResult} (plain : result.IsPlain) :
    result.reloaded.IsPlain :=
  ⟨isPlain_reloadEntries plain.payload, isPlain_reloadEntries plain.provenance⟩

/-- A result and what it is after it was saved and loaded agree with the same results. -/
theorem TaskResult.agrees_reloaded
    {left right : TaskResult} (leftPlain : left.IsPlain) (rightPlain : right.IsPlain) :
    left.reloaded.Agrees right ↔ left.Agrees right := by
  have shown := lookupEntry_reloaded leftPlain.payload
  constructor
  · intro agree name evidence first second looked again
    have plain := isPlain_of_lookup leftPlain.payload looked
    refine equals_trans first (first.reload canonicalOptions) second plain
      (isPlain_reload rfl rfl plain) (isPlain_of_lookup rightPlain.payload again)
      (equals_reload rfl rfl first plain) ?_
    exact agree name evidence _ _ ((shown name).trans (by rw [looked]; rfl)) again
  · intro agree name evidence reloaded second looked again
    obtain ⟨first, stands, rfl⟩ := Option.map_eq_some_iff.mp ((shown name).symm.trans looked)
    have plain := isPlain_of_lookup leftPlain.payload stands
    have same := equals_symm first (first.reload canonicalOptions) plain
      (isPlain_reload rfl rfl plain) (equals_reload rfl rfl first plain)
    exact equals_trans _ first second (isPlain_reload rfl rfl plain) plain
      (isPlain_of_lookup rightPlain.payload again) same
      (agree name evidence first second stands again)

end Reload

section Scan

/-- The value remembered under the key of the entry is another one. -/
def conflicting (values : List (String × Value)) (field : String × Value) : Bool :=
  isEvidenceKey field.1 &&
    match OrderedDict.get? values field.1 with
    | some known => !known.equals field.2
    | none => false

private theorem scanEntry_named
    (taskId : String) (values : List (String × Value)) (conflicts : List String)
    (field : String × Value) :
    scanEntry taskId { values := named values, conflicts := conflicts }
        (.str field.1, field.2) =
      .ok
        { values := named (OrderedDict.set values field.1 field.2)
          conflicts :=
            if conflicting values field then conflicts ++ [taskId] else conflicts } := by
  simp only [scanEntry, lookupEntry_named, setEntry_named, conflicting, isEvidenceKey]
  rfl

/-- Scanning a payload with different keys flags the task once for every key
that conflicts with a value known before. -/
theorem foldlM_scanEntry
    (taskId : String) {fields : List (String × Value)}
    (distinct : (OrderedDict.keys fields).Nodup) (values : List (String × Value))
    (conflicts : List String) :
    (named fields).foldlM (scanEntry taskId)
        { values := named values, conflicts := conflicts } =
      .ok
        { values := named (fields.foldl
            (fun values field => OrderedDict.set values field.1 field.2) values)
          conflicts :=
            conflicts ++ List.replicate (fields.countP (conflicting values)) taskId } := by
  induction fields generalizing values conflicts with
  | nil => simp [pure, Except.pure]
  | cons field fields induction =>
      obtain ⟨name, value⟩ := field
      have fresh : name ∉ OrderedDict.keys fields ∧ (OrderedDict.keys fields).Nodup := by
        simpa [OrderedDict.keys] using distinct
      have unchanged : fields.countP (conflicting (OrderedDict.set values name value)) =
          fields.countP (conflicting values) := by
        refine List.countP_congr (fun field member => ?_)
        have different : field.1 ≠ name := by
          rintro rfl
          exact fresh.1 (List.mem_map_of_mem member)
        simp [conflicting, OrderedDict.get?_set_of_ne _ _ different]
      rw [named_cons, List.foldlM_cons, scanEntry_named taskId values conflicts (name, value)]
      simp only [bind, Except.bind, List.foldl_cons]
      rw [induction fresh.2, unchanged, List.countP_cons]
      cases conflicting values (name, value) <;> simp [List.replicate_succ]

/-- The values a scan remembers are those of the results it has seen. -/
structure Remembers (values : List (String × Value)) (seen : List TaskResult) : Prop where
  known : ∀ name value, OrderedDict.get? values name = some value →
    ∃ result ∈ seen, lookupEntry result.payload (.str name) = some value
  covered : ∀ result ∈ seen, ∀ name value,
    lookupEntry result.payload (.str name) = some value →
      ∃ known, OrderedDict.get? values name = some known

variable {values : List (String × Value)} {seen : List TaskResult}

private theorem Remembers.scanned
    (remembers : Remembers values seen) {result : TaskResult} {fields : List (String × Value)}
    (payload : result.payload = named fields) (distinct : (OrderedDict.keys fields).Nodup) :
    Remembers (fields.foldl (fun values field => OrderedDict.set values field.1 field.2) values)
      (seen ++ [result]) := by
  have shown : ∀ name, lookupEntry result.payload (.str name) = OrderedDict.get? fields name := by
    intro name
    rw [payload, lookupEntry_named]
  have found : ∀ name, OrderedDict.get? (fields.foldl
      (fun values field => OrderedDict.set values field.1 field.2) values) name =
        (OrderedDict.get? fields name).or (OrderedDict.get? values name) := by
    intro name
    rw [OrderedDict.get?_foldl_set Prod.fst Prod.snd, ← OrderedDict.get?_ofPairs,
      OrderedDict.ofPairs_of_nodup distinct]
  constructor
  · intro name value looked
    rw [found] at looked
    rcases Option.or_eq_some_iff.mp looked with here | ⟨-, before⟩
    · exact ⟨result, by simp, (shown name).trans here⟩
    · obtain ⟨other, inside, same⟩ := remembers.known name value before
      exact ⟨other, by simp [inside], same⟩
  · intro other member name value looked
    rw [found]
    cases here : OrderedDict.get? fields name with
    | some first => exact ⟨first, rfl⟩
    | none =>
        rcases List.mem_append.mp member with before | last
        · obtain ⟨known, stands⟩ := remembers.covered other before name value looked
          exact ⟨known, by simpa using stands⟩
        · obtain rfl : other = result := by simpa using last
          rw [shown, here] at looked
          cases looked

/-- When the results seen so far agree with each other, a further one disagrees
with one of them exactly when it has a conflicting entry. -/
theorem Remembers.conflicting_iff
    (remembers : Remembers values seen) (plain : ∀ result ∈ seen, result.IsPlain)
    (agree : ∀ left ∈ seen, ∀ right ∈ seen, left.Agrees right) {result : TaskResult}
    (resultPlain : result.IsPlain) {fields : List (String × Value)}
    (payload : result.payload = named fields) (distinct : (OrderedDict.keys fields).Nodup) :
    (∃ field ∈ fields, conflicting values field = true) ↔
      ∃ other ∈ seen, ¬other.Agrees result := by
  have shown : ∀ name, lookupEntry result.payload (.str name) = OrderedDict.get? fields name := by
    intro name
    rw [payload, lookupEntry_named]
  constructor
  · rintro ⟨⟨name, value⟩, member, flagged⟩
    simp only [conflicting, Bool.and_eq_true] at flagged
    obtain ⟨evidence, differs⟩ := flagged
    cases found : OrderedDict.get? values name with
    | none => simp [found] at differs
    | some known =>
        obtain ⟨other, inside, looked⟩ := remembers.known name known found
        refine ⟨other, inside, fun agrees => ?_⟩
        have same := agrees name evidence known value looked
          ((shown name).trans (OrderedDict.get?_eq_some_of_mem distinct member))
        simp [found, same] at differs
  · rintro ⟨other, inside, disagrees⟩
    simp only [TaskResult.Agrees, not_forall] at disagrees
    obtain ⟨name, evidence, first, second, looked, again, differs⟩ := disagrees
    obtain ⟨known, found⟩ := remembers.covered other inside name first looked
    obtain ⟨last, lastIn, behind⟩ := remembers.known name known found
    rw [shown] at again
    refine ⟨(name, second), OrderedDict.mem_of_get? again, ?_⟩
    -- the value remembered equals the one of the other result
    have same := agree other inside last lastIn name evidence first known looked behind
    have apart : known.equals second = false := by
      refine Bool.eq_false_iff.mpr (fun equal => differs ?_)
      exact equals_trans first known second
        (isPlain_of_lookup (plain other inside).payload looked)
        (isPlain_of_lookup (plain last lastIn).payload behind)
        (isPlain_of_lookup resultPlain.payload ((shown name).trans again)) same equal
    simp [conflicting, evidence, found, apart]

/-- Scanning one more result flags its task once for every conflicting entry. -/
theorem Remembers.scan
    (remembers : Remembers values seen) (plain : ∀ result ∈ seen, result.IsPlain)
    (agree : ∀ left ∈ seen, ∀ right ∈ seen, left.Agrees right) (taskId : String)
    {result : TaskResult} (resultPlain : result.IsPlain) (conflicts : List String) :
    ∃ after count,
      result.payload.foldlM (scanEntry taskId)
          { values := named values, conflicts := conflicts } =
        .ok
          { values := named after, conflicts := conflicts ++ List.replicate count taskId } ∧
      Remembers after (seen ++ [result]) ∧
      (count ≠ 0 ↔ ∃ other ∈ seen, ¬other.Agrees result) := by
  obtain ⟨fields, payload, distinct, -⟩ := exists_named_of_isPlain resultPlain.payload
  refine ⟨_, fields.countP (conflicting values), ?_, remembers.scanned payload distinct, ?_⟩
  · rw [payload, foldlM_scanEntry taskId distinct]
  · rw [← remembers.conflicting_iff plain agree resultPlain payload distinct,
      ← Nat.pos_iff_ne_zero, List.countP_pos_iff]

private theorem Remembers.scanAll
    {results : List (String × TaskResult)} (remembers : Remembers values seen)
    (plain : ∀ result ∈ seen ++ results.map Prod.snd, result.IsPlain)
    (agree : ∀ left ∈ seen ++ results.map Prod.snd,
      ∀ right ∈ seen ++ results.map Prod.snd, left.Agrees right) :
    ∃ after,
      results.foldlM (fun scan entry => entry.2.payload.foldlM (scanEntry entry.1) scan)
          { values := named values, conflicts := [] } =
        .ok { values := named after, conflicts := [] } ∧
      Remembers after (seen ++ results.map Prod.snd) := by
  induction results generalizing values seen with
  | nil => exact ⟨values, rfl, by simpa using remembers⟩
  | cons entry results induction =>
      obtain ⟨taskId, result⟩ := entry
      obtain ⟨next, count, scanned, later, flagged⟩ := remembers.scan
        (fun result member => plain result (by simp [member]))
        (fun left member right other => agree left (by simp [member]) right (by simp [other]))
        taskId (plain result (by simp)) []
      have none : count = 0 := by
        by_contra some
        obtain ⟨other, member, disagrees⟩ := flagged.mp some
        exact disagrees (agree other (by simp [member]) result (by simp))
      obtain ⟨after, rest, final⟩ := induction later (by simpa using plain) (by simpa using agree)
      refine ⟨after, ?_, by simpa using final⟩
      subst none
      rw [List.foldlM_cons, scanned]
      exact rest

/-- The completed results of a checkpoint. -/
def resultsOf (completed : Dict String TaskResult) : List TaskResult :=
  completed.entries.map Prod.snd

/-- The gate flags the last task exactly when its result disagrees with an earlier
one, and no other task. -/
theorem detectConflicts_set
    {completed : Dict String TaskResult} {taskId : String} {result : TaskResult}
    (fresh : taskId ∉ completed.keys) (plain : ∀ other ∈ resultsOf completed, other.IsPlain)
    (resultPlain : result.IsPlain)
    (agree : ∀ left ∈ resultsOf completed, ∀ right ∈ resultsOf completed, left.Agrees right) :
    ∃ count, detectConflicts (completed.set taskId result) =
        .ok (List.replicate count taskId) ∧
      (count ≠ 0 ↔ ∃ other ∈ resultsOf completed, ¬other.Agrees result) := by
  have empty : Remembers [] [] := by
    constructor
    · intro name value looked
      cases looked
    · intro other member
      cases member
  obtain ⟨values, scanned, remembers⟩ := @Remembers.scanAll [] [] completed.entries empty
    plain agree
  obtain ⟨after, count, last, -, flagged⟩ := remembers.scan plain agree taskId resultPlain []
  refine ⟨count, ?_, flagged⟩
  have shape : (completed.set taskId result).entries = completed.entries ++ [(taskId, result)] :=
    OrderedDict.set_of_not_mem fresh result
  rw [named_nil] at scanned
  rw [detectConflicts, shape, List.foldlM_append, scanned]
  simp [bind, Except.bind, pure, Except.pure, last]

end Scan

end SuperAdvisor.MainAgent
