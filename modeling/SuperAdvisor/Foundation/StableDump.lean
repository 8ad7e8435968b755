import SuperAdvisor.Foundation.NamedFields

/-!
# Dumping again what was loaded

A value whose keys keep their order when they become text dumps to the same
document before and after it was dumped and loaded, also when a field of the
loaded dictionary is written again.
-/

namespace Python

open JsonText

variable {options : DumpOptions}

/-- A stable value loads back as the value of its document. -/
theorem reload_eq_ofDocument
    (sorting : options.sortKeys = true) {value : Value} {document : Document}
    (converted : value.toDocument options = .ok document) (stable : value.KeyOrderStable) :
    value.reload options = ofDocument document := by
  have dumped := toDocument_dumped value converted (fun _ => stable)
  have distinct := dumped.distinctKeys sorting
  simp [Value.reload, converted, document.loaded_of_distinctKeys distinct]

theorem toDocument_reload
    (sorting : options.sortKeys = true) {value : Value} {document : Document}
    (converted : value.toDocument options = .ok document) (stable : value.KeyOrderStable) :
    (value.reload options).toDocument options = .ok document := by
  rw [reload_eq_ofDocument sorting converted stable]
  exact toDocument_ofDocument document (toDocument_dumped value converted (fun _ => stable))

theorem dumps_reload
    (sorting : options.sortKeys = true) {value : Value} {text : List Char}
    (dumped : dumps options value = .ok text) (stable : value.KeyOrderStable) :
    dumps options (value.reload options) = .ok text := by
  obtain ⟨document, converted, rfl⟩ := except_map_eq_ok.mp dumped
  simp [dumps, toDocument_reload sorting converted stable, Except.map]

/-- A dictionary whose keys are all strings is a record. -/
theorem exists_named
    {entries : List (Key × Value)} (strings : ∀ entry ∈ entries, entry.1.isStr = true) :
    ∃ fields, entries = named fields := by
  induction entries with
  | nil => exact ⟨[], rfl⟩
  | cons entry entries induction =>
      obtain ⟨fields, rfl⟩ := induction (fun other member => strings other (by simp [member]))
      obtain ⟨key, value⟩ := entry
      cases key with
      | str name => exact ⟨(name, value) :: fields, rfl⟩
      | _ => exact absurd (strings _ List.mem_cons_self) (by simp [Key.isStr])

theorem setEntry_named (fields : List (String × Value)) (name : String) (value : Value) :
    setEntry (named fields) (.str name) value = named (OrderedDict.set fields name value) := by
  induction fields with
  | nil => rfl
  | cons field fields induction =>
      obtain ⟨candidate, old⟩ := field
      by_cases same : candidate = name <;>
        simp [setEntry, Key.same, Key.number?, OrderedDict.set, same, induction]

private theorem stableEntries
    {entries : List (Key × Value)} (stable : Value.KeyOrderStableEntries entries) :
    ∀ entry ∈ entries, entry.2.KeyOrderStable := by
  induction entries with
  | nil => simp
  | cons entry entries induction =>
      obtain ⟨key, value⟩ := entry
      intro other member
      rcases List.mem_cons.mp member with rfl | later
      · exact stable.1
      · exact induction stable.2 other later

/-- The names of a stable record are distinct and its values are stable. -/
theorem keyOrderStable_named
    {fields : List (String × Value)} (stable : (Value.dict (named fields)).KeyOrderStable) :
    (OrderedDict.keys fields).Nodup ∧ ∀ field ∈ fields, field.2.KeyOrderStable := by
  obtain ⟨ascending, values⟩ := stable
  constructor
  · have names : ((sortKeys ((named fields).map Prod.fst)).map Key.jsonName).Perm
        (OrderedDict.keys fields) := by
      have sorted : (sortKeys ((named fields).map Prod.fst)).Perm
          ((named fields).map Prod.fst) := List.perm_insertionSort _ _
      simpa [named, OrderedDict.keys, Function.comp_def, Key.jsonName] using
        sorted.map Key.jsonName
    exact names.nodup_iff.mp (ascending.imp (fun less => ne_of_lt less))
  · intro field member
    exact stableEntries values (.str field.1, field.2) (List.mem_map.mpr ⟨field, member, rfl⟩)

theorem convertFields_reload
    (sorting : options.sortKeys = true) {entries : List (String × Value)}
    {fields : List (String × Document)} (converted : convertFields options entries = .ok fields)
    (stable : ∀ entry ∈ entries, entry.2.KeyOrderStable) :
    convertFields options
        (entries.map (fun entry => (entry.1, entry.2.reload options))) = .ok fields := by
  induction entries generalizing fields with
  | nil => exact converted
  | cons entry entries induction =>
      obtain ⟨name, value⟩ := entry
      simp only [convertFields, except_bind_eq_ok] at converted
      obtain ⟨document, accepted, others, rest, built⟩ := converted
      have first := toDocument_reload sorting accepted (stable (name, value) (by simp))
      have later := induction rest (fun other member => stable other (by simp [member]))
      simp only [List.map_cons, convertFields, first, later]
      exact built

/-- Records with the same distinct names and values in any order sort alike. -/
theorem sortByName_eq_of_perm
    {α : Type} {first second : List (String × α)} (permutation : first.Perm second)
    (distinct : (OrderedDict.keys first).Nodup) : sortByName first = sortByName second := by
  refine List.Perm.eq_of_pairwise ?_
    (List.pairwise_insertionSort _ _) (List.pairwise_insertionSort _ _)
    ((sortByName_perm first).trans (permutation.trans (sortByName_perm second).symm))
  intro left right leftIn rightIn below above
  have same : left.1 = right.1 := le_antisymm below above
  have inFirst := (sortByName_perm first).mem_iff.mp leftIn
  have alsoInFirst := permutation.mem_iff.mpr ((sortByName_perm second).mem_iff.mp rightIn)
  have found := OrderedDict.get?_eq_some_of_mem distinct inFirst
  have again := OrderedDict.get?_eq_some_of_mem distinct alsoInFirst
  rw [same, again] at found
  exact Prod.ext same (Option.some.inj found).symm

/-- The entries of a stable record after it was dumped and loaded. -/
theorem reloadEntries_named
    (sorting : options.sortKeys = true) {fields : List (String × Value)}
    (distinct : (OrderedDict.keys fields).Nodup) {document : Document}
    (converted : (Value.dict (named fields)).toDocument options = .ok document) :
    reloadEntries options (named fields) =
      named ((sortByName fields).map (fun field => (field.1, field.2.reload options))) := by
  have loaded := reload_dict converted
  rw [reload_named sorting distinct converted] at loaded
  exact (Value.dict.inj loaded).symm

/-- Writing a text into a record gives the same document before and after the
record was dumped and loaded, if what was written is stable. -/
theorem dumps_setEntry_reload
    (sorting : options.sortKeys = true) {fields : List (String × Value)} (name text : String)
    (stable : (Value.dict (setEntry (named fields) (.str name) (.str text))).KeyOrderStable)
    {document : Document}
    (converted : (Value.dict (named fields)).toDocument options = .ok document)
    {printed : List Char}
    (dumped : dumps options (.dict (setEntry (named fields) (.str name) (.str text))) =
      .ok printed) :
    dumps options (.dict (setEntry (reloadEntries options (named fields)) (.str name)
      (.str text))) = .ok printed := by
  rw [setEntry_named] at stable dumped
  obtain ⟨distinctWritten, values⟩ := keyOrderStable_named stable
  have distinct : (OrderedDict.keys fields).Nodup :=
    (OrderedDict.keys_sublist_set fields name (.str text)).nodup distinctWritten
  rw [reloadEntries_named sorting distinct converted, setEntry_named]
  obtain ⟨written, accepted, rfl⟩ := except_map_eq_ok.mp dumped
  rw [toDocument_named sorting] at accepted
  obtain ⟨others, fieldwise, rfl⟩ := except_map_eq_ok.mp accepted
  have order : sortByName (OrderedDict.set ((sortByName fields).map
        (fun field => (field.1, field.2.reload options))) name (.str text)) =
      (sortByName (OrderedDict.set fields name (.str text))).map
        (fun field => (field.1, field.2.reload options)) := by
    rw [← sortByName_map (Value.reload options) (OrderedDict.set fields name (.str text)),
      OrderedDict.map_set, reload_str]
    refine sortByName_eq_of_perm (OrderedDict.set_perm_of_perm ?_ ?_ _ _) ?_
    · exact (sortByName_perm fields).map _
    · simpa [OrderedDict.keys, Function.comp_def] using keys_sortByName_nodup distinct
    · refine OrderedDict.keys_nodup_set ?_ _ _
      simpa [OrderedDict.keys, Function.comp_def] using keys_sortByName_nodup distinct
  have stableWritten : ∀ field ∈ sortByName (OrderedDict.set fields name (.str text)),
      field.2.KeyOrderStable :=
    fun field member => values field ((sortByName_perm _).mem_iff.mp member)
  simp [dumps, toDocument_named sorting, order,
    convertFields_reload sorting fieldwise stableWritten, Except.map]

/-- A record whose values all have a JSON form has one. -/
theorem convertFields_ok
    {entries : List (String × Value)}
    (fieldwise : ∀ entry ∈ entries, ∃ document, entry.2.toDocument options = .ok document) :
    ∃ fields, convertFields options entries = .ok fields := by
  induction entries with
  | nil => exact ⟨[], rfl⟩
  | cons entry entries induction =>
      obtain ⟨name, value⟩ := entry
      obtain ⟨document, accepted⟩ := fieldwise (name, value) (by simp)
      obtain ⟨others, rest⟩ := induction (fun other member => fieldwise other (by simp [member]))
      exact ⟨(name, document) :: others, by simp [convertFields, accepted, rest, bind, Except.bind]⟩

theorem toDocument_named_ok
    (sorting : options.sortKeys = true) {entries : List (String × Value)}
    (fieldwise : ∀ entry ∈ entries, ∃ document, entry.2.toDocument options = .ok document) :
    ∃ document, (Value.dict (named entries)).toDocument options = .ok document := by
  obtain ⟨fields, converted⟩ := convertFields_ok (fun entry (member : entry ∈ sortByName entries) =>
    fieldwise entry ((sortByName_perm entries).mem_iff.mp member))
  exact ⟨.object fields, by simp [toDocument_named sorting, converted, Except.map]⟩

end Python
