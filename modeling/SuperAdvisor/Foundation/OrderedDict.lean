import Mathlib.Data.List.Induction
import Mathlib.Data.List.Basic
import Mathlib.Data.List.Nodup

/-!
# Insertion-ordered dictionaries

A dictionary that remembers insertion order is an association list.  Writing
an existing key replaces its value in place; writing a new key appends it.
The lemmas state what a lookup sees after a write and how the list of keys
grows, which is all that callers need.
-/

namespace OrderedDict

variable {κ ν : Type} [DecidableEq κ]

def keys (entries : List (κ × ν)) : List κ :=
  entries.map Prod.fst

def get? (entries : List (κ × ν)) (key : κ) : Option ν :=
  match entries with
  | [] => none
  | (candidate, value) :: rest =>
      if candidate = key then some value else get? rest key

def contains (entries : List (κ × ν)) (key : κ) : Bool :=
  (get? entries key).isSome

def set (entries : List (κ × ν)) (key : κ) (value : ν) : List (κ × ν) :=
  match entries with
  | [] => [(key, value)]
  | (candidate, old) :: rest =>
      if candidate = key then (candidate, value) :: rest
      else (candidate, old) :: set rest key value

def erase (entries : List (κ × ν)) (key : κ) : List (κ × ν) :=
  entries.filter (fun entry => !decide (entry.1 = key))

/-- Build a dictionary from pairs; a repeated key keeps its first position
and its last value. -/
def ofPairs (pairs : List (κ × ν)) : List (κ × ν) :=
  pairs.foldl (fun entries pair => set entries pair.1 pair.2) []

theorem get?_set_self (entries : List (κ × ν)) (key : κ) (value : ν) :
    get? (set entries key value) key = some value := by
  induction entries with
  | nil => simp [set, get?]
  | cons entry entries induction =>
      obtain ⟨candidate, old⟩ := entry
      by_cases same : candidate = key
      · simp [set, get?, same]
      · simp [set, get?, same, induction]

theorem get?_set_of_ne
    (entries : List (κ × ν)) {key other : κ} (value : ν)
    (different : other ≠ key) :
    get? (set entries key value) other = get? entries other := by
  induction entries with
  | nil => simp [set, get?, different.symm]
  | cons entry entries induction =>
      obtain ⟨candidate, old⟩ := entry
      by_cases same : candidate = key
      · subst same
        simp [set, get?, different.symm]
      · simp [set, get?, same, induction]

theorem set_set (entries : List (κ × ν)) (key : κ) (first second : ν) :
    set (set entries key first) key second = set entries key second := by
  induction entries with
  | nil => simp [set]
  | cons entry entries induction =>
      obtain ⟨candidate, old⟩ := entry
      by_cases same : candidate = key
      · simp [set, same]
      · simp [set, same, induction]

theorem get?_eq_none_iff {entries : List (κ × ν)} {key : κ} :
    get? entries key = none ↔ key ∉ keys entries := by
  induction entries with
  | nil => simp [get?, keys]
  | cons entry entries induction =>
      obtain ⟨candidate, old⟩ := entry
      by_cases same : candidate = key
      · simp [get?, keys, same]
      · have different : key ≠ candidate := fun equal => same equal.symm
        simp only [keys] at induction
        simp [get?, keys, same, different, induction]

theorem contains_iff {entries : List (κ × ν)} {key : κ} :
    contains entries key = true ↔ key ∈ keys entries := by
  have absent := @get?_eq_none_iff κ ν _ entries key
  unfold contains
  cases found : get? entries key with
  | none => simpa [found] using absent
  | some value => simpa [found] using absent

theorem get?_map
    {μ : Type} (change : ν → μ) (entries : List (κ × ν)) (key : κ) :
    get? (entries.map (fun entry => (entry.1, change entry.2))) key =
      (get? entries key).map change := by
  induction entries with
  | nil => rfl
  | cons entry entries induction =>
      obtain ⟨candidate, value⟩ := entry
      by_cases same : candidate = key <;> simp [get?, same, induction]

theorem get?_eq_some_of_mem
    {entries : List (κ × ν)} (distinct : (keys entries).Nodup) {key : κ} {value : ν}
    (member : (key, value) ∈ entries) : get? entries key = some value := by
  induction entries with
  | nil => cases member
  | cons entry entries induction =>
      obtain ⟨candidate, old⟩ := entry
      have parts : candidate ∉ keys entries ∧ (keys entries).Nodup := by
        simpa [keys] using distinct
      rcases List.mem_cons.mp member with same | later
      · cases same
        simp [get?]
      · have different : candidate ≠ key := by
          rintro rfl
          exact parts.1 (List.mem_map.mpr ⟨_, later, rfl⟩)
        simpa [get?, different] using induction parts.2 later

theorem mem_of_get?
    {entries : List (κ × ν)} {key : κ} {value : ν}
    (found : get? entries key = some value) : (key, value) ∈ entries := by
  induction entries with
  | nil => cases found
  | cons entry entries induction =>
      obtain ⟨candidate, old⟩ := entry
      by_cases same : candidate = key
      · simp only [get?, same, if_true, Option.some.injEq] at found
        simp [same, found]
      · simp only [get?, same, if_false] at found
        exact List.mem_cons_of_mem _ (induction found)

/-- A lookup does not depend on the order of different keys. -/
theorem get?_perm
    {first second : List (κ × ν)} (permutation : first.Perm second)
    (distinct : (keys first).Nodup) (key : κ) : get? first key = get? second key := by
  have distinctSecond : (keys second).Nodup :=
    (permutation.map Prod.fst).nodup_iff.mp distinct
  cases found : get? second key with
  | some value =>
      exact get?_eq_some_of_mem distinct
        (permutation.mem_iff.mpr (mem_of_get? found))
  | none =>
      rw [get?_eq_none_iff] at found ⊢
      exact fun member => found ((permutation.map Prod.fst).mem_iff.mp member)

theorem mem_keys_set_iff
    {entries : List (κ × ν)} {key other : κ} {value : ν} :
    other ∈ keys (set entries key value) ↔ other = key ∨ other ∈ keys entries := by
  induction entries with
  | nil => simp [set, keys]
  | cons entry entries induction =>
      obtain ⟨candidate, old⟩ := entry
      by_cases same : candidate = key
      · subst same
        simp [set, keys]
      · simp only [keys] at induction ⊢
        simp [set, same, induction, or_left_comm]

theorem keys_nodup_set
    {entries : List (κ × ν)} (distinct : (keys entries).Nodup)
    (key : κ) (value : ν) :
    (keys (set entries key value)).Nodup := by
  induction entries with
  | nil => simp [set, keys]
  | cons entry entries induction =>
      obtain ⟨candidate, old⟩ := entry
      have parts : candidate ∉ keys entries ∧ (keys entries).Nodup := by
        simpa [keys] using distinct
      by_cases same : candidate = key
      · simpa [set, keys, same] using distinct
      · have fresh : candidate ∉ keys (set entries key value) := by
          rw [mem_keys_set_iff]
          exact fun member => member.elim same parts.1
        have tail := induction parts.2
        simp only [set, same, if_false, keys, List.map_cons,
          List.nodup_cons]
        exact ⟨fresh, tail⟩

/-- An entry after a write is the written one or was there before. -/
theorem eq_or_mem_of_mem_set
    {entries : List (κ × ν)} {key : κ} {value : ν} {entry : κ × ν}
    (member : entry ∈ set entries key value) : entry = (key, value) ∨ entry ∈ entries := by
  induction entries with
  | nil => exact .inl (List.mem_singleton.mp member)
  | cons head entries induction =>
      obtain ⟨candidate, old⟩ := head
      by_cases same : candidate = key
      · simp only [set, same, if_true] at member
        rcases List.mem_cons.mp member with rfl | later
        · exact .inl rfl
        · exact .inr (List.mem_cons_of_mem _ later)
      · simp only [set, same, if_false] at member
        rcases List.mem_cons.mp member with rfl | later
        · exact .inr List.mem_cons_self
        · exact (induction later).imp id (List.mem_cons_of_mem _)

theorem mem_set
    {entries : List (κ × ν)} {key : κ} {value : ν} {entry : κ × ν}
    (member : entry ∈ set entries key value) : entry.2 = value ∨ entry ∈ entries :=
  (eq_or_mem_of_mem_set member).imp (congrArg Prod.snd) id

/-- A write drops no key. -/
theorem keys_sublist_set (entries : List (κ × ν)) (key : κ) (value : ν) :
    (keys entries).Sublist (keys (set entries key value)) := by
  induction entries with
  | nil => exact List.nil_sublist _
  | cons entry entries induction =>
      obtain ⟨candidate, old⟩ := entry
      by_cases same : candidate = key
      · simp [set, keys, same]
      · simpa [set, keys, same] using induction

theorem set_of_not_mem
    {entries : List (κ × ν)} {key : κ} (fresh : key ∉ keys entries)
    (value : ν) :
    set entries key value = entries ++ [(key, value)] := by
  induction entries with
  | nil => rfl
  | cons entry entries induction =>
      obtain ⟨candidate, old⟩ := entry
      have parts : key ≠ candidate ∧ key ∉ keys entries := by
        simpa [keys] using fresh
      simp [set, parts.1.symm, induction parts.2]

/-- After a write the dictionary holds the new entry and the others. -/
theorem set_perm
    {entries : List (κ × ν)} (distinct : (keys entries).Nodup) (key : κ) (value : ν) :
    (set entries key value).Perm
      ((key, value) :: entries.filter (fun entry => !decide (entry.1 = key))) := by
  induction entries with
  | nil => exact List.Perm.refl _
  | cons entry entries induction =>
      obtain ⟨candidate, old⟩ := entry
      have parts : candidate ∉ keys entries ∧ (keys entries).Nodup := by
        simpa [keys] using distinct
      by_cases same : candidate = key
      · subst same
        have others : entries.filter (fun entry => !decide (entry.1 = candidate)) = entries := by
          refine List.filter_eq_self.mpr ?_
          intro entry member
          have different : entry.1 ≠ candidate := by
            rintro rfl
            exact parts.1 (List.mem_map.mpr ⟨entry, member, rfl⟩)
          simpa using different
        simp [set, others]
      · simpa [set, same] using
          ((induction parts.2).cons (candidate, old)).trans (List.Perm.swap _ _ _)

/-- A write of a key that is there keeps the keys. -/
theorem keys_set_of_mem
    {entries : List (κ × ν)} {key : κ} (present : key ∈ keys entries) (value : ν) :
    keys (set entries key value) = keys entries := by
  induction entries with
  | nil => cases present
  | cons entry entries induction =>
      obtain ⟨candidate, old⟩ := entry
      by_cases same : candidate = key
      · simp [set, keys, same]
      · have later : key ∈ keys entries := by
          simpa [keys, Ne.symm same] using present
        have tail := induction later
        simp only [keys] at tail ⊢
        simp [set, same, tail]

/-- A dictionary is its keys in their order and what they find. -/
theorem eq_of_get?
    {first second : List (κ × ν)} (sameKeys : keys first = keys second)
    (distinct : (keys first).Nodup)
    (same : ∀ key ∈ keys first, get? first key = get? second key) : first = second := by
  induction first generalizing second with
  | nil => exact (List.map_eq_nil_iff.mp sameKeys.symm).symm
  | cons entry first induction =>
      obtain ⟨key, value⟩ := entry
      obtain ⟨other, second, rfl⟩ : ∃ other rest, second = other :: rest :=
        List.exists_cons_of_ne_nil (by rintro rfl; cases sameKeys)
      obtain ⟨candidate, written⟩ := other
      simp only [keys, List.map_cons, List.cons.injEq, List.nodup_cons] at sameKeys distinct
      obtain ⟨rfl, later⟩ := sameKeys
      have head : value = written := by simpa [get?] using same key (by simp [keys])
      have tail : first = second := by
        refine induction later distinct.2 ?_
        intro wanted member
        have different : key ≠ wanted := by
          rintro rfl
          exact distinct.1 member
        simpa [get?, different] using same wanted (List.mem_cons_of_mem _ member)
      rw [head, tail]

/-- Writing into permuted dictionaries gives permuted dictionaries. -/
theorem set_perm_of_perm
    {first second : List (κ × ν)} (permutation : first.Perm second)
    (distinct : (keys first).Nodup) (key : κ) (value : ν) :
    (set first key value).Perm (set second key value) := by
  have distinctSecond : (keys second).Nodup :=
    (permutation.map Prod.fst).nodup_iff.mp distinct
  exact (set_perm distinct key value).trans
    (((permutation.filter _).cons _).trans (set_perm distinctSecond key value).symm)

theorem map_set
    {μ : Type} (change : ν → μ) (entries : List (κ × ν)) (key : κ) (value : ν) :
    (set entries key value).map (fun entry => (entry.1, change entry.2)) =
      set (entries.map (fun entry => (entry.1, change entry.2))) key (change value) := by
  induction entries with
  | nil => rfl
  | cons entry entries induction =>
      obtain ⟨candidate, old⟩ := entry
      by_cases same : candidate = key <;> simp [set, same, induction]

private theorem foldl_set_of_nodup
    (pairs built : List (κ × ν)) (distinct : (keys (built ++ pairs)).Nodup) :
    pairs.foldl (fun entries pair => set entries pair.1 pair.2) built =
      built ++ pairs := by
  induction pairs generalizing built with
  | nil => simp
  | cons pair pairs induction =>
      have fresh : pair.1 ∉ keys built := by
        intro member
        have apart := List.disjoint_of_nodup_append
          (by simpa [keys] using distinct :
            (keys built ++ pair.1 :: keys pairs).Nodup)
        exact apart member (by simp)
      rw [List.foldl_cons, set_of_not_mem fresh]
      simpa using induction (built ++ [(pair.1, pair.2)])
        (by simpa using distinct)

/-- Pairs whose keys are all different are already a dictionary. -/
theorem ofPairs_of_nodup
    {pairs : List (κ × ν)} (distinct : (keys pairs).Nodup) :
    ofPairs pairs = pairs := by
  simpa [ofPairs] using foldl_set_of_nodup pairs [] (by simpa using distinct)

/-- After a loop of writes a key has the value of its last write. -/
theorem get?_foldl_set
    {α : Type} (key : α → κ) (value : α → ν) (items : List α) (start : List (κ × ν))
    (wanted : κ) :
    get? (items.foldl (fun entries item => set entries (key item) (value item)) start) wanted =
      ((items.reverse.find? (fun item => key item = wanted)).map value).or
        (get? start wanted) := by
  induction items using List.reverseRecOn with
  | nil => rfl
  | append_singleton items item induction =>
      rw [List.foldl_append, List.reverse_append, List.reverse_singleton,
        List.singleton_append, List.find?_cons]
      by_cases same : key item = wanted
      · simp [same, get?_set_self]
      · simp [same, get?_set_of_ne _ _ (Ne.symm same), induction]

/-- A loop that updates the entry under the key of each item leaves under a key
what the items with that key have made of it. -/
theorem get?_foldl_update
    {α : Type} (keyOf : α → κ) (update : Option ν → α → ν) (items : List α)
    (entries : List (κ × ν)) (key : κ) :
    get? (items.foldl (fun entries item =>
        set entries (keyOf item) (update (get? entries (keyOf item)) item)) entries) key =
      (items.filter (fun item => keyOf item = key)).foldl
        (fun found item => some (update found item)) (get? entries key) := by
  induction items generalizing entries with
  | nil => rfl
  | cons item items induction =>
      rw [List.foldl_cons, induction]
      by_cases same : keyOf item = key
      · simp [same, get?_set_self]
      · rw [get?_set_of_ne _ _ (Ne.symm same)]
        simp [same]

theorem mem_foldl_set
    {α : Type} {key : α → κ} {value : α → ν} {items : List α} {start : List (κ × ν)}
    {entry : κ × ν}
    (member : entry ∈
      items.foldl (fun entries item => set entries (key item) (value item)) start) :
    (∃ item ∈ items, entry = (key item, value item)) ∨ entry ∈ start := by
  induction items generalizing start with
  | nil => exact .inr member
  | cons item items induction =>
      rcases induction member with ⟨other, later, same⟩ | early
      · exact .inl ⟨other, List.mem_cons_of_mem _ later, same⟩
      · rcases eq_or_mem_of_mem_set early with written | old
        · exact .inl ⟨item, List.mem_cons_self, written⟩
        · exact .inr old

theorem keys_nodup_foldl_set
    {α : Type} {key : α → κ} {value : α → ν} (items : List α) {start : List (κ × ν)}
    (distinct : (keys start).Nodup) :
    (keys (items.foldl (fun entries item => set entries (key item) (value item))
      start)).Nodup := by
  induction items generalizing start with
  | nil => exact distinct
  | cons item items induction => exact induction (keys_nodup_set distinct _ _)

/-- The last pair with a key gives the value. -/
theorem get?_ofPairs (pairs : List (κ × ν)) (key : κ) :
    get? (ofPairs pairs) key =
      (pairs.reverse.find? (fun pair => pair.1 = key)).map Prod.snd := by
  simpa [ofPairs, get?] using get?_foldl_set Prod.fst Prod.snd pairs [] key

theorem keys_nodup_ofPairs (pairs : List (κ × ν)) : (keys (ofPairs pairs)).Nodup :=
  keys_nodup_foldl_set pairs (by simp [keys])

/-- Every entry of a dictionary built from pairs has the value of a pair. -/
theorem mem_ofPairs
    {pairs : List (κ × ν)} {entry : κ × ν} (member : entry ∈ ofPairs pairs) :
    ∃ pair ∈ pairs, entry.2 = pair.2 := by
  rcases mem_foldl_set member with ⟨pair, inside, same⟩ | none
  · exact ⟨pair, inside, congrArg Prod.snd same⟩
  · cases none

/-- The items under each key, in the order in which the keys appear. -/
def groupBy {α : Type} (key : α → κ) (items : List α) : List (κ × List α) :=
  items.foldl (fun groups item =>
    set groups (key item) ((get? groups (key item)).getD [] ++ [item])) []

theorem get?_groupBy {α : Type} (key : α → κ) (items : List α) (wanted : κ) :
    (get? (groupBy key items) wanted).getD [] =
      items.filter (fun item => decide (key item = wanted)) := by
  induction items using List.reverseRecOn with
  | nil => rfl
  | append_singleton items item induction =>
      have last : groupBy key (items ++ [item]) =
          set (groupBy key items) (key item)
            ((get? (groupBy key items) (key item)).getD [] ++ [item]) := by
        simp [groupBy]
      rw [last, List.filter_append]
      by_cases same : key item = wanted
      · subst same
        simp [get?_set_self, induction]
      · simp [get?_set_of_ne _ _ (Ne.symm same), induction, same]

theorem keys_groupBy_nodup {α : Type} (key : α → κ) (items : List α) :
    (keys (groupBy key items)).Nodup := by
  have general : ∀ groups : List (κ × List α), (keys groups).Nodup →
      (keys (items.foldl (fun groups item =>
        set groups (key item) ((get? groups (key item)).getD [] ++ [item])) groups)).Nodup := by
    induction items with
    | nil => exact fun _ distinct => distinct
    | cons item items induction =>
        exact fun groups distinct => induction _ (keys_nodup_set distinct _ _)
  exact general [] (by simp [keys])

/-- Every item stands in the group of its key. -/
theorem exists_group_of_mem
    {α : Type} (key : α → κ) {items : List α} {item : α} (member : item ∈ items) :
    ∃ group ∈ groupBy key items, group.1 = key item ∧ item ∈ group.2 := by
  have here : item ∈ (get? (groupBy key items) (key item)).getD [] := by
    rw [get?_groupBy]
    exact List.mem_filter.mpr ⟨member, by simp⟩
  cases found : get? (groupBy key items) (key item) with
  | none => simp [found] at here
  | some group => exact ⟨_, mem_of_get? found, rfl, by simpa [found] using here⟩

end OrderedDict
