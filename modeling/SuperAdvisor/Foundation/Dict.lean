import SuperAdvisor.Foundation.OrderedDict

/-!
# Dictionaries and sets that carry their own consistency

A `Dict` is an insertion-ordered dictionary together with the fact that its
keys are different; a `KeySet` is a list without repetition.  Every operation
keeps the fact, so callers never prove it again.
-/

structure Dict (κ ν : Type) where
  entries : List (κ × ν)
  distinct : (OrderedDict.keys entries).Nodup

namespace Dict

variable {κ ν μ : Type}

@[ext] theorem ext {first second : Dict κ ν}
    (same : first.entries = second.entries) : first = second := by
  cases first
  cases second
  cases same
  rfl

def empty : Dict κ ν :=
  { entries := []
    distinct := List.nodup_nil }

instance : Inhabited (Dict κ ν) := ⟨empty⟩

def keys (dict : Dict κ ν) : List κ :=
  OrderedDict.keys dict.entries

/-- Apply a function to every value. -/
def mapValues (change : ν → μ) (dict : Dict κ ν) : Dict κ μ :=
  { entries := dict.entries.map (fun entry => (entry.1, change entry.2))
    distinct := by
      have distinct := dict.distinct
      simpa [OrderedDict.keys, Function.comp_def] using distinct }

@[simp] theorem keys_empty : (empty : Dict κ ν).keys = [] := rfl

@[simp] theorem keys_mapValues (change : ν → μ) (dict : Dict κ ν) :
    (dict.mapValues change).keys = dict.keys := by
  simp [keys, OrderedDict.keys, mapValues, Function.comp_def]

variable [DecidableEq κ]

def get? (dict : Dict κ ν) (key : κ) : Option ν :=
  OrderedDict.get? dict.entries key

def contains (dict : Dict κ ν) (key : κ) : Bool :=
  OrderedDict.contains dict.entries key

def set (dict : Dict κ ν) (key : κ) (value : ν) : Dict κ ν :=
  { entries := OrderedDict.set dict.entries key value
    distinct := OrderedDict.keys_nodup_set dict.distinct key value }

def ofPairs (pairs : List (κ × ν)) : Dict κ ν :=
  pairs.foldl (fun dict pair => dict.set pair.1 pair.2) empty

@[simp] theorem contains_iff {dict : Dict κ ν} {key : κ} :
    dict.contains key = true ↔ key ∈ dict.keys :=
  OrderedDict.contains_iff

@[simp] theorem mem_keys_set {dict : Dict κ ν} {key other : κ} {value : ν} :
    other ∈ (dict.set key value).keys ↔ other = key ∨ other ∈ dict.keys :=
  OrderedDict.mem_keys_set_iff

theorem ofPairs_entries (dict : Dict κ ν) : ofPairs dict.entries = dict := by
  have general : ∀ (pairs : List (κ × ν)) (built : Dict κ ν),
      (pairs.foldl (fun dict pair => dict.set pair.1 pair.2) built).entries =
        pairs.foldl (fun entries pair => OrderedDict.set entries pair.1 pair.2)
          built.entries := by
    intro pairs
    induction pairs with
    | nil => intro built; rfl
    | cons pair pairs induction => intro built; exact induction _
  ext1
  exact (general dict.entries empty).trans (OrderedDict.ofPairs_of_nodup dict.distinct)

end Dict

structure KeySet (κ : Type) where
  items : List κ
  distinct : items.Nodup
  deriving DecidableEq

namespace KeySet

variable {κ : Type}

@[ext] theorem ext {first second : KeySet κ}
    (same : first.items = second.items) : first = second := by
  cases first
  cases second
  cases same
  rfl

def empty : KeySet κ :=
  { items := []
    distinct := List.nodup_nil }

variable [DecidableEq κ]

def insert (keys : KeySet κ) (key : κ) : KeySet κ :=
  if fresh : key ∈ keys.items then keys
  else
    { items := keys.items ++ [key]
      distinct := by
        rw [List.nodup_append]
        refine ⟨keys.distinct, List.nodup_singleton key, ?_⟩
        intro other member last same equal
        rw [List.mem_singleton.mp same] at equal
        exact fresh (equal ▸ member) }

def ofList (items : List κ) : KeySet κ :=
  items.foldl insert empty

@[simp] theorem mem_insert {keys : KeySet κ} {key other : κ} :
    other ∈ (keys.insert key).items ↔ other = key ∨ other ∈ keys.items := by
  unfold insert
  split
  next present =>
    constructor
    · exact .inr
    · rintro (rfl | member)
      · exact present
      · exact member
  next => simp [or_comm]

theorem mem_ofList {items : List κ} {key : κ} :
    key ∈ (ofList items).items ↔ key ∈ items := by
  have general : ∀ built : KeySet κ,
      key ∈ (items.foldl insert built).items ↔ key ∈ built.items ∨ key ∈ items := by
    induction items with
    | nil => simp
    | cons item items induction =>
        intro built
        simp only [List.foldl_cons, induction, mem_insert, List.mem_cons]
        exact or_assoc.trans or_left_comm
  exact (general empty).trans (by simp [empty])

theorem ofList_items (keys : KeySet κ) : ofList keys.items = keys := by
  have general : ∀ (items : List κ) (built : KeySet κ),
      (built.items ++ items).Nodup →
        (items.foldl insert built).items = built.items ++ items := by
    intro items
    induction items with
    | nil => intro built _; simp
    | cons item items induction =>
        intro built distinct
        have fresh : item ∉ built.items := by
          intro member
          exact List.disjoint_of_nodup_append distinct member (by simp)
        have grown : (built.insert item).items = built.items ++ [item] := by
          simp [insert, fresh]
        rw [List.foldl_cons, induction _ (by simpa [grown] using distinct), grown]
        simp
  ext1
  exact general keys.items empty (by simpa [empty] using keys.distinct)

end KeySet
