import Mathlib.Data.List.Perm.Subperm
import SuperAdvisor.Foundation.PythonDict
import SuperAdvisor.Foundation.RaisingLoops

/-!
# Schemas of nested dictionaries

A schema says which entries a dictionary has to have, and what has to hold of
the values behind them.  Validators go through a value section by section; what
they accept is stated as a schema.

A loop that checks off items against contracts, each of which may be used once,
accepts a list exactly if the contracts can be ordered like it.
-/

namespace Python

/-- What has to hold of a value. -/
inductive Schema where
  | leaf (holds : Value → Prop)
  | object (fields : List (String × Schema))

mutual

def Schema.Accepts : Schema → Value → Prop
  | .leaf holds, value => holds value
  | .object fields, value =>
      ∃ entries, value = .dict entries ∧ Schema.AcceptsFields fields entries

/-- An entry that is missing counts as none. -/
def Schema.AcceptsFields : List (String × Schema) → List (Key × Value) → Prop
  | [], _ => True
  | (name, schema) :: fields, entries =>
      schema.Accepts (getOr entries name .none) ∧ Schema.AcceptsFields fields entries

end

/-- The value `==` the expected one. -/
def Schema.equal (expected : Value) : Schema :=
  .leaf (fun value => value.equals expected = true)

@[simp] theorem accepts_leaf {holds : Value → Prop} {value : Value} :
    (Schema.leaf holds).Accepts value ↔ holds value := by
  rw [Schema.Accepts]

@[simp] theorem accepts_equal {expected value : Value} :
    (Schema.equal expected).Accepts value ↔ value.equals expected = true := by
  rw [Schema.equal, accepts_leaf]

@[simp] theorem accepts_object {fields : List (String × Schema)} {value : Value} :
    (Schema.object fields).Accepts value ↔
      ∃ entries, value = .dict entries ∧ Schema.AcceptsFields fields entries := by
  rw [Schema.Accepts]

@[simp] theorem acceptsFields_nil {entries : List (Key × Value)} :
    Schema.AcceptsFields [] entries := by
  rw [Schema.AcceptsFields]
  trivial

@[simp] theorem acceptsFields_cons
    {name : String} {schema : Schema} {fields : List (String × Schema)}
    {entries : List (Key × Value)} :
    Schema.AcceptsFields ((name, schema) :: fields) entries ↔
      schema.Accepts (getOr entries name .none) ∧ Schema.AcceptsFields fields entries := by
  rw [Schema.AcceptsFields]

section Loops

variable {α ε ι : Type}

/-- A loop of checks finds nothing exactly if no check does. -/
theorem exists_mapM_flatten_nil_iff {check : α → Except ε (List ι)} {items : List α} :
    (∃ found, items.mapM check = .ok found ∧ found.flatten = []) ↔
      ∀ item ∈ items, check item = .ok [] := by
  induction items with
  | nil => simp [pure, Except.pure]
  | cons item items induction =>
      simp only [List.mapM_cons, except_bind_eq_ok, List.forall_mem_cons, ← induction]
      constructor
      · rintro ⟨_, ⟨first, checked, others, rest, built⟩, nothing⟩
        cases built
        simp only [List.flatten_cons, List.append_eq_nil_iff] at nothing
        exact ⟨nothing.1 ▸ checked, others, rest, nothing.2⟩
      · rintro ⟨checked, others, rest, nothing⟩
        exact ⟨[] :: others, ⟨[], checked, others, rest, rfl⟩, by simpa using nothing⟩

/-- What holds of the numbered items holds of the items. -/
theorem forall_mem_zipIdx_iff {holds : α → Prop} {items : List α} :
    (∀ item ∈ items.zipIdx, holds item.1) ↔ ∀ item ∈ items, holds item := by
  constructor
  · intro each item member
    obtain ⟨index, inside, rfl⟩ := List.getElem_of_mem member
    exact each (items[index], index) (List.mem_zipIdx_iff_getElem?.mpr (by simp))
  · exact fun each item member => each item.1 (List.fst_mem_of_mem_zipIdx member)

end Loops

/-! Contracts that are used once. -/

section Once

variable {α γ κ : Type} {contracts : List γ} {idOf : γ → κ} {fits : α → γ → Prop}
  {accepts : List κ → Nat → List α → Prop}

/-- What a loop accepts is matched with contracts that were not used before. -/
private theorem matched_of_accepts
    (cons : ∀ seen index item items, accepts seen index (item :: items) →
      ∃ contract ∈ contracts, idOf contract ∉ seen ∧ fits item contract ∧
        accepts (idOf contract :: seen) (index + 1) items)
    {seen : List κ} {index : Nat} {items : List α} (accepted : accepts seen index items) :
    ∃ order, List.Forall₂ fits items order ∧ (order.map idOf).Nodup ∧
      ∀ contract ∈ order, contract ∈ contracts ∧ idOf contract ∉ seen := by
  induction items generalizing seen index with
  | nil => exact ⟨[], .nil, List.nodup_nil, by simp⟩
  | cons item items induction =>
      obtain ⟨contract, member, unseen, fit, rest⟩ := cons seen index item items accepted
      obtain ⟨order, matched, distinct, each⟩ := induction rest
      refine ⟨contract :: order, .cons fit matched, ?_, ?_⟩
      · rw [List.map_cons, List.nodup_cons]
        refine ⟨?_, distinct⟩
        intro repeated
        obtain ⟨other, inside, same⟩ := List.mem_map.mp repeated
        exact (each other inside).2 (same ▸ List.mem_cons_self)
      · intro other inside
        rcases List.mem_cons.mp inside with rfl | inside
        · exact ⟨member, unseen⟩
        · obtain ⟨known, apart⟩ := each other inside
          exact ⟨known, fun earlier => apart (List.mem_cons_of_mem _ earlier)⟩

private theorem accepts_of_matched
    (nil : ∀ seen index, accepts seen index [])
    (cons : ∀ seen index item items contract, contract ∈ contracts → idOf contract ∉ seen →
      fits item contract → accepts (idOf contract :: seen) (index + 1) items →
        accepts seen index (item :: items))
    {items : List α} {order : List γ} (matched : List.Forall₂ fits items order)
    (distinct : (order.map idOf).Nodup) (seen : List κ) (index : Nat)
    (each : ∀ contract ∈ order, contract ∈ contracts ∧ idOf contract ∉ seen) :
    accepts seen index items := by
  induction matched generalizing seen index with
  | nil => exact nil seen index
  | @cons item contract items order fit matched induction =>
      obtain ⟨member, unseen⟩ := each contract List.mem_cons_self
      rw [List.map_cons, List.nodup_cons] at distinct
      refine cons seen index item items contract member unseen fit
        (induction distinct.2 _ _ ?_)
      intro other inside
      obtain ⟨known, apart⟩ := each other (List.mem_cons_of_mem _ inside)
      refine ⟨known, fun earlier => ?_⟩
      rcases List.mem_cons.mp earlier with same | earlier
      · exact distinct.1 (same ▸ List.mem_map_of_mem inside)
      · exact apart earlier

/-- A loop that accepts an item if it fits a contract with a new id accepts as
many items as there are contracts exactly if every contract is used once. -/
theorem accepts_all_iff
    (nil : ∀ seen index, accepts seen index [])
    (cons : ∀ seen index item items, accepts seen index (item :: items) ↔
      ∃ contract ∈ contracts, idOf contract ∉ seen ∧ fits item contract ∧
        accepts (idOf contract :: seen) (index + 1) items)
    (distinct : (contracts.map idOf).Nodup) (items : List α) :
    (accepts [] 0 items ∧ items.length = contracts.length) ↔
      ∃ order, order.Perm contracts ∧ List.Forall₂ fits items order := by
  constructor
  · rintro ⟨accepted, many⟩
    obtain ⟨order, matched, apart, each⟩ := matched_of_accepts
      (fun seen index item items => (cons seen index item items).mp) accepted
    have inside : order ⊆ contracts := fun contract member => (each contract member).1
    have within := List.subperm_of_subset apart.of_map inside
    exact ⟨order, within.perm_of_length_le (by rw [← many, matched.length_eq]), matched⟩
  · rintro ⟨order, permuted, matched⟩
    have step : ∀ seen index item items contract, contract ∈ contracts →
        idOf contract ∉ seen → fits item contract →
          accepts (idOf contract :: seen) (index + 1) items → accepts seen index (item :: items) :=
      fun seen index item items contract member unseen fit rest =>
        (cons seen index item items).mpr ⟨contract, member, unseen, fit, rest⟩
    have apart : (order.map idOf).Nodup := (permuted.map idOf).nodup_iff.mpr distinct
    exact ⟨accepts_of_matched nil step matched apart [] 0
        (fun contract member => ⟨permuted.subset member, by simp⟩),
      matched.length_eq.trans permuted.length_eq⟩

end Once

end Python
