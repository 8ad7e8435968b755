import Mathlib.Data.List.Forall2
import SuperAdvisor.Foundation.PythonJson

/-!
# Loops that may raise

A loop over a list that collects results raises nothing exactly when no round
raises; its results then stand in the places of the items.
-/

namespace Python

variable {ε α β γ : Type}

/-- What ends with a plain value returns if its first part does. -/
theorem exists_bind_ok_iff {first : Except ε α} {next : α → β} :
    (∃ result, (first >>= fun value => .ok (next value)) = .ok result) ↔
      ∃ value, first = .ok value := by
  cases first <;> simp [bind, Except.bind]

/-- The results of a loop that raises nothing, item by item. -/
theorem mapM_eq_ok_iff
    {convert : α → Except ε β} {items : List α} {results : List β} :
    items.mapM convert = .ok results ↔
      List.Forall₂ (fun item result => convert item = .ok result) items results := by
  induction items generalizing results with
  | nil => cases results <;> simp [pure, Except.pure]
  | cons item items induction =>
      simp only [List.mapM_cons, except_bind_eq_ok]
      constructor
      · rintro ⟨first, converted, others, rest, built⟩
        cases built
        exact .cons converted (induction.mp rest)
      · rintro (_ | ⟨converted, rest⟩)
        exact ⟨_, converted, _, induction.mpr rest, rfl⟩

theorem exists_mapM_iff {convert : α → Except ε β} {items : List α} :
    (∃ results, items.mapM convert = .ok results) ↔
      ∀ item ∈ items, ∃ result, convert item = .ok result := by
  induction items with
  | nil => exact iff_of_true ⟨[], rfl⟩ (by simp)
  | cons item items induction =>
      simp only [List.mapM_cons, except_bind_eq_ok, List.forall_mem_cons, ← induction]
      constructor
      · rintro ⟨_, first, converted, rest, others, -⟩
        exact ⟨⟨first, converted⟩, rest, others⟩
      · rintro ⟨⟨first, converted⟩, rest, others⟩
        exact ⟨_, first, converted, rest, others, rfl⟩

/-- A loop raises what the first round that fails raises. -/
theorem mapM_eq_error_iff {convert : α → Except ε β} {items : List α} {problem : ε} :
    items.mapM convert = .error problem ↔
      ∃ before item after, items = before ++ item :: after ∧
        (∀ earlier ∈ before, ∃ result, convert earlier = .ok result) ∧
        convert item = .error problem := by
  induction items with
  | nil => simp [pure, Except.pure]
  | cons first items induction =>
      cases converted : convert first with
      | error other =>
          simp only [List.mapM_cons, converted, bind, Except.bind]
          constructor
          · intro same
            cases same
            exact ⟨[], first, items, rfl, by simp, converted⟩
          · rintro ⟨before, item, after, shape, accepted, raised⟩
            cases before with
            | nil =>
                cases shape
                cases converted.symm.trans raised
                rfl
            | cons earlier before =>
                cases shape
                obtain ⟨result, returned⟩ := accepted first List.mem_cons_self
                rw [converted] at returned
                cases returned
      | ok result =>
          have steps : (first :: items).mapM convert = .error problem ↔
              items.mapM convert = .error problem := by
            simp only [List.mapM_cons, converted, bind, Except.bind]
            cases items.mapM convert <;> simp [pure, Except.pure]
          rw [steps, induction]
          constructor
          · rintro ⟨before, item, after, rfl, accepted, raised⟩
            exact ⟨first :: before, item, after, rfl,
              List.forall_mem_cons.mpr ⟨⟨result, converted⟩, accepted⟩, raised⟩
          · rintro ⟨before, item, after, shape, accepted, raised⟩
            cases before with
            | nil =>
                cases shape
                rw [converted] at raised
                cases raised
            | cons earlier before =>
                cases shape
                exact ⟨before, item, after, rfl,
                  fun other member => accepted other (List.mem_cons_of_mem _ member), raised⟩

/-- An item related to some item of the other list. -/
theorem exists_of_mem_right
    {related : α → β → Prop} {left : List α} {right : List β}
    (matched : List.Forall₂ related left right) {second : β} (member : second ∈ right) :
    ∃ first ∈ left, related first second := by
  induction matched with
  | nil => cases member
  | cons here _ induction =>
      rcases List.mem_cons.mp member with rfl | later
      · exact ⟨_, by simp, here⟩
      · obtain ⟨first, inside, holds⟩ := induction later
        exact ⟨first, by simp [inside], holds⟩

theorem exists_of_mem_left
    {related : α → β → Prop} {left : List α} {right : List β}
    (matched : List.Forall₂ related left right) {first : α} (member : first ∈ left) :
    ∃ second ∈ right, related first second :=
  exists_of_mem_right matched.flip member

/-- Items that are each related to something are matched with a list of it. -/
theorem exists_forall₂ {related : α → β → Prop} {items : List α}
    (each : ∀ item ∈ items, ∃ other, related item other) :
    ∃ others, List.Forall₂ related items others := by
  induction items with
  | nil => exact ⟨[], .nil⟩
  | cons item items induction =>
      rw [List.forall_mem_cons] at each
      obtain ⟨other, here⟩ := each.1
      obtain ⟨others, matched⟩ := induction each.2
      exact ⟨other :: others, .cons here matched⟩

/-- A loop over items matched with a second list: if every round succeeds and
its result fits the pair, then so do all the results. -/
theorem exists_mapM_of_forall₂
    {related : α → β → Prop} {fits : α → β → γ → Prop} {step : α → Except ε γ}
    {items : List α} {others : List β} (matched : List.Forall₂ related items others)
    (each : ∀ item ∈ items, ∀ other ∈ others, related item other →
      ∃ result, step item = .ok result ∧ fits item other result) :
    ∃ results, items.mapM step = .ok results ∧
      ∀ (index : Nat) item other, items[index]? = some item → others[index]? = some other →
        ∃ result, results[index]? = some result ∧ fits item other result := by
  induction matched with
  | nil => exact ⟨[], rfl, by simp⟩
  | @cons item other items others here _ induction =>
      obtain ⟨first, stepped, firstFits⟩ := each item (by simp) other (by simp) here
      obtain ⟨results, mapped, restFits⟩ := induction
        (fun item inside other behind => each item (by simp [inside]) other (by simp [behind]))
      refine ⟨first :: results, ?_, ?_⟩
      · simp only [List.mapM_cons, stepped, mapped]
        rfl
      · intro index found partner atItem atOther
        cases index with
        | zero =>
            obtain rfl : item = found := by simpa using atItem
            obtain rfl : other = partner := by simpa using atOther
            exact ⟨first, rfl, firstFits⟩
        | succ index =>
            simpa using restFits index found partner (by simpa using atItem)
              (by simpa using atOther)

end Python
