import SuperAdvisor.Foundation.LowerText

/-!
# Occurrences of a part in a text

A part occurs in a text behind a beginning whose last character is allowed and
before a rest that is allowed.  Stripping the text keeps an occurrence that
does not end in the trailing space.
-/

namespace Python

variable {left : Char → Prop} {follows : List Char → Prop} {part text : List Char}

def Occurs (left : Char → Prop) (follows : List Char → Prop) (part text : List Char) : Prop :=
  ∃ before after, text = before ++ part ++ after ∧
    (∀ symbol ∈ before.getLast?, left symbol) ∧ follows after

/-- An occurrence that ends before the trailing space of the text. -/
def OccursWithin (left : Char → Prop) (follows : List Char → Prop) (part text : List Char) :
    Prop :=
  Occurs left
    (fun after => follows after ∧
      ((∃ last ∈ part.getLast?, isSpace last = false) ∨ ∃ symbol ∈ after, isSpace symbol = false))
    part text

theorem Occurs.imp
    {weaker : List Char → Prop} (occurs : Occurs left follows part text)
    (weaken : ∀ after, follows after → weaker after) : Occurs left weaker part text := by
  obtain ⟨before, after, same, allowed, known⟩ := occurs
  exact ⟨before, after, same, allowed, weaken after known⟩

theorem occurs_iff_infix :
    Occurs (fun _ => True) (fun _ => True) part text ↔ part <:+: text := by
  constructor
  · rintro ⟨before, after, rfl, -⟩
    exact ⟨before, after, rfl⟩
  · rintro ⟨before, after, same⟩
    exact ⟨before, after, same.symm, fun _ _ => trivial, trivial⟩

/-- A part that begins without space occurs behind the leading space. -/
theorem occurs_dropWhile_iff
    {first : Char} (begins : part.head? = some first) (solid : isSpace first = false)
    (spaces : ∀ symbol, isSpace symbol = true → left symbol) :
    Occurs left follows part (text.dropWhile isSpace) ↔ Occurs left follows part text := by
  induction text with
  | nil => rfl
  | cons symbol text induction =>
      cases space : isSpace symbol with
      | false => rw [List.dropWhile_cons_of_neg (by simp [space])]
      | true =>
          rw [List.dropWhile_cons_of_pos space, induction]
          constructor
          · rintro ⟨before, after, rfl, allowed, known⟩
            refine ⟨symbol :: before, after, rfl, ?_, known⟩
            cases before with
            | nil => simpa using spaces symbol space
            | cons next before => simpa [List.getLast?_cons_cons] using allowed
          · rintro ⟨before, after, same, allowed, known⟩
            cases before with
            | nil =>
                have head := congrArg List.head? same
                rw [List.nil_append, List.head?_append, begins] at head
                rw [Option.some.inj head, solid] at space
                cases space
            | cons next before =>
                obtain ⟨rfl, rfl⟩ := List.cons.inj same
                refine ⟨before, after, rfl, ?_, known⟩
                cases before with
                | nil => simp
                | cons other before => simpa [List.getLast?_cons_cons] using allowed

private theorem rdropWhile_append_of_solid
    {after : List Char} (solid : ∃ symbol ∈ after, isSpace symbol = false) (before : List Char) :
    (before ++ after).rdropWhile isSpace = before ++ after.rdropWhile isSpace := by
  induction after using List.reverseRecOn with
  | nil => simp at solid
  | append_singleton after symbol induction =>
      rw [← List.append_assoc, List.rdropWhile_concat, List.rdropWhile_concat]
      cases space : isSpace symbol with
      | true => simpa using induction (by simpa [space] using solid)
      | false => simp

private theorem rdropWhile_append_of_spaces
    {after : List Char} (spaces : ∀ symbol ∈ after, isSpace symbol = true) (before : List Char) :
    (before ++ after).rdropWhile isSpace = before.rdropWhile isSpace := by
  induction after using List.reverseRecOn with
  | nil => simp
  | append_singleton after symbol induction =>
      rw [← List.append_assoc, List.rdropWhile_concat, if_pos (spaces symbol (by simp))]
      exact induction (fun other member => spaces other (by simp [member]))

/-- What a text without trailing space ends with. -/
private theorem last_of_rdropWhile
    {symbols : List Char} {last : Char}
    (ends : (symbols.rdropWhile isSpace).getLast? = some last) : isSpace last = false := by
  have nonempty : symbols.rdropWhile isSpace ≠ [] := by
    rintro empty
    simp [empty] at ends
  rw [List.getLast?_eq_some_getLast nonempty] at ends
  simpa [Option.some.inj ends] using List.rdropWhile_last_not isSpace symbols nonempty

theorem occurs_rdropWhile_iff
    (nonempty : part ≠ [])
    (trimmed : ∀ after, follows (after.rdropWhile isSpace) ↔ follows after) :
    Occurs left follows part (text.rdropWhile isSpace) ↔ OccursWithin left follows part text := by
  constructor
  · rintro ⟨before, after, same, allowed, known⟩
    have spaces : ∀ symbol ∈ text.rtakeWhile isSpace, isSpace symbol = true :=
      fun symbol member => List.mem_rtakeWhile_imp member
    refine ⟨before, after ++ text.rtakeWhile isSpace, ?_, allowed, ?_, ?_⟩
    · rw [← List.append_assoc, ← same, List.rdropWhile_append_rtakeWhile]
    · rw [← trimmed, rdropWhile_append_of_spaces spaces, trimmed]
      exact known
    · have lastOf : ∀ last, (before ++ part ++ after).getLast? = some last →
          isSpace last = false := fun last ends => last_of_rdropWhile (same ▸ ends)
      cases ends : after.getLast? with
      | some last =>
          have solid := lastOf last (by rw [List.getLast?_append, ends, Option.some_or])
          exact .inr ⟨last, List.mem_append_left _ (List.mem_of_getLast? ends), solid⟩
      | none =>
          obtain ⟨last, partEnds⟩ := Option.ne_none_iff_exists'.mp
            (mt List.getLast?_eq_none_iff.mp nonempty)
          refine .inl ⟨last, partEnds, lastOf last ?_⟩
          rw [List.getLast?_append, ends, Option.none_or, List.getLast?_append, partEnds,
            Option.some_or]
  · rintro ⟨before, after, rfl, allowed, known, ends⟩
    by_cases solid : ∃ symbol ∈ after, isSpace symbol = false
    · exact ⟨before, after.rdropWhile isSpace, rdropWhile_append_of_solid solid _, allowed,
        (trimmed after).mpr known⟩
    · obtain ⟨last, member, lastSolid⟩ := ends.resolve_right solid
      have spaces : ∀ symbol ∈ after, isSpace symbol = true := by
        intro symbol inside
        by_contra notSpace
        exact solid ⟨symbol, inside, by simpa using notSpace⟩
      have whole : (before ++ part ++ after).rdropWhile isSpace = before ++ part := by
        rw [rdropWhile_append_of_spaces spaces]
        have behind : (before ++ part).getLast? = some last := by
          rw [List.getLast?_append, Option.mem_def.mp member, Option.some_or]
        exact rdropWhile_of_last behind lastSolid
      have none : after.rdropWhile isSpace = [] := by
        simpa using rdropWhile_append_of_spaces spaces []
      refine ⟨before, [], by rw [whole, List.append_nil], allowed, ?_⟩
      rw [← none]
      exact (trimmed after).mpr known

/-- Stripping the text keeps the occurrences that end before its trailing space. -/
theorem occurs_stripped_iff
    {first : Char} (begins : part.head? = some first) (solid : isSpace first = false)
    (spaces : ∀ symbol, isSpace symbol = true → left symbol)
    (trimmed : ∀ after, follows (after.rdropWhile isSpace) ↔ follows after) :
    Occurs left follows part ((text.dropWhile isSpace).rdropWhile isSpace) ↔
      OccursWithin left follows part text := by
  have nonempty : part ≠ [] := by
    rintro rfl
    cases begins
  rw [occurs_rdropWhile_iff nonempty trimmed]
  exact occurs_dropWhile_iff begins solid spaces

end Python
