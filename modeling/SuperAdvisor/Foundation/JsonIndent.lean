import SuperAdvisor.Foundation.JsonRoundTrip

/-!
# Documents laid out on lines

With an indent of two, every item and every field of a document stands on a
line of its own.  Blanks between tokens do not matter to a reader, so such a
text reads back as the compact one does.
-/

namespace JsonText

/-- The start of a line at a depth. -/
def newline (depth : Nat) : List Char :=
  '\n' :: List.replicate (2 * depth) ' '

mutual

/-- Print a document that stands at a depth. -/
def renderIndented (depth : Nat) : Document → List Char
  | .array items =>
      '[' :: ((if items.isEmpty then [] else newline (depth + 1)) ++
        renderIndentedItems depth items)
  | .object fields =>
      '{' :: ((if fields.isEmpty then [] else newline (depth + 1)) ++
        renderIndentedFields depth fields)
  | document => render true document

/-- Print the items of an array at a depth and its closing bracket. -/
def renderIndentedItems (depth : Nat) : List Document → List Char
  | [] => [']']
  | [item] => renderIndented (depth + 1) item ++ (newline depth ++ [']'])
  | item :: items =>
      renderIndented (depth + 1) item ++
        ',' :: (newline (depth + 1) ++ renderIndentedItems depth items)

/-- Print the fields of an object at a depth and its closing brace. -/
def renderIndentedFields (depth : Nat) : List (String × Document) → List Char
  | [] => ['}']
  | [(key, value)] =>
      renderString key ++
        ':' :: ' ' :: (renderIndented (depth + 1) value ++ (newline depth ++ ['}']))
  | (key, value) :: fields =>
      renderString key ++ ':' :: ' ' :: (renderIndented (depth + 1) value ++
        ',' :: (newline (depth + 1) ++ renderIndentedFields depth fields))

end

example : renderIndented 0 (.object [("a", .array [.int 1, .null]), ("b", .object [])]) =
    "\x7b\n  \"a\": [\n    1,\n    null\n  ],\n  \"b\": \x7b\x7d\n\x7d".toList := by
  decide +kernel

theorem skipBlank_newline
    (depth : Nat) {head : Char} (tail : List Char) (solid : isBlank head = false) :
    skipBlank (newline depth ++ head :: tail) = head :: tail := by
  have blanks : ∀ count, skipBlank (List.replicate count ' ' ++ head :: tail) = head :: tail := by
    intro count
    induction count with
    | zero => exact skipBlank_head head tail solid
    | succ count induction =>
        rw [List.replicate_succ, List.cons_append]
        simpa [skipBlank, isBlank] using induction
  have first : skipBlank (newline depth ++ head :: tail) =
      skipBlank (List.replicate (2 * depth) ' ' ++ head :: tail) := by
    simp [newline, skipBlank, isBlank]
  rw [first, blanks]

private theorem endsToken_newline (depth : Nat) (rest : List Char) :
    EndsToken (newline depth ++ rest) := by
  simp [EndsToken, newline]
  decide

theorem renderIndented_head (depth : Nat) (document : Document) :
    ∃ head tail, renderIndented depth document = head :: tail ∧
      isBlank head = false ∧ head ≠ ']' := by
  cases document with
  | array items => exact ⟨'[', _, rfl, by decide, by decide⟩
  | object fields => exact ⟨'{', _, rfl, by decide, by decide⟩
  | null => exact render_head true .null
  | bool value => exact render_head true (.bool value)
  | int value => exact render_head true (.int value)
  | float value => exact render_head true (.float value)
  | string value => exact render_head true (.string value)

private theorem renderIndentedItems_head
    (depth : Nat) (items : List Document) (nonempty : items ≠ []) :
    ∃ head tail, renderIndentedItems depth items = head :: tail ∧
      isBlank head = false ∧ head ≠ ']' := by
  match items, nonempty with
  | [item], _ =>
      obtain ⟨head, tail, shape, solid, notClosing⟩ := renderIndented_head (depth + 1) item
      exact ⟨head, _, by rw [renderIndentedItems, shape, List.cons_append], solid, notClosing⟩
  | item :: next :: items, _ =>
      obtain ⟨head, tail, shape, solid, notClosing⟩ := renderIndented_head (depth + 1) item
      exact ⟨head, _, by rw [renderIndentedItems, shape, List.cons_append]; simp, solid,
        notClosing⟩

private theorem renderIndentedFields_head
    (depth : Nat) (fields : List (String × Document)) (nonempty : fields ≠ []) :
    ∃ tail, renderIndentedFields depth fields = quote :: tail := by
  match fields, nonempty with
  | [(key, value)], _ => exact ⟨_, rfl⟩
  | (key, value) :: field :: fields, _ => exact ⟨_, rfl⟩

private theorem length_newline (depth : Nat) : 0 < (newline depth).length := by
  simp [newline]

mutual

/-- Reading an indented document returns it together with what follows it. -/
theorem readValue_renderIndented
    (depth : Nat) (document : Document)
    (fuel : Nat) (enough : (renderIndented depth document).length ≤ fuel)
    (rest : List Char) (stop : EndsToken rest) :
    readValue fuel (renderIndented depth document ++ rest) = some (document.loaded, rest) := by
  match document with
  | .null => exact readValue_render true .null fuel enough rest stop
  | .bool value => exact readValue_render true (.bool value) fuel enough rest stop
  | .int value => exact readValue_render true (.int value) fuel enough rest stop
  | .float value => exact readValue_render true (.float value) fuel enough rest stop
  | .string value => exact readValue_render true (.string value) fuel enough rest stop
  | .array items =>
      cases fuel with
      | zero => simp [renderIndented] at enough
      | succ fuel =>
          by_cases empty : items = []
          · subst empty
            simp [renderIndented, renderIndentedItems, readValue, quote, skipBlank, isBlank,
              Document.loaded, Document.loadedItems]
          · have filled : items.isEmpty = false := by simpa using empty
            have fits : (renderIndentedItems depth items).length ≤ fuel := by
              simp only [renderIndented, filled, List.length_cons, List.length_append] at enough
              omega
            obtain ⟨head, tail, shape, solid, notClosing⟩ :=
              renderIndentedItems_head depth _ empty
            have read := readItems_renderIndented depth items empty fuel fits rest
            rw [shape, List.cons_append] at read
            simp only [renderIndented, filled, Bool.false_eq_true, if_false, shape,
              List.cons_append, List.append_assoc, readValue,
              skipBlank_newline (depth + 1) (tail ++ rest) solid, if_true]
            rw [if_neg (by decide)]
            split
            · rename_i same
              exact absurd (List.cons.inj same).1 notClosing
            · simp [read, Document.loaded]
  | .object fields =>
      cases fuel with
      | zero => simp [renderIndented] at enough
      | succ fuel =>
          by_cases empty : fields = []
          · subst empty
            simp [renderIndented, renderIndentedFields, readValue, quote, skipBlank, isBlank,
              Document.loaded, Document.loadedFields, OrderedDict.ofPairs]
          · have filled : fields.isEmpty = false := by simpa using empty
            have fits : (renderIndentedFields depth fields).length ≤ fuel := by
              simp only [renderIndented, filled, List.length_cons, List.length_append] at enough
              omega
            obtain ⟨tail, shape⟩ := renderIndentedFields_head depth _ empty
            have read := readFields_renderIndented depth fields empty fuel fits rest
            rw [shape, List.cons_append] at read
            simp only [renderIndented, filled, Bool.false_eq_true, if_false, shape,
              List.cons_append, List.append_assoc, readValue,
              skipBlank_newline (depth + 1) (tail ++ rest) (show isBlank quote = false by decide),
              if_true]
            rw [if_neg (by decide), if_neg (by decide)]
            split
            · rename_i same
              exact absurd (List.cons.inj same).1 (by decide)
            · simp [read, Document.loaded]

theorem readItems_renderIndented
    (depth : Nat) (items : List Document) (nonempty : items ≠ [])
    (fuel : Nat) (enough : (renderIndentedItems depth items).length ≤ fuel)
    (rest : List Char) :
    readItems fuel (renderIndentedItems depth items ++ rest) =
      some (Document.loadedItems items, rest) := by
  match items, nonempty with
  | [item], _ =>
      cases fuel with
      | zero => simp [renderIndentedItems, newline] at enough
      | succ fuel =>
          have positive := length_newline depth
          have fits : (renderIndented (depth + 1) item).length ≤ fuel := by
            simp only [renderIndentedItems, List.length_append] at enough
            omega
          have read := readValue_renderIndented (depth + 1) item fuel fits
            (newline depth ++ ']' :: rest) (endsToken_newline _ _)
          simp only [renderIndentedItems, List.append_assoc, List.cons_append, List.nil_append,
            readItems, read, Option.bind_eq_bind, Option.bind_some,
            skipBlank_newline depth rest (show isBlank ']' = false by decide),
            Document.loadedItems]
  | item :: next :: items, _ =>
      cases fuel with
      | zero => simp [renderIndentedItems] at enough
      | succ fuel =>
          have split : (renderIndented (depth + 1) item).length +
              (1 + ((newline (depth + 1)).length +
                (renderIndentedItems depth (next :: items)).length)) ≤ fuel + 1 := by
            simpa only [renderIndentedItems, List.length_append, List.length_cons,
              Nat.add_comm 1] using enough
          obtain ⟨head, tail, shape, solid, -⟩ :=
            renderIndentedItems_head depth (next :: items) (by simp)
          have read := readValue_renderIndented (depth + 1) item fuel (by omega)
            (',' :: (newline (depth + 1) ++ (renderIndentedItems depth (next :: items) ++ rest)))
            (by simp [EndsToken]; decide)
          have others := readItems_renderIndented depth (next :: items) (by simp)
            fuel (by omega) rest
          have skipped : skipBlank
              (newline (depth + 1) ++ (renderIndentedItems depth (next :: items) ++ rest)) =
                renderIndentedItems depth (next :: items) ++ rest := by
            rw [shape]
            exact skipBlank_newline (depth + 1) (tail ++ rest) solid
          simp only [renderIndentedItems, List.append_assoc, List.cons_append, readItems,
            read, Option.bind_eq_bind, Option.bind_some,
            skipBlank_head ',' _ (by decide), skipped, others,
            Document.loadedItems]

theorem readFields_renderIndented
    (depth : Nat) (fields : List (String × Document)) (nonempty : fields ≠ [])
    (fuel : Nat) (enough : (renderIndentedFields depth fields).length ≤ fuel)
    (rest : List Char) :
    readFields fuel (renderIndentedFields depth fields ++ rest) =
      some (Document.loadedFields fields, rest) := by
  match fields, nonempty with
  | [(key, value)], _ =>
      cases fuel with
      | zero => simp [renderIndentedFields, renderString] at enough
      | succ fuel =>
          have fits : (renderString key).length +
              (1 + (1 + ((renderIndented (depth + 1) value).length +
                ((newline depth).length + 1)))) ≤ fuel + 1 := by
            simpa only [renderIndentedFields, List.length_append, List.length_cons,
              List.length_nil, Nat.add_comm 1] using enough
          obtain ⟨head, tail, shape, solid, -⟩ := renderIndented_head (depth + 1) value
          have readName := readKey_renderString key fuel (by omega)
            (':' :: ' ' :: (renderIndented (depth + 1) value ++ (newline depth ++ '}' :: rest)))
          have read := readValue_renderIndented (depth + 1) value fuel (by omega)
            (newline depth ++ '}' :: rest) (endsToken_newline _ _)
          have skipped : skipBlank
              (' ' :: (renderIndented (depth + 1) value ++ (newline depth ++ '}' :: rest))) =
              renderIndented (depth + 1) value ++ (newline depth ++ '}' :: rest) := by
            rw [shape]
            simpa [skipBlank, isBlank] using
              skipBlank_head head (tail ++ (newline depth ++ '}' :: rest)) solid
          simp only [renderIndentedFields, List.append_assoc, List.cons_append,
            List.nil_append, readFields, readName, Option.bind_eq_bind,
            Option.bind_some, skipBlank_head ':' _ (by decide), skipped, read,
            skipBlank_newline depth rest (show isBlank '}' = false by decide),
            Document.loadedFields]
  | (key, value) :: next :: fields, _ =>
      cases fuel with
      | zero => simp [renderIndentedFields, renderString] at enough
      | succ fuel =>
          have fits : (renderString key).length +
              (1 + (1 + ((renderIndented (depth + 1) value).length +
                (1 + ((newline (depth + 1)).length +
                  (renderIndentedFields depth (next :: fields)).length))))) ≤ fuel + 1 := by
            simpa only [renderIndentedFields, List.length_append, List.length_cons,
              Nat.add_comm 1] using enough
          have positive : 0 < (renderString key).length := by simp [renderString]
          obtain ⟨head, tail, shape, solid, -⟩ := renderIndented_head (depth + 1) value
          obtain ⟨others, othersShape⟩ :=
            renderIndentedFields_head depth (next :: fields) (by simp)
          let after := ',' :: (newline (depth + 1) ++
            (renderIndentedFields depth (next :: fields) ++ rest))
          have readName := readKey_renderString key fuel (by omega)
            (':' :: ' ' :: (renderIndented (depth + 1) value ++ after))
          have read := readValue_renderIndented (depth + 1) value fuel (by omega)
            after (by simp [EndsToken, after]; decide)
          have readOthers := readFields_renderIndented depth (next :: fields) (by simp)
            fuel (by omega) rest
          have skippedValue : skipBlank (' ' :: (renderIndented (depth + 1) value ++ after)) =
              renderIndented (depth + 1) value ++ after := by
            rw [shape]
            simpa [skipBlank, isBlank] using skipBlank_head head (tail ++ after) solid
          have skippedOthers : skipBlank
              (newline (depth + 1) ++ (renderIndentedFields depth (next :: fields) ++ rest)) =
                renderIndentedFields depth (next :: fields) ++ rest := by
            rw [othersShape]
            exact skipBlank_newline (depth + 1) (others ++ rest) (by decide)
          simp only [after] at readName read skippedValue
          simp only [renderIndentedFields, List.append_assoc, List.cons_append, readFields,
            readName, Option.bind_eq_bind, Option.bind_some,
            skipBlank_head ':' _ (by decide), skippedValue, read,
            skipBlank_head ',' _ (by decide), skippedOthers, readOthers,
            Document.loadedFields]

end

/-- A compact document and a line break read back as the document. -/
theorem parse_render_line (spaced : Bool) (document : Document) :
    parse (render spaced document ++ ['\n']) = some document.loaded := by
  obtain ⟨head, tail, shape, solid, -⟩ := render_head spaced document
  have read := readValue_render spaced document
    ((render spaced document ++ ['\n']).length + 1) (by simp; omega) ['\n']
    (by simp [EndsToken]; decide)
  have skipped : skipBlank (render spaced document ++ ['\n']) =
      render spaced document ++ ['\n'] := by
    rw [shape]
    exact skipBlank_head head _ solid
  simp only [parse, skipped, read]
  simp [skipBlank, isBlank]

/-- An indented document and a line break read back as the document. -/
theorem parse_renderIndented (document : Document) :
    parse (renderIndented 0 document ++ ['\n']) = some document.loaded := by
  obtain ⟨head, tail, shape, solid, -⟩ := renderIndented_head 0 document
  have read := readValue_renderIndented 0 document
    ((renderIndented 0 document ++ ['\n']).length + 1) (by simp; omega) ['\n']
    (by simp [EndsToken]; decide)
  have skipped : skipBlank (renderIndented 0 document ++ ['\n']) =
      renderIndented 0 document ++ ['\n'] := by
    rw [shape]
    exact skipBlank_head head _ solid
  simp only [parse, skipped, read]
  simp [skipBlank, isBlank]

end JsonText
