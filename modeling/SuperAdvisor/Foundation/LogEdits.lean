import Mathlib.Data.List.InsertIdx
import SuperAdvisor.Foundation.ChainedLog
import SuperAdvisor.Foundation.PythonJson

/-!
# Edits of a chained log

Deleting, repeating or swapping lines, and replacing one line, seen as edits of
the chain of records.  A chain that was linked stays linked in exactly the cases
in which the hashes at the edges of the edit agree; the log is then read again
if every record passes its own check.
-/

namespace ChainedLog

open Python

/-- A change of a list that changes none of its elements. -/
inductive Rearrangement where
  | delete (position : Nat)
  | duplicate (position target : Nat)
  | swap (first second : Nat)

namespace Rearrangement

variable {α β : Type}

def Fits (length : Nat) : Rearrangement → Prop
  | .delete position => position < length
  | .duplicate position target => position < length ∧ target ≤ length
  | .swap first second => first < second ∧ second < length

/-- A duplicate is inserted before the element at `target`. -/
def apply (items : List α) : Rearrangement → List α
  | .delete position => items.eraseIdx position
  | .duplicate position target =>
      items.take target ++ (items[position]?).toList ++ items.drop target
  | .swap first second =>
      match items[first]?, items[second]? with
      | some one, some other => (items.set first other).set second one
      | _, _ => items

theorem map_apply (function : α → β) (items : List α) (change : Rearrangement) :
    (change.apply items).map function = change.apply (items.map function) := by
  cases change with
  | delete position => exact (List.eraseIdx_map function items position).symm
  | duplicate position target =>
      cases found : items[position]? <;> simp [apply, found, List.map_take, List.map_drop]
  | swap first second =>
      cases one : items[first]? <;> cases other : items[second]? <;>
        simp [apply, one, other, List.map_set]

theorem mem_of_mem_apply {items : List α} {item : α} {change : Rearrangement}
    (member : item ∈ change.apply items) : item ∈ items := by
  cases change with
  | delete position => exact List.mem_of_mem_eraseIdx member
  | duplicate position target =>
      simp only [apply, List.mem_append, Option.mem_toList] at member
      rcases member with (early | copy) | later
      · exact List.mem_of_mem_take early
      · exact List.mem_of_getElem? copy
      · exact List.mem_of_mem_drop later
  | swap first second =>
      cases foundOne : items[first]? with
      | none => simpa [apply, foundOne] using member
      | some one =>
          cases foundOther : items[second]? with
          | none => simpa [apply, foundOne, foundOther] using member
          | some other =>
              simp only [apply, foundOne, foundOther] at member
              rcases List.mem_or_eq_of_mem_set member with early | rfl
              · rcases List.mem_or_eq_of_mem_set early with kept | rfl
                · exact kept
                · exact List.mem_of_getElem? foundOther
              · exact List.mem_of_getElem? foundOne

end Rearrangement

/-- The element at a position and what stands around it. -/
theorem exists_split {α : Type} {items : List α} {position : Nat}
    (within : position < items.length) :
    ∃ early item later, items = early ++ item :: later ∧ early.length = position := by
  refine ⟨items.take position, items[position], items.drop (position + 1), ?_, ?_⟩
  · rw [List.getElem_cons_drop, List.take_append_drop]
  · exact List.length_take_of_le (Nat.le_of_lt within)

namespace Format

variable {ε ρ : Type} (format : Format ε ρ)

/-- Every record names the hash of the one before it. -/
def Links (previous : String) : List ρ → Prop
  | [] => True
  | record :: records =>
      format.previousHash record = previous ∧ Links (format.recordHash record) records

/-- The changes of a linked chain that leave it linked: the hashes at the edges
of the change agree. -/
def Hides (records : List ρ) : Rearrangement → Prop
  | .delete position =>
      ∃ record, records[position]? = some record ∧
        (position + 1 = records.length ∨
          format.recordHash record = format.previousHash record)
  | .duplicate position target =>
      ∃ record, records[position]? = some record ∧
        format.previousHash record = format.headHash (records.take target) ∧
        (target = records.length ∨ format.recordHash record = format.previousHash record)
  | .swap first second =>
      ∃ one other, records[first]? = some one ∧ records[second]? = some other ∧
        format.previousHash one = format.previousHash other ∧
        format.recordHash one = format.recordHash other

/-- The lines of a file with the records they decode to, which are linked. -/
structure Stored (file : Option (List Char)) (entries : List (List Char × ρ)) : Prop where
  text : file.getD [] = unlines (entries.map Prod.fst)
  solid : ∀ entry ∈ entries, IsRecordLine entry.1
  decoded : ∀ entry ∈ entries, format.decode entry.1 = .ok entry.2
  linked : format.Links "" (entries.map Prod.snd)

variable {format}

section Links

variable {previous : String} {records early later : List ρ} {record : ρ}

theorem links_append :
    format.Links previous (early ++ later) ↔
      format.Links previous early ∧
        format.Links ((format.lastHash? early).getD previous) later := by
  induction early generalizing previous with
  | nil => simp [Links, lastHash?]
  | cons first early induction =>
      rw [List.cons_append, Links, Links, induction, lastHash?_cons, and_assoc]

/-- A chain can follow another hash if it is empty. -/
theorem links_iff_of_links {other : String} (linked : format.Links other later) :
    format.Links previous later ↔ later = [] ∨ other = previous := by
  cases later with
  | nil => simp [Links]
  | cons record later => simp [Links, linked.1, linked.2]

theorem links_deleted (linked : format.Links "" (early ++ record :: later)) :
    format.Links "" (early ++ later) ↔
      later = [] ∨ format.recordHash record = format.previousHash record := by
  rw [links_append] at linked ⊢
  obtain ⟨first, named, rest⟩ := linked
  rw [links_iff_of_links rest, ← named]
  simp [first]

theorem links_replaced (linked : format.Links "" (early ++ record :: later)) (other : ρ) :
    format.Links "" (early ++ other :: later) ↔
      format.previousHash other = format.previousHash record ∧
        (later = [] ∨ format.recordHash other = format.recordHash record) := by
  rw [links_append] at linked ⊢
  obtain ⟨first, named, rest⟩ := linked
  rw [Links, links_iff_of_links rest, named, @eq_comm _ (format.recordHash other)]
  simp [first]

theorem links_duplicated (linked : format.Links "" (early ++ later)) (record : ρ) :
    format.Links "" (early ++ record :: later) ↔
      format.previousHash record = format.headHash early ∧
        (later = [] ∨ format.recordHash record = format.previousHash record) := by
  rw [links_append] at linked ⊢
  obtain ⟨first, rest⟩ := linked
  rw [Links, links_iff_of_links rest, headHash]
  simp only [first, true_and]
  refine and_congr_right ?_
  intro named
  rw [named, @eq_comm _ (format.recordHash record)]

theorem links_swapped {middle : List ρ} {other : ρ}
    (linked : format.Links "" (early ++ record :: (middle ++ other :: later))) :
    format.Links "" (early ++ other :: (middle ++ record :: later)) ↔
      format.previousHash record = format.previousHash other ∧
        format.recordHash record = format.recordHash other := by
  simp only [links_append, Links] at linked ⊢
  obtain ⟨first, named, between, namedOther, rest⟩ := linked
  rw [links_iff_of_links between, links_iff_of_links rest, ← named]
  cases middle with
  | nil =>
      simp only [lastHash?, List.getLast?_nil, Option.map_none, Option.getD_none] at namedOther ⊢
      constructor
      · rintro ⟨-, same, -, crossed, -⟩
        exact ⟨same.symm, by rw [← namedOther, same, crossed]⟩
      · rintro ⟨same, hashes⟩
        exact ⟨first, same.symm, .inl trivial, by rw [same, namedOther, hashes], .inr hashes.symm⟩
  | cons next others =>
      have after : ∀ hash, (format.lastHash? (next :: others)).getD hash =
          format.previousHash other := by
        intro hash
        rw [lastHash?_cons, namedOther, lastHash?_cons]
      simp only [after, List.cons_ne_nil, false_or]
      constructor
      · rintro ⟨-, same, hashes, -, -⟩
        exact ⟨same.symm, hashes⟩
      · rintro ⟨same, hashes⟩
        exact ⟨first, same.symm, hashes, same, .inr hashes.symm⟩

end Links

variable {records : List ρ} {change : Rearrangement}

/-- A rearranged chain is linked if the change hides. -/
theorem links_apply_iff (linked : format.Links "" records) (fits : change.Fits records.length) :
    format.Links "" (change.apply records) ↔ format.Hides records change := by
  cases change with
  | delete position =>
      obtain ⟨early, record, later, rfl, rfl⟩ := exists_split fits
      have erased : (early ++ record :: later).eraseIdx early.length = early ++ later := by
        simp [List.eraseIdx_append_of_length_le]
      rw [Rearrangement.apply, erased, links_deleted linked]
      simp [Hides]
  | duplicate position target =>
      obtain ⟨within, inside⟩ := fits
      obtain ⟨record, found⟩ : ∃ record, records[position]? = some record :=
        ⟨_, List.getElem?_eq_getElem within⟩
      rw [← List.take_append_drop target records] at linked
      have copied := links_duplicated linked record
      have last : records.drop target = [] ↔ target = records.length := by
        rw [List.drop_eq_nil_iff]
        omega
      simpa [Rearrangement.apply, Hides, found, last] using copied
  | swap first second =>
      obtain ⟨before, within⟩ := fits
      obtain ⟨front, other, later, rfl, rfl⟩ := exists_split within
      obtain ⟨early, record, middle, rfl, rfl⟩ := exists_split before
      have swapped : (Rearrangement.swap early.length (early ++ record :: middle).length).apply
          (early ++ record :: middle ++ other :: later) =
            early ++ other :: (middle ++ record :: later) := by
        simp [Rearrangement.apply]
      rw [swapped, links_swapped (by simpa using linked)]
      simp [Hides]

theorem readLine_eq_ok {previous : String} {line : List Char} {record other : ρ}
    (decoded : format.decode line = .ok record) :
    format.readLine previous line = .ok other ↔
      other = record ∧ format.previousHash record = previous ∧
        format.checkHash record = .ok () := by
  simp only [readLine, decoded, bind, Except.bind]
  split
  next unnamed => simp [unnamed]
  next named =>
    cases format.checkHash record <;> simp [not_not.mp named, eq_comm]

/-- A log is read if its lines decode, its records are linked and every record
passes its own check. -/
theorem readLines_eq_ok {previous : String} {entries : List (List Char × ρ)}
    (decoded : ∀ entry ∈ entries, format.decode entry.1 = .ok entry.2) {records : List ρ} :
    format.readLines previous (entries.map Prod.fst) = .ok records ↔
      records = entries.map Prod.snd ∧ format.Links previous (entries.map Prod.snd) ∧
        ∀ entry ∈ entries, format.checkHash entry.2 = .ok () := by
  induction entries generalizing previous records with
  | nil => simp [readLines, Links, eq_comm]
  | cons entry entries induction =>
      have first := decoded entry List.mem_cons_self
      have later := @induction (format.recordHash entry.2)
        (fun other member => decoded other (List.mem_cons_of_mem _ member))
      simp only [List.map_cons, readLines, except_bind_eq_ok, readLine_eq_ok first, Links,
        List.forall_mem_cons, Except.ok.injEq]
      constructor
      · rintro ⟨_, ⟨rfl, named, checked⟩, others, read, rfl⟩
        obtain ⟨rfl, linked, clean⟩ := later.mp read
        exact ⟨rfl, ⟨named, linked⟩, checked, clean⟩
      · rintro ⟨rfl, ⟨named, linked⟩, checked, clean⟩
        exact ⟨_, ⟨rfl, named, checked⟩, _, later.mpr ⟨rfl, linked, clean⟩, rfl⟩

section Stored

variable {file : Option (List Char)} {entries : List (List Char × ρ)}

theorem stored_none : format.Stored none [] := by
  constructor <;> simp [unlines, Links]

theorem storedLines_of_stored (stored : format.Stored file entries) :
    storedLines file = entries.map Prod.fst := by
  refine storedLines_of_unlines stored.text ?_
  simpa using fun line record member => stored.solid (line, record) member

theorem records_eq_ok_of_stored (stored : format.Stored file entries) :
    format.records file = .ok records ↔
      records = entries.map Prod.snd ∧ ∀ entry ∈ entries, format.checkHash entry.2 = .ok () := by
  simp [Format.records, storedLines_of_stored stored, readLines_eq_ok stored.decoded,
    stored.linked]

/-- A stored log is blank only if it has no records. -/
theorem existing_eq_records (stored : format.Stored file entries) :
    format.existing file = format.records file := by
  unfold existing
  split
  next blank =>
    rw [stored.text] at blank
    have none := isBlankLine_unlines
      (by simpa using fun line record member => stored.solid (line, record) member) blank
    rw [Format.records, storedLines_of_stored stored, none]
    rfl
  next => rfl

theorem existing_of_stored (stored : format.Stored file entries)
    (read : format.existing file = .ok records) : records = entries.map Prod.snd :=
  ((records_eq_ok_of_stored stored).mp (existing_eq_records stored ▸ read)).1

/-- A line that decodes to a record that continues the chain. -/
theorem stored_appended (stored : format.Stored file entries) {line : List Char} {record : ρ}
    (solid : IsRecordLine line) (decoded : format.decode line = .ok record)
    (next : format.previousHash record = format.headHash (entries.map Prod.snd)) :
    format.Stored (some (appended file line)) (entries ++ [(line, record)]) := by
  constructor
  · simp [appended, stored.text, unlines]
  · simpa [or_imp, forall_and, solid] using stored.solid
  · simpa [or_imp, forall_and, decoded] using stored.decoded
  · rw [List.map_append, links_append]
    exact ⟨stored.linked, next, trivial⟩

/-- Decodable lines are read if their records are linked and pass their checks. -/
theorem read_unlines_iff
    (solid : ∀ entry ∈ entries, IsRecordLine entry.1)
    (decoded : ∀ entry ∈ entries, format.decode entry.1 = .ok entry.2) :
    (∃ records, format.records (some (unlines (entries.map Prod.fst))) = .ok records) ↔
      format.Links "" (entries.map Prod.snd) ∧
        ∀ entry ∈ entries, format.checkHash entry.2 = .ok () := by
  have lines : storedLines (some (unlines (entries.map Prod.fst))) = entries.map Prod.fst :=
    storedLines_of_unlines rfl (by simpa using fun line record member => solid (line, record) member)
  simp [Format.records, lines, readLines_eq_ok decoded]

/-- A rearranged log is read if the change hides and the records that are left
pass their checks. -/
theorem read_rearranged_iff (stored : format.Stored file entries)
    (fits : change.Fits entries.length) :
    (∃ records, format.records (some (unlines (change.apply (storedLines file)))) =
        .ok records) ↔
      format.Hides (entries.map Prod.snd) change ∧
        ∀ entry ∈ change.apply entries, format.checkHash entry.2 = .ok () := by
  rw [storedLines_of_stored stored, ← Rearrangement.map_apply, read_unlines_iff
      (fun entry member => stored.solid entry (Rearrangement.mem_of_mem_apply member))
      (fun entry member => stored.decoded entry (Rearrangement.mem_of_mem_apply member)),
    Rearrangement.map_apply, links_apply_iff stored.linked (by simpa using fits)]

/-- A log with another line in the place of one is read if the new record has
the links of the old one and all records pass their checks. -/
theorem read_replaced_iff {early later : List (List Char × ρ)} {old line : List Char}
    {record other : ρ} (stored : format.Stored file (early ++ (old, record) :: later))
    (solid : IsRecordLine line) (decoded : format.decode line = .ok other) :
    (∃ records, format.records (some (unlines ((storedLines file).set early.length line))) =
        .ok records) ↔
      (format.previousHash other = format.previousHash record ∧
          (later = [] ∨ format.recordHash other = format.recordHash record)) ∧
        format.checkHash other = .ok () ∧
          ∀ entry ∈ early ++ later, format.checkHash entry.2 = .ok () := by
  have edited : (storedLines file).set early.length line =
      (early ++ (line, other) :: later).map Prod.fst := by
    simp [storedLines_of_stored stored]
  have within : ∀ entry ∈ early ++ (line, other) :: later,
      entry = (line, other) ∨ entry ∈ early ++ (old, record) :: later := by
    intro entry member
    simp only [List.mem_append, List.mem_cons] at member ⊢
    tauto
  rw [edited, read_unlines_iff, List.map_append, List.map_cons,
    links_replaced (by simpa using stored.linked)]
  · simp only [List.map_eq_nil_iff, List.mem_append, List.mem_cons, or_imp, forall_and,
      forall_eq]
    tauto
  · intro entry member
    rcases within entry member with rfl | kept
    · exact solid
    · exact stored.solid entry kept
  · intro entry member
    rcases within entry member with rfl | kept
    · exact decoded
    · exact stored.decoded entry kept

end Stored

end Format

end ChainedLog
