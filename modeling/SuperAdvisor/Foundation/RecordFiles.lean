import SuperAdvisor.Foundation.OrderedDict

/-!
# Files that hold one record each

A directory maps file names to texts, and every text decodes to a record that
belongs into its file.  A write of such a text keeps what holds of all records.
-/

namespace RecordFiles

variable {ρ π : Type} (decode : List Char → Except π ρ) (fileOf : ρ → Option String)

/-- Every file holds a record of its own, and a good one. -/
def Holds (good : ρ → Prop) (files : List (String × List Char)) : Prop :=
  ∀ file text, OrderedDict.get? files file = some text →
    ∃ record, decode text = .ok record ∧ fileOf record = some file ∧ good record

variable {decode fileOf} {good : ρ → Prop} {files : List (String × List Char)}

theorem holds_nil : Holds decode fileOf good [] := by
  intro file text found
  cases found

theorem Holds.mono
    {better : ρ → Prop} (holds : Holds decode fileOf good files)
    (weaker : ∀ record, good record → better record) : Holds decode fileOf better files := by
  intro file text found
  obtain ⟨record, read, own, fine⟩ := holds file text found
  exact ⟨record, read, own, weaker record fine⟩

theorem Holds.set
    {file : String} {text : List Char} {record : ρ} (holds : Holds decode fileOf good files)
    (read : decode text = .ok record) (own : fileOf record = some file) (fine : good record) :
    Holds decode fileOf good (OrderedDict.set files file text) := by
  intro other written found
  by_cases same : other = file
  · subst same
    obtain rfl : text = written := by simpa [OrderedDict.get?_set_self] using found
    exact ⟨record, read, own, fine⟩
  · exact holds other written (by simpa [OrderedDict.get?_set_of_ne _ _ same] using found)

/-- The record of a file that is there. -/
theorem Holds.of_get
    {file : String} {text : List Char} {record : ρ} (holds : Holds decode fileOf good files)
    (found : OrderedDict.get? files file = some text) (read : decode text = .ok record) :
    fileOf record = some file ∧ good record := by
  obtain ⟨other, decoded, own, fine⟩ := holds file text found
  obtain rfl : other = record := by simpa [decoded] using read
  exact ⟨own, fine⟩

end RecordFiles
