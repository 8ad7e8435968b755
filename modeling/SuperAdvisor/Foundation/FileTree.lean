import SuperAdvisor.Foundation.OrderedDict

/-!
# Trees of files

A tree is its files with their paths; a directory is there if a file lies
below it.  Paths are lists of names, and the text of a path gives the names
back.
-/

namespace FileTree

abbrev Path := List String

/-- A name that a directory can hold. -/
structure IsName (name : String) : Prop where
  nonempty : name ≠ ""
  here : name ≠ "."
  above : name ≠ ".."
  single : '/' ∉ name.toList

theorem isName_iff {name : String} :
    IsName name ↔ (name ≠ "" ∧ name ≠ "." ∧ name ≠ "..") ∧ '/' ∉ name.toList :=
  ⟨fun valid => ⟨⟨valid.nonempty, valid.here, valid.above⟩, valid.single⟩,
    fun parts => ⟨parts.1.1, parts.1.2.1, parts.1.2.2, parts.2⟩⟩

instance (name : String) : Decidable (IsName name) :=
  decidable_of_iff' _ isName_iff

/-- `str(path)` -/
def pathText (path : Path) : String :=
  String.ofList (['/'].intercalate (path.map String.toList))

/-- The names of a relative path. -/
def pathOf (text : String) : Path :=
  ((text.toList.splitOn '/').map String.ofList).filter (fun name => name ≠ "" ∧ name ≠ ".")

/-- The text leads out of the directory it is read in. -/
def leavesDirectory (text : String) : Bool :=
  decide (['/'] <+: text.toList) || decide (".." ∈ pathOf text)

theorem pathOf_pathText {path : Path} (nonempty : path ≠ []) (names : ∀ name ∈ path, IsName name) :
    pathOf (pathText path) = path := by
  have apart : ∀ name ∈ path.map String.toList, '/' ∉ name := by
    intro name member
    obtain ⟨part, inside, rfl⟩ := List.mem_map.mp member
    exact (names part inside).single
  have split : ((pathText path).toList.splitOn '/') = path.map String.toList := by
    rw [pathText, String.toList_ofList]
    exact List.splitOn_intercalate '/' apart (by simpa using nonempty)
  have kept : ∀ name ∈ path, decide (name ≠ "" ∧ name ≠ ".") = true :=
    fun name member => decide_eq_true ⟨(names name member).nonempty, (names name member).here⟩
  simp only [pathOf, split, List.map_map, Function.comp_def, String.ofList_toList, List.map_id']
  exact List.filter_eq_self.mpr kept

theorem leavesDirectory_pathText
    {path : Path} (nonempty : path ≠ []) (names : ∀ name ∈ path, IsName name) :
    leavesDirectory (pathText path) = false := by
  have inside : ".." ∉ path := fun member => (names _ member).above rfl
  have relative : ¬['/'] <+: (pathText path).toList := by
    obtain ⟨name, rest, rfl⟩ := List.exists_cons_of_ne_nil nonempty
    have single := (names name List.mem_cons_self).single
    obtain ⟨symbol, symbols, shape⟩ : ∃ symbol symbols, name.toList = symbol :: symbols :=
      List.exists_cons_of_ne_nil (by
        simpa using (names name List.mem_cons_self).nonempty)
    have other : '/' ≠ symbol := by
      rintro rfl
      exact single (by simp [shape])
    cases rest <;> simp [pathText, shape, List.intercalate, other]
  simp [leavesDirectory, relative, pathOf_pathText nonempty names, inside]

/-- The bytes of a text in UTF-8. -/
def encodeText (text : List Char) : ByteArray :=
  (String.ofList text).toByteArray

/-- The text of bytes in UTF-8. -/
def decodeText (bytes : ByteArray) : Option (List Char) :=
  bytes.utf8Decode?.map Array.toList

theorem decodeText_encodeText (text : List Char) : decodeText (encodeText text) = some text := by
  rw [decodeText, encodeText, ← String.utf8Encode_toList, String.toList_ofList,
    List.utf8Decode?_utf8Encode]
  rfl

/-- The files of a directory with their contents. -/
abbrev Folder (β : Type) := List (Path × β)

variable {β : Type}

/-- The path is a directory of the folder. -/
def isDirectory (folder : Folder β) (path : Path) : Bool :=
  folder.any (fun entry => decide (path <+: entry.1 ∧ path ≠ entry.1))

/-- The path, or a directory above it, is a file of the folder. -/
def isBlocked (folder : Folder β) (path : Path) : Bool :=
  folder.any (fun entry => decide (entry.1 <+: path))

end FileTree
