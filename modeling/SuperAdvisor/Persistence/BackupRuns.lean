import SuperAdvisor.Foundation.Machine
import SuperAdvisor.Foundation.Reloading
import SuperAdvisor.Foundation.Sha256
import SuperAdvisor.Foundation.TypedFields
import SuperAdvisor.Persistence.Backups

/-!
# Faithful backups

The manifest lies among the copies, and a directory is named by the second in
which it is made.  Where no source file takes the place of the manifest and no
two backups fall into one second, every backup verifies and holds what the
source held.
-/

namespace SuperAdvisor

open Python Calendar FileTree Machine Raising

variable {library : BackupLibrary}

/-- The files of a source that are copied. -/
def included (library : BackupLibrary) (files : List SourceFile) : List SourceFile :=
  files.filter (fun file => !shouldExclude library file.path)

def manifestFile (library : BackupLibrary) (file : SourceFile) : ManifestFile :=
  { path := pathText file.path
    sha256 := library.sha256Hex file.content
    size := file.content.size }

def copies (files : List SourceFile) : Folder ByteArray :=
  files.map (fun file => (file.path, file.content))

/-! Making a backup. -/

/-- Only the directory of the backup has changed. -/
def Frame (backupId : String) (before after : BackupRoot) : Prop :=
  ∀ other, other ≠ backupId → OrderedDict.get? after other = OrderedDict.get? before other

theorem Frame.set
    {backupId : String} {before after : BackupRoot} (frame : Frame backupId before after)
    (folder : Folder ByteArray) :
    Frame backupId before (OrderedDict.set after backupId folder) :=
  fun other different => (OrderedDict.get?_set_of_ne _ _ different).trans (frame other different)

/-- The loop has copied these files into a new directory. -/
structure Copied (library : BackupLibrary) (backupId : String) (before : BackupRoot)
    (early : List SourceFile) (found : List ManifestFile × List String) (root : BackupRoot) :
    Prop where
  folder : OrderedDict.get? root backupId = some (copies (included library early))
  files : found.1 = (included library early).map (manifestFile library)
  frame : Frame backupId before root

/-- Among files that lie apart a path is free. -/
theorem free_of_apart
    {path : Path} {files : List SourceFile}
    (apart : ∀ other ∈ files, ¬other.path <+: path ∧ ¬path <+: other.path) :
    isBlocked (copies files) path.dropLast = false ∧ isDirectory (copies files) path = false := by
  refine ⟨List.any_eq_false.mpr (fun entry member => ?_),
    List.any_eq_false.mpr (fun entry member => ?_)⟩
  · obtain ⟨other, inside, rfl⟩ := List.mem_map.mp member
    simpa using fun above => (apart other inside).1 (above.trans (List.dropLast_prefix _))
  · obtain ⟨other, inside, rfl⟩ := List.mem_map.mp member
    simpa using fun below => absurd below (apart other inside).2

theorem not_mem_keys_of_apart
    {path : Path} {files : List SourceFile}
    (apart : ∀ other ∈ files, ¬other.path <+: path ∧ ¬path <+: other.path) :
    path ∉ OrderedDict.keys (copies files) := by
  intro member
  obtain ⟨entry, inside, same⟩ := List.mem_map.mp member
  obtain ⟨other, otherIn, rfl⟩ := List.mem_map.mp inside
  exact (apart other otherIn).1 (same ▸ List.prefix_refl _)

/-- Among files that lie apart a copy ends in its place. -/
theorem copyFile_apart
    {backupId : String} {file : SourceFile} {files : List SourceFile} {root : BackupRoot}
    (held : folderOf root backupId = copies files)
    (apart : ∀ other ∈ files, ¬other.path <+: file.path ∧ ¬file.path <+: other.path) :
    (copyFile library backupId file).run root = .ok (manifestFile library file)
      (OrderedDict.set root backupId
        (OrderedDict.set (folderOf root backupId) file.path file.content)) := by
  obtain ⟨open_, plain⟩ := free_of_apart apart
  simp [copyFile, held, open_, plain, manifestFile, -bind_pure_comp]

theorem ensures_copyRound
    {backupId : String} {before : BackupRoot} {early : List SourceFile} {file : SourceFile}
    {found : List ManifestFile × List String}
    (apart : ∀ other ∈ early, ¬other.path <+: file.path ∧ ¬file.path <+: other.path) :
    Ensures (Copied library backupId before early found) (copyRound library backupId found file)
      (Copied library backupId before (early ++ [file])) (fun _ _ => False) := by
  intro root copied
  have held : folderOf root backupId = copies (included library early) := by
    rw [folderOf, copied.folder, Option.getD_some]
  by_cases excluded : shouldExclude library file.path = true
  · have ran : (copyRound library backupId found file).run root =
        .ok (found.1, found.2 ++ [pathText file.path]) root := by
      simp [copyRound, excluded]
    rw [ran]
    exact
      { folder := by simpa [included, excluded] using copied.folder
        files := by simpa [included, excluded] using copied.files
        frame := copied.frame }
  · have placed := @copyFile_apart library _ _ _ _ held
      (fun other member => apart other (List.mem_of_mem_filter member))
    have ran : (copyRound library backupId found file).run root =
        .ok (found.1 ++ [manifestFile library file], found.2) (OrderedDict.set root backupId
          (OrderedDict.set (folderOf root backupId) file.path file.content)) := by
      simp [copyRound, excluded, placed, -bind_pure_comp]
    have absent : file.path ∉ OrderedDict.keys (copies (included library early)) :=
      not_mem_keys_of_apart (fun other member => apart other (List.mem_of_mem_filter member))
    rw [ran, held, OrderedDict.set_of_not_mem absent]
    exact
      { folder := by
          rw [OrderedDict.get?_set_self]
          simp [included, excluded, copies]
        files := by
          rw [copied.files]
          simp [included, excluded]
        frame := copied.frame.set _ }

theorem toDocument_content (manifest : BackupManifest) :
    ∀ field ∈ manifest.content,
      ∃ document, field.2.toDocument canonicalOptions = .ok document := by
  have each : ∀ entry ∈ manifest.files.map (fun file => Value.dict (named file.fields)),
      ∃ document, entry.toDocument canonicalOptions = .ok document := by
    intro entry member
    obtain ⟨file, -, rfl⟩ := List.mem_map.mp member
    exact toDocument_named_ok rfl (by simp [ManifestFile.fields])
  obtain ⟨documents, files⟩ := toDocuments_ok each
  have listed : ∃ document, (Value.list (manifest.files.map (fun file =>
      Value.dict (named file.fields)))).toDocument canonicalOptions = .ok document :=
    ⟨.array documents, by simp only [Value.toDocument, files, Except.map]⟩
  have excluded := @toDocument_textList canonicalOptions manifest.excluded
  rw [textList] at excluded
  simp [BackupManifest.content, listed, excluded]

/-- A manifest ends in its place, unless a directory is there. -/
theorem writeManifest_cases (library : BackupLibrary) (manifest : BackupManifest)
    (root : BackupRoot) :
    (isDirectory (folderOf root manifest.backupId) manifestPath = true ∧
      (writeManifest library manifest).run root = .error .isADirectory root) ∨
    ∃ hash text, canonicalJson
        (.dict (named { manifest with manifestSha256 := hash }.payload)) = .ok text ∧
      (writeManifest library manifest).run root =
        .ok { manifest with manifestSha256 := hash } (OrderedDict.set root manifest.backupId
          (OrderedDict.set (folderOf root manifest.backupId) manifestPath
            (encodeText (text ++ ['\n'])))) := by
  obtain ⟨content, converted⟩ := toDocument_named_ok rfl (toDocument_content manifest)
  obtain ⟨hash, hashed⟩ : ∃ hash, manifestFingerprint library manifest = .ok hash :=
    ⟨_, by simp only [manifestFingerprint, canonicalJson, dumps, converted]; rfl⟩
  have fields : ∀ field ∈ { manifest with manifestSha256 := hash }.payload,
      ∃ document, field.2.toDocument canonicalOptions = .ok document := by
    intro field member
    rcases List.mem_append.mp member with early | here
    · exact toDocument_content manifest field early
    · obtain rfl := List.mem_singleton.mp here
      exact ⟨_, rfl⟩
  obtain ⟨payload, complete⟩ := toDocument_named_ok rfl fields
  obtain ⟨text, printed⟩ : ∃ text,
      canonicalJson (.dict (named { manifest with manifestSha256 := hash }.payload)) = .ok text :=
    ⟨_, by simp only [canonicalJson, dumps, complete]; rfl⟩
  by_cases onto : isDirectory (folderOf root manifest.backupId) manifestPath = true
  · refine .inl ⟨onto, ?_⟩
    simp [writeManifest, run_ofExcept, hashed, printed, onto, Except.mapError]
  · refine .inr ⟨hash, text, printed, ?_⟩
    simp [writeManifest, run_ofExcept, hashed, printed, onto, Except.mapError, -bind_pure_comp]

/-- A source file lies below the place of the manifest. -/
def ShadowsManifest (library : BackupLibrary) (source : SourceTree) : Prop :=
  isDirectory (copies (included library source.files)) manifestPath = true

/-- What a backup in a new directory leaves there. -/
structure Made (library : BackupLibrary) (call : BackupCall) (before : BackupRoot)
    (manifest : BackupManifest) (root : BackupRoot) : Prop where
  backupId : manifest.backupId = call.backupId
  files : manifest.files = (included library call.source.files).map (manifestFile library)
  folder : ∃ text, canonicalJson (.dict (named manifest.payload)) = .ok text ∧
    OrderedDict.get? root call.backupId =
      some (OrderedDict.set (copies (included library call.source.files)) manifestPath
        (encodeText (text ++ ['\n'])))
  frame : Frame call.backupId before root

/-- A backup in a new directory is made, unless a directory takes the place of
its manifest. -/
theorem ensures_createBackup
    {call : BackupCall} {before : BackupRoot}
    (fresh : OrderedDict.get? before call.backupId = none) :
    Ensures (fun root => root = before) (createBackup library call)
      (Made library call before)
      (fun _ root => ShadowsManifest library call.source ∧ Frame call.backupId before root) := by
  have start : Ensures (fun root => root = before)
      (modify (fun root => OrderedDict.set root call.backupId (folderOf root call.backupId)) :
        BackupM PUnit)
      (fun _ => Copied library call.backupId before [] ([], [])) (fun _ _ => False) := by
    refine ensures_modify ?_
    rintro root rfl
    exact
      { folder := by simp [OrderedDict.get?_set_self, folderOf, fresh, included, copies]
        files := rfl
        frame := Frame.set (fun _ _ => rfl) _ }
  have loop : Ensures (Copied library call.backupId before [] ([], []))
      (call.source.files.foldlM (copyRound library call.backupId) ([], []))
      (fun found => Copied library call.backupId before call.source.files found)
      (fun _ _ => False) := by
    refine ensures_foldlM (Copied library call.backupId before) ?_
    intro early file late found shape
    refine ensures_copyRound (fun other inside => ?_)
    have apart := call.source.apart
    rw [shape] at apart
    exact (List.pairwise_append.mp apart).2.2 other inside file List.mem_cons_self
  unfold createBackup
  refine ensures_bind (ensures_weaken start (fun _ known => known) (fun _ _ known => known)
    (fun _ _ never => never.elim)) (fun _ => ?_)
  refine ensures_bind (ensures_weaken loop (fun _ known => known) (fun _ _ known => known)
    (fun _ _ never => never.elim)) (fun found => ?_)
  intro root copied
  have held : folderOf root call.backupId = copies (included library call.source.files) := by
    rw [folderOf, copied.folder, Option.getD_some]
  rcases writeManifest_cases library
      { backupId := call.backupId
        createdAtUtc := call.createdAt
        sourceRoot := call.source.root
        files := found.1
        excluded := found.2
        manifestSha256 := "" } root with ⟨onto, failed⟩ | ⟨hash, text, printed, ran⟩
  · rw [failed]
    refine ⟨?_, copied.frame⟩
    rw [ShadowsManifest, ← held]
    exact onto
  · rw [ran]
    exact
      { backupId := rfl
        files := copied.files
        folder := ⟨text, printed, by rw [OrderedDict.get?_set_self, held]⟩
        frame := copied.frame.set _ }

/-- A call that makes a new directory, and what it returns. -/
theorem backupStep_cases
    {root : BackupRoot} {call : BackupCall}
    (fresh : OrderedDict.get? root call.backupId = none) :
    (∃ problem, (backupStep library root call).1 = .error problem ∧
      ShadowsManifest library call.source ∧
      Frame call.backupId root (backupStep library root call).2) ∨
    ∃ manifest, (backupStep library root call).1 = .ok manifest ∧
      Made library call root manifest (backupStep library root call).2 := by
  have outcome := @ensures_createBackup library _ _ fresh root rfl
  cases ran : (createBackup library call).run root with
  | error problem after =>
      rw [ran] at outcome
      exact .inl ⟨problem, by simp [backupStep, ran], outcome.1, by simpa [backupStep, ran] using
        outcome.2⟩
  | ok manifest after =>
      rw [ran] at outcome
      exact .inr ⟨manifest, by simp [backupStep, ran], by simpa [backupStep, ran] using outcome⟩

/-! Verifying a backup. -/

private theorem keys_fields (file : ManifestFile) : (OrderedDict.keys file.fields).Nodup := by
  show List.Nodup ["path", "sha256", "size"]
  decide

private theorem keys_manifest (manifest : BackupManifest) :
    (OrderedDict.keys manifest.payload).Nodup := by
  show List.Nodup
    ["backup_id", "created_at_utc", "source_root", "files", "excluded", "manifest_sha256"]
  decide

/-- A file of a manifest as it loads back. -/
def reloadedFile (file : ManifestFile) : Value :=
  .dict (named (reloadFields canonicalOptions file.fields))

theorem reload_file (file : ManifestFile) :
    (Value.dict (named file.fields)).reload canonicalOptions = reloadedFile file := by
  obtain ⟨document, converted⟩ := @toDocument_named_ok canonicalOptions rfl file.fields (by
    simp [ManifestFile.fields])
  exact reload_named rfl (keys_fields file) converted

theorem getItem_reloadedFile (file : ManifestFile) :
    getItem (reloadedFile file) "path" = .ok (.str file.path) ∧
      getItem (reloadedFile file) "sha256" = .ok (.str file.sha256) := by
  simp only [reloadedFile, getItem_named, get?_reloadFields (keys_fields file)]
  simp [ManifestFile.fields, OrderedDict.get?]

/-- The files that a written manifest lists, as they load back. -/
theorem files_of_manifest
    {manifest : BackupManifest} {text : List Char}
    (printed : canonicalJson (.dict (named manifest.payload)) = .ok text) :
    ∃ entries, loads (text ++ ['\n']) = some (.dict entries) ∧
      getOr entries "files" (.list []) = .list (manifest.files.map reloadedFile) := by
  obtain ⟨document, converted⟩ := toDocument_of_dumps printed
  obtain ⟨files, filesConverted⟩ := toDocument_named_field rfl converted
    (show ("files", Value.list (manifest.files.map (fun file => .dict (named file.fields)))) ∈
      manifest.payload by simp [BackupManifest.payload, BackupManifest.content])
  refine ⟨_, (loads_dumps_line printed).trans
    (congrArg some (reload_named rfl (keys_manifest manifest) converted)), ?_⟩
  rw [getOr_named, ← reloadFields, get?_reloadFields (keys_manifest manifest)]
  simp [BackupManifest.payload, BackupManifest.content, OrderedDict.get?,
    reload_list filesConverted, reload_file, Function.comp_def]

/-- The copy of a file is found under the text of its path. -/
theorem locate_copy
    {folder : Folder ByteArray} {file : SourceFile}
    (named : file.path ≠ [] ∧ ∀ name ∈ file.path, IsName name)
    (found : OrderedDict.get? folder file.path = some file.content) :
    locate library folder (pathText file.path) = .file file.content := by
  simp only [locate, leavesDirectory_pathText named.1 named.2, pathOf_pathText named.1 named.2,
    found]
  rfl

theorem verifyItem_copy
    {folder : Folder ByteArray} {file : SourceFile} (mismatches : List String)
    (named : file.path ≠ [] ∧ ∀ name ∈ file.path, IsName name)
    (found : OrderedDict.get? folder file.path = some file.content) :
    verifyItem library folder mismatches (reloadedFile (manifestFile library file)) =
      .ok mismatches := by
  obtain ⟨path, digest⟩ := getItem_reloadedFile (manifestFile library file)
  simp only [verifyItem, path, digest, Except.mapError, ok_bind]
  simp [manifestFile, locate_copy named found, Value.equals]

/-- The loop over files that all have their copies finds no mismatch. -/
theorem foldlM_verifyItem
    {folder : Folder ByteArray} {files : List SourceFile}
    (each : ∀ file ∈ files, (file.path ≠ [] ∧ ∀ name ∈ file.path, IsName name) ∧
      OrderedDict.get? folder file.path = some file.content) :
    ((files.map (manifestFile library)).map reloadedFile).foldlM
      (verifyItem library folder) [] = .ok [] := by
  induction files with
  | nil => rfl
  | cons file files induction =>
      obtain ⟨named, found⟩ := each file List.mem_cons_self
      simp only [List.map_cons, List.foldlM_cons, verifyItem_copy [] named found, ok_bind]
      exact induction (fun other member => each other (List.mem_cons_of_mem _ member))

/-- A copy of a source file beside the manifest. -/
theorem get?_copy
    {files : List SourceFile} (apart : (files.map SourceFile.path).Nodup) (text : ByteArray)
    {file : SourceFile} (member : file ∈ files) (other : file.path ≠ manifestPath) :
    OrderedDict.get? (OrderedDict.set (copies files) manifestPath text) file.path =
      some file.content := by
  rw [OrderedDict.get?_set_of_ne _ _ other]
  refine OrderedDict.get?_eq_some_of_mem ?_ (List.mem_map.mpr ⟨file, member, rfl⟩)
  simpa [OrderedDict.keys, copies, Function.comp_def] using apart

theorem SourceTree.paths_nodup (source : SourceTree) :
    (source.files.map SourceFile.path).Nodup :=
  List.Pairwise.map _ (fun _ _ apart same => apart.1 (same ▸ List.prefix_refl _)) source.apart

/-- The manifest has no place in the source. -/
def SparesManifest (source : SourceTree) : Prop :=
  ∀ file ∈ source.files, file.path ≠ manifestPath

/-- A backup verifies, and every listed file has the content of its source. -/
structure Faithful (library : BackupLibrary) (root : BackupRoot) (call : BackupCall)
    (manifest : BackupManifest) : Prop where
  valid : (verify library root manifest.backupId).valid = true
  mismatches : (verify library root manifest.backupId).mismatches = []
  copied : ∀ entry ∈ manifest.files, ∃ file ∈ call.source.files,
    entry.path = pathText file.path ∧
      OrderedDict.get? (folderOf root manifest.backupId) file.path = some file.content

theorem Faithful.of_folder
    {root after : BackupRoot} {call : BackupCall} {manifest : BackupManifest}
    (faithful : Faithful library root call manifest)
    (same : folderOf after manifest.backupId = folderOf root manifest.backupId) :
    Faithful library after call manifest := by
  have verified : verify library after manifest.backupId =
      verify library root manifest.backupId := by
    rw [verify, verify, same]
  exact
    { valid := verified ▸ faithful.valid
      mismatches := verified ▸ faithful.mismatches
      copied := same ▸ faithful.copied }

/-- A new backup holds the copies, and its manifest lists them. -/
theorem verifyFolder_of_made
    {call : BackupCall} {before root : BackupRoot} {manifest : BackupManifest}
    (made : Made library call before manifest root) (spares : SparesManifest call.source) :
    (∀ file ∈ included library call.source.files,
      OrderedDict.get? (folderOf root manifest.backupId) file.path = some file.content) ∧
    ∃ entries, verifyFolder library (folderOf root manifest.backupId) = .ok ([], .dict entries) ∧
      getOr entries "files" (.list []) = .list (manifest.files.map reloadedFile) := by
  obtain ⟨text, printed, stored⟩ := made.folder
  have held : folderOf root manifest.backupId =
      OrderedDict.set (copies (included library call.source.files)) manifestPath
        (encodeText (text ++ ['\n'])) := by
    rw [folderOf, made.backupId, stored, Option.getD_some]
  have apart : ((included library call.source.files).map SourceFile.path).Nodup :=
    (List.filter_sublist.map _).nodup call.source.paths_nodup
  have found : ∀ file ∈ included library call.source.files,
      OrderedDict.get? (folderOf root manifest.backupId) file.path = some file.content := by
    intro file member
    rw [held]
    exact get?_copy apart _ member (spares file (List.mem_of_mem_filter member))
  have rounds : (manifest.files.map reloadedFile).foldlM
      (verifyItem library (folderOf root manifest.backupId)) [] = .ok [] := by
    rw [made.files]
    exact foldlM_verifyItem (fun file member =>
      ⟨call.source.named file (List.mem_of_mem_filter member), found file member⟩)
  obtain ⟨entries, loaded, listed⟩ := files_of_manifest printed
  refine ⟨found, entries, ?_, listed⟩
  have present : OrderedDict.get? (folderOf root manifest.backupId) manifestPath =
      some (encodeText (text ++ ['\n'])) := by
    rw [held, OrderedDict.get?_set_self]
  simp only [verifyFolder, present, decodeText_encodeText, loaded, listed, listOf,
    Except.mapError, ok_bind, rounds]

theorem faithful_of_made
    {call : BackupCall} {before root : BackupRoot} {manifest : BackupManifest}
    (made : Made library call before manifest root) (spares : SparesManifest call.source) :
    Faithful library root call manifest := by
  obtain ⟨found, entries, checked, -⟩ := verifyFolder_of_made made spares
  refine ⟨by simp [verify, checked], by simp [verify, checked], ?_⟩
  intro entry member
  rw [made.files] at member
  obtain ⟨file, inside, rfl⟩ := List.mem_map.mp member
  exact ⟨file, List.mem_of_mem_filter inside, rfl, found file inside⟩

/-! Whole runs. -/

abbrev BackupEvent := Event BackupRoot BackupCall (Except BackupProblem BackupManifest)

/-- Every backup returned so far is faithful. -/
def AllFaithful (library : BackupLibrary) (past : List BackupEvent) (root : BackupRoot) : Prop :=
  ∀ event ∈ past, ∀ manifest, event.reply = .ok manifest →
    Faithful library root event.call manifest

/-- The directory that a call makes is not there yet, and no source file takes
the place of its manifest. -/
structure Undisturbed (event : BackupEvent) : Prop where
  fresh : OrderedDict.get? event.before event.call.backupId = none
  spares : SparesManifest event.call.source

theorem undisturbed_eventOf
    {root : BackupRoot} {call : BackupCall}
    (fresh : OrderedDict.get? root call.backupId = none) (spares : SparesManifest call.source) :
    Undisturbed (eventOf (backupStep library) root call) :=
  ⟨fresh, spares⟩

/-- What is not there does not verify. -/
theorem Faithful.present
    {root : BackupRoot} {call : BackupCall} {manifest : BackupManifest}
    (faithful : Faithful library root call manifest) :
    OrderedDict.get? root manifest.backupId ≠ none := by
  intro absent
  have valid := faithful.valid
  have empty : folderOf root manifest.backupId = [] := by rw [folderOf, absent, Option.getD_none]
  simp [verify, empty, verifyFolder, OrderedDict.get?, bind, Except.bind] at valid

theorem AllFaithful.of_frame
    {past : List BackupEvent} {root after : BackupRoot} {backupId : String}
    (faithful : AllFaithful library past root) (fresh : OrderedDict.get? root backupId = none)
    (frame : Frame backupId root after) : AllFaithful library past after := by
  intro event member manifest returned
  have before := faithful event member manifest returned
  refine before.of_folder ?_
  have different : manifest.backupId ≠ backupId := by
    rintro same
    exact before.present (same ▸ fresh)
  rw [folderOf, folderOf, frame _ different]

theorem allFaithful_step
    (past : List BackupEvent) (root : BackupRoot) (call : BackupCall)
    (undisturbed : Undisturbed (eventOf (backupStep library) root call))
    (faithful : AllFaithful library past root) :
    AllFaithful library (past ++ [eventOf (backupStep library) root call])
      (backupStep library root call).2 := by
  have fresh : OrderedDict.get? root call.backupId = none := undisturbed.fresh
  rcases backupStep_cases fresh with ⟨problem, raised, -, frame⟩ | ⟨made, returned, written⟩
  · intro event member manifest replied
    rcases List.mem_append.mp member with early | here
    · exact faithful.of_frame fresh frame event early manifest replied
    · obtain rfl := List.mem_singleton.mp here
      exact absurd (raised.symm.trans replied) (by simp)
  · intro event member manifest replied
    rcases List.mem_append.mp member with early | here
    · exact faithful.of_frame fresh written.frame event early manifest replied
    · obtain rfl := List.mem_singleton.mp here
      obtain rfl : made = manifest := Except.ok.inj (returned.symm.trans replied)
      exact faithful_of_made written undisturbed.spares

/-- If every backup makes a new directory and no source file takes the place of
its manifest, then every backup of a run stays faithful. -/
theorem backups_stay_faithful
    (library : BackupLibrary) (calls : List BackupCall)
    (undisturbed : ∀ event ∈ trace (backupStep library) [] calls, Undisturbed event) :
    AllFaithful library (trace (backupStep library) [] calls)
      (final (backupStep library) [] calls) := by
  have initial : AllFaithful library [] [] := fun _ member => absurd member List.not_mem_nil
  exact trace_invariant_of_events (backupStep library) (AllFaithful library) Undisturbed
    allFaithful_step initial calls undisturbed

/-! Two backups of a small project. -/

def backupLibrary : BackupLibrary :=
  { sha256Hex := fun bytes =>
      String.ofList (((Sha256.digest (bytes.toList.map UInt8.toNat)).toList.flatMap
        (Sha256.toDigits 16 8)).map Sha256.hexDigit)
    lower := asciiLower
    outside := fun _ => none }

def projectTree : SourceTree :=
  { root := "/srv/advisor"
    files :=
      [{ path := ["README.md"]
         content := encodeText ['a'] },
        { path := ["docs", "plan.md"]
          content := encodeText ['b'] }]
    named := by decide
    apart := by decide }

/-- A second of the fifth of January 2026. -/
def backupClock (second : Fin 60) : DateTime :=
  { Date.noon
      { year := 2026
        month := 1
        day := 5
        yearRange := yearRange_2026
        monthRange := monthRange_january
        dayRange := by decide } with
    second := second
    secondRange := second.isLt }

def backupCall (source : SourceTree) (second : Fin 60) : BackupCall :=
  { source := source
    clock := backupClock second
    createdAt := "2026-01-05T12:00:00Z" }

/-- Two backups of one project, a second apart. -/
def hourlyCalls : List BackupCall :=
  [backupCall projectTree 0, backupCall projectTree 1]

theorem backups_stay_faithful_hourly :
    (∀ event ∈ trace (backupStep backupLibrary) [] hourlyCalls, Undisturbed event) ∧
      AllFaithful backupLibrary (trace (backupStep backupLibrary) [] hourlyCalls)
        (final (backupStep backupLibrary) [] hourlyCalls) := by
  have spares : SparesManifest projectTree := by
    simp [SparesManifest, projectTree, manifestPath]
  have first : OrderedDict.get? ([] : BackupRoot) (backupCall projectTree 0).backupId = none := rfl
  have second : OrderedDict.get? (backupStep backupLibrary [] (backupCall projectTree 0)).2
      (backupCall projectTree 1).backupId = none := by
    have other : (backupCall projectTree 1).backupId ≠ (backupCall projectTree 0).backupId := by
      decide +kernel
    rcases @backupStep_cases backupLibrary _ _ first with
      ⟨problem, -, -, frame⟩ | ⟨manifest, -, made⟩
    · exact frame _ other
    · exact made.frame _ other
  have undisturbed : ∀ event ∈ trace (backupStep backupLibrary) [] hourlyCalls,
      Undisturbed event := by
    intro event member
    rw [hourlyCalls, trace, trace, trace] at member
    rcases List.mem_cons.mp member with here | later
    · rw [here]
      exact undisturbed_eventOf first spares
    · rw [List.mem_singleton.mp later]
      exact undisturbed_eventOf second spares
  exact ⟨undisturbed, backups_stay_faithful backupLibrary hourlyCalls undisturbed⟩

theorem AllFaithful.single
    {call : BackupCall} {manifest : BackupManifest}
    (faithful : AllFaithful library (trace (backupStep library) [] [call])
      (final (backupStep library) [] [call]))
    (returned : (backupStep library [] call).1 = .ok manifest) :
    Faithful library (backupStep library [] call).2 call manifest :=
  faithful _ List.mem_cons_self manifest returned

/-- A source with a manifest of its own. -/
def shadowingTree : SourceTree :=
  { root := "/srv/advisor"
    files :=
      [{ path := manifestPath
         content := ByteArray.empty }]
    named := by decide
    apart := by decide }

theorem included_shadowing : included backupLibrary shadowingTree.files = shadowingTree.files := by
  have kept : shouldExclude backupLibrary manifestPath = false := by decide +kernel
  simp [included, shadowingTree, kept]

/-- The copy of a source file manifest.json is lost. -/
theorem manifest_overwrites_copy :
    ¬AllFaithful backupLibrary (trace (backupStep backupLibrary) [] [backupCall shadowingTree 0])
      (final (backupStep backupLibrary) [] [backupCall shadowingTree 0]) := by
  intro faithful
  have fresh : OrderedDict.get? ([] : BackupRoot) (backupCall shadowingTree 0).backupId = none :=
    rfl
  rcases @backupStep_cases backupLibrary _ _ fresh with
    ⟨problem, -, shadows, -⟩ | ⟨manifest, returned, made⟩
  · have plain : ¬ShadowsManifest backupLibrary shadowingTree := by
      rw [ShadowsManifest, included_shadowing]
      simp [isDirectory, copies, shadowingTree]
    exact plain shadows
  · have files := made.files
    obtain ⟨text, -, stored⟩ := made.folder
    have shown : included backupLibrary (backupCall shadowingTree 0).source.files =
        shadowingTree.files := included_shadowing
    rw [shown] at files stored
    obtain ⟨file, member, -, found⟩ := (faithful.single returned).copied
      (manifestFile backupLibrary { path := manifestPath, content := ByteArray.empty })
      (by simp [files, shadowingTree])
    obtain rfl : file = { path := manifestPath, content := ByteArray.empty } :=
      List.mem_singleton.mp member
    have lost : encodeText (text ++ ['\n']) = ByteArray.empty := by
      rw [folderOf, made.backupId, stored, Option.getD_some, OrderedDict.get?_set_self] at found
      exact Option.some.inj found
    have same := decodeText_encodeText (text ++ ['\n'])
    rw [lost] at same
    simp [decodeText] at same

/-! Restoring the backups of a run. -/

/-- A drill lays every copied file into the new directory, and nothing else. -/
structure Restorable (library : BackupLibrary) (root : BackupRoot) (call : BackupCall)
    (manifest : BackupManifest) : Prop where
  restored : ∃ items, restoreFiles library root manifest.backupId =
    .ok (items, copies (included library call.source.files))
  reported : ∀ directory, restoreDrill library root directory manifest.backupId =
    .ok
      { backupId := manifest.backupId
        restoredDir := directory
        valid := true
        verifiedFiles := manifest.files.length }

theorem restoreFile_copy
    {folder : Folder ByteArray} {early : List SourceFile} {file : SourceFile}
    (named : file.path ≠ [] ∧ ∀ name ∈ file.path, IsName name)
    (found : OrderedDict.get? folder file.path = some file.content)
    (apart : ∀ other ∈ early, ¬other.path <+: file.path ∧ ¬file.path <+: other.path) :
    restoreFile library folder (copies early) (reloadedFile (manifestFile library file)) =
      .ok (copies (early ++ [file])) := by
  obtain ⟨path, -⟩ := getItem_reloadedFile (manifestFile library file)
  obtain ⟨open_, plain⟩ := free_of_apart apart
  have inside := leavesDirectory_pathText named.1 named.2
  simp only [restoreFile, path, Except.mapError, ok_bind]
  simp only [manifestFile, inside, Bool.false_eq_true, if_false, pathOf_pathText named.1 named.2,
    open_, locate_copy named found, placeCopy, plain, if_true]
  rw [OrderedDict.set_of_not_mem (not_mem_keys_of_apart apart)]
  simp [copies]

/-- The loop of the drill over files that lie apart and have their copies. -/
theorem foldlM_restoreFile
    {folder : Folder ByteArray} {early files : List SourceFile}
    (each : ∀ file ∈ files, (file.path ≠ [] ∧ ∀ name ∈ file.path, IsName name) ∧
      OrderedDict.get? folder file.path = some file.content)
    (apart : (early ++ files).Pairwise (fun first second =>
      ¬first.path <+: second.path ∧ ¬second.path <+: first.path)) :
    ((files.map (manifestFile library)).map reloadedFile).foldlM
      (restoreFile library folder) (copies early) = .ok (copies (early ++ files)) := by
  induction files generalizing early with
  | nil => simp [pure, Except.pure]
  | cons file files induction =>
      obtain ⟨named, found⟩ := each file List.mem_cons_self
      have between := (List.pairwise_append.mp apart).2.2
      have copied := @restoreFile_copy library _ _ _ named found
        (fun other member => between other member file List.mem_cons_self)
      have split : early ++ file :: files = early ++ [file] ++ files := by simp
      rw [split] at apart ⊢
      simp only [List.map_cons, List.foldlM_cons, copied, ok_bind]
      exact induction (fun other member => each other (List.mem_cons_of_mem _ member)) apart

theorem restorable_of_made
    {call : BackupCall} {before root : BackupRoot} {manifest : BackupManifest}
    (made : Made library call before manifest root) (spares : SparesManifest call.source) :
    Restorable library root call manifest := by
  obtain ⟨found, entries, checked, listed⟩ := verifyFolder_of_made made spares
  have verified : verify library root manifest.backupId =
      { backupId := manifest.backupId
        valid := true
        mismatches := []
        error := none
        manifest := .dict entries } := by
    simp [verify, checked]
  have apart : (included library call.source.files).Pairwise (fun first second =>
      ¬first.path <+: second.path ∧ ¬second.path <+: first.path) :=
    call.source.apart.filter _
  have loop : (manifest.files.map reloadedFile).foldlM
      (restoreFile library (folderOf root manifest.backupId)) [] =
        .ok (copies (included library call.source.files)) := by
    rw [made.files]
    exact @foldlM_restoreFile library _ [] _ (fun file member =>
      ⟨call.source.named file (List.mem_of_mem_filter member), found file member⟩) apart
  have restored : restoreFiles library root manifest.backupId =
      .ok (manifest.files.map reloadedFile, copies (included library call.source.files)) := by
    simp only [restoreFiles, verified, listed, listOf, Except.mapError, ok_bind, loop]
  refine ⟨⟨_, restored⟩, fun directory => ?_⟩
  simp [restoreDrill, restored, verified, bind, Except.bind]

theorem Restorable.of_folder
    {root after : BackupRoot} {call : BackupCall} {manifest : BackupManifest}
    (restorable : Restorable library root call manifest)
    (same : folderOf after manifest.backupId = folderOf root manifest.backupId) :
    Restorable library after call manifest := by
  have verified : verify library after manifest.backupId =
      verify library root manifest.backupId := by
    rw [verify, verify, same]
  have restored : restoreFiles library after manifest.backupId =
      restoreFiles library root manifest.backupId := by
    rw [restoreFiles, restoreFiles, verified, same]
  have drilled : ∀ directory, restoreDrill library after directory manifest.backupId =
      restoreDrill library root directory manifest.backupId := by
    intro directory
    rw [restoreDrill, restoreDrill, restored, verified]
  exact
    { restored := restored ▸ restorable.restored
      reported := fun directory => (drilled directory).trans (restorable.reported directory) }

/-- Every backup returned so far can be restored. -/
def AllRestorable (library : BackupLibrary) (past : List BackupEvent) (root : BackupRoot) : Prop :=
  ∀ event ∈ past, ∀ manifest, event.reply = .ok manifest →
    Restorable library root event.call manifest

theorem allRestorable_step
    (past : List BackupEvent) (root : BackupRoot) (call : BackupCall)
    (undisturbed : Undisturbed (eventOf (backupStep library) root call))
    (kept : AllFaithful library past root ∧ AllRestorable library past root) :
    AllFaithful library (past ++ [eventOf (backupStep library) root call])
        (backupStep library root call).2 ∧
      AllRestorable library (past ++ [eventOf (backupStep library) root call])
        (backupStep library root call).2 := by
  obtain ⟨faithful, restorable⟩ := kept
  have fresh : OrderedDict.get? root call.backupId = none := undisturbed.fresh
  refine ⟨allFaithful_step past root call undisturbed faithful, ?_⟩
  have earlier : Frame call.backupId root (backupStep library root call).2 →
      AllRestorable library past (backupStep library root call).2 := by
    intro frame event member manifest returned
    refine (restorable event member manifest returned).of_folder ?_
    have different : manifest.backupId ≠ call.backupId := by
      rintro same
      exact (faithful event member manifest returned).present (same ▸ fresh)
    rw [folderOf, folderOf, frame _ different]
  rcases backupStep_cases fresh with ⟨problem, raised, -, frame⟩ | ⟨made, returned, written⟩
  · intro event member manifest replied
    rcases List.mem_append.mp member with early | here
    · exact earlier frame event early manifest replied
    · obtain rfl := List.mem_singleton.mp here
      exact absurd (raised.symm.trans replied) (by simp)
  · intro event member manifest replied
    rcases List.mem_append.mp member with early | here
    · exact earlier written.frame event early manifest replied
    · obtain rfl := List.mem_singleton.mp here
      obtain rfl : made = manifest := Except.ok.inj (returned.symm.trans replied)
      exact restorable_of_made written undisturbed.spares

/-- Under the same conditions a drill of any backup of a run restores exactly the
files that were copied, with their contents, and reports them as valid. -/
theorem backups_restore
    (library : BackupLibrary) (calls : List BackupCall)
    (undisturbed : ∀ event ∈ trace (backupStep library) [] calls, Undisturbed event) :
    AllRestorable library (trace (backupStep library) [] calls)
      (final (backupStep library) [] calls) := by
  have initial : AllFaithful library [] [] ∧ AllRestorable library [] [] :=
    ⟨fun _ member => absurd member List.not_mem_nil,
      fun _ member => absurd member List.not_mem_nil⟩
  exact (trace_invariant_of_events (backupStep library)
    (fun past root => AllFaithful library past root ∧ AllRestorable library past root)
    Undisturbed allRestorable_step initial calls undisturbed).2

/-- The one backup of a project is restored with both of its files. -/
theorem project_restored :
    ∃ manifest items, (backupStep backupLibrary [] (backupCall projectTree 0)).1 = .ok manifest ∧
      restoreFiles backupLibrary (backupStep backupLibrary [] (backupCall projectTree 0)).2
        manifest.backupId = .ok (items, copies projectTree.files) := by
  have spares : SparesManifest projectTree := by
    simp [SparesManifest, projectTree, manifestPath]
  have fresh : OrderedDict.get? ([] : BackupRoot) (backupCall projectTree 0).backupId = none := rfl
  have kept : included backupLibrary projectTree.files = projectTree.files := by
    have readme : shouldExclude backupLibrary ["README.md"] = false := by decide +kernel
    have plan : shouldExclude backupLibrary ["docs", "plan.md"] = false := by decide +kernel
    simp [included, projectTree, readme, plan]
  have undisturbed : ∀ event ∈ trace (backupStep backupLibrary) [] [backupCall projectTree 0],
      Undisturbed event := by
    intro event member
    rw [List.mem_singleton.mp member]
    exact undisturbed_eventOf fresh spares
  have restorable := backups_restore backupLibrary [backupCall projectTree 0] undisturbed
  rcases @backupStep_cases backupLibrary _ _ fresh with
    ⟨problem, -, shadows, -⟩ | ⟨manifest, returned, -⟩
  · rw [ShadowsManifest, backupCall, kept] at shadows
    simp [isDirectory, copies, projectTree, manifestPath] at shadows
  · obtain ⟨items, restored⟩ := (restorable _ List.mem_cons_self manifest returned).restored
    refine ⟨manifest, items, returned, ?_⟩
    rw [← kept]
    exact restored

end SuperAdvisor
