import SuperAdvisor.Foundation.Machine
import SuperAdvisor.MarketData.BackfillProgress

/-!
# Files that take the place of others

A file is named after a summary of its batch, and a file that is written under
the name of a stored one takes its place unread.  No record is lost as long as
the records of a replaced file are in the new files or in files that stay.
-/

namespace SuperAdvisor.MarketData

open Machine Raising

/-- Ids of ticks and of bars are told apart by where they are stored. -/
structure RecordId where
  streamKind : StreamKind
  id : String
  deriving DecidableEq

def TableRows.ids : TableRows → List RecordId
  | .ticks records => records.map (fun record => ⟨.ticks, record.sequenceId⟩)
  | .bars records => records.map (fun record => ⟨.bars, record.barId⟩)

inductive WriteCall where
  | ticks (records : List TickRecord)
  | bars (records : List BarRecord)

namespace WriteCall

def ids : WriteCall → List RecordId
  | .ticks records => (TableRows.ticks records).ids
  | .bars records => (TableRows.bars records).ids

def write (env : Environment) : WriteCall → Market (List TablePath)
  | .ticks records => writeTicks env records
  | .bars records => writeBars env records

def files (library : MarketLibrary) : WriteCall → List TableFile
  | .ticks records => tickFiles library records
  | .bars records => barFiles library records

end WriteCall

section Files

variable (env : Environment)

def writeStep (world : World) (call : WriteCall) :
    Except MarketProblem (List TablePath) × World :=
  match (call.write env).run world with
  | .ok paths after => (.ok paths, after)
  | .error problem after => (.error problem, after)

/-- The files that are written before the first fault. -/
def landed : (moment : Nat) → List TableFile → List TableFile
  | _, [] => []
  | moment, file :: files =>
      match env.fault moment with
      | some _ => []
      | none => file :: landed (moment + 1) files

/-- The rows under a name are those of the last file that took it. -/
def storedRows (files : List TableFile) (path : TablePath) : Option TableRows :=
  (files.reverse.find? (fun file => file.path = path)).map TableFile.rows

/-- A file that is there has the record. -/
def Holds (files : List TableFile) (id : RecordId) : Prop :=
  ∃ path rows, storedRows files path = some rows ∧ id ∈ rows.ids

abbrev WriteEvent := Event World WriteCall (Except MarketProblem (List TablePath))

/-- The ids that successful calls have written. -/
def writtenIds (past : List WriteEvent) : List RecordId :=
  past.flatMap (fun event =>
    match event.reply with
    | .ok _ => event.call.ids
    | .error _ => [])

/-- What was written and stands in a file that a call replaces is written again
by the call or stands in a file that the call does not replace. -/
def Spares (past : List WriteEvent) (world : World) (call : WriteCall) : Prop :=
  let added := landed env world.moment (call.files env.library)
  ∀ file ∈ added, ∀ replaced, storedRows world.files file.path = some replaced →
    ∀ id ∈ replaced.ids, id ∈ writtenIds past →
      (∃ other ∈ added, id ∈ other.rows.ids) ∨
      ∃ path rows, (∀ other ∈ added, other.path ≠ path) ∧
        storedRows world.files path = some rows ∧ id ∈ rows.ids

end Files

theorem storedRows_append (files more : List TableFile) (path : TablePath) :
    storedRows (files ++ more) path = (storedRows more path).or (storedRows files path) := by
  unfold storedRows
  rw [List.reverse_append, List.find?_append]
  cases more.reverse.find? (fun file => file.path = path) <;> rfl

theorem mem_of_storedRows
    {files : List TableFile} {path : TablePath} {rows : TableRows}
    (stored : storedRows files path = some rows) :
    ∃ file ∈ files, file.path = path ∧ file.rows = rows := by
  obtain ⟨file, found, rfl⟩ := Option.map_eq_some_iff.mp stored
  exact ⟨file, List.mem_reverse.mp (List.mem_of_find?_eq_some found),
    by simpa using List.find?_some found, rfl⟩

theorem storedRows_eq_none_iff {files : List TableFile} {path : TablePath} :
    storedRows files path = none ↔ ∀ file ∈ files, file.path ≠ path := by
  simp [storedRows, List.find?_eq_none]

/-- Files of different names are all there. -/
theorem storedRows_of_mem
    {files : List TableFile} (distinct : (files.map TableFile.path).Nodup) {file : TableFile}
    (member : file ∈ files) : storedRows files file.path = some file.rows := by
  cases stored : storedRows files file.path with
  | none => exact absurd rfl (storedRows_eq_none_iff.mp stored file member)
  | some rows =>
      obtain ⟨other, inside, samePath, rfl⟩ := mem_of_storedRows stored
      rw [List.inj_on_of_nodup_map distinct inside member samePath]

theorem holds_iff {files : List TableFile} {id : RecordId} :
    Holds files id ↔
      ∃ file ∈ files, ∃ rows ∈ storedRows files file.path, id ∈ rows.ids := by
  constructor
  · rintro ⟨path, rows, stored, member⟩
    obtain ⟨file, inside, rfl, -⟩ := mem_of_storedRows stored
    exact ⟨file, inside, rows, stored, member⟩
  · rintro ⟨file, -, rows, stored, member⟩
    exact ⟨file.path, rows, stored, member⟩

instance {files : List TableFile} {id : RecordId} : Decidable (Holds files id) :=
  decidable_of_iff _ holds_iff.symm

/-- The digests of different summaries differ. -/
def FileChecksumsInjective (library : MarketLibrary) : Prop :=
  ∀ dataset symbol timeframe day firstId lastId count dataset' symbol' timeframe' day' firstId'
      lastId' count',
    library.fileChecksum dataset symbol timeframe day firstId lastId count =
        library.fileChecksum dataset' symbol' timeframe' day' firstId' lastId' count' →
      dataset = dataset' ∧ symbol = symbol' ∧ timeframe = timeframe' ∧ day = day' ∧
        firstId = firstId' ∧ lastId = lastId' ∧ count = count'

/-- Batches of one partition share a name exactly if their ends and their
numbers of records agree. -/
theorem tablePath_eq_iff
    {library : MarketLibrary} (injective : FileChecksumsInjective library)
    {dataset logicalSymbol : String} {timeframe : Option Timeframe} {day : Int}
    {ids others : List String} :
    tablePath library dataset logicalSymbol timeframe day ids =
        tablePath library dataset logicalSymbol timeframe day others ↔
      ids.head?.getD "" = others.head?.getD "" ∧ ids.getLast?.getD "" = others.getLast?.getD "" ∧
        ids.length = others.length := by
  constructor
  · intro same
    obtain ⟨-, -, -, -, first, last, count⟩ :=
      injective _ _ _ _ _ _ _ _ _ _ _ _ _ _ (congrArg TablePath.checksum same)
    exact ⟨first, last, count⟩
  · rintro ⟨first, last, count⟩
    simp only [tablePath, first, last, count]

namespace WriteCall

private theorem groups_paths_nodup
    {κ α : Type} [DecidableEq κ] (key : α → κ) (records : List α)
    (file : κ × List α → TableFile)
    (named : ∀ first second, (file first).path = (file second).path → first.1 = second.1) :
    (((OrderedDict.groupBy key records).map file).map TableFile.path).Nodup := by
  have distinct := OrderedDict.keys_groupBy_nodup key records
  rw [List.map_map]
  exact List.pairwise_map.mpr ((List.pairwise_map.mp distinct).imp
    (fun different same => different (named _ _ same)))

/-- The files of one call have different names. -/
theorem files_paths_nodup (library : MarketLibrary) (call : WriteCall) :
    ((call.files library).map TableFile.path).Nodup := by
  cases call with
  | ticks records =>
      refine groups_paths_nodup _ records _ (fun first second same => ?_)
      exact Prod.ext (congrArg TablePath.logicalSymbol same)
        (congrArg TablePath.partitionDate same)
  | bars records =>
      refine groups_paths_nodup _ records _ (fun first second same => ?_)
      have sameTimeframe := Option.some.inj (congrArg TablePath.timeframe same)
      exact Prod.ext (Prod.ext (congrArg TablePath.logicalSymbol same) sameTimeframe)
        (congrArg TablePath.partitionDate same)

theorem exists_file_of_id
    (library : MarketLibrary) {call : WriteCall} {id : RecordId} (member : id ∈ call.ids) :
    ∃ file ∈ call.files library, id ∈ file.rows.ids := by
  cases call with
  | ticks records =>
      obtain ⟨record, inside, rfl⟩ := List.mem_map.mp member
      obtain ⟨group, here, -, grouped⟩ := OrderedDict.exists_group_of_mem
        (fun record : TickRecord => (record.logicalSymbol, dayOf record.marketTimeUtc)) inside
      exact ⟨_, List.mem_map_of_mem here, List.mem_map_of_mem grouped⟩
  | bars records =>
      obtain ⟨record, inside, rfl⟩ := List.mem_map.mp member
      obtain ⟨group, here, -, grouped⟩ := OrderedDict.exists_group_of_mem
        (fun record : BarRecord => (record.rowKey, dayOf record.openTimeUtc)) inside
      exact ⟨_, List.mem_map_of_mem here, List.mem_map_of_mem grouped⟩

end WriteCall

section Runs

variable {env : Environment}

private theorem ensures_writeTable (path : TablePath) (rows : TableRows) (world : World) :
    Ensures (· = world) (writeTable env path rows)
      (fun _ after => env.fault world.moment = none ∧
        after = { world with
          moment := world.moment + 1
          files := world.files ++ [⟨path, rows⟩] })
      (fun _ after => env.fault world.moment ≠ none ∧ after.files = world.files) := by
  have asked : Ensures (· = world) nextMoment
      (fun moment after => moment = world.moment ∧
        after = { world with moment := world.moment + 1 })
      (fun _ after => env.fault world.moment ≠ none ∧ after.files = world.files) := by
    rintro state rfl
    exact ⟨rfl, rfl⟩
  refine ensures_bind asked ?_
  intro moment
  refine ensures_of_fact (fun same => ?_)
  subst same
  cases faulty : env.fault world.moment with
  | some problem =>
      refine ensures_throw ?_
      rintro state rfl
      exact ⟨Option.some_ne_none _, rfl⟩
  | none =>
      refine ensures_modify ?_
      rintro state rfl
      exact ⟨rfl, rfl⟩

/-- A loop of writes adds the files before the first fault, and all of them if
it returns. -/
private theorem ensures_landedTables
    {α : Type} (path : α → TablePath) (rows : α → TableRows) (groups : List α) (world : World) :
    let files := groups.map (fun group => (⟨path group, rows group⟩ : TableFile))
    let added := landed env world.moment files
    Ensures (· = world)
      (groups.mapM (fun group => do
        writeTable env (path group) (rows group)
        return path group))
      (fun _ after => added = files ∧ after.files = world.files ++ added)
      (fun _ after => after.files = world.files ++ added) := by
  induction groups generalizing world with
  | nil =>
      refine ensures_pure ?_
      rintro state rfl
      simp [landed]
  | cons group groups induction =>
      intro files added
      rw [List.mapM_cons]
      have first : Ensures (· = world)
          (do writeTable env (path group) (rows group); return path group)
          (fun _ after => env.fault world.moment = none ∧
            after = { world with
              moment := world.moment + 1
              files := world.files ++ [⟨path group, rows group⟩] })
          (fun _ after => after.files = world.files ++ added) := by
        refine ensures_bind
          (ensures_weaken (ensures_writeTable (path group) (rows group) world)
            (fun _ known => known) (fun _ _ known => known) ?_)
          (fun _ => ensures_pure (fun _ known => known))
        rintro problem after ⟨faulty, same⟩
        obtain ⟨found, here⟩ := Option.ne_none_iff_exists'.mp faulty
        simp [added, files, landed, here, same]
      refine ensures_bind first ?_
      intro _
      refine ensures_of_fact (fun clear => ?_)
      refine ensures_bind (ensures_weaken (induction _) (fun _ known => known)
        (fun _ _ known => known) ?_) (fun _ => ensures_pure ?_)
      · intro problem after known
        simp [added, files, landed, clear, known]
      · rintro after ⟨all, known⟩
        simp [added, files, landed, clear, all, known]

/-- What a call adds to the files; one that succeeds adds all of its own. -/
theorem writeStep_files (world : World) (call : WriteCall) :
    (writeStep env world call).2.files =
        world.files ++ landed env world.moment (call.files env.library) ∧
      ∀ paths, (writeStep env world call).1 = .ok paths →
        landed env world.moment (call.files env.library) = call.files env.library := by
  have known : Ensures (· = world) (call.write env)
      (fun _ after =>
        landed env world.moment (call.files env.library) = call.files env.library ∧
        after.files = world.files ++ landed env world.moment (call.files env.library))
      (fun _ after =>
        after.files = world.files ++ landed env world.moment (call.files env.library)) := by
    cases call with
    | ticks records => exact ensures_landedTables _ _ _ world
    | bars records => exact ensures_landedTables _ _ _ world
  have ends := known world rfl
  unfold writeStep
  cases ran : (call.write env).run world with
  | ok paths after =>
      rw [ran] at ends
      exact ⟨ends.2, fun _ _ => ends.1⟩
  | error problem after =>
      rw [ran] at ends
      exact ⟨ends, by simp⟩

theorem landed_sublist (env : Environment) (moment : Nat) (files : List TableFile) :
    (landed env moment files).Sublist files := by
  induction files generalizing moment with
  | nil => exact List.Sublist.refl _
  | cons file files induction =>
      unfold landed
      cases env.fault moment with
      | some problem => exact List.nil_sublist _
      | none => exact (induction (moment + 1)).cons_cons file

/-- After files were added, a record is in one of them or in a file of a name
that none of them has. -/
theorem holds_append_iff
    {files added : List TableFile} (distinct : (added.map TableFile.path).Nodup)
    {id : RecordId} :
    Holds (files ++ added) id ↔ (∃ other ∈ added, id ∈ other.rows.ids) ∨
      ∃ path rows, (∀ other ∈ added, other.path ≠ path) ∧
        storedRows files path = some rows ∧ id ∈ rows.ids := by
  unfold Holds
  constructor
  · rintro ⟨path, rows, stored, member⟩
    rw [storedRows_append] at stored
    rcases Option.or_eq_some_iff.mp stored with fresh | ⟨untouched, old⟩
    · obtain ⟨other, inside, -, rfl⟩ := mem_of_storedRows fresh
      exact .inl ⟨other, inside, member⟩
    · exact .inr ⟨path, rows, storedRows_eq_none_iff.mp untouched, old, member⟩
  · rintro (⟨other, inside, member⟩ | ⟨path, rows, untouched, old, member⟩)
    · refine ⟨other.path, other.rows, ?_, member⟩
      rw [storedRows_append, storedRows_of_mem distinct inside]
      rfl
    · refine ⟨path, rows, ?_, member⟩
      rw [storedRows_append, storedRows_eq_none_iff.mpr untouched]
      exact old

theorem mem_writtenIds_append
    {past : List WriteEvent} {event : WriteEvent} {id : RecordId} :
    id ∈ writtenIds (past ++ [event]) ↔
      id ∈ writtenIds past ∨ ∃ paths, event.reply = .ok paths ∧ id ∈ event.call.ids := by
  cases replied : event.reply <;> simp [writtenIds, replied]

/-- A call keeps the records that were written exactly if it spares them. -/
private theorem holds_writeStep_iff
    (past : List WriteEvent) (world : World) (call : WriteCall)
    (before : ∀ id ∈ writtenIds past, Holds world.files id) :
    (∀ id ∈ writtenIds (past ++ [eventOf (writeStep env) world call]),
      Holds (writeStep env world call).2.files id) ↔ Spares env past world call := by
  obtain ⟨files, all⟩ := @writeStep_files env world call
  have distinct := (WriteCall.files_paths_nodup env.library call).sublist
    ((landed_sublist env world.moment (call.files env.library)).map TableFile.path)
  rw [files]
  simp only [holds_append_iff distinct]
  constructor
  · intro kept file inside replaced stored id member written
    exact kept id (mem_writtenIds_append.mpr (.inl written))
  · intro spares id written
    rcases mem_writtenIds_append.mp written with earlier | ⟨paths, replied, here⟩
    · obtain ⟨path, rows, stored, member⟩ := before id earlier
      by_cases replaced : ∃ file ∈ landed env world.moment (call.files env.library),
          file.path = path
      · obtain ⟨file, inside, rfl⟩ := replaced
        exact spares file inside rows stored id member earlier
      · exact .inr ⟨path, rows, fun other inside same => replaced ⟨other, inside, same⟩,
          stored, member⟩
    · obtain ⟨file, inside, member⟩ := WriteCall.exists_file_of_id env.library here
      exact .inl ⟨file, (all paths replied).symm ▸ inside, member⟩

end Runs

theorem fileChecksumsInjective_plain : FileChecksumsInjective plainLibrary := by
  intro dataset symbol timeframe day firstId lastId count dataset' symbol' timeframe' day'
    firstId' lastId' count' same
  have parsed := congrArg JsonText.parse (String.ofList_injective same)
  rw [JsonText.parse_render_of_distinctKeys, JsonText.parse_render_of_distinctKeys] at parsed
  · simpa using parsed
  · simp [JsonText.Document.DistinctKeys, JsonText.Document.DistinctKeysItems]
  · simp [JsonText.Document.DistinctKeys, JsonText.Document.DistinctKeysItems]

def goldMinute (seconds : Int) : BarRecord :=
  barRecord "XAUUSD" "XAUUSD" .M1 (goldBar seconds) 600000000

end SuperAdvisor.MarketData
