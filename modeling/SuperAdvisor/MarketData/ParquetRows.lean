import SuperAdvisor.Foundation.Sha256
import SuperAdvisor.MarketData.Settings
import SuperAdvisor.MarketData.StoredRecords

/-!
# The rows of Parquet files

A batch is split into one file for each partition, and a table keeps of each row
the columns of its schema.  The schemas name the fields that both records had
first; the provenance fields have no column, so every file lacks them.
-/

namespace SuperAdvisor.MarketData.Stored

open Python Calendar Raising

abbrev Row := List (String × Value)

inductive ColumnType where
  | string
  | int64
  | float64
  | bool
  | listOfString
  deriving DecidableEq

abbrev Schema := List (String × ColumnType)

def tickSchema : Schema :=
  [("schema_version", .string),
    ("collector_version", .string),
    ("logical_symbol", .string),
    ("broker_symbol", .string),
    ("market_time_utc", .string),
    ("market_time_msc", .int64),
    ("received_at_utc", .string),
    ("bid", .float64),
    ("ask", .float64),
    ("last", .float64),
    ("volume", .float64),
    ("volume_real", .float64),
    ("flags", .int64),
    ("spread_points", .int64),
    ("sequence_id", .string),
    ("data_quality", .string),
    ("quality_flags", .listOfString)]

def barSchema : Schema :=
  [("schema_version", .string),
    ("collector_version", .string),
    ("logical_symbol", .string),
    ("broker_symbol", .string),
    ("timeframe", .string),
    ("open_time_utc", .string),
    ("close_time_utc", .string),
    ("open", .float64),
    ("high", .float64),
    ("low", .float64),
    ("close", .float64),
    ("tick_volume", .int64),
    ("real_volume", .int64),
    ("spread", .int64),
    ("is_closed", .bool),
    ("bar_id", .string),
    ("data_quality", .string),
    ("quality_flags", .listOfString)]

/-- A row with the columns of a schema; a missing field is null. -/
def Schema.restrict (schema : Schema) (row : Row) : Row :=
  schema.map (fun column => (column.1, (OrderedDict.get? row column.1).getD .none))

/-- The calls of `pyarrow`: tables, the content of a file, and what is read from it. -/
structure Parquet (Table Content : Type) where
  fromPylist : List Row → Schema → Except Failure Table
  toPylist : Table → List Row
  writeTable : Table → Except Failure Content
  readSchema : Content → Except Failure Schema
  readTable : Content → Except Failure Table

/-- A table keeps exactly the columns of its schema, and a file its table. -/
structure Parquet.KeepsColumns {Table Content : Type} (parquet : Parquet Table Content) :
    Prop where
  columns : ∀ rows schema table, parquet.fromPylist rows schema = .ok table →
    parquet.toPylist table = rows.map schema.restrict
  content : ∀ table content, parquet.writeTable table = .ok content →
    parquet.readTable content = .ok table

/-- The directories of a file below the root. -/
structure Partition where
  dataset : String
  logicalSymbol : String
  timeframe : Option String
  date : String
  deriving DecidableEq

structure TargetPath where
  partition : Partition
  fileName : String
  deriving DecidableEq

/-- What `write_ticks` and `write_bars` differ in. -/
structure Dataset (Record : Type) where
  name : String
  schema : Schema
  toDict : Record → Except Failure Row
  logicalSymbol : Record → String
  timeframe : Record → Option String
  time : Record → Time
  id : Record → String

def ticks : Dataset TickRecord :=
  { name := "ticks"
    schema := tickSchema
    toDict := TickRecord.toDict
    logicalSymbol := (·.logicalSymbol)
    timeframe := fun _ => none
    time := (·.marketTimeUtc)
    id := (·.sequenceId) }

def bars : Dataset BarRecord :=
  { name := "bars"
    schema := barSchema
    toDict := BarRecord.toDict
    logicalSymbol := (·.logicalSymbol)
    timeframe := fun record => some record.timeframe
    time := (·.openTimeUtc)
    id := (·.barId) }

namespace Dataset

variable {Record Table Content : Type} (dataset : Dataset Record)

/-- The partition of a record on a day. -/
def partitionOn (record : Record) (day : DateTime) : Partition :=
  { dataset := dataset.name
    logicalSymbol := dataset.logicalSymbol record
    timeframe := dataset.timeframe record
    date := String.ofList (isoDate day.date) }

/-- The partition of a record on its day in UTC. -/
def utcPartition (record : Record) : Option Partition :=
  match dataset.time record with
  | (time, some offset) => (ofOffset time offset).toOption.map (dataset.partitionOn record)
  | (_, none) => none

/-- The key of the group: the date is that of the clock of the record. -/
def partition (record : Record) : Partition :=
  dataset.partitionOn record (dataset.time record).1

/-- `_file_name` -/
def fileName (sha256Hex : List Char → String) (partition : Partition)
    (timeframe : Option Timeframe) (firstId lastId : String) (count : Nat) : String :=
  let timeframeValue := (timeframe.map Timeframe.value).getD "tick"
  let payload := JsonText.render true (.array
    [.string dataset.name, .string partition.logicalSymbol, .string timeframeValue,
      .string partition.date, .string firstId, .string lastId, .int count])
  dataset.name ++ "-" ++ partition.logicalSymbol ++ "-" ++ timeframeValue ++ "-" ++
    partition.date ++ "-" ++ intText count ++ "-" ++
    String.ofList ((sha256Hex payload).toList.take 16) ++ ".parquet"

/-- The files that are there, and the exceptions of a write. -/
abbrev Writer (Content : Type) := EStateM Failure (List (TargetPath × Content))

/-- `_write_table`; the file appears when its schema has been checked. -/
def writeTable (parquet : Parquet Table Content) (path : TargetPath) (rows : List Row) :
    Writer Content Unit := do
  let table ← ofExcept (parquet.fromPylist rows dataset.schema)
  let content ← ofExcept (parquet.writeTable table)
  let schema ← ofExcept (parquet.readSchema content)
  if schema ≠ dataset.schema then
    throw (.valueError "Parquet schema mismatch after write")
  modify (fun files => OrderedDict.set files path content)

/-- `Timeframe(timeframe)` of a group that has one. -/
def groupTimeframe : Option String → Except Failure (Option Timeframe)
  | none => .ok none
  | some value =>
      ((readTimeframe value).map some).mapError (fun problem => .valueError problem.text)

/-- One pass of the loop over the groups. -/
def writeGroup (parquet : Parquet Table Content) (sha256Hex : List Char → String)
    (dryRun : Bool) (group : Partition × List Record) : Writer Content TargetPath := do
  let rows ← ofExcept (group.2.mapM dataset.toDict)
  let timeframe ← ofExcept (groupTimeframe group.1.timeframe)
  let ids := group.2.map dataset.id
  let path := TargetPath.mk group.1 (dataset.fileName sha256Hex group.1 timeframe
    (ids.head?.getD "") (ids.getLast?.getD "") ids.length)
  if !dryRun then dataset.writeTable parquet path rows
  return path

def write (parquet : Parquet Table Content) (sha256Hex : List Char → String)
    (records : List Record) (dryRun : Bool) : Writer Content (List TargetPath) :=
  (OrderedDict.groupBy dataset.partition records).mapM
    (dataset.writeGroup parquet sha256Hex dryRun)

end Dataset

section Writes

variable {Table Content : Type} (parquet : Parquet Table Content)
  (sha256Hex : List Char → String)

def writeTicks (records : List TickRecord) (dryRun : Bool) :
    Dataset.Writer Content (List TargetPath) :=
  ticks.write parquet sha256Hex records dryRun

def writeBars (records : List BarRecord) (dryRun : Bool) :
    Dataset.Writer Content (List TargetPath) :=
  bars.write parquet sha256Hex records dryRun

/-- The rows that are read back from a file. -/
def rowsAt (files : List (TargetPath × Content)) (path : TargetPath) : List Row :=
  match (OrderedDict.get? files path).map parquet.readTable with
  | some (.ok table) => parquet.toPylist table
  | _ => []

end Writes

namespace Dataset

section Reading

variable {Record Table Content : Type} (dataset : Dataset Record)
  (parquet : Parquet Table Content) (records : List Record) (written : List TargetPath)
  (files : List (TargetPath × Content))

/-- The files split the records by their partition, each row with the columns of
the schema. -/
structure Partitioned : Prop where
  distinct : (written.map TargetPath.partition).Nodup
  placed : ∀ record ∈ records, ∃ path ∈ written,
    dataset.utcPartition record = some path.partition
  exact : ∀ path ∈ written, ∃ rows,
    (records.filter (fun record =>
      decide (dataset.utcPartition record = some path.partition))).mapM dataset.toDict =
        .ok rows ∧
    rowsAt parquet files path = rows.map dataset.schema.restrict

/-- The files keep the whole records: each lies in the file of its partition,
with every field of its dictionary. -/
structure Kept : Prop extends Partitioned dataset parquet records written files where
  whole : ∀ record ∈ records, ∃ path ∈ written,
    dataset.utcPartition record = some path.partition ∧
    ∃ row ∈ rowsAt parquet files path, ∃ fields, dataset.toDict record = .ok fields ∧
      ∀ field ∈ fields, OrderedDict.get? row field.1 = some field.2

end Reading

variable {Record Table Content : Type} {dataset : Dataset Record}
  {parquet : Parquet Table Content} {sha256Hex : List Char → String}

/-- The file holds the columns of the records of a group. -/
def HoldsGroup (dataset : Dataset Record) (parquet : Parquet Table Content)
    (files : List (TargetPath × Content)) (group : Partition × List Record)
    (path : TargetPath) : Prop :=
  path.partition = group.1 ∧ ∃ rows, group.2.mapM dataset.toDict = .ok rows ∧
    rowsAt parquet files path = rows.map dataset.schema.restrict

/-- A file keeps its rows when another is written. -/
theorem holdsGroup_set
    {files : List (TargetPath × Content)} {group : Partition × List Record}
    {path other : TargetPath} {content : Content}
    (holds : HoldsGroup dataset parquet files group path)
    (different : other.partition ≠ group.1) :
    HoldsGroup dataset parquet (OrderedDict.set files other content) group path := by
  obtain ⟨place, rows, converted, kept⟩ := holds
  have apart : path ≠ other := by
    rintro rfl
    exact different place
  refine ⟨place, rows, converted, ?_⟩
  rw [rowsAt, OrderedDict.get?_set_of_ne _ _ apart]
  exact kept

/-- A table that has been written is read back with the columns of its schema. -/
theorem ensures_writeTable
    (documented : parquet.KeepsColumns) (path : TargetPath) (rows : List Row)
    (before : List (TargetPath × Content)) :
    Ensures (fun files => files = before) (dataset.writeTable parquet path rows)
      (fun _ files => rowsAt parquet files path = rows.map dataset.schema.restrict ∧
        ∃ content, files = OrderedDict.set before path content)
      (fun _ _ => True) := by
  unfold writeTable
  refine ensures_bind (ensures_ofExcept
    (fun table files built known => (⟨built, known⟩ :
      parquet.fromPylist rows dataset.schema = .ok table ∧ files = before))
    (fun _ _ _ _ => trivial)) (fun table => ensures_of_fact (fun built => ?_))
  refine ensures_bind (ensures_ofExcept
    (fun content files printed known => (⟨printed, known⟩ :
      parquet.writeTable table = .ok content ∧ files = before))
    (fun _ _ _ _ => trivial)) (fun content => ensures_of_fact (fun printed => ?_))
  refine ensures_bind (ensures_ofExcept (fun _ _ _ known => known) (fun _ _ _ _ => trivial))
    (fun schema => ?_)
  by_cases mismatch : schema ≠ dataset.schema
  · rw [if_pos mismatch]
    exact fun _ _ => trivial
  · rw [if_neg mismatch]
    refine ensures_modify (fun files known => ⟨?_, content, by rw [known]⟩)
    simp [rowsAt, OrderedDict.get?_set_self, documented.content _ _ printed,
      documented.columns _ _ _ built]

/-- A group that has been written can be read back, and the other files are as before. -/
theorem ensures_writeGroup
    (documented : parquet.KeepsColumns) (group : Partition × List Record)
    (before : List (TargetPath × Content)) :
    Ensures (fun files => files = before) (dataset.writeGroup parquet sha256Hex false group)
      (fun path files => HoldsGroup dataset parquet files group path ∧
        ∃ content, files = OrderedDict.set before path content)
      (fun _ _ => True) := by
  unfold writeGroup
  refine ensures_bind (ensures_ofExcept
    (fun rows files converted known => (⟨converted, known⟩ :
      group.2.mapM dataset.toDict = .ok rows ∧ files = before))
    (fun _ _ _ _ => trivial)) (fun rows => ensures_of_fact (fun converted => ?_))
  refine ensures_bind (ensures_ofExcept (fun _ _ _ known => known) (fun _ _ _ _ => trivial))
    (fun timeframe => ?_)
  refine ensures_bind (ensures_writeTable documented _ rows before)
    (fun _ => ensures_pure (fun files known => ?_))
  exact ⟨⟨rfl, rows, converted, known.1⟩, known.2⟩

/-- Every group of a batch that has been written is in a file of its own. -/
theorem forall₂_of_write
    (documented : parquet.KeepsColumns) {records : List Record}
    {before after : List (TargetPath × Content)} {written : List TargetPath}
    (ran : (dataset.write parquet sha256Hex records false).run before = .ok written after) :
    List.Forall₂ (HoldsGroup dataset parquet after)
      (OrderedDict.groupBy dataset.partition records) written := by
  have loop : Ensures (fun _ => True) (dataset.write parquet sha256Hex records false)
      (fun paths files => List.Forall₂ (HoldsGroup dataset parquet files)
        (OrderedDict.groupBy dataset.partition records) paths)
      (fun _ _ => True) := by
    refine ensures_weaken (ensures_mapM (fun early paths files =>
      List.Forall₂ (HoldsGroup dataset parquet files) early paths) ?_)
      (fun _ _ => .nil) (fun _ _ known => known) (fun _ _ (_ : True) => trivial)
    intro early group late paths shape files holds
    have wrote := @ensures_writeGroup _ _ _ dataset parquet sha256Hex documented group files files rfl
    have distinct := OrderedDict.keys_groupBy_nodup dataset.partition records
    rw [shape, OrderedDict.keys, List.map_append, List.nodup_append] at distinct
    cases ran : (dataset.writeGroup parquet sha256Hex false group).run files with
    | error problem later => trivial
    | ok path later =>
        rw [ran] at wrote
        obtain ⟨stored, content, rfl⟩ := wrote
        -- no earlier group has the partition of this one
        have fresh : ∀ other ∈ early, path.partition ≠ other.1 := by
          intro other member same
          exact distinct.2.2 other.1 (List.mem_map_of_mem member) group.1
            (by simp) (by rw [← same, stored.1])
        refine List.rel_append ?_ (.cons stored .nil)
        exact ((List.forall₂_and_left _ _).mpr ⟨fresh, holds⟩).imp
          (fun _ _ kept => holdsGroup_set kept.2 kept.1)
  have known := loop before trivial
  rw [ran] at known
  exact known

private theorem exists_of_forall₂
    {α β : Type} {related : α → β → Prop} {items : List α} {others : List β}
    (pairs : List.Forall₂ related items others) :
    (∀ item ∈ items, ∃ other ∈ others, related item other) ∧
      ∀ other ∈ others, ∃ item ∈ items, related item other := by
  induction pairs with
  | nil => simp
  | cons first _ induction =>
      obtain ⟨forward, backward⟩ := induction
      constructor
      · intro item member
        rcases List.mem_cons.mp member with rfl | later
        · exact ⟨_, List.mem_cons_self, first⟩
        · obtain ⟨other, inside, holds⟩ := forward item later
          exact ⟨other, List.mem_cons_of_mem _ inside, holds⟩
      · intro other member
        rcases List.mem_cons.mp member with rfl | later
        · exact ⟨_, List.mem_cons_self, first⟩
        · obtain ⟨item, inside, holds⟩ := backward other later
          exact ⟨item, List.mem_cons_of_mem _ inside, holds⟩

theorem utcPartition_of_utc
    {record : Record} (utc : IsUtc (dataset.time record)) :
    dataset.utcPartition record = some (dataset.partition record) := by
  unfold utcPartition partition
  rcases shape : dataset.time record with ⟨clock, offset⟩
  rw [shape] at utc
  obtain rfl : offset = some 0 := utc
  simp [ofOffset, Except.toOption]

section Written

variable {records : List Record} {before after : List (TargetPath × Content)}
  {written : List TargetPath}

/-- Batches in UTC are split by symbol, timeframe and day. -/
theorem partitioned_of_write
    (documented : parquet.KeepsColumns)
    (ran : (dataset.write parquet sha256Hex records false).run before = .ok written after)
    (utc : ∀ record ∈ records, IsUtc (dataset.time record)) :
    dataset.Partitioned parquet records written after := by
  have stored := forall₂_of_write documented ran
  have partitions : written.map TargetPath.partition =
      OrderedDict.keys (OrderedDict.groupBy dataset.partition records) := by
    have same : List.Forall₂ Eq (written.map TargetPath.partition)
        (OrderedDict.keys (OrderedDict.groupBy dataset.partition records)) :=
      List.forall₂_map_left_iff.mpr (List.forall₂_map_right_iff.mpr
        (stored.imp (fun _ _ holds => holds.1)).flip)
    rwa [List.forall₂_eq_eq_eq] at same
  obtain ⟨toFile, toGroup⟩ := exists_of_forall₂ stored
  have sameFilter : ∀ wanted, records.filter (fun record =>
      decide (dataset.utcPartition record = some wanted)) =
        records.filter (fun record => decide (dataset.partition record = wanted)) := by
    intro wanted
    refine List.filter_congr (fun record member => ?_)
    simp [utcPartition_of_utc (utc record member)]
  constructor
  · rw [partitions]
    exact OrderedDict.keys_groupBy_nodup dataset.partition records
  · intro record member
    obtain ⟨group, inside, key, -⟩ := OrderedDict.exists_group_of_mem dataset.partition member
    obtain ⟨path, isWritten, place, -⟩ := toFile group inside
    exact ⟨path, isWritten, by rw [utcPartition_of_utc (utc record member), place, key]⟩
  · intro path member
    obtain ⟨⟨key, batch⟩, inside, place, rows, converted, kept⟩ := toGroup path member
    have found := OrderedDict.get?_groupBy dataset.partition records key
    rw [OrderedDict.get?_eq_some_of_mem
      (OrderedDict.keys_groupBy_nodup dataset.partition records) inside] at found
    refine ⟨rows, ?_, kept⟩
    rw [sameFilter, place, ← found]
    exact converted

/-- Whatever is written, a record with a field outside the schema is not kept. -/
theorem kept_iff_of_lost
    (documented : parquet.KeepsColumns)
    (ran : (dataset.write parquet sha256Hex records false).run before = .ok written after)
    (lost : ∀ record fields, dataset.toDict record = .ok fields →
      ∃ field ∈ fields, field.1 ∉ dataset.schema.map Prod.fst) :
    dataset.Kept parquet records written after ↔ records = [] := by
  constructor
  · intro kept
    refine List.eq_nil_iff_forall_not_mem.mpr (fun record member => ?_)
    obtain ⟨path, isWritten, -, row, inFile, fields, isDict, same⟩ := kept.whole record member
    obtain ⟨group, -, -, rows, -, restricted⟩ :=
      (exists_of_forall₂ (forall₂_of_write documented ran)).2 path isWritten
    rw [restricted] at inFile
    obtain ⟨source, -, rfl⟩ := List.mem_map.mp inFile
    obtain ⟨field, inside, outside⟩ := lost record fields isDict
    have absent : OrderedDict.get? (dataset.schema.restrict source) field.1 = none := by
      refine OrderedDict.get?_eq_none_iff.mpr ?_
      simpa [OrderedDict.keys, Schema.restrict] using outside
    rw [same field inside] at absent
    cases absent
  · rintro rfl
    exact
      { partitioned_of_write documented ran (by simp) with
        whole := by simp }

end Written

end Dataset

/-- The fields that both records got after their schemas were written. -/
def provenanceFields : List String :=
  ["source", "source_system", "fetched_at_utc", "realtime_class", "formula_version"]

theorem keys_tickDict
    {record : TickRecord} {fields : Row} (isDict : record.toDict = .ok fields) :
    OrderedDict.keys fields = tickSchema.map Prod.fst ++ provenanceFields := by
  unfold TickRecord.toDict at isDict
  obtain ⟨marketTimeUtc, -, isDict⟩ := except_bind_eq_ok.mp isDict
  obtain ⟨receivedAtUtc, -, isDict⟩ := except_bind_eq_ok.mp isDict
  obtain ⟨fetchedAtUtc, -, isDict⟩ := except_bind_eq_ok.mp isDict
  obtain rfl := Except.ok.inj isDict
  rfl

theorem keys_barDict
    {record : BarRecord} {fields : Row} (isDict : record.toDict = .ok fields) :
    OrderedDict.keys fields = barSchema.map Prod.fst ++ provenanceFields := by
  unfold BarRecord.toDict at isDict
  obtain ⟨openTimeUtc, -, isDict⟩ := except_bind_eq_ok.mp isDict
  obtain ⟨closeTimeUtc, -, isDict⟩ := except_bind_eq_ok.mp isDict
  obtain ⟨fetchedAtUtc, -, isDict⟩ := except_bind_eq_ok.mp isDict
  obtain rfl := Except.ok.inj isDict
  rfl

private theorem source_lost
    {schema : Schema} {fields : Row}
    (keys : OrderedDict.keys fields = schema.map Prod.fst ++ provenanceFields)
    (outside : "source" ∉ schema.map Prod.fst) :
    ∃ field ∈ fields, field.1 ∉ schema.map Prod.fst := by
  have inside : "source" ∈ OrderedDict.keys fields := by
    rw [keys]
    exact List.mem_append_right _ List.mem_cons_self
  obtain ⟨field, member, name⟩ := List.mem_map.mp inside
  exact ⟨field, member, name ▸ outside⟩

theorem ticks_lost (record : TickRecord) (fields : Row) (isDict : ticks.toDict record = .ok fields) :
    ∃ field ∈ fields, field.1 ∉ ticks.schema.map Prod.fst :=
  source_lost (keys_tickDict isDict) (by decide)

theorem bars_lost (record : BarRecord) (fields : Row) (isDict : bars.toDict record = .ok fields) :
    ∃ field ∈ fields, field.1 ∉ bars.schema.map Prod.fst :=
  source_lost (keys_barDict isDict) (by decide)

/-- The files of a batch keep its whole records only if there are none, and split
a batch in UTC by partition. -/
theorem parquet_rows_kept_iff
    {Table Content : Type} (parquet : Parquet Table Content) (documented : parquet.KeepsColumns)
    (sha256Hex : List Char → String) :
    (∀ records before written after,
      (writeTicks parquet sha256Hex records false).run before = .ok written after →
        (ticks.Kept parquet records written after ↔ records = []) ∧
        ((∀ record ∈ records, IsUtc record.marketTimeUtc) →
          ticks.Partitioned parquet records written after)) ∧
      ∀ records before written after,
        (writeBars parquet sha256Hex records false).run before = .ok written after →
          (bars.Kept parquet records written after ↔ records = []) ∧
          ((∀ record ∈ records, IsUtc record.openTimeUtc) →
            bars.Partitioned parquet records written after) := by
  constructor
  · intro records before written after ran
    exact ⟨Dataset.kept_iff_of_lost documented ran ticks_lost,
      Dataset.partitioned_of_write documented ran⟩
  · intro records before written after ran
    exact ⟨Dataset.kept_iff_of_lost documented ran bars_lost,
      Dataset.partitioned_of_write documented ran⟩

/-! One tick. -/

/-- Tables and files that are their schema and their rows. -/
def plainParquet : Parquet (Schema × List Row) (Schema × List Row) :=
  { fromPylist := fun rows schema => .ok (schema, rows.map schema.restrict)
    toPylist := Prod.snd
    writeTable := .ok
    readSchema := fun content => .ok content.1
    readTable := .ok }

theorem plainParquet_keepsColumns : plainParquet.KeepsColumns := by
  constructor
  · intro rows schema table built
    obtain rfl := Except.ok.inj built
    rfl
  · intro table content printed
    obtain rfl := Except.ok.inj printed
    rfl

theorem goldTick_written (sha256Hex : List Char → String) :
    ∃ written after,
      (writeTicks plainParquet sha256Hex [goldTick] false).run [] = .ok written after :=
  ⟨_, _, rfl⟩

/-- The file of the tick has no column for its source. -/
theorem goldTick_lost :
    ∃ written after,
      (writeTicks plainParquet sha256Hex [goldTick] false).run [] = .ok written after ∧
        ¬ticks.Kept plainParquet [goldTick] written after := by
  obtain ⟨written, after, ran⟩ := goldTick_written sha256Hex
  refine ⟨written, after, ran, fun kept => ?_⟩
  have empty := (Dataset.kept_iff_of_lost plainParquet_keepsColumns ran ticks_lost).mp kept
  cases empty

theorem goldTick_partitioned :
    ∃ written after,
      (writeTicks plainParquet sha256Hex [goldTick] false).run [] = .ok written after ∧
        (ticks.Kept plainParquet [goldTick] written after ↔ [goldTick] = []) ∧
        ticks.Partitioned plainParquet [goldTick] written after := by
  obtain ⟨written, after, ran⟩ := goldTick_written sha256Hex
  obtain ⟨kept, partitioned⟩ :=
    (parquet_rows_kept_iff plainParquet plainParquet_keepsColumns sha256Hex).1
      [goldTick] [] written after ran
  exact ⟨written, after, ran, kept, partitioned (by simp [goldTick, goldTime, IsUtc])⟩

end SuperAdvisor.MarketData.Stored
