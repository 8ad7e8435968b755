import SuperAdvisor.MarketData.Storage

/-!
# Rules for the operations of the stores

`At` says where a computation stands: the stored tables, the files and a bound
for the next step.  Replies and reads move only the step; a transaction that
raises leaves the stored tables alone.
-/

namespace SuperAdvisor.MarketData

open Raising

/-- The stored tables and the files are as given; the next step is not before
the bound. -/
structure At (tables : Tables) (files : List TableFile) (earliest : Nat) (world : World) :
    Prop where
  tables : world.tables = tables
  files : world.files = files
  earliest : earliest ≤ world.moment

/-- The same inside a transaction, with the working copy. -/
structure Inside (tables : Tables) (files : List TableFile) (earliest : Nat)
    (working : Tables) (world : World) : Prop where
  at_ : At tables files earliest world
  working : world.working = working

/-- Where a commit that raises ends: the tables are the stored ones, though
files may have been written. -/
structure Kept (tables : Tables) (files : List TableFile) (earliest : Nat) (world : World) :
    Prop where
  tables : world.tables = tables
  files : files <+: world.files
  earliest : earliest ≤ world.moment

theorem at_self (world : World) : At world.tables world.files world.moment world :=
  ⟨rfl, rfl, Nat.le_refl _⟩

theorem At.kept
    {tables : Tables} {files : List TableFile} {earliest : Nat} {world : World}
    (holds : At tables files earliest world) : Kept tables files earliest world :=
  ⟨holds.tables, holds.files ▸ List.prefix_refl _, holds.earliest⟩

theorem At.weaken
    {tables : Tables} {files : List TableFile} {early late : Nat} {world : World}
    (holds : At tables files late world) (before : early ≤ late) :
    At tables files early world :=
  ⟨holds.tables, holds.files, Nat.le_trans before holds.earliest⟩

variable {tables : Tables} {files : List TableFile} {earliest : Nat}
  {raises : MarketProblem → World → Prop}

/-- A property of worlds is one of where they stand. -/
theorem ensures_of_at
    {α : Type} {pre : World → Prop} {program : Market α} {returns : α → World → Prop}
    (ensures : ∀ world, pre world →
      Ensures (At world.tables world.files world.moment) program returns raises) :
    Ensures pre program returns raises :=
  fun world known => ensures world known world (at_self world)

theorem ensures_nextMoment :
    Ensures (At tables files earliest) nextMoment
      (fun moment world => earliest ≤ moment ∧ At tables files (moment + 1) world) raises := by
  intro world known
  exact ⟨known.earliest, known.tables, known.files, Nat.le_refl _⟩

section Operations

variable {env : Environment}

theorem ensures_ask {α : Type} {reply : Nat → Except MarketProblem α} :
    Ensures (At tables files earliest) (ask reply)
      (fun value world => ∃ moment, (reply moment = .ok value ∧ earliest ≤ moment) ∧
        At tables files (moment + 1) world)
      (fun _ => At tables files earliest) := by
  refine ensures_bind ensures_nextMoment ?_
  intro moment
  refine ensures_of_fact (fun later => ?_)
  refine ensures_ofExcept ?_ ?_
  · intro value world answered known
    exact ⟨moment, ⟨answered, later⟩, known⟩
  · intro problem world _ known
    exact known.weaken (Nat.le_succ_of_le later)

theorem ensures_utcNow :
    Ensures (At tables files earliest) (utcNow env)
      (fun _ => At tables files earliest) raises := by
  refine ensures_bind ensures_nextMoment ?_
  intro moment
  refine ensures_of_fact (fun later => ?_)
  exact ensures_pure (fun _ known => known.weaken (Nat.le_succ_of_le later))

theorem ensures_incidentClock :
    Ensures (At tables files earliest) (incidentClock env)
      (fun _ => At tables files earliest) raises := by
  refine ensures_bind ensures_nextMoment ?_
  intro moment
  refine ensures_of_fact (fun later => ?_)
  exact ensures_pure (fun _ known => known.weaken (Nat.le_succ_of_le later))

/-- An operation of a store that keeps the step either has no effect and
raises, or has its effect. -/
theorem ensures_store
    {pre : World → Prop} {effect : World → World} (returns : World → Prop)
    (steady : ∀ world, pre world → pre { world with moment := world.moment + 1 })
    (returned : ∀ world, pre world → returns (effect world))
    (raised : ∀ problem world, pre world → raises problem world) :
    Ensures pre (store env effect) (fun _ => returns) raises := by
  have asked : Ensures pre nextMoment (fun _ => pre) raises :=
    fun world known => steady world known
  refine ensures_bind asked ?_
  intro moment
  cases env.fault moment with
  | some problem => exact ensures_throw (raised problem)
  | none => exact ensures_modify returned

theorem At.step
    {world : World} (known : At tables files earliest world) :
    At tables files earliest { world with moment := world.moment + 1 } :=
  ⟨known.tables, known.files, Nat.le_succ_of_le known.earliest⟩

theorem Inside.step
    {working : Tables} {world : World} (known : Inside tables files earliest working world) :
    Inside tables files earliest working { world with moment := world.moment + 1 } :=
  ⟨known.at_.step, known.working⟩

theorem ensures_query {α : Type} {read : Tables → α} :
    Ensures (At tables files earliest) (query env read)
      (fun value world => value = read tables ∧ At tables files earliest world)
      (fun _ => At tables files earliest) := by
  refine ensures_bind
    (ensures_store (At tables files earliest) (fun _ => At.step)
      (fun _ known => known) (fun _ _ known => known)) ?_
  intro _
  refine ensures_bind ensures_get ?_
  intro seen
  refine ensures_pure ?_
  intro world known
  exact ⟨by rw [known.1, known.2.tables], known.2⟩

section Transaction

variable {working : Tables}

theorem ensures_query_inside {α : Type} {read : Tables → α} :
    Ensures (Inside tables files earliest working) (query env read)
      (fun value world => value = read tables ∧ Inside tables files earliest working world)
      (fun _ => At tables files earliest) := by
  refine ensures_bind
    (ensures_store (Inside tables files earliest working) (fun _ => Inside.step)
      (fun _ known => known) (fun _ _ known => known.at_)) ?_
  intro _
  refine ensures_bind ensures_get ?_
  intro seen
  refine ensures_pure ?_
  intro world known
  exact ⟨by rw [known.1, known.2.at_.tables], known.2⟩

theorem ensures_incidentClock_inside :
    Ensures (Inside tables files earliest working) (incidentClock env)
      (fun _ => Inside tables files earliest working) raises := by
  have asked : Ensures (Inside tables files earliest working) nextMoment
      (fun _ => Inside tables files earliest working) raises :=
    fun world known => known.step
  refine ensures_bind asked ?_
  intro _
  exact ensures_pure (fun _ known => known)

theorem ensures_statement {change : Tables → Tables} :
    Ensures (Inside tables files earliest working) (statement env change)
      (fun _ => Inside tables files earliest (change working))
      (fun _ => At tables files earliest) := by
  refine ensures_store _ (fun _ => Inside.step) ?_ (fun _ _ known => known.at_)
  intro world known
  exact ⟨⟨known.at_.tables, known.at_.files, known.at_.earliest⟩,
    congrArg change known.working⟩

/-- Statements one after another. -/
theorem ensures_statements
    {α : Type} {items : List α} (change : Tables → α → Tables) :
    Ensures (Inside tables files earliest working)
      (items.forM (fun item => statement env (fun tables => change tables item)))
      (fun _ => Inside tables files earliest (items.foldl change working))
      (fun _ => At tables files earliest) := by
  refine ensures_forM
    (fun early => Inside tables files earliest (early.foldl change working)) ?_
  intro early item late shape
  have last := @ensures_statement tables files earliest env (early.foldl change working)
    (fun tables => change tables item)
  simpa using last

end Transaction

/-- A transaction commits the working copy of its body or keeps the tables. -/
theorem ensures_transaction
    {α : Type} {body : Market α} (result : α → Tables → Prop)
    (ensures : Ensures (Inside tables files earliest tables) body
      (fun value world => ∃ working, result value working ∧
        Inside tables files earliest working world)
      (fun _ => At tables files earliest)) :
    Ensures (At tables files earliest) (transaction env body)
      (fun value world => ∃ committed, result value committed ∧
        At committed files earliest world)
      (fun _ => At tables files earliest) := by
  refine ensures_bind
    (ensures_store (At tables files earliest) (fun _ => At.step)
      (fun _ known => known) (fun _ _ known => known)) ?_
  intro _
  refine ensures_tryCatch (?_ : Ensures _ _ _ (fun _ => At tables files earliest)) ?_
  · refine ensures_bind
      (ensures_store (Inside tables files earliest tables) (fun _ => At.step)
        ?_ (fun _ _ known => known)) ?_
    · intro world known
      exact ⟨⟨known.tables, known.files, known.earliest⟩, known.tables⟩
    · intro _
      refine ensures_bind ensures ?_
      intro value
      refine ensures_of_exists (fun working => ?_)
      refine ensures_of_fact (fun reached => ?_)
      refine ensures_bind
        (ensures_store (At working files earliest) (fun _ => Inside.step)
          ?_ (fun _ _ known => known.at_)) ?_
      · intro world known
        exact ⟨known.working, known.at_.files, known.at_.earliest⟩
      · intro _
        exact ensures_pure (fun _ known => ⟨working, reached, known⟩)
  · intro problem
    refine ensures_bind
      (ensures_store (At tables files earliest) (fun _ => At.step)
        ?_ (fun _ _ known => known)) ?_
    · intro world known
      exact ⟨known.tables, known.files, known.earliest⟩
    · intro _
      exact ensures_throw (fun _ known => known)

end Operations

/-! What the files hold. -/

def TableFile.ticks (file : TableFile) : List TickRecord :=
  match file.rows with
  | .ticks records => records
  | .bars _ => []

def TableFile.bars (file : TableFile) : List BarRecord :=
  match file.rows with
  | .bars records => records
  | .ticks _ => []

/-- The files of a batch of ticks, one a partition. -/
def tickFiles (library : MarketLibrary) (records : List TickRecord) : List TableFile :=
  (OrderedDict.groupBy
      (fun record : TickRecord => (record.logicalSymbol, dayOf record.marketTimeUtc))
      records).map (fun group =>
    { path := tablePath library "ticks" group.1.1 none group.1.2
        (group.2.map TickRecord.sequenceId)
      rows := .ticks group.2 })

def barFiles (library : MarketLibrary) (records : List BarRecord) : List TableFile :=
  (OrderedDict.groupBy
      (fun record : BarRecord => (record.rowKey, dayOf record.openTimeUtc))
      records).map (fun group =>
    { path := tablePath library "bars" group.1.1.1 (some group.1.1.2) group.1.2
        (group.2.map BarRecord.barId)
      rows := .bars group.2 })

theorem exists_tickFile
    (library : MarketLibrary) {records : List TickRecord} {record : TickRecord}
    (member : record ∈ records) : ∃ file ∈ tickFiles library records, record ∈ file.ticks := by
  obtain ⟨group, inside, -, here⟩ := OrderedDict.exists_group_of_mem
    (fun record : TickRecord => (record.logicalSymbol, dayOf record.marketTimeUtc)) member
  exact ⟨_, List.mem_map_of_mem inside, here⟩

theorem exists_barFile
    (library : MarketLibrary) {records : List BarRecord} {record : BarRecord}
    (member : record ∈ records) : ∃ file ∈ barFiles library records, record ∈ file.bars := by
  obtain ⟨group, inside, -, here⟩ := OrderedDict.exists_group_of_mem
    (fun record : BarRecord => (record.rowKey, dayOf record.openTimeUtc)) member
  exact ⟨_, List.mem_map_of_mem inside, here⟩

section Writes

variable {env : Environment}

private theorem ensures_writeTables
    {α : Type} {groups : List α} {path : α → TablePath} {rows : α → TableRows} :
    Ensures (At tables files earliest)
      (groups.mapM (fun group => do
        writeTable env (path group) (rows group)
        return path group))
      (fun _ => At tables
        (files ++ groups.map (fun group => ⟨path group, rows group⟩)) earliest)
      (fun _ => Kept tables files earliest) := by
  refine ensures_weaken
    (ensures_mapM (fun early _ => At tables
      (files ++ early.map (fun group => ⟨path group, rows group⟩)) earliest) ?_)
    (fun _ known => by simpa using known) (fun _ _ known => known) (fun _ _ known => known)
  intro early group late results shape
  refine ensures_bind (ensures_store (At tables
    (files ++ (early ++ [group]).map (fun group => ⟨path group, rows group⟩)) earliest)
    (fun _ => At.step) ?_ ?_) ?_
  · intro world known
    exact ⟨known.tables, by simp [known.files], known.earliest⟩
  · intro _ world known
    exact ⟨known.tables, known.files ▸ List.prefix_append _ _, known.earliest⟩
  · intro _
    exact ensures_pure (fun _ known => known)

theorem ensures_writeTicks {records : List TickRecord} :
    Ensures (At tables files earliest) (writeTicks env records)
      (fun _ => At tables (files ++ tickFiles env.library records) earliest)
      (fun _ => Kept tables files earliest) :=
  ensures_writeTables

theorem ensures_writeBars {records : List BarRecord} :
    Ensures (At tables files earliest) (writeBars env records)
      (fun _ => At tables (files ++ barFiles env.library records) earliest)
      (fun _ => Kept tables files earliest) :=
  ensures_writeTables

end Writes

end SuperAdvisor.MarketData
