import Mathlib.Data.List.Nodup
import SuperAdvisor.Foundation.Machine
import SuperAdvisor.Foundation.SingleWriter

/-!
# Migrations of the market data store

Every start of a store applies the migrations.  The check whether one has been
applied and the script of a migration do not share a transaction, since
`executescript` commits before it runs; the tables of a script are committed one
by one.  Starts of several processes overlap in every way, and a process may die
at any statement.
-/

namespace SuperAdvisor.Storage

open SingleWriter

/-- A migration, and the tables its script creates. -/
structure Migration where
  version : String
  tables : List String

structure Migrations where
  items : List Migration
  distinct : (items.map Migration.version).Nodup

/-- `MIGRATIONS` -/
def migrations : Migrations :=
  { items :=
      [{ version := "001_market_data_foundation"
         tables :=
          ["schema_migrations", "symbol_mappings", "collection_cursors", "latest_ticks",
            "latest_bars", "quality_incidents", "collector_heartbeats", "backfill_state"] }]
    distinct := by decide }

/-- The tables, and the rows of `schema_migrations`. -/
structure Schema where
  tables : List String
  versions : List String

instance : Preorder Schema where
  le schema next := schema.tables ⊆ next.tables ∧ schema.versions ⊆ next.versions
  le_refl _ := ⟨List.Subset.refl _, List.Subset.refl _⟩
  le_trans _ _ _ first second := ⟨List.Subset.trans first.1 second.1,
    List.Subset.trans first.2 second.2⟩

def Schema.addTable (name : String) (schema : Schema) : Schema :=
  { schema with tables := name :: schema.tables }

def Schema.addVersion (version : String) (schema : Schema) : Schema :=
  { schema with versions := version :: schema.versions }

inductive Statement where
  | beginImmediate
  /-- `CREATE TABLE IF NOT EXISTS` -/
  | createTable (name : String)
  | selectVersions
  /-- It opens a transaction if there is none. -/
  | insertVersion (version : String)
  /-- `commit()`, or the one that `executescript` begins with. -/
  | commit

inductive SqlProblem where
  | locked
  | noSuchTable
  | duplicateVersion (version : String)
  deriving DecidableEq

/-- A process that applies the migrations, with the versions it has read. -/
inductive Start where
  | idle
  | running (applied : List String) (rest : List Statement)
  | returned
  | raised (applied : List String) (problem : SqlProblem)

/-- The statements up to the one that reads the versions. -/
def opening : List Statement :=
  [.beginImmediate, .createTable "schema_migrations", .selectVersions]

/-- The script of a migration, from some table on, and the record of it. -/
def script (version : String) (tables : List String) (after : List Statement) : List Statement :=
  tables.map .createTable ++ .insertVersion version :: after

/-- The loop over the migrations, and the commit at its end. -/
def loop (applied : List String) : List Migration → List Statement
  | [] => [.commit]
  | migration :: later =>
      if migration.version ∈ applied then loop applied later
      else .commit :: script migration.version migration.tables (loop applied later)

/-- The start goes on, or has come to its end. -/
def goOn (applied : List String) : List Statement → Start
  | [] => .returned
  | rest => .running applied rest

/-- A table that is there needs no lock. -/
def hasTable (schema : Schema) (name : String) : Bool :=
  schema.tables.contains name

section Steps

variable {τ : Type} [DecidableEq τ] (config : Migrations)

/-- One statement; there is no result while another process has the lock. -/
def perform (store : Store τ Schema) (member : τ) (applied : List String)
    (statement : Statement) (rest : List Statement) : Option (Start × Store τ Schema) :=
  match statement with
  | .beginImmediate =>
      if store.blocked member then none
      else some (goOn applied rest, store.openWith member id)
  | .createTable name =>
      if hasTable (store.seen member) name then some (goOn applied rest, store)
      else if store.blocked member then none
      else some (goOn applied rest, store.write member (Schema.addTable name))
  | .selectVersions =>
      if hasTable (store.seen member) "schema_migrations" then
        let versions := (store.seen member).versions
        some (goOn versions (loop versions config.items), store)
      else some (.raised applied .noSuchTable, store.rollback member)
  | .insertVersion version =>
      if !hasTable (store.seen member) "schema_migrations" then
        some (.raised applied .noSuchTable, store.rollback member)
      else if store.blocked member then none
      else if version ∈ (store.seen member).versions then
        some (.raised applied (.duplicateVersion version), store.rollback member)
      else some (goOn applied rest, store.openWith member (Schema.addVersion version))
  | .commit => some (goOn applied rest, store.commit member)

/-- The database, and the processes that start. -/
structure Launch (τ : Type) where
  store : Store τ Schema
  starts : τ → Start

def Launch.initial : Launch τ :=
  { store := { committed := ⟨[], []⟩, writer := none }
    starts := fun _ => .idle }

/-- A process starts, performs its next statement, gives up waiting, or dies. -/
inductive Turn (τ : Type) where
  | start (member : τ)
  | advance (member : τ)
  | timeOut (member : τ)
  | crash (member : τ)

def Turn.member : Turn τ → τ
  | .start member => member
  | .advance member => member
  | .timeOut member => member
  | .crash member => member

/-- What a turn makes of a process and of the database. -/
def turnOf (launch : Launch τ) (turn : Turn τ) : Start × Store τ Schema :=
  let store := launch.store
  let unchanged := (launch.starts turn.member, store)
  match turn, launch.starts turn.member with
  | .start _, .running _ _ => unchanged
  | .start _, _ => (.running [] opening, store)
  | .advance member, .running applied (statement :: rest) =>
      (perform config store member applied statement rest).getD unchanged
  | .timeOut member, .running applied (statement :: rest) =>
      match perform config store member applied statement rest with
      | none => (.raised applied .locked, store)
      | some _ => unchanged
  | .crash member, .running _ _ => (.idle, store.rollback member)
  | _, _ => unchanged

def step (launch : Launch τ) (turn : Turn τ) : Start × Launch τ :=
  let (start, store) := turnOf config launch turn
  (start,
    { store := store
      starts := Function.update launch.starts turn.member start })

end Steps

/-! What holds of every launch. -/

/-- A recorded migration has made its tables, and is recorded once. -/
structure Complete (config : Migrations) (schema : Schema) : Prop where
  tables : ∀ migration ∈ config.items, migration.version ∈ schema.versions →
    migration.tables ⊆ schema.tables
  once : schema.versions.Nodup

/-- Where a process stands, by what is committed and what it has changed. -/
inductive Position (config : Migrations) (committed : Schema) :
    Option Schema → List String → List Statement → Prop where
  | opening : Position config committed none [] opening
  | creating (state : Schema) :
      Position config committed (some state) []
        [.createTable "schema_migrations", .selectVersions]
  | selecting (state : Schema) (created : "schema_migrations" ∈ state.tables) :
      Position config committed (some state) [] [.selectVersions]
  /-- Before the next migration: the earlier ones are recorded. -/
  | looping {state : Schema} {applied : List String} {early late : List Migration}
      (shape : config.items = early ++ late) (created : "schema_migrations" ∈ state.tables)
      (read : applied ⊆ state.versions)
      (recorded : ∀ migration ∈ early, migration.version ∈ state.versions) :
      Position config committed (some state) applied (loop applied late)
  /-- Within the script of a migration: some of its tables are there. -/
  | scripting {applied : List String} {early late : List Migration} {migration : Migration}
      {made left : List String} (shape : config.items = early ++ migration :: late)
      (created : "schema_migrations" ∈ committed.tables)
      (read : applied ⊆ committed.versions)
      (recorded : ∀ other ∈ early, other.version ∈ committed.versions)
      (tables : migration.tables = made ++ left) (present : made ⊆ committed.tables)
      (unapplied : migration.version ∉ applied) :
      Position config committed none applied
        (script migration.version left (loop applied late))

theorem Position.mono
    {config : Migrations} {committed next : Schema} {own : Option Schema} {applied : List String}
    {rest : List Statement} (position : Position config committed own applied rest)
    (grows : committed ≤ next) : Position config next own applied rest := by
  cases position with
  | opening => exact .opening
  | creating state => exact .creating state
  | selecting state created => exact .selecting state created
  | looping shape created read recorded => exact .looping shape created read recorded
  | scripting shape created read recorded tables present unapplied =>
      exact .scripting shape (grows.1 created) (List.Subset.trans read grows.2)
        (fun other member => grows.2 (recorded other member)) tables
        (List.Subset.trans present grows.1) unapplied

/-- The loop ends, or goes on with the next migration that was not applied. -/
theorem loop_cases (applied : List String) (late : List Migration) :
    (loop applied late = [.commit] ∧ ∀ migration ∈ late, migration.version ∈ applied) ∨
      ∃ skipped migration later, late = skipped ++ migration :: later ∧
        (∀ other ∈ skipped, other.version ∈ applied) ∧ migration.version ∉ applied ∧
        loop applied late =
          .commit :: script migration.version migration.tables (loop applied later) := by
  induction late with
  | nil => exact .inl ⟨rfl, by simp⟩
  | cons migration late induction =>
      by_cases known : migration.version ∈ applied
      · have same : loop applied (migration :: late) = loop applied late := by
          rw [loop, if_pos known]
        rw [same]
        rcases induction with ⟨ends, all⟩ | ⟨skipped, next, later, rfl, some_, fresh, goes⟩
        · exact .inl ⟨ends, List.forall_mem_cons.mpr ⟨known, all⟩⟩
        · exact .inr ⟨migration :: skipped, next, later, rfl,
            List.forall_mem_cons.mpr ⟨known, some_⟩, fresh, goes⟩
      · exact .inr ⟨[], migration, late, rfl, by simp, known, by rw [loop, if_neg known]⟩

/-- How a process may have ended, or where it stands. -/
def Fits (config : Migrations) (committed : Schema) (own : Option Schema) : Start → Prop
  | .idle => own = none
  | .running applied rest => Position config committed own applied rest
  | .returned => own = none ∧ ∀ migration ∈ config.items, migration.version ∈ committed.versions
  | .raised applied problem =>
      own = none ∧ (problem = .locked ∨ ∃ version, problem = .duplicateVersion version ∧
        version ∉ applied ∧ version ∈ committed.versions)

theorem Fits.mono
    {config : Migrations} {committed next : Schema} {own : Option Schema} {start : Start}
    (fits : Fits config committed own start) (grows : committed ≤ next) :
    Fits config next own start := by
  cases start with
  | idle => exact fits
  | running applied rest => exact Position.mono fits grows
  | returned => exact ⟨fits.1, fun migration member => grows.2 (fits.2 migration member)⟩
  | raised applied problem =>
      obtain ⟨free, locked | ⟨version, duplicate, unread, stored⟩⟩ := fits
      · exact ⟨free, .inl locked⟩
      · exact ⟨free, .inr ⟨version, duplicate, unread, grows.2 stored⟩⟩

section Invariants

variable {τ : Type} [DecidableEq τ] {config : Migrations}

/-- The database is sound, and every process fits to it. -/
structure Launched (config : Migrations) (launch : Launch τ) : Prop where
  store : Sound (Complete config) launch.store
  fits : ∀ member,
    Fits config launch.store.committed (launch.store.own member) (launch.starts member)

/-- What a turn of a process has to do to the database. -/
structure Moves (config : Migrations) (member : τ) (store : Store τ Schema)
    (result : Start × Store τ Schema) : Prop where
  sound : Sound (Complete config) result.2
  follows : Follows member store result.2
  fits : Fits config result.2.committed (result.2.own member) result.1

theorem Complete.addTable {schema : Schema} (complete : Complete config schema) (name : String) :
    Complete config (schema.addTable name) :=
  ⟨fun migration member recorded =>
    List.Subset.trans (complete.tables migration member recorded) (List.subset_cons_self _ _),
    complete.once⟩

theorem le_addTable (schema : Schema) (name : String) : schema ≤ schema.addTable name :=
  ⟨List.subset_cons_self _ _, List.Subset.refl _⟩

/-- The record of a migration that has made its tables. -/
theorem Complete.addVersion
    {schema : Schema} (complete : Complete config schema) {migration : Migration}
    (member : migration ∈ config.items) (tables : migration.tables ⊆ schema.tables)
    (unrecorded : migration.version ∉ schema.versions) :
    Complete config (schema.addVersion migration.version) := by
  refine ⟨?_, List.nodup_cons.mpr ⟨unrecorded, complete.once⟩⟩
  intro other inside recorded
  rcases List.mem_cons.mp recorded with same | earlier
  · rw [List.inj_on_of_nodup_map config.distinct inside member same]
    exact tables
  · exact complete.tables other inside earlier

theorem le_addVersion (schema : Schema) (version : String) :
    schema ≤ schema.addVersion version :=
  ⟨List.Subset.refl _, List.subset_cons_self _ _⟩

variable {store : Store τ Schema} {member : τ} {applied : List String} {statement : Statement}
  {rest : List Statement} {result : Start × Store τ Schema}

private theorem seen_of_own {own : Option Schema} (held : store.own member = own) :
    store.seen member = own.getD store.committed := by
  rw [Store.seen, held]

/-- Behind `CREATE TABLE IF NOT EXISTS` the table is there, and the process is in
a transaction if it was in one before. -/
private theorem createTable_made {name : String}
    (sound : Sound (Complete config) store)
    (performed : perform config store member applied (.createTable name) rest = some result) :
    ∃ next, result = (goOn applied rest, next) ∧ Sound (Complete config) next ∧
      Follows member store next ∧ name ∈ (next.seen member).tables ∧
      (next.own member).isSome = (store.own member).isSome := by
  simp only [perform] at performed
  split at performed
  next there =>
    cases performed
    exact ⟨store, rfl, sound, .refl member store, by simpa [hasTable] using there, rfl⟩
  next missing =>
    split at performed
    next => cases performed
    next free =>
      cases performed
      have free : store.blocked member = false := by simpa using free
      refine ⟨_, rfl, sound.write free (sound.seen.1.addTable name) (le_addTable _ _),
        follows_write free (le_addTable _ _), ?_, by simp⟩
      rw [seen_write]
      exact List.mem_cons_self

private theorem goOn_loop (applied seen : List String) (late : List Migration) :
    goOn applied (loop seen late) = .running applied (loop seen late) := by
  rcases loop_cases seen late with ⟨ends, -⟩ | ⟨_, _, _, -, -, -, goes⟩
  · rw [ends]
    rfl
  · rw [goes]
    rfl

private theorem goOn_script
    (applied : List String) (version : String) (tables : List String) (after : List Statement) :
    goOn applied (script version tables after) =
      .running applied (script version tables after) := by
  cases tables <;> rfl

/-- A commit ends the loop, or begins the script of the next migration. -/
private theorem moves_commit {state : Schema} {early late : List Migration}
    (sound : Sound (Complete config) store) (held : store.own member = some state)
    (shape : config.items = early ++ late) (created : "schema_migrations" ∈ state.tables)
    (read : applied ⊆ state.versions)
    (recorded : ∀ migration ∈ early, migration.version ∈ state.versions)
    (whole : loop applied late = statement :: rest)
    (performed : perform config store member applied statement rest = some result) :
    Moves config member store result := by
  have first : statement = .commit := by
    rcases loop_cases applied late with ⟨ends, -⟩ | ⟨_, _, _, -, -, -, goes⟩
    · exact (List.cons.inj (whole.symm.trans ends)).1
    · exact (List.cons.inj (whole.symm.trans goes)).1
  subst first
  obtain rfl : (goOn applied rest, store.commit member) = result := by
    simpa [perform] using performed
  refine ⟨sound.commit, sound.follows_commit, ?_⟩
  rw [commit_of_some held]
  rcases loop_cases applied late with
    ⟨ends, all⟩ | ⟨skipped, migration, later, rfl, some_, fresh, goes⟩
  · obtain ⟨-, rfl⟩ := List.cons.inj (whole.symm.trans ends)
    refine ⟨rfl, ?_⟩
    rw [shape]
    exact List.forall_mem_append.mpr ⟨recorded, fun migration member => read (all migration member)⟩
  · obtain ⟨-, rfl⟩ := List.cons.inj (whole.symm.trans goes)
    rw [goOn_script]
    refine .scripting (by simp [shape] : config.items = (early ++ skipped) ++ migration :: later)
      created read ?_ rfl (List.nil_subset _) fresh
    exact List.forall_mem_append.mpr ⟨recorded, fun other member => read (some_ other member)⟩

/-- The record of a migration, when its tables are there. -/
private theorem moves_insert {early late : List Migration} {migration : Migration}
    (sound : Sound (Complete config) store) (held : store.own member = none)
    (shape : config.items = early ++ migration :: late)
    (created : "schema_migrations" ∈ store.committed.tables)
    (read : applied ⊆ store.committed.versions)
    (recorded : ∀ other ∈ early, other.version ∈ store.committed.versions)
    (present : migration.tables ⊆ store.committed.tables)
    (unapplied : migration.version ∉ applied)
    (performed : perform config store member applied (.insertVersion migration.version)
      (loop applied late) = some result) :
    Moves config member store result := by
  have seen := seen_of_own held
  rw [Option.getD_none] at seen
  simp only [perform, seen] at performed
  rw [if_neg (by simpa [hasTable] using created)] at performed
  split at performed
  next => cases performed
  next free =>
    have free : store.blocked member = false := by simpa using free
    split at performed
    next taken =>
      cases performed
      have follows := @follows_rollback τ Schema _ store member _
      exact ⟨sound.rollback, follows, own_rollback,
        .inr ⟨_, rfl, unapplied, follows.grows.2 taken⟩⟩
    next fresh =>
      cases performed
      have inside : migration ∈ config.items := by simp [shape]
      refine ⟨sound.openWith ?_ (le_addVersion _ _), follows_openWith free, ?_⟩
      · rw [seen]
        exact sound.committed.addVersion inside present fresh
      · rw [own_openWith, goOn_loop, seen]
        refine .looping
          (by simp [shape] : config.items = (early ++ [migration]) ++ late) created
          (List.Subset.trans read (List.subset_cons_self _ _)) ?_
        refine List.forall_mem_append.mpr ⟨?_, by simp [Schema.addVersion]⟩
        exact fun other member => List.mem_cons_of_mem _ (recorded other member)

/-- A statement of a process keeps the database sound, and the process stands
where it should. -/
private theorem moves_perform
    (sound : Sound (Complete config) store)
    (position : Position config store.committed (store.own member) applied (statement :: rest))
    (performed : perform config store member applied statement rest = some result) :
    Moves config member store result := by
  generalize held : store.own member = own at position
  generalize whole : statement :: rest = statements at position
  cases position with
  | opening =>
      obtain ⟨rfl, rfl⟩ := List.cons.inj whole
      simp only [perform] at performed
      split at performed
      next => cases performed
      next free =>
        cases performed
        have free : store.blocked member = false := by simpa using free
        refine ⟨sound.openWith sound.seen.1 (le_refl _), follows_openWith free, ?_⟩
        rw [own_openWith]
        exact .creating _
  | creating state =>
      obtain ⟨rfl, rfl⟩ := List.cons.inj whole
      obtain ⟨next, rfl, kept, follows, made, same⟩ := createTable_made sound performed
      rw [held, Option.isSome_some, Option.isSome_iff_exists] at same
      obtain ⟨after, own⟩ := same
      refine ⟨kept, follows, ?_⟩
      rw [seen_of_own own, Option.getD_some] at made
      rw [own]
      exact .selecting after made
  | selecting state created =>
      obtain ⟨rfl, rfl⟩ := List.cons.inj whole
      have there : hasTable (store.seen member) "schema_migrations" = true := by
        simpa [hasTable, seen_of_own held] using created
      simp only [perform, there, if_true] at performed
      cases performed
      refine ⟨sound, .refl member store, ?_⟩
      rw [goOn_loop, held, seen_of_own held]
      exact .looping (List.nil_append _).symm created (List.Subset.refl _) (by simp)
  | looping shape created read recorded =>
      exact moves_commit sound held shape created read recorded whole.symm performed
  | @scripting _ early late migration made left shape created read recorded tables present
      unapplied =>
      cases left with
      | nil =>
          obtain ⟨rfl, rfl⟩ := List.cons.inj whole
          exact moves_insert sound held shape created read recorded
            (by rwa [tables, List.append_nil]) unapplied performed
      | cons name left =>
          obtain ⟨rfl, rfl⟩ := List.cons.inj whole
          obtain ⟨next, rfl, kept, follows, found, same⟩ := createTable_made sound performed
          rw [held, Option.isSome_none, Option.isSome_eq_false_iff, Option.isNone_iff_eq_none]
            at same
          refine ⟨kept, follows, ?_⟩
          rw [seen_of_own same, Option.getD_none] at found
          rw [same]
          refine Eq.mpr (congrArg _ (goOn_script _ _ left _)) ?_
          refine .scripting shape (follows.grows.1 created)
            (List.Subset.trans read follows.grows.2)
            (fun other member => follows.grows.2 (recorded other member))
            (by simp [tables] : migration.tables = (made ++ [name]) ++ left) ?_ unapplied
          exact List.append_subset.mpr
            ⟨List.Subset.trans present follows.grows.1, by simpa using found⟩

private theorem own_none_of_waiting
    (waits : perform config store member applied statement rest = none) :
    store.own member = none := by
  cases own : store.own member with
  | none => rfl
  | some state =>
      have free := not_blocked_of_own own
      cases statement with
      | beginImmediate | commit => simp [perform, free] at waits
      | selectVersions | createTable => simp [perform, free, ite_eq_iff] at waits
      | insertVersion version =>
          simp only [perform, free] at waits
          split at waits
          next => cases waits
          next => simp [ite_eq_iff] at waits

/-- A turn keeps the database sound, whatever its process was doing. -/
private theorem moves_turnOf
    {launch : Launch τ} (launched : Launched config launch) (turn : Turn τ) :
    Moves config turn.member launch.store (turnOf config launch turn) := by
  have unchanged : Moves config turn.member launch.store
      (launch.starts turn.member, launch.store) :=
    ⟨launched.store, .refl _ _, launched.fits _⟩
  have fits := launched.fits turn.member
  cases started : launch.starts turn.member with
  | running applied rest =>
      rw [started] at fits
      cases turn with
      | start member => simpa [turnOf, started] using unchanged
      | crash member =>
          simp only [turnOf, started]
          exact ⟨launched.store.rollback, follows_rollback, own_rollback⟩
      | advance member =>
          cases rest with
          | nil => simpa [turnOf, started] using unchanged
          | cons statement rest =>
              simp only [turnOf, started]
              cases performed : perform config launch.store member applied statement rest with
              | none => simpa [performed, started] using unchanged
              | some result => exact moves_perform launched.store fits performed
      | timeOut member =>
          cases rest with
          | nil => simpa [turnOf, started] using unchanged
          | cons statement rest =>
              simp only [turnOf, started]
              cases performed : perform config launch.store member applied statement rest with
              | none =>
                  exact ⟨launched.store, .refl _ _, own_none_of_waiting performed, .inl rfl⟩
              | some result => simpa [performed, started] using unchanged
  | idle | returned | raised =>
      have free : launch.store.own turn.member = none := by
        rw [started] at fits
        first | exact fits | exact fits.1
      cases turn with
      | start member =>
          simp only [turnOf, started]
          refine ⟨launched.store, .refl _ _, ?_⟩
          rw [show launch.store.own (Turn.start member).member = none from free]
          exact Position.opening
      | advance | timeOut | crash => simpa [turnOf, started] using unchanged

/-- One turn: the database stays sound and only grows. -/
theorem launched_step
    {launch : Launch τ} (launched : Launched config launch) (turn : Turn τ) :
    Launched config (step config launch turn).2 ∧
      launch.store.committed ≤ (step config launch turn).2.store.committed := by
  have moves := moves_turnOf launched turn
  refine ⟨⟨moves.sound, fun member => ?_⟩, moves.follows.grows⟩
  simp only [step]
  by_cases same : member = turn.member
  · subst same
    simpa using moves.fits
  · rw [Function.update_of_ne same, moves.follows.others member same]
    exact (launched.fits member).mono moves.follows.grows

theorem launched_final
    {launch : Launch τ} (launched : Launched config launch) (turns : List (Turn τ)) :
    Launched config (Machine.final (step config) launch turns) ∧
      launch.store.committed ≤ (Machine.final (step config) launch turns).store.committed := by
  induction turns generalizing launch with
  | nil => exact ⟨launched, le_refl _⟩
  | cons turn turns induction =>
      obtain ⟨next, grows⟩ := launched_step launched turn
      obtain ⟨last, more⟩ := induction next
      exact ⟨last, le_trans grows more⟩

theorem launched_initial : Launched config (Launch.initial : Launch τ) :=
  ⟨⟨⟨by simp [Launch.initial], List.nodup_nil⟩, by simp [Launch.initial]⟩, fun _ => rfl⟩

/-- However the starts overlap and die: a recorded migration has its tables and
is recorded once, nothing committed is lost, a start that returns has all
migrations recorded, and one that fails was kept from the lock or has found a
version recorded that was not there when it looked. -/
theorem migrations_safe (config : Migrations) (turns later : List (Turn τ)) :
    let launch := Machine.final (step config) (Launch.initial : Launch τ) turns
    Complete config launch.store.committed ∧
      launch.store.committed ≤ (Machine.final (step config) launch later).store.committed ∧
      (∀ member, launch.starts member = .returned → ∀ migration ∈ config.items,
        migration.version ∈ launch.store.committed.versions) ∧
      ∀ member applied problem, launch.starts member = .raised applied problem →
        problem = .locked ∨ ∃ version, problem = .duplicateVersion version ∧
          version ∉ applied ∧ version ∈ launch.store.committed.versions := by
  intro launch
  obtain ⟨launched, -⟩ := launched_final (launched_initial : Launched config _) turns
  refine ⟨launched.store.committed, (launched_final launched later).2, ?_, ?_⟩
  · intro member returned
    have fits := launched.fits member
    rw [returned] at fits
    exact fits.2
  · intro member applied problem raised
    have fits := launched.fits member
    rw [raised] at fits
    exact fits.2

/-! A start that nobody overtakes. -/

/-- The statements of a process, one after the other, to its end. -/
inductive Finishes (config : Migrations) (member : τ) :
    Store τ Schema → List String → List Statement → Prop where
  | last {store next : Store τ Schema} {applied : List String} {statement : Statement}
      {rest : List Statement}
      (performed : perform config store member applied statement rest = some (.returned, next)) :
      Finishes config member store applied (statement :: rest)
  | more {store next : Store τ Schema} {applied read : List String} {statement : Statement}
      {rest after : List Statement}
      (performed : perform config store member applied statement rest =
        some (.running read after, next))
      (later : Finishes config member next read after) :
      Finishes config member store applied (statement :: rest)

/-- A script runs to the record of its version, if that is not there. -/
private theorem finishes_script {version : String} {after : List Statement}
    (goes : goOn applied after = .running applied after)
    (later : ∀ next : Store τ Schema, ∀ state, next.own member = some state →
      "schema_migrations" ∈ state.tables → state.versions = version :: store.committed.versions →
        Finishes config member next applied after)
    (tables : List String) {current : Store τ Schema} (nobody : current.writer = none)
    (same : current.committed.versions = store.committed.versions)
    (created : "schema_migrations" ∈ current.committed.tables)
    (fresh : version ∉ store.committed.versions) :
    Finishes config member current applied (script version tables after) := by
  have own : ∀ {other : Store τ Schema}, other.writer = none → other.own member = none := by
    intro other nobody
    simp [Store.own, nobody]
  induction tables generalizing current with
  | nil =>
      have seen : current.seen member = current.committed := seen_of_own (own nobody)
      have performed : perform config current member applied (.insertVersion version) after =
          some (.running applied after, current.openWith member (Schema.addVersion version)) := by
        simp [perform, seen, hasTable, created, Store.blocked, nobody, same, fresh, goes]
      refine .more performed (later _ _ (own_openWith _) ?_ ?_)
      · rw [seen]
        exact created
      · rw [seen, ← same]
        rfl
  | cons name tables induction =>
      have seen : current.seen member = current.committed := seen_of_own (own nobody)
      have goesOn := goOn_script applied version tables after
      by_cases there : name ∈ current.committed.tables
      · have performed : perform config current member applied (.createTable name)
            (script version tables after) =
              some (.running applied (script version tables after), current) := by
          simp [perform, seen, hasTable, there, goesOn]
        exact .more performed (induction nobody same created)
      · have performed : perform config current member applied (.createTable name)
            (script version tables after) =
              some (.running applied (script version tables after),
                { current with committed := current.committed.addTable name }) := by
          simp [perform, seen, hasTable, there, Store.blocked, nobody, goesOn,
            own_write_of_none _ (own nobody)]
        exact .more performed (induction nobody same (List.mem_cons_of_mem _ created))

/-- The loop runs to its end if the versions it did not read are not there. -/
private theorem finishes_loop (late : List Migration) {state : Schema}
    (held : store.own member = some state) (created : "schema_migrations" ∈ state.tables)
    (fresh : ∀ migration ∈ late, migration.version ∉ applied →
      migration.version ∉ state.versions)
    (distinct : (late.map Migration.version).Nodup) :
    Finishes config member store applied (loop applied late) := by
  induction late generalizing store state with
  | nil =>
      have performed : perform config store member applied .commit [] =
          some (.returned, store.commit member) := rfl
      exact .last performed
  | cons migration late induction =>
      rw [List.map_cons, List.nodup_cons] at distinct
      obtain ⟨first, others⟩ := List.forall_mem_cons.mp fresh
      by_cases known : migration.version ∈ applied
      · rw [loop, if_pos known]
        exact induction held created others distinct.2
      · rw [loop, if_neg known]
        have committed := commit_of_some held
        have performed : perform config store member applied .commit
            (script migration.version migration.tables (loop applied late)) =
              some (.running applied
                (script migration.version migration.tables (loop applied late)),
                ({ committed := state, writer := none } : Store τ Schema)) := by
          rw [perform, goOn_script, committed]
        refine .more performed (@finishes_script τ _ config ⟨state, none⟩ member applied _ _
          (goOn_loop _ _ _) ?_ _ _ rfl rfl created (first known))
        intro next after own there versions
        refine induction own there ?_ distinct.2
        intro other inside unread
        rw [versions]
        refine List.not_mem_cons_of_ne_of_not_mem (fun same => ?_) (others other inside unread)
        exact distinct.1 (same ▸ List.mem_map_of_mem inside)

/-- A start runs to its end if nobody is writing. -/
private theorem finishes_opening
    (sound : Sound (Complete config) store) (nobody : store.writer = none) :
    Finishes config member store [] opening := by
  have begun : perform config store member [] .beginImmediate
      [.createTable "schema_migrations", .selectVersions] =
        some (.running [] [.createTable "schema_migrations", .selectVersions],
          store.openWith member id) := by
    simp [perform, Store.blocked, nobody, goOn]
  refine .more begun ?_
  have opened : Sound (Complete config) (store.openWith member id) :=
    sound.openWith sound.seen.1 (le_refl _)
  cases performed : perform config (store.openWith member id) member []
      (.createTable "schema_migrations") [.selectVersions] with
  | none => simpa using own_none_of_waiting performed
  | some result =>
      obtain ⟨next, rfl, -, -, made, same⟩ := createTable_made opened performed
      rw [own_openWith, Option.isSome_some, Option.isSome_iff_exists] at same
      obtain ⟨state, held⟩ := same
      rw [seen_of_own held, Option.getD_some] at made
      have read : perform config next member [] .selectVersions [] =
          some (.running state.versions (loop state.versions config.items), next) := by
        simp [perform, seen_of_own held, hasTable, made, goOn_loop]
      exact .more performed (.more read
        (finishes_loop config.items held made (fun _ _ unread => unread) config.distinct))

/-- What finishes is brought to its end by the turns of its process. -/
private theorem exists_returned {statements : List Statement}
    (finishes : Finishes config member store applied statements) :
    ∀ launch : Launch τ, launch.store = store →
      launch.starts member = .running applied statements →
        ∃ count, (Machine.final (step config) launch
          (List.replicate count (.advance member))).starts member = .returned := by
  induction finishes with
  | last performed =>
      rintro launch rfl started
      exact ⟨1, by simp [Machine.final, step, turnOf, started, performed, Turn.member]⟩
  | more performed later induction =>
      rintro launch rfl started
      obtain ⟨count, ended⟩ := induction (step config launch (.advance member)).2
        (by simp [step, turnOf, started, performed, Turn.member])
        (by simp [step, turnOf, started, performed, Turn.member])
      exact ⟨count + 1, by simpa [List.replicate_succ, Machine.final] using ended⟩

/-- Whatever starts and deaths came before, a start that nobody overtakes returns,
and then every migration is recorded and has its tables. -/
theorem migrations_recover (config : Migrations) (turns : List (Turn τ)) (member : τ)
    (nobody : (Machine.final (step config) (Launch.initial : Launch τ) turns).store.writer = none)
    (ended : ∀ applied rest,
      (Machine.final (step config) (Launch.initial : Launch τ) turns).starts member ≠
        .running applied rest) :
    ∃ count,
      let launch := Machine.final (step config) Launch.initial
        (turns ++ .start member :: List.replicate count (.advance member))
      launch.starts member = .returned ∧ ∀ migration ∈ config.items,
        migration.version ∈ launch.store.committed.versions ∧
          migration.tables ⊆ launch.store.committed.tables := by
  have before := (launched_final (launched_initial : Launched config (Launch.initial : Launch τ))
    turns).1
  generalize reached : Machine.final (step config) (Launch.initial : Launch τ) turns = launch
    at nobody ended before
  have started : turnOf config launch (.start member) = (.running [] opening, launch.store) := by
    cases current : launch.starts member with
    | running applied rest => exact absurd current (ended applied rest)
    | idle | returned | raised => simp [turnOf, current, Turn.member]
  have finishes : Finishes config member launch.store [] opening :=
    finishes_opening before.store nobody
  obtain ⟨count, returned⟩ := exists_returned finishes
    (step config launch (.start member)).2 (by simp [step, started])
    (by simp [step, started, Turn.member])
  refine ⟨count, ?_⟩
  rw [Machine.final_append, reached]
  intro last
  have fits := (launched_final before
    (.start member :: List.replicate count (.advance member))).1
  have recorded := fits.fits member
  rw [show (Machine.final (step config) launch
    (.start member :: List.replicate count (.advance member))).starts member = .returned
      from returned] at recorded
  exact ⟨returned, fun migration inside => ⟨recorded.2 migration inside,
    fits.store.committed.tables migration inside (recorded.2 migration inside)⟩⟩

end Invariants

/-- A start dies in the script, and another one completes it. -/
theorem migrations_recover_crash :
    ∃ count,
      let launch := Machine.final (step migrations) Launch.initial
        ((.start false :: List.replicate 6 (.advance false) ++ [.crash false]) ++
          .start true :: List.replicate count (.advance true))
      launch.starts true = .returned ∧ ∀ migration ∈ migrations.items,
        migration.version ∈ launch.store.committed.versions ∧
          migration.tables ⊆ launch.store.committed.tables := by
  refine migrations_recover migrations
    (.start false :: List.replicate 6 (.advance false) ++ [.crash false]) true rfl ?_
  intro applied rest running
  cases running

end SuperAdvisor.Storage
