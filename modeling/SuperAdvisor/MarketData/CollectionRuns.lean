import SuperAdvisor.MarketData.Calls

/-!
# Collections one after another

Collections that return are, for every symbol, a sequence of cycles.  Between
two of them anything else may happen to the stores.
-/

namespace SuperAdvisor.MarketData

open Raising Service

/-- The arguments of a call of `collectOnce`. -/
structure CollectCall where
  symbolFilter : Option (List String)
  now : Option Int
  dryRun : Option Bool

/-- The reports of collections that all return and store what they collect, and
the world after them. -/
def runCollections (env : Environment) (settings : MarketDataSettings) :
    List CollectCall → World → Option (List CollectReport × World)
  | [], world => some ([], world)
  | call :: calls, world =>
      match (collectOnce env settings call.symbolFilter call.now call.dryRun).run world with
      | .error _ _ => none
      | .ok report after =>
          if report.dryRun then none
          else
            (runCollections env settings calls after).map
              (fun rest => (report :: rest.1, rest.2))

/-- The times of the collections of a symbol. -/
def observedTimes (logicalSymbol : String) (reports : List CollectReport) : List Int :=
  reports.flatMap (fun report =>
    (report.symbols.filter (· = logicalSymbol)).map (fun _ => report.observedAtUtc))

def World.store (world : World) : Store :=
  { moment := world.moment
    tables := world.tables
    files := world.files }

/-- A cycle of a symbol, and the store before it. -/
structure CycleEntry where
  store : Store
  symbol : ResolvedSymbol
  observedNow : Int
  cycle : SymbolCycle

/-- The event is a cycle of the symbol. -/
def StoreEvent.IsCycleOf (logicalSymbol : String) : StoreEvent → Prop
  | .cycle symbol _ _ _ => symbol.logicalSymbol = logicalSymbol
  | _ => False

/-- Steps with the cycles of one symbol among them. -/
inductive CycleRun (env : Environment) (settings : MarketDataSettings)
    (logicalSymbol : String) (start : Store) : List CycleEntry → Store → Prop
  | start : CycleRun env settings logicalSymbol start [] start
  | cycle {entries : List CycleEntry} {middle finish : Store} {symbol : ResolvedSymbol}
      {observedNow : Int} {cycle : SymbolCycle} {incidents : List QualityIncident}
      (before : CycleRun env settings logicalSymbol start entries middle)
      (sameSymbol : symbol.logicalSymbol = logicalSymbol)
      (last : StoreStep env settings middle (.cycle symbol observedNow cycle incidents) finish) :
      CycleRun env settings logicalSymbol start
        (entries ++ [⟨middle, symbol, observedNow, cycle⟩]) finish
  | other {entries : List CycleEntry} {middle finish : Store} {event : StoreEvent}
      (before : CycleRun env settings logicalSymbol start entries middle)
      (another : ¬event.IsCycleOf logicalSymbol)
      (last : StoreStep env settings middle event finish) :
      CycleRun env settings logicalSymbol start entries finish

variable {env : Environment} {settings : MarketDataSettings} {logicalSymbol : String}

theorem CycleRun.trans
    {start middle finish : Store} {early late : List CycleEntry}
    (first : CycleRun env settings logicalSymbol start early middle)
    (second : CycleRun env settings logicalSymbol middle late finish) :
    CycleRun env settings logicalSymbol start (early ++ late) finish := by
  induction second with
  | start => simpa using first
  | cycle before sameSymbol last induction =>
      rw [← List.append_assoc]
      exact .cycle induction sameSymbol last
  | other before another last induction => exact .other induction another last

/-- The cycles before a given one are a run to the store that it finds. -/
theorem CycleRun.before
    {start finish : Store} {entries early late : List CycleEntry} {next : CycleEntry}
    (run : CycleRun env settings logicalSymbol start entries finish)
    (shape : entries = early ++ next :: late) :
    CycleRun env settings logicalSymbol start early next.store := by
  induction run generalizing late with
  | start => simp at shape
  | @cycle entries middle finish symbol observedNow cycle incidents before sameSymbol last
      induction =>
      rcases List.eq_nil_or_concat late with rfl | ⟨rest, entry, rfl⟩
      · obtain ⟨rfl, same⟩ := List.append_inj' shape rfl
        obtain rfl := (List.cons.inj same).1
        exact before
      · rw [List.concat_eq_append, ← List.cons_append, ← List.append_assoc] at shape
        exact induction (List.append_inj' shape rfl).1
  | other before another last induction => exact induction shape

/-- Files are never taken away. -/
theorem StoreStep.files_prefix
    {store after : Store} {event : StoreEvent}
    (step : StoreStep env settings store event after) : store.files <+: after.files := by
  cases step with
  | wrote | chunk => exact List.prefix_append _ _
  | cycle => exact (List.prefix_append _ _).trans (List.prefix_append _ _)
  | heartbeat | progressed | failed => exact List.prefix_refl _

theorem StoreStep.moment_le
    {store after : Store} {event : StoreEvent}
    (step : StoreStep env settings store event after) : store.moment ≤ after.moment := by
  cases step with
  | cycle resolved describes =>
      exact Nat.le_succ_of_le (Nat.le_trans describes.ticks.earliest
        (Nat.le_of_lt describes.ticks.ordered))
  | wrote | heartbeat | chunk | progressed | failed => exact Nat.le_refl _

/-- The steps between two cycles of a symbol keep its positions. -/
theorem getCursor_of_other
    {key : CursorKey} (ofSymbol : key.logicalSymbol = logicalSymbol) {store after : Store}
    {event : StoreEvent} (another : ¬event.IsCycleOf logicalSymbol)
    (step : StoreStep env settings store event after) :
    after.tables.getCursor key = store.tables.getCursor key := by
  cases step with
  | wrote | heartbeat | progressed | failed => rfl
  | @cycle symbol observedNow cycle incidents resolved describes =>
      have different : key.logicalSymbol ≠ symbol.logicalSymbol :=
        fun same => another (same.symm.trans ofSymbol)
      have noRow : Tables.cursorUnder key (cycle.currentRows observedNow) = none := by
        by_contra left
        obtain ⟨cursor, found⟩ := Option.ne_none_iff_exists'.mp left
        obtain ⟨row, member, sameKey, -⟩ := Tables.exists_row_of_cursorUnder found
        obtain ⟨rowKey, -, load, inside, here⟩ := mem_gatherRows member
        obtain ⟨payload, -, made⟩ := (describes.bars load inside).exists_payload here
        rw [made] at rowKey
        exact different ((congrArg CursorKey.logicalSymbol sameKey).trans
          (congrArg Prod.fst rowKey))
      rw [getCursor_committedTables, noRow, Option.none_or, if_neg, Option.none_or]
      exact fun same => different (congrArg CursorKey.logicalSymbol same)
  | chunk chunk changed =>
      unfold ChunkCommitted at changed
      split at changed
      next => rw [changed]
      next last found =>
        obtain ⟨incidents, rfl⟩ := changed
        unfold Tables.getCursor
        rw [Tables.recordIncidents_cursors]
        refine (Tables.getCursor_replaceRows _ _ _ _).trans ?_
        rw [chunk.currentRows_eq_nil found]
        rfl

/-- The first cycle of a run finds the positions of its start. -/
theorem CycleRun.firstCursor
    {key : CursorKey} (ofSymbol : key.logicalSymbol = logicalSymbol) {start finish : Store}
    {entries : List CycleEntry}
    (run : CycleRun env settings logicalSymbol start entries finish) :
    (entries = [] → finish.tables.getCursor key = start.tables.getCursor key) ∧
      ∀ first ∈ entries.head?, first.store.tables.getCursor key =
        start.tables.getCursor key := by
  induction run with
  | start => exact ⟨fun _ => rfl, by simp⟩
  | @cycle entries middle finish symbol observedNow cycle incidents before sameSymbol last
      induction =>
      refine ⟨by simp, ?_⟩
      cases entries with
      | nil =>
          rintro first ⟨⟩
          exact induction.1 rfl
      | cons entry entries => exact induction.2
  | other before another last induction =>
      refine ⟨?_, induction.2⟩
      intro none
      rw [getCursor_of_other ofSymbol another last]
      exact induction.1 none

/-- The cycles of one collection. -/
private theorem cycleRun_of_collects
    {store after : Store} {observedNow : Int} {symbols : List ResolvedSymbol}
    {events : List StoreEvent}
    (collects : Collects env settings store observedNow symbols events after)
    (logicalSymbol : String) :
    ∃ entries, CycleRun env settings logicalSymbol store entries after ∧
      entries.map CycleEntry.observedNow =
        ((symbols.map ResolvedSymbol.logicalSymbol).filter (· = logicalSymbol)).map
          (fun _ => observedNow) := by
  obtain ⟨-, cycles, steps⟩ := collects
  induction steps generalizing symbols with
  | start =>
      obtain rfl := List.forall₂_nil_right_iff.mp cycles
      exact ⟨[], .start, rfl⟩
  | step before last induction =>
      obtain ⟨entries, run, times⟩ := induction (List.forall₂_take_append _ _ _ cycles)
      obtain ⟨symbol, none, isCycle, noMore, rest⟩ :=
        List.forall₂_cons_right_iff.mp (List.forall₂_drop_append _ _ _ cycles)
      obtain rfl := List.forall₂_nil_right_iff.mp noMore
      obtain ⟨cycle, incidents, rfl⟩ := isCycle
      rw [← List.take_append_drop _ symbols, rest, List.map_append, List.filter_append,
        List.map_append, ← times]
      by_cases same : symbol.logicalSymbol = logicalSymbol
      · exact ⟨_, .cycle run same last, by simp [same]⟩
      · refine ⟨entries, .other run ?_ last, by simp [same]⟩
        exact same

private theorem cycleRun_of_collections
    {calls : List CollectCall} {store : Store} {world after : World}
    {reports : List CollectReport} (stands : Stands store world)
    (ran : runCollections env settings calls world = some (reports, after))
    (logicalSymbol : String) :
    ∃ entries finish, CycleRun env settings logicalSymbol store entries finish ∧
      entries.map CycleEntry.observedNow = observedTimes logicalSymbol reports ∧
      Stands finish after := by
  induction calls generalizing store world reports with
  | nil =>
      obtain ⟨rfl, rfl⟩ := Prod.mk.inj (Option.some.inj ran)
      exact ⟨[], store, .start, rfl, stands⟩
  | cons call calls induction =>
      unfold runCollections at ran
      have known := ensures_collectOnce env settings call.symbolFilter call.now call.dryRun
        world stands
      split at ran
      next => cases ran
      next report middle returned =>
        split at ran
        next => cases ran
        next stored =>
          rw [returned] at known
          obtain ⟨-, collected⟩ := known
          unfold Collected at collected
          rw [if_neg stored] at collected
          obtain ⟨symbols, events, collectedStore, record, sameSymbols, collects, here⟩ :=
            collected
          obtain ⟨rest, ranRest, same⟩ := Option.map_eq_some_iff.mp ran
          obtain ⟨rfl, rfl⟩ := Prod.mk.inj same
          obtain ⟨early, first, times⟩ := cycleRun_of_collects collects logicalSymbol
          have another : ¬(StoreEvent.heartbeat record).IsCycleOf logicalSymbol := id
          have beaten : CycleRun env settings logicalSymbol store early _ :=
            .other first another .heartbeat
          obtain ⟨late, finish, second, laterTimes, stands'⟩ := induction here ranRest
          refine ⟨early ++ late, finish, beaten.trans second, ?_, stands'⟩
          rw [List.map_append, times, laterTimes, ← sameSymbols]
          rfl

/-- The cycles of a symbol in collections that have returned. -/
structure CyclesOf (env : Environment) (settings : MarketDataSettings)
    (logicalSymbol : String) (start : World) (reports : List CollectReport) (after : World)
    (entries : List CycleEntry) : Prop where
  run : ∃ finish, CycleRun env settings logicalSymbol start.store entries finish ∧
    Stands finish after
  times : entries.map CycleEntry.observedNow = observedTimes logicalSymbol reports

/-- Collections that return are cycles, at the times that they report. -/
theorem exists_cyclesOf
    {calls : List CollectCall} {start after : World} {reports : List CollectReport}
    (ran : runCollections env settings calls start = some (reports, after))
    (logicalSymbol : String) :
    ∃ entries, CyclesOf env settings logicalSymbol start reports after entries := by
  obtain ⟨entries, finish, run, times, stands⟩ :=
    cycleRun_of_collections (show Stands start.store start from at_self start) ran logicalSymbol
  exact ⟨entries, ⟨finish, run, stands⟩, times⟩

/-- The first cycle starts at the first time, from the positions of the start. -/
theorem CyclesOf.first
    {start after : World} {reports : List CollectReport} {entries : List CycleEntry}
    (cycles : CyclesOf env settings logicalSymbol start reports after entries) {time : Int}
    (isFirst : (observedTimes logicalSymbol reports).head? = some time) :
    ∀ first ∈ entries.head?, first.observedNow = time ∧
      ∀ key : CursorKey, key.logicalSymbol = logicalSymbol →
        first.store.tables.getCursor key = start.tables.getCursor key := by
  intro first member
  rw [← cycles.times, List.head?_map, Option.mem_def.mp member] at isFirst
  obtain ⟨finish, run, -⟩ := cycles.run
  exact ⟨Option.some.inj isFirst,
    fun key ofSymbol => (run.firstCursor ofSymbol).2 first member⟩

theorem CyclesOf.last
    {start after : World} {reports : List CollectReport} {entries : List CycleEntry}
    (cycles : CyclesOf env settings logicalSymbol start reports after entries) {time : Int}
    (isLast : (observedTimes logicalSymbol reports).getLast? = some time) :
    ∃ last, entries.getLast? = some last ∧ last.observedNow = time := by
  rw [← cycles.times, List.getLast?_map] at isLast
  exact Option.map_eq_some_iff.mp isLast

end SuperAdvisor.MarketData
