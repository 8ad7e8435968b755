import SuperAdvisor.MarketData.System

/-!
# The calls move the stores by steps

Every call, whether it returns or raises, moves the stores by a run of steps; a
collection that returns has made one cycle for every symbol it reports.
-/

namespace SuperAdvisor.MarketData

open Raising

variable {env : Environment} {settings : MarketDataSettings} {store : Store}

/-- The symbol is visible, or the broker was asked to select it. -/
def SelectionOf (env : Environment) (symbol : ResolvedSymbol) (selection : Selection) : Prop :=
  if symbol.visible then selection.selected = true
  else ∃ moment, env.symbolSelect moment symbol.brokerSymbol = .ok selection.selected

/-- The replies are answers of the broker. -/
structure SymbolReplies.Answers (env : Environment) (settings : MarketDataSettings)
    (replies : SymbolReplies) : Prop where
  discovered : ∃ moment, env.symbolsGet moment = .ok (some replies.discovered)
  selections : List.Forall₂ (SelectionOf env)
    (replies.matched env.library settings.symbols).1 replies.selections

/-- The symbols that come out of the replies. -/
def SymbolReplies.finalized (library : MarketLibrary) (settings : MarketDataSettings)
    (replies : SymbolReplies) : List ResolvedSymbol :=
  List.zipWith (fun symbol selection => { symbol with visible := selection.selected })
    (replies.matched library settings.symbols).1 replies.selections

namespace Service

private theorem ensures_finalizeSymbol {symbol : ResolvedSymbol} :
    Ensures (Stands store) (finalizeSymbol env settings symbol)
      (fun result world => (∃ selection, SelectionOf env symbol selection ∧
          result = ({ symbol with visible := selection.selected },
            selection.incidents symbol)) ∧
        Stands store world)
      (fun _ => Stands store) := by
  unfold finalizeSymbol SelectionOf
  split
  next visible =>
    have same : { symbol with visible := true } = symbol := by
      rw [← visible]
    exact ensures_pure (fun _ known => ⟨⟨⟨true, fun _ => 0⟩, rfl,
      Prod.ext same.symm rfl⟩, known⟩)
  next =>
    refine ensures_bind (ensures_retryRun ensures_ask _) ?_
    intro selected
    refine ensures_of_exists (fun moment => ?_)
    refine ensures_of_fact (fun answered => ?_)
    refine ensures_of_later (Nat.le_succ_of_le answered.2) ?_
    refine ensures_bind ensures_incidentClock ?_
    intro readClock
    exact ensures_pure (fun _ known =>
      ⟨⟨⟨selected, readClock⟩, ⟨moment, answered.1⟩, rfl⟩, known⟩)

private theorem exists_selections
    {found : List ResolvedSymbol} {results : List (ResolvedSymbol × List QualityIncident)}
    (finalizes : List.Forall₂ (fun symbol result => ∃ selection, SelectionOf env symbol selection ∧
      result = ({ symbol with visible := selection.selected }, selection.incidents symbol))
      found results) :
    ∃ selections, List.Forall₂ (SelectionOf env) found selections ∧
      results = List.zipWith (fun symbol selection =>
        ({ symbol with visible := selection.selected }, selection.incidents symbol))
        found selections := by
  induction finalizes with
  | nil => exact ⟨[], .nil, rfl⟩
  | cons here _ induction =>
      obtain ⟨selection, selected, rfl⟩ := here
      obtain ⟨selections, rest, rfl⟩ := induction
      exact ⟨selection :: selections, .cons selected rest, rfl⟩

/-- Resolving symbols changes no store, and its results come from the broker. -/
theorem ensures_resolveSymbols_replies :
    Ensures (Stands store) (resolveSymbols env settings)
      (fun result world => (∃ replies : SymbolReplies, replies.Answers env settings ∧
          result = (replies.finalized env.library settings,
            replies.incidents env.library settings.symbols)) ∧
        Stands store world)
      (fun _ => Stands store) := by
  refine ensures_bind (ensures_retryRun ensures_askPayload _) ?_
  intro discovered
  refine ensures_of_exists (fun moment => ?_)
  refine ensures_of_fact (fun answered => ?_)
  refine ensures_of_later (Nat.le_succ_of_le answered.2) ?_
  refine ensures_bind ensures_incidentClock ?_
  intro readClock
  refine ensures_bind
    (ensures_mapM_forall₂ (fun symbol _ => ensures_finalizeSymbol)) ?_
  intro finalized
  refine ensures_of_fact (fun finalizes => ?_)
  refine ensures_pure (fun world known => ⟨?_, known⟩)
  obtain ⟨selections, selected, rfl⟩ := exists_selections finalizes
  refine ⟨⟨discovered, readClock, selections⟩, ⟨⟨moment, answered.1⟩, selected⟩, ?_⟩
  simp only [List.map_zipWith, List.flatMap]
  rfl

/-- Every symbol of the result comes from the broker. -/
theorem ensures_resolveSymbols :
    Ensures (Stands store) (resolveSymbols env settings)
      (fun result world => (∀ symbol ∈ result.1, Resolves env settings symbol) ∧
        Stands store world)
      (fun _ => Stands store) := by
  refine ensures_weaken ensures_resolveSymbols_replies (fun _ known => known) ?_
    (fun _ _ known => known)
  intro result world known
  obtain ⟨⟨replies, answers, rfl⟩, stands⟩ := known
  refine ⟨?_, stands⟩
  intro symbol member
  obtain ⟨moment, replied⟩ := answers.discovered
  unfold SymbolReplies.finalized at member
  rw [← List.map_uncurry_zip_eq_zipWith] at member
  obtain ⟨pair, inside, rfl⟩ := List.mem_map.mp member
  exact ⟨moment, replies.discovered, replies.readClock, replied, pair.1,
    (List.of_mem_zip inside).1, rfl⟩

theorem ensures_resolveSymbol {logicalSymbol : String} :
    Ensures (Stands store) (resolveSymbol env settings logicalSymbol)
      (fun symbol world => (Resolves env settings symbol ∧
          env.library.upper symbol.logicalSymbol = env.library.upper logicalSymbol) ∧
        Stands store world)
      (fun _ => Stands store) := by
  refine ensures_bind ensures_resolveSymbols ?_
  intro result
  refine ensures_of_fact (fun resolves => ?_)
  obtain ⟨resolved, incidents⟩ := result
  dsimp only
  split
  next symbol found =>
    exact ensures_pure (fun _ known => ⟨⟨resolves symbol (List.mem_of_find?_eq_some found),
      by simpa using List.find?_some found⟩, known⟩)
  next => exact ensures_throw (fun _ known => known)

/-- The event of a cycle of a symbol. -/
def IsCycleOf (observedNow : Int) (symbol : ResolvedSymbol) (event : StoreEvent) : Prop :=
  ∃ cycle incidents, event = .cycle symbol observedNow cycle incidents

theorem ensures_collectSymbol_moved
    {symbol : ResolvedSymbol} {observedNow : Int}
    (resolves : Resolves env settings symbol) :
    Ensures (Stands store) (collectSymbol env settings symbol observedNow false)
      (fun _ world => ∃ event after,
        (IsCycleOf observedNow symbol event ∧ StoreStep env settings store event after) ∧
        Stands after world)
      (fun _ => Moved env settings store) := by
  refine ensures_weaken ensures_collectSymbol (fun _ known => known) ?_
    (fun _ _ kept => moved_of_kept kept)
  intro report world known
  obtain ⟨cycle, ⟨describes, -, -⟩, here⟩ := known
  exact ⟨_, _, ⟨⟨cycle, report.incidents, rfl⟩, .cycle resolves describes⟩, here⟩

/-- The cycles of a collection. -/
structure Collects (env : Environment) (settings : MarketDataSettings) (store : Store)
    (observedNow : Int) (symbols : List ResolvedSymbol) (events : List StoreEvent)
    (after : Store) : Prop where
  resolves : ∀ symbol ∈ symbols, Resolves env settings symbol
  cycles : List.Forall₂ (IsCycleOf observedNow) symbols events
  run : StoreRun env settings store events after

private theorem ensures_collectSymbols
    {symbols : List ResolvedSymbol} {observedNow : Int}
    (resolves : ∀ symbol ∈ symbols, Resolves env settings symbol) :
    Ensures (Stands store)
      (symbols.mapM (fun symbol => collectSymbol env settings symbol observedNow false))
      (fun _ world => ∃ events after,
        Collects env settings store observedNow symbols events after ∧ Stands after world)
      (fun _ => Moved env settings store) := by
  refine ensures_weaken
    (ensures_mapM (fun early _ world => ∃ events after,
      Collects env settings store observedNow early events after ∧ Stands after world) ?_)
    (fun _ known => ⟨[], store, ⟨by simp, .nil, .start⟩, known⟩) (fun _ _ known => known)
    (fun _ _ known => known)
  intro early symbol late reports shape
  refine ensures_of_exists (fun events => ?_)
  refine ensures_of_exists (fun middle => ?_)
  refine ensures_of_fact (fun before => ?_)
  have resolved := resolves symbol (by simp [shape])
  refine ensures_weaken (ensures_collectSymbol_moved resolved) (fun _ known => known) ?_
    (fun _ _ moved => Moved.trans before.run moved)
  intro report world known
  obtain ⟨event, after, ⟨isCycle, step⟩, stands⟩ := known
  refine ⟨events ++ [event], after, ⟨?_, ?_, .step before.run step⟩, stands⟩
  · intro other member
    rcases List.mem_append.mp member with earlier | last
    · exact before.resolves other earlier
    · exact List.mem_singleton.mp last ▸ resolved
  · exact List.rel_append before.cycles (.cons isCycle .nil)

private theorem ensures_collectSymbols_dryRun
    {symbols : List ResolvedSymbol} {observedNow : Int} :
    Ensures (Stands store)
      (symbols.mapM (fun symbol => collectSymbol env settings symbol observedNow true))
      (fun _ => Stands store)
      (fun _ => Kept store.tables store.files store.moment) := by
  refine ensures_mapM (fun _ _ => Stands store) ?_
  intro early symbol late reports shape
  refine ensures_weaken ensures_collectSymbol (fun _ known => known) ?_ (fun _ _ kept => kept)
  intro report world known
  obtain ⟨cycle, ⟨describes, -, -⟩, here⟩ := known
  exact here.weaken (Nat.le_succ_of_le
    (Nat.le_trans describes.ticks.earliest (Nat.le_of_lt describes.ticks.ordered)))

/-- What a collection that returns has done: one cycle for every symbol that
it reports, and a heartbeat. -/
def Collected (env : Environment) (settings : MarketDataSettings) (store : Store)
    (report : CollectReport) (world : World) : Prop :=
  if report.dryRun then Stands store world
  else
    ∃ symbols events middle record, report.symbols = symbols.map ResolvedSymbol.logicalSymbol ∧
      Collects env settings store report.observedAtUtc symbols events middle ∧
      Stands { middle with tables := middle.tables.recordHeartbeat record } world

private theorem ensures_observedAt {now : Option Int} :
    Ensures (Stands store) (observedAt env now)
      (fun observedNow world => (∀ given, now = some given → observedNow = given) ∧
        Stands store world)
      (fun _ => Stands store) := by
  cases now with
  | some now => exact ensures_pure (fun _ known => ⟨fun given same => Option.some.inj same, known⟩)
  | none =>
      exact ensures_weaken ensures_utcNow (fun _ known => known)
        (fun _ _ known => ⟨by simp, known⟩) (fun _ _ known => known)

section Collections

variable {ran : Int → List ResolvedSymbol → List StoreEvent → Store → Prop}
  {raised : World → Prop}

/-- What the loop over the symbols ensures, a collection ensures. -/
theorem ensures_collectOnce_of
    (symbolFilter : Option (List String)) (now : Option Int) (dryRun : Option Bool)
    (kept : ∀ world, Kept store.tables store.files store.moment world → raised world)
    (stopped : ∀ observedNow symbols events middle, ran observedNow symbols events middle →
      ∀ world, Stands middle world → raised world)
    (collects : ∀ observedNow symbols, (∀ symbol ∈ symbols, Resolves env settings symbol) →
      Ensures (Stands store)
        (symbols.mapM (fun symbol => collectSymbol env settings symbol observedNow false))
        (fun _ world => ∃ events middle, ran observedNow symbols events middle ∧
          Stands middle world)
        (fun _ => raised)) :
    Ensures (Stands store) (collectOnce env settings symbolFilter now dryRun)
      (fun report world =>
        (report.dryRun = dryRun.getD settings.dryRunDefault ∧
          ∀ given, now = some given → report.observedAtUtc = given) ∧
        if report.dryRun then Stands store world
        else
          ∃ symbols events middle record,
            report.symbols = symbols.map ResolvedSymbol.logicalSymbol ∧
              ran report.observedAtUtc symbols events middle ∧
              Stands { middle with tables := middle.tables.recordHeartbeat record } world)
      (fun _ => raised) := by
  have still : ∀ (problem : MarketProblem) world, Stands store world → raised world :=
    fun _ world stands => kept world stands.kept
  refine ensures_bind
    (ensures_weaken ensures_observedAt (fun _ known => known) (fun _ _ known => known) still) ?_
  intro observedNow
  refine ensures_of_fact (fun given => ?_)
  refine ensures_bind
    (ensures_weaken ensures_resolveSymbols (fun _ known => known) (fun _ _ known => known)
      still) ?_
  intro result
  refine ensures_of_fact (fun resolves => ?_)
  obtain ⟨allResolved, incidents⟩ := result
  have wanted : ∀ symbol ∈ wantedSymbols env symbolFilter allResolved,
      Resolves env settings symbol := by
    intro symbol member
    unfold wantedSymbols at member
    split at member
    · exact resolves symbol member
    · exact resolves symbol (List.mem_filter.mp member).1
  dsimp only
  cases effective : dryRun.getD settings.dryRunDefault with
  | true =>
      refine ensures_bind
        (ensures_weaken ensures_collectSymbols_dryRun (fun _ known => known)
          (fun _ _ known => known) (fun _ => kept)) ?_
      intro reports
      refine ensures_pure (fun world known => ⟨⟨rfl, ?_⟩, known⟩)
      exact given
  | false =>
      refine ensures_bind (collects observedNow _ wanted) ?_
      intro reports
      refine ensures_of_exists (fun events => ?_)
      refine ensures_of_exists (fun middle => ?_)
      refine ensures_of_fact (fun collected => ?_)
      refine ensures_bind
        (ensures_weaken (ensures_transaction (fun _ committed => ∃ record,
          committed = middle.tables.recordHeartbeat record) ?_) (fun _ known => known)
          (fun _ _ known => known) (fun _ => stopped _ _ _ _ collected)) ?_
      · refine ensures_weaken ensures_statement (fun _ known => known) ?_
          (fun _ _ known => known)
        intro _ world known
        exact ⟨_, ⟨_, rfl⟩, known⟩
      · intro _
        refine ensures_of_exists (fun committed => ?_)
        refine ensures_of_fact (fun heartbeat => ?_)
        obtain ⟨record, rfl⟩ := heartbeat
        refine ensures_pure (fun world known => ⟨⟨rfl, given⟩, ?_⟩)
        exact ⟨wantedSymbols env symbolFilter allResolved, events, middle, record, rfl,
          collected, known⟩

end Collections

theorem ensures_collectOnce
    (env : Environment) (settings : MarketDataSettings) (symbolFilter : Option (List String))
    (now : Option Int) (dryRun : Option Bool) :
    Ensures (Stands store) (collectOnce env settings symbolFilter now dryRun)
      (fun report world =>
        (report.dryRun = dryRun.getD settings.dryRunDefault ∧
          ∀ given, now = some given → report.observedAtUtc = given) ∧
        Collected env settings store report world)
      (fun _ => Moved env settings store) := by
  apply @ensures_collectOnce_of _ _ _ (Collects env settings store)
  · exact fun _ kept => moved_of_kept kept
  · exact fun _ _ _ _ collects _ stands => Moved.trans collects.run (moved_of_stands stands)
  · exact fun _ _ resolves => ensures_collectSymbols resolves

/-! Backfills. -/

theorem nextStart_upsert
    (tables : Tables) (run : BackfillRun) (next : Int) (status : BackfillStatus)
    (lastError : Option String) :
    nextStart env (tables.upsertBackfillState (run.state env.library next status lastError))
      run = next := by
  unfold nextStart Tables.getBackfillState Tables.upsertBackfillState
  rw [show (run.state env.library next status lastError).runKey = run.runKey env.library
    from rfl, OrderedDict.get?_set_self]
  split <;> rfl

theorem backfillState_of_chunkCommitted
    {tables committed : Tables} {logicalSymbol : String} {timeframe : Timeframe}
    {bars : List BarRecord}
    (changed : ChunkCommitted tables logicalSymbol timeframe bars committed) :
    committed.backfillState = tables.backfillState := by
  unfold ChunkCommitted at changed
  split at changed
  · rw [changed]
  · obtain ⟨incidents, rfl⟩ := changed
    rw [Tables.recordIncidents_backfillState, Tables.replaceRows_backfillState]

theorem nextStart_congr
    (env : Environment) {first second : Tables} (same : first.backfillState = second.backfillState)
    (run : BackfillRun) : nextStart env first run = nextStart env second run := by
  unfold nextStart Tables.getBackfillState
  rw [same]

/-- The stores have moved by a run after which a backfill goes on from `next`. -/
def MovedTo (env : Environment) (settings : MarketDataSettings) (store : Store)
    (run : BackfillRun) (next : Int) (world : World) : Prop :=
  ∃ events after, (StoreRun env settings store events after ∧
    nextStart env after.tables run = next) ∧ Stands after world

theorem MovedTo.moved
    {run : BackfillRun} {next : Int} {world : World}
    (movedTo : MovedTo env settings store run next world) : Moved env settings store world := by
  obtain ⟨events, after, ⟨steps, -⟩, stands⟩ := movedTo
  exact ⟨events, after, steps, stands⟩

section Backfill

variable {run : BackfillRun} {start chunkEnd : Int}

/-- What holds when a chunk is about to be read. -/
structure Ready (env : Environment) (settings : MarketDataSettings) (tables : Tables)
    (run : BackfillRun) (start : Int) : Prop where
  stored : run.dryRun = false
  resolved : Resolves env settings run.resolved
  nonempty : run.observedStart < run.observedEnd
  start : nextStart env tables run = start

private theorem ensures_backfillChunk
    (ready : Ready env settings store.tables run start) (unfinished : start < run.observedEnd)
    (window : chunkEnd = advanceWindow start run.observedEnd run.timeframe
      settings.barLookbackCount) :
    Ensures (Stands store) (backfillChunk env settings run start chunkEnd)
      (fun _ => MovedTo env settings store run chunkEnd)
      (fun _ => MovedTo env settings store run start) := by
  have unmoved : ∀ (problem : MarketProblem) world, Stands store world →
      MovedTo env settings store run start world :=
    fun _ _ stands => ⟨[], store, ⟨.start, ready.start⟩, stands⟩
  refine ensures_bind
    (ensures_weaken ensures_loadBars (fun _ known => known) (fun _ _ known => known)
      unmoved) ?_
  intro records
  refine ensures_of_exists (fun moment => ?_)
  refine ensures_of_exists (fun payload => ?_)
  refine ensures_of_fact (fun answered => ?_)
  obtain ⟨later, replied, made⟩ := answered
  refine ensures_weaken ?_
    (fun _ (known : At store.tables store.files (moment + 1) _) =>
      (known.weaken (Nat.le_succ_of_le later) : Stands store _))
    (fun _ _ known => known) (fun _ _ known => known)
  refine ensures_bind ensures_incidentClock ?_
  intro readClock
  have chunk : ChunkOf env settings store.tables run
      ⟨run.timeframe, start, moment, payload, records, readClock⟩ chunkEnd :=
    ⟨ready.resolved, ready.nonempty, rfl, ready.start.symm, unfinished, window,
      ⟨Nat.zero_le _, replied, made⟩⟩
  simp only [ready.stored, Bool.false_eq_true, if_false]
  refine ensures_bind
    (ensures_weaken ensures_commitBars (fun _ known => known) (fun _ _ known => known) ?_) ?_
  · intro _ world kept
    obtain ⟨more, grown⟩ := kept.files
    exact ⟨[.wrote more], { store with files := store.files ++ more },
      ⟨.step .start .wrote, ready.start⟩, kept.tables, grown.symm, kept.earliest⟩
  · intro _
    refine ensures_of_exists (fun committed => ?_)
    refine ensures_of_fact (fun changed => ?_)
    -- the chunk is stored, so progress may be recorded
    have stored := StoreRun.step .start (.chunk chunk changed)
    have same := nextStart_congr env (backfillState_of_chunkCommitted changed) run
    have progress : ChunkOf env settings committed run _ chunkEnd :=
      { chunk with start := chunk.start.trans same.symm }
    have recorded := StoreRun.step stored
      (.progressed progress (List.suffix_append _ _).isInfix)
    refine ensures_bind
      (ensures_weaken (ensures_transaction (fun _ changed => changed =
        committed.upsertBackfillState (run.state env.library chunkEnd
          (if chunkEnd < run.observedEnd then .running else .complete) none)) ?_)
        (fun _ known => known) (fun _ _ known => known) ?_) ?_
    · refine ensures_weaken ensures_statement (fun _ known => known) ?_
        (fun _ _ known => known)
      intro _ world known
      exact ⟨_, rfl, known⟩
    · intro _ world known
      exact ⟨_, _, ⟨stored, same.trans ready.start⟩, known⟩
    · intro _
      refine ensures_of_exists (fun last => ?_)
      refine ensures_of_fact (fun upserted => ?_)
      subst upserted
      refine ensures_pure (fun world known => ?_)
      exact ⟨_, _, ⟨recorded, nextStart_upsert _ _ _ _ _⟩, known⟩

private theorem ensures_backfillFailed
    {problem : MarketProblem}
    (ready : Ready env settings store.tables run start) (unfinished : start < run.observedEnd) :
    Ensures (Stands store) (backfillFailed env run start problem)
      (fun _ _ => False) (fun _ => MovedTo env settings store run start) := by
  unfold backfillFailed
  simp only [ready.stored, Bool.false_eq_true, if_false]
  have failed : StoreRun env settings store [.failed run problem] _ :=
    .step .start (.failed ready.nonempty (by rw [ready.start]; exact unfinished))
  rw [ready.start] at failed
  refine ensures_bind
    (ensures_weaken (ensures_transaction (fun _ changed => changed =
      store.tables.upsertBackfillState (run.state env.library start .failed
        (some problem.text))) ?_) (fun _ known => known) (fun _ _ known => known) ?_) ?_
  · refine ensures_weaken ensures_statement (fun _ known => known) ?_ (fun _ _ known => known)
    intro _ world known
    exact ⟨_, rfl, known⟩
  · intro _ world known
    exact ⟨[], store, ⟨.start, ready.start⟩, known⟩
  · intro _
    refine ensures_of_exists (fun changed => ?_)
    refine ensures_of_fact (fun upserted => ?_)
    subst upserted
    refine ensures_throw (fun world known => ?_)
    exact ⟨_, _, ⟨failed, nextStart_upsert _ _ _ _ _⟩, known⟩

/-- A loop that comes to its end has gone through the whole range. -/
private theorem ensures_backfillLoop
    (fuel : Nat) (ready : Ready env settings store.tables run start) :
    Ensures (Stands store) (backfillLoop env settings run fuel start)
      (fun result world => ∃ next,
        (result.isSome = true → run.observedEnd ≤ next) ∧
          MovedTo env settings store run next world)
      (fun _ => Moved env settings store) := by
  induction fuel generalizing store start with
  | zero =>
      refine ensures_pure (fun world known => ⟨start, ?_, [], store, ⟨.start, ready.start⟩, known⟩)
      intro finished
      by_contra unfinished
      rw [if_pos (Int.not_le.mp unfinished)] at finished
      cases finished
  | succ fuel induction =>
      unfold backfillLoop
      by_cases unfinished : start < run.observedEnd
      · rw [if_pos unfinished]
        refine ensures_bind
          (ensures_tryCatch (ensures_backfillChunk ready unfinished rfl) ?_) ?_
        · intro problem
          refine ensures_of_exists (fun events => ?_)
          refine ensures_of_exists (fun middle => ?_)
          refine ensures_of_fact (fun reached => ?_)
          have still : Ready env settings middle.tables run start :=
            { ready with start := reached.2 }
          refine ensures_weaken (ensures_backfillFailed still unfinished)
            (fun _ known => known) (fun _ _ impossible => impossible.elim) ?_
          intro _ world movedTo
          exact Moved.trans reached.1 movedTo.moved
        · intro chunk
          refine ensures_of_exists (fun events => ?_)
          refine ensures_of_exists (fun middle => ?_)
          refine ensures_of_fact (fun reached => ?_)
          have again : Ready env settings middle.tables run _ :=
            { ready with start := reached.2 }
          refine ensures_bind
            (ensures_weaken (induction again) (fun _ known => known) (fun _ _ known => known)
              (fun _ _ moved => Moved.trans reached.1 moved)) ?_
          intro rest
          refine ensures_pure (fun world known => ?_)
          obtain ⟨next, finished, later, after, ⟨steps, goesOn⟩, stands⟩ := known
          refine ⟨next, ?_, _, after, ⟨reached.1.trans steps, goesOn⟩, stands⟩
          intro done
          exact finished (by simpa using done)
      · rw [if_neg unfinished]
        exact ensures_pure (fun world known => ⟨start, fun _ => Int.not_lt.mp unfinished,
          [], store, ⟨.start, ready.start⟩, known⟩)

private theorem ensures_backfillLoop_dryRun
    (fuel : Nat) (dry : run.dryRun = true) :
    Ensures (Stands store) (backfillLoop env settings run fuel start)
      (fun _ => Stands store) (fun _ => Stands store) := by
  induction fuel generalizing start with
  | zero => exact ensures_pure (fun _ known => known)
  | succ fuel induction =>
      unfold backfillLoop
      split
      · refine ensures_bind (?_ : Ensures _ _ (fun _ => Stands store) _) ?_
        refine ensures_tryCatch (?_ : Ensures _ _ _ (fun _ => Stands store)) ?_
        · refine ensures_bind ensures_loadBars ?_
          intro records
          refine ensures_of_exists (fun moment => ?_)
          refine ensures_of_exists (fun payload => ?_)
          refine ensures_of_fact (fun answered => ?_)
          refine ensures_of_later (Nat.le_succ_of_le answered.1) ?_
          refine ensures_bind ensures_incidentClock ?_
          intro readClock
          simp only [dry, if_true]
          exact ensures_pure (fun _ known => known)
        · intro problem
          unfold backfillFailed
          simp only [dry, if_true]
          exact ensures_throw (fun _ known => known)
        · intro chunk
          refine ensures_bind induction ?_
          intro rest
          exact ensures_pure (fun _ known => known)
      · exact ensures_pure (fun _ known => known)

/-- What a backfill that has come to its end was asked for, and where it is. -/
structure Finished (env : Environment) (settings : MarketDataSettings) (tables : Tables)
    (canonicalSymbol timeframe : String) (startAt endAt : Int) (run : BackfillRun) : Prop where
  resolved : Resolves env settings run.resolved
  symbol : env.library.upper run.resolved.logicalSymbol = env.library.upper canonicalSymbol
  timeframe : Timeframe.ofText timeframe = .ok run.timeframe
  observedStart : run.observedStart = startAt
  observedEnd : run.observedEnd = endAt
  nonempty : startAt < endAt
  finished : endAt ≤ nextStart env tables run

theorem ensures_backfill
    (env : Environment) (settings : MarketDataSettings) (fuel : Nat)
    (canonicalSymbol timeframe : String) (startAt endAt : Int) (dryRun : Option Bool) :
    Ensures (Stands store)
      (backfill env settings fuel canonicalSymbol timeframe startAt endAt dryRun)
      (fun result world => ∃ events after, (StoreRun env settings store events after ∧
          ∀ report, result = some report →
            report.run.dryRun = dryRun.getD settings.dryRunDefault ∧
            (report.run.dryRun = false → Finished env settings after.tables canonicalSymbol
              timeframe startAt endAt report.run)) ∧
        Stands after world)
      (fun _ => Moved env settings store) := by
  unfold backfill
  split
  next => exact ensures_throw (fun _ stands => moved_of_stands stands)
  next nonempty =>
    refine ensures_bind
      (ensures_ofExcept (fun _ _ parsed stands => ⟨parsed, stands⟩)
        (fun _ _ _ stands => moved_of_stands stands) :
          Ensures _ _ (fun timeframeValue world =>
            Timeframe.ofText timeframe = .ok timeframeValue ∧ Stands store world) _) ?_
    intro timeframeValue
    refine ensures_of_fact (fun parsed => ?_)
    refine ensures_bind
      (ensures_weaken ensures_resolveSymbol (fun _ known => known) (fun _ _ known => known)
        (fun _ _ stands => moved_of_stands stands)) ?_
    intro resolved
    refine ensures_of_fact (fun resolves => ?_)
    refine ensures_bind
      (ensures_weaken ensures_query (fun _ known => known) (fun _ _ known => known)
        (fun _ _ stands => moved_of_stands stands)) ?_
    intro state
    refine ensures_of_fact (fun read => ?_)
    subst read
    cases effective : dryRun.getD settings.dryRunDefault with
    | true =>
        refine ensures_bind
          (ensures_weaken (ensures_backfillLoop_dryRun fuel rfl) (fun _ known => known)
            (fun _ _ known => known) (fun _ _ stands => moved_of_stands stands)) ?_
        intro done
        refine ensures_pure (fun world known => ⟨[], store, ⟨.start, ?_⟩, known⟩)
        intro report same
        obtain ⟨result, -, rfl⟩ := Option.map_eq_some_iff.mp same
        exact ⟨rfl, fun stored => nomatch stored⟩
    | false =>
        refine ensures_bind
          (ensures_backfillLoop fuel ⟨rfl, resolves.1, Int.not_le.mp nonempty, rfl⟩) ?_
        intro done
        refine ensures_pure (fun world known => ?_)
        obtain ⟨next, finished, events, after, ⟨steps, goesOn⟩, stands⟩ := known
        refine ⟨events, after, ⟨steps, ?_⟩, stands⟩
        intro report same
        obtain ⟨result, here, rfl⟩ := Option.map_eq_some_iff.mp same
        refine ⟨rfl, fun _ => ⟨resolves.1, resolves.2, parsed, rfl, rfl,
          Int.not_le.mp nonempty, ?_⟩⟩
        exact goesOn ▸ finished (by rw [here]; rfl)

end Backfill

end Service

/-! Sequences of calls. -/

inductive Call where
  | collectOnce (symbolFilter : Option (List String)) (now : Option Int)
      (dryRun : Option Bool)
  | backfill (canonicalSymbol timeframe : String) (startAt endAt : Int)
      (dryRun : Option Bool)

/-- The stores of a first start. -/
def freshWorld : World :=
  { moment := 0
    tables := {}
    working := {}
    files := [] }

def freshStore : Store :=
  { moment := 0
    tables := {}
    files := [] }

/-- Where a computation leaves the world, also when it raises. -/
def worldAfter {α : Type} (program : Market α) (world : World) : World :=
  match program.run world with
  | .ok _ after => after
  | .error _ after => after

def Call.perform (env : Environment) (settings : MarketDataSettings) (fuel : Nat)
    (world : World) : Call → World
  | .collectOnce symbolFilter now dryRun =>
      worldAfter (Service.collectOnce env settings symbolFilter now dryRun) world
  | .backfill canonicalSymbol timeframe startAt endAt dryRun =>
      worldAfter (Service.backfill env settings fuel canonicalSymbol timeframe startAt endAt
        dryRun) world

def runCalls (env : Environment) (settings : MarketDataSettings) (fuel : Nat)
    (calls : List Call) (world : World) : World :=
  calls.foldl (Call.perform env settings fuel) world

theorem worldAfter_of_ensures
    {α : Type} {pre holds : World → Prop} {program : Market α}
    (ensures : Ensures pre program (fun _ => holds) (fun _ => holds)) {world : World}
    (initial : pre world) : holds (worldAfter program world) := by
  have known := ensures world initial
  unfold worldAfter
  split
  next after ran =>
    rw [ran] at known
    exact known
  next after ran =>
    rw [ran] at known
    exact known

theorem moved_of_call
    (fuel : Nat) (call : Call) {world : World} (stands : Stands store world) :
    Moved env settings store (call.perform env settings fuel world) := by
  cases call with
  | collectOnce symbolFilter now dryRun =>
      refine worldAfter_of_ensures (ensures_weaken
        (Service.ensures_collectOnce env settings symbolFilter now dryRun)
        (fun _ known => known) ?_ (fun _ _ moved => moved)) stands
      intro report after known
      obtain ⟨-, collected⟩ := known
      unfold Service.Collected at collected
      split at collected
      next => exact moved_of_stands collected
      next =>
        obtain ⟨_, events, middle, record, -, collects, here⟩ := collected
        exact ⟨_, _, .step collects.run .heartbeat, here⟩
  | backfill canonicalSymbol timeframe startAt endAt dryRun =>
      refine worldAfter_of_ensures (ensures_weaken
        (Service.ensures_backfill env settings fuel canonicalSymbol timeframe startAt endAt
          dryRun) (fun _ known => known) ?_ (fun _ _ moved => moved)) stands
      intro result after known
      obtain ⟨events, last, ⟨steps, -⟩, here⟩ := known
      exact ⟨events, last, steps, here⟩

/-- Every sequence of calls is a run of steps. -/
theorem moved_of_calls
    (fuel : Nat) (calls : List Call) {world : World} (stands : Stands store world) :
    Moved env settings store (runCalls env settings fuel calls world) := by
  induction calls generalizing store world with
  | nil => exact moved_of_stands stands
  | cons call calls induction =>
      obtain ⟨events, after, steps, here⟩ : Moved env settings store _ :=
        moved_of_call fuel call stands
      exact Moved.trans steps (induction here)

theorem stands_fresh : Stands freshStore freshWorld :=
  at_self freshWorld

/-! A broker with one symbol, whose calls succeed. -/

/-- Digests are the texts themselves. -/
def plainLibrary : MarketLibrary :=
  { upper := fun text => String.ofList (text.toList.map Char.toUpper)
    isAlphanumeric := Char.isAlphanum
    spreadPoints := fun bid ask point => roundHalfEven ((ask - bid) / point)
    fileChecksum := fun dataset symbol timeframe day firstId lastId count =>
      String.ofList (JsonText.render false (.array
        [.string dataset, .string symbol, .string timeframe, .int day, .string firstId,
          .string lastId, .int count]))
    backfillDigest := fun symbol timeframe start finish =>
      String.ofList (JsonText.render false (.array
        [.string symbol, .string timeframe, .int start, .int finish])) }

def goldSettings : MarketDataSettings :=
  { symbols := [⟨"XAUUSD", []⟩]
    timeframes := [.M1]
    tickLookbackSeconds := 60
    barLookbackCount := 1
    freshnessThresholdSeconds := 300
    retryMaxAttempts := 1
    dryRunDefault := false }

/-- The broker has the ticks known at a step and the bars of a history. -/
def goldBroker (ticks : Nat → List TickPayload) (bars : List BarPayload) : Environment :=
  { library := plainLibrary
    utcNow := fun _ => 0
    incidentClock := fun _ _ => 0
    fault := fun _ => none
    initializes := fun _ => .ok true
    lastError := fun _ => ""
    symbolsGet := fun _ => .ok (some [⟨"XAUUSD", "Gold", true, 1 / 100, 2⟩])
    symbolSelect := fun _ _ => .ok true
    copyTicksRange := fun moment _ start finish =>
      .ok (some ((ticks moment).filter (fun item =>
        start ≤ ofMilliseconds item.marketTimeMsc ∧
          ofMilliseconds item.marketTimeMsc ≤ finish)))
    symbolInfoTick := fun moment _ => .ok (ticks moment).getLast?
    copyRatesRange := fun _ _ _ start finish =>
      .ok (some (bars.filter (fun item => start ≤ item.openTime ∧ item.openTime ≤ finish))) }

def goldSymbol : ResolvedSymbol :=
  { logicalSymbol := "XAUUSD"
    brokerSymbol := "XAUUSD"
    aliases := []
    description := "Gold"
    point := 1 / 100
    digits := 2
    visible := true }

theorem resolves_gold (ticks : Nat → List TickPayload) (bars : List BarPayload) :
    Resolves (goldBroker ticks bars) goldSettings goldSymbol :=
  ⟨0, _, fun _ => 0, rfl, goldSymbol,
    (show goldSymbol ∈ (MarketData.resolveSymbols plainLibrary (fun _ => 0)
      goldSettings.symbols [⟨"XAUUSD", "Gold", true, 1 / 100, 2⟩]).1 by decide +kernel), rfl⟩

def goldHeartbeat (tickCount barCount incidentCount : Nat) (observedAtUtc : Int) :
    HeartbeatRecord :=
  { collectorName := "market-data-collector"
    status := "ok"
    symbols := ["XAUUSD"]
    tickCount := tickCount
    barCount := barCount
    incidentCount := incidentCount
    observedAtUtc := observedAtUtc }

def goldTick (milliseconds : Int) : TickPayload :=
  { timeMsc := milliseconds
    time := 0
    bid := 2000
    ask := 2001
    last := 2000
    volume := 1
    volumeReal := 1
    flags := 0 }

def goldBar (seconds : Int) : BarPayload :=
  { time := seconds
    openPrice := 2000
    highPrice := 2002
    lowPrice := 1999
    closePrice := 2001
    tickVolume := 1
    realVolume := 1
    spread := 1 }

end SuperAdvisor.MarketData
