import SuperAdvisor.Foundation.Machine
import SuperAdvisor.MarketData.IncidentRows

/-!
# Reported incidents

Every call counts in the rows what it records.  A collection records what it
finds in the records of its symbols; the incidents of the symbols that it could
not resolve or select it only reports.
-/

namespace SuperAdvisor.MarketData

open Raising Service

variable {env : Environment} {settings : MarketDataSettings} {recorded : List QualityIncident}

/-! What a collection records. -/

section Symbols

variable {symbol : ResolvedSymbol} {observedNow : Int}

private theorem ensures_collectTimeframe_quality
    {gathered : GatheredBars} {timeframe : Timeframe} (quality : AllQuality gathered.incidents) :
    Ensures (fun _ => True) (collectTimeframe env settings symbol observedNow gathered timeframe)
      (fun next _ => AllQuality next.incidents) (fun _ _ => True) := by
  refine ensures_bind (ensures_any _) (fun barCursor => ?_)
  refine ensures_bind (ensures_any _) (fun timeframeBars => ?_)
  refine ensures_bind (ensures_any _) (fun readClock => ?_)
  exact ensures_pure (fun _ _ => allQuality_append
    (allQuality_append quality (allQuality_normalizeBarBatch _)) (allQuality_detectMissingBars _))

private theorem ensures_loadTicks_quality {startAt endAt : Int} :
    Ensures (fun _ => True) (loadTicks env settings symbol startAt endAt)
      (fun result _ => AllQuality result.2) (fun _ _ => True) := by
  refine ensures_of_at (fun world _ => ?_)
  refine ensures_weaken ensures_loadTicks (fun _ known => known) ?_ (fun _ _ _ => trivial)
  rintro result _ ⟨load, ⟨-, rfl⟩, -⟩
  exact allQuality_normalizeTickBatch _

private theorem ensures_commitSymbol_quality
    {ticks : List TickRecord} {bars : List BarRecord} {currentRows closedRows : BarRows}
    {incidents : List QualityIncident} (quality : AllQuality incidents) :
    Ensures (fun _ => True)
      (commitSymbol env symbol ticks bars currentRows closedRows incidents observedNow)
      (fun result _ => AllQuality result) (fun _ _ => True) := by
  refine ensures_of_at (fun world _ => ?_)
  refine ensures_weaken (ensures_commitSymbol env symbol ticks bars currentRows closedRows
    incidents observedNow) (fun _ known => known) ?_ (fun _ _ _ => trivial)
  rintro result _ ⟨found, ⟨mutations, rfl⟩, -⟩
  exact allQuality_append quality (allQuality_mutations mutations)

private theorem ensures_collectSymbol_quality {dryRun : Bool} :
    Ensures (fun _ => True) (collectSymbol env settings symbol observedNow dryRun)
      (fun report _ => AllQuality report.incidents) (fun _ _ => True) := by
  refine ensures_bind (ensures_any _) (fun tickCursor => ?_)
  refine ensures_bind ensures_loadTicks_quality (fun loaded => ?_)
  refine ensures_of_known (fun ticksQuality => ?_)
  refine ensures_bind
    (ensures_weaken (ensures_foldlM (fun _ gathered _ => AllQuality gathered.incidents) ?_)
      (fun _ _ => ticksQuality) (fun _ _ known => known) (fun _ _ known => known)) ?_
  · intro early timeframe late gathered shape
    exact ensures_of_known ensures_collectTimeframe_quality
  intro gathered
  refine ensures_of_known (fun barsQuality => ?_)
  have quality := allQuality_append barsQuality (allQuality_classifyFreshness observedNow
    loaded.1 gathered.bars settings.freshnessThresholdSeconds)
  cases dryRun with
  | true => exact ensures_pure (fun _ _ => quality)
  | false =>
      refine ensures_bind (ensures_commitSymbol_quality quality) (fun incidents => ?_)
      exact ensures_pure (fun _ known => known)

/-- What of a report is recorded. -/
def storedPart (dryRun : Bool) (incidents : List QualityIncident) : List QualityIncident :=
  if dryRun then [] else incidents

private theorem counts_committedTables
    {tables : Tables} (counts : tables.Counts recorded) (ticks : List TickRecord)
    (currentRows closedRows : BarRows) (incidents : List QualityIncident) :
    (committedTables tables symbol ticks currentRows closedRows incidents
      observedNow).Counts (recorded ++ incidents) := by
  refine Tables.counts_recordIncidents (counts.congr ?_) incidents
  rw [Tables.replaceRows_incidents, Tables.recordTicks_incidents]
  rfl

theorem ensures_collectSymbol_counts {dryRun : Bool} :
    Ensures (fun world => world.tables.Counts recorded)
      (collectSymbol env settings symbol observedNow dryRun)
      (fun report world => AllQuality report.incidents ∧
        world.tables.Counts (recorded ++ storedPart dryRun report.incidents))
      (fun _ world => world.tables.Counts recorded) := by
  refine ensures_of_at (fun world counts => ?_)
  refine ensures_weaken
    (ensures_and ensures_collectSymbol (ensures_weaken ensures_collectSymbol_quality
      (fun _ _ => trivial) (fun _ _ known => known) (fun _ _ known => known)))
    (fun _ known => known) ?_ ?_
  · rintro report after ⟨⟨cycle, -, stands⟩, quality⟩
    refine ⟨quality, ?_⟩
    cases dryRun with
    | true => simpa [storedPart, stands.tables] using counts
    | false =>
        rw [stands.tables]
        exact counts_committedTables counts _ _ _ _
  · rintro _ after ⟨kept, -⟩
    rw [kept.tables]
    exact counts

end Symbols

/-- The tables count recordings of the quality controls after the given ones. -/
def CountsMore (recorded : List QualityIncident) (world : World) : Prop :=
  ∃ more, AllQuality more ∧ world.tables.Counts (recorded ++ more)

theorem countsMore_of_counts
    {world : World} (counts : world.tables.Counts recorded) : CountsMore recorded world :=
  ⟨[], List.forall_mem_nil _, by simpa using counts⟩

/-- What keeps the stored tables keeps what they count. -/
private theorem ensures_counts
    {α : Type} {program : Market α}
    (keeps : ∀ store, Ensures (Stands store) program (fun _ => Stands store)
      (fun _ => Stands store)) :
    Ensures (fun world => world.tables.Counts recorded) program
      (fun _ world => world.tables.Counts recorded)
      (fun _ world => world.tables.Counts recorded) := by
  refine ensures_of_at (fun world counts => ?_)
  refine ensures_weaken (keeps ⟨world.moment, world.tables, world.files⟩) (fun _ known => known)
    ?_ ?_
  · exact fun _ after stands => stands.tables.symm ▸ counts
  · exact fun _ after stands => stands.tables.symm ▸ counts

/-- A transaction of one statement that is about another table. -/
private theorem ensures_otherStatement
    {change : Tables → Tables} (others : ∀ tables, (change tables).incidents = tables.incidents) :
    Ensures (fun world => world.tables.Counts recorded) (transaction env (statement env change))
      (fun _ world => world.tables.Counts recorded)
      (fun _ world => world.tables.Counts recorded) := by
  refine ensures_of_at (fun world counts => ?_)
  refine ensures_weaken
    (ensures_transaction (fun _ committed => committed = change world.tables) ?_)
    (fun _ known => known) ?_ ?_
  · refine ensures_weaken ensures_statement (fun _ known => known) ?_ (fun _ _ known => known)
    exact fun _ _ known => ⟨_, rfl, known⟩
  · rintro _ after ⟨committed, rfl, stands⟩
    rw [stands.tables]
    exact counts.congr (others world.tables)
  · rintro _ after stands
    rw [stands.tables]
    exact counts

private theorem ensures_collectSymbols_counts
    {symbols : List ResolvedSymbol} {observedNow : Int} {dryRun : Bool} :
    Ensures (fun world => world.tables.Counts recorded)
      (symbols.mapM (fun symbol => collectSymbol env settings symbol observedNow dryRun))
      (fun reports world => AllQuality (reports.flatMap SymbolReport.incidents) ∧
        world.tables.Counts
          (recorded ++ storedPart dryRun (reports.flatMap SymbolReport.incidents)))
      (fun _ => CountsMore recorded) := by
  refine ensures_weaken
    (ensures_mapM (fun _ reports world => AllQuality (reports.flatMap SymbolReport.incidents) ∧
      world.tables.Counts
        (recorded ++ storedPart dryRun (reports.flatMap SymbolReport.incidents))) ?_)
    (fun _ counts => ⟨List.forall_mem_nil _, by simpa [storedPart] using counts⟩) (fun _ _ known => known)
    (fun _ _ known => known)
  intro early symbol late reports shape
  refine ensures_of_fact (fun before => ?_)
  refine ensures_weaken ensures_collectSymbol_counts (fun _ known => known) ?_ ?_
  · rintro report after ⟨quality, counts⟩
    rw [List.flatMap_append, List.flatMap_singleton]
    refine ⟨allQuality_append before quality, ?_⟩
    cases dryRun <;> simpa [storedPart] using counts
  · intro _ after counts
    refine ⟨storedPart dryRun (reports.flatMap SymbolReport.incidents), ?_, counts⟩
    cases dryRun with
    | true => exact List.forall_mem_nil _
    | false => exact before

/-! Replies about the symbols. -/

/-- What the broker replies about its symbols to a collection that starts in a
world. -/
def RepliedTo (env : Environment) (settings : MarketDataSettings) (now : Option Int)
    (start : World) (replies : SymbolReplies) : Prop :=
  replies.Answers env settings ∧
    ∃ observedNow asked after, (observedAt env now).run start = .ok observedNow asked ∧
      (Service.resolveSymbols env settings).run asked = .ok (replies.finalized env.library settings,
        replies.incidents env.library settings.symbols) after

private theorem ensures_observedAt_counts {now : Option Int} :
    Ensures (fun world => world.tables.Counts recorded) (observedAt env now)
      (fun _ world => world.tables.Counts recorded)
      (fun _ world => world.tables.Counts recorded) := by
  cases now with
  | some now => exact ensures_pure (fun _ known => known)
  | none => exact ensures_counts (fun _ => ensures_utcNow)

private theorem ensures_resolveSymbols_counts :
    Ensures (fun world => world.tables.Counts recorded) (Service.resolveSymbols env settings)
      (fun result world => (∃ replies : SymbolReplies, replies.Answers env settings ∧
          result = (replies.finalized env.library settings,
            replies.incidents env.library settings.symbols)) ∧
        world.tables.Counts recorded)
      (fun _ world => world.tables.Counts recorded) := by
  refine ensures_of_at (fun world counts => ?_)
  refine ensures_weaken (ensures_resolveSymbols_replies : Ensures (Stands
    ⟨world.moment, world.tables, world.files⟩) _ _ _) (fun _ known => known) ?_ ?_
  · exact fun result after known => ⟨known.1, known.2.tables.symm ▸ counts⟩
  · exact fun _ after stands => stands.tables.symm ▸ counts

/-- A collection reports what has become of the symbols and what it has found
in their records, and it records the latter. -/
theorem ensures_collectOnce_counts
    (env : Environment) (settings : MarketDataSettings) (symbolFilter : Option (List String))
    (now : Option Int) (dryRun : Option Bool) {start : World}
    (counts : start.tables.Counts recorded) :
    Ensures (fun world => world = start) (collectOnce env settings symbolFilter now dryRun)
      (fun report world => report.dryRun = dryRun.getD settings.dryRunDefault ∧
        ∃ replies found, RepliedTo env settings now start replies ∧ AllQuality found ∧
          report.qualityIncidents = replies.incidents env.library settings.symbols ++ found ∧
          world.tables.Counts (recorded ++ storedPart report.dryRun found))
      (fun _ => CountsMore recorded) := by
  refine ensures_bind
    (ensures_weaken (ensures_ran ensures_observedAt_counts counts) (fun _ known => known)
      (fun _ _ known => known) (fun _ _ counts => countsMore_of_counts counts)) ?_
  intro observedNow
  refine ensures_of_state ?_
  rintro asked ⟨observed, counted⟩
  refine ensures_bind
    (ensures_weaken (ensures_ran ensures_resolveSymbols_counts counted) (fun _ known => known)
      (fun _ _ known => known) (fun _ _ counts => countsMore_of_counts counts)) ?_
  intro result
  refine ensures_of_state ?_
  rintro resolved ⟨ran, ⟨replies, answers, rfl⟩, counts⟩
  have repliedTo : RepliedTo env settings now start replies :=
    ⟨answers, observedNow, asked, resolved, observed, ran⟩
  dsimp only
  refine ensures_bind
    (ensures_weaken ensures_collectSymbols_counts (fun _ same => same ▸ counts)
      (fun _ _ known => known) (fun _ _ known => known)) ?_
  intro reports
  refine ensures_of_fact (fun quality => ?_)
  cases effective : dryRun.getD settings.dryRunDefault with
  | true =>
      exact ensures_pure (fun world counts =>
        ⟨rfl, replies, _, repliedTo, quality, rfl, counts⟩)
  | false =>
      refine ensures_bind
        (ensures_weaken (ensures_otherStatement (fun _ => rfl)) (fun _ known => known)
          (fun _ _ known => known) (fun _ _ counts => ⟨_, quality, counts⟩)) ?_
      intro _
      exact ensures_pure (fun world counts =>
        ⟨rfl, replies, _, repliedTo, quality, rfl, counts⟩)

/-! What a backfill records. -/

section Backfill

variable {run : BackfillRun}

/-- The reported incidents are among those that are recorded after the given
ones. -/
def RecordsReported (dryRun : Bool) (recorded reported : List QualityIncident)
    (world : World) : Prop :=
  ∃ more, AllQuality more ∧ (dryRun = false → reported.Sublist more) ∧
    world.tables.Counts (recorded ++ more)

private theorem incidents_of_noBars
    {readClock : String → Int} {records : List BarRecord}
    (none : (normalizeBarBatch readClock records).1 = []) :
    (normalizeBarBatch readClock records).2 ++
      detectMissingBars readClock (normalizeBarBatch readClock records).1 = [] := by
  cases records with
  | nil => rfl
  | cons first records =>
      rw [normalizeBarBatch_fst] at none
      obtain ⟨kept, here, -⟩ := Python.exists_mem_sortedDistinct BarRecord.openTimeUtc
        BarRecord.barId (List.mem_cons_self : first ∈ first :: records)
      rw [none] at here
      cases here

private theorem ensures_commitBars_counts
    {logicalSymbol : String} {timeframe : Timeframe} {bars : List BarRecord}
    {incidents : List QualityIncident} (quality : AllQuality incidents)
    (nothing : bars = [] → incidents = []) :
    Ensures (fun world => world.tables.Counts recorded)
      (commitBars env logicalSymbol timeframe bars incidents)
      (fun _ => RecordsReported false recorded incidents)
      (fun _ world => world.tables.Counts recorded) := by
  refine ensures_of_at (fun world counts => ?_)
  refine ensures_weaken ensures_commitBars_recorded (fun _ known => known) ?_ ?_
  · rintro _ after ⟨committed, changed, stands⟩
    unfold ChunkRecorded at changed
    unfold RecordsReported
    rw [stands.tables]
    split at changed
    next noBars =>
      obtain rfl := nothing (List.getLast?_eq_none_iff.mp noBars)
      rw [changed]
      exact ⟨[], quality, fun _ => .slnil, by simpa using counts⟩
    next last found =>
      obtain ⟨mutated, mutations, rfl⟩ := changed
      refine ⟨incidents ++ mutated, allQuality_append quality (allQuality_mutations mutations),
        fun _ => List.sublist_append_left _ _, ?_⟩
      exact Tables.counts_recordIncidents (counts.congr (Tables.replaceRows_incidents _ _ _)) _
  · exact fun _ after kept => kept.tables.symm ▸ counts

private theorem ensures_backfillChunk_counts {nextStart chunkEnd : Int} :
    Ensures (fun world => world.tables.Counts recorded)
      (backfillChunk env settings run nextStart chunkEnd)
      (fun chunk => RecordsReported run.dryRun recorded chunk.1)
      (fun _ => CountsMore recorded) := by
  refine ensures_of_at (fun world counts => ?_)
  have still : ∀ {moment : Nat} (after : World), At world.tables world.files moment after →
      after.tables.Counts recorded := fun after stands => stands.tables.symm ▸ counts
  refine ensures_bind
    (ensures_weaken ensures_loadBars (fun _ known => known) (fun _ _ known => known)
      (fun _ after stands => countsMore_of_counts (still after stands))) ?_
  intro records
  refine ensures_of_exists (fun moment => ?_)
  refine ensures_of_exists (fun payload => ?_)
  refine ensures_of_fact (fun _ => ?_)
  refine ensures_bind ensures_incidentClock ?_
  intro readClock
  have quality : AllQuality ((normalizeBarBatch readClock records).2 ++
      detectMissingBars readClock (normalizeBarBatch readClock records).1) :=
    allQuality_append (allQuality_normalizeBarBatch _) (allQuality_detectMissingBars _)
  dsimp only
  cases stored : run.dryRun with
  | true =>
      refine ensures_pure (fun after stands => ?_)
      exact ⟨[], List.forall_mem_nil _, fun isFalse => absurd isFalse (by decide),
        by simpa using still after stands⟩
  | false =>
      refine ensures_bind
        (ensures_weaken (ensures_commitBars_counts quality incidents_of_noBars) still
          (fun _ _ known => known) (fun _ _ counts => countsMore_of_counts counts)) ?_
      intro _
      refine ensures_of_exists (fun more => ?_)
      refine ensures_of_fact (fun moreQuality => ?_)
      refine ensures_of_fact (fun reported => ?_)
      refine ensures_bind
        (ensures_weaken (ensures_otherStatement (fun _ => rfl)) (fun _ known => known)
          (fun _ _ known => known) (fun _ _ counts => ⟨more, moreQuality, counts⟩)) ?_
      intro _
      exact ensures_pure (fun _ counts => ⟨more, moreQuality, reported, counts⟩)

private theorem ensures_backfillFailed_counts {start : Int} {problem : MarketProblem} :
    Ensures (CountsMore recorded) (backfillFailed env run start problem)
      (fun _ _ => False) (fun _ => CountsMore recorded) := by
  unfold backfillFailed
  split
  next => exact ensures_throw (fun _ known => known)
  next =>
    refine ensures_of_exists (fun more => ?_)
    refine ensures_of_fact (fun quality => ?_)
    refine ensures_bind
      (ensures_weaken (ensures_otherStatement (fun _ => rfl)) (fun _ known => known)
        (fun _ _ known => known) (fun _ _ counts => ⟨more, quality, counts⟩)) ?_
    intro _
    exact ensures_throw (fun _ counts => ⟨more, quality, counts⟩)

private theorem ensures_backfillLoop_counts (fuel : Nat) {start : Int} :
    Ensures (fun world => world.tables.Counts recorded) (backfillLoop env settings run fuel start)
      (fun result => RecordsReported run.dryRun recorded ((result.map Prod.fst).getD []))
      (fun _ => CountsMore recorded) := by
  have empty : ∀ world : World, world.tables.Counts recorded →
      RecordsReported run.dryRun recorded [] world :=
    fun world counts => ⟨[], List.forall_mem_nil _, fun _ => .slnil, by simpa using counts⟩
  induction fuel generalizing start recorded with
  | zero =>
      refine ensures_pure (fun world counts => ?_)
      split <;> exact empty world counts
  | succ fuel induction =>
      unfold backfillLoop
      split
      next unfinished =>
        refine ensures_bind
          (ensures_tryCatch ensures_backfillChunk_counts (fun problem =>
            ensures_weaken ensures_backfillFailed_counts (fun _ known => known)
              (fun _ _ impossible => impossible.elim) (fun _ _ known => known))) ?_
        intro chunk
        refine ensures_of_exists (fun more => ?_)
        refine ensures_of_fact (fun quality => ?_)
        refine ensures_of_fact (fun reported => ?_)
        refine ensures_bind
          (ensures_weaken (@induction (recorded ++ more) _ (fun world counts =>
            ⟨[], List.forall_mem_nil _, fun _ => .slnil, by simpa using counts⟩))
            (fun _ known => known) (fun _ _ known => known) ?_) ?_
        · rintro _ world ⟨later, laterQuality, counts⟩
          exact ⟨more ++ later, allQuality_append quality laterQuality,
            by rwa [← List.append_assoc]⟩
        intro rest
        refine ensures_pure (fun world known => ?_)
        obtain ⟨later, laterQuality, laterReported, counts⟩ := known
        refine ⟨more ++ later, allQuality_append quality laterQuality, ?_,
          by rwa [← List.append_assoc]⟩
        intro stored
        cases rest with
        | none => exact List.nil_sublist _
        | some rest => exact (reported stored).append (laterReported stored)
      next => exact ensures_pure empty

/-- A backfill reports what it finds in the bars, and records that and more. -/
theorem ensures_backfill_counts
    (env : Environment) (settings : MarketDataSettings) (fuel : Nat)
    (canonicalSymbol timeframe : String) (startAt endAt : Int) (dryRun : Option Bool) :
    Ensures (fun world => world.tables.Counts recorded)
      (backfill env settings fuel canonicalSymbol timeframe startAt endAt dryRun)
      (fun result => RecordsReported (dryRun.getD settings.dryRunDefault) recorded
        ((result.map BackfillReport.qualityIncidents).getD []))
      (fun _ => CountsMore recorded) := by
  have raised : ∀ (problem : MarketProblem) (world : World), world.tables.Counts recorded →
      CountsMore recorded world := fun _ _ counts => countsMore_of_counts counts
  unfold backfill
  split
  next => exact ensures_throw (fun world counts => countsMore_of_counts counts)
  next =>
    refine ensures_bind
      (ensures_ofExcept (fun _ _ _ counts => counts) (fun problem world _ => raised problem world) :
        Ensures _ _ (fun _ world => world.tables.Counts recorded) _) ?_
    intro timeframeValue
    refine ensures_bind
      (ensures_weaken (ensures_counts (fun _ => ensures_weaken ensures_resolveSymbol
        (fun _ known => known) (fun _ _ known => known.2) (fun _ _ known => known)))
        (fun _ known => known) (fun _ _ known => known) raised) ?_
    intro resolved
    refine ensures_bind
      (ensures_weaken (ensures_counts (fun _ => ensures_weaken ensures_query
        (fun _ known => known) (fun _ _ known => known.2) (fun _ _ known => known)))
        (fun _ known => known) (fun _ _ known => known) raised) ?_
    intro state
    refine ensures_bind (ensures_backfillLoop_counts fuel) ?_
    intro done
    refine ensures_pure (fun world known => ?_)
    cases done with
    | none => exact known
    | some done => exact known

end Backfill

/-! Incidents of symbols. -/

section Resolution

variable {library : MarketLibrary} {targets : List SymbolTarget} {replies : SymbolReplies}

private theorem selection_incidents_eq_nil_iff (selection : Selection) (symbol : ResolvedSymbol) :
    selection.incidents symbol = [] ↔ selection.selected = true := by
  unfold Selection.incidents
  cases selection.selected <;> simp

private theorem resolveTarget_eq_error
    {readClock : String → Int} {lookup : List (String × List DiscoveredSymbol)}
    {target : SymbolTarget} {item : QualityIncident}
    (refused : resolveTarget library readClock lookup target = .error item) :
    item.OfKinds resolutionKinds := by
  have ofKinds : ∀ eventKind ∈ resolutionKinds, ∀ detail,
      (symbolIncident readClock eventKind target.logicalSymbol detail).OfKinds resolutionKinds :=
    fun eventKind known detail => ⟨known, _, rfl⟩
  unfold resolveTarget at refused
  split at refused
  next => exact Except.error.inj refused ▸ ofKinds _ (by simp [resolutionKinds]) _
  next => cases refused
  next => exact Except.error.inj refused ▸ ofKinds _ (by simp [resolutionKinds]) _

private theorem resolveTarget_isOk_iff
    {readClock : String → Int} {lookup : List (String × List DiscoveredSymbol)}
    {target : SymbolTarget} :
    (∀ item, resolveTarget library readClock lookup target ≠ .error item) ↔
      (uniqueMatches library lookup target).length = 1 := by
  unfold resolveTarget
  split
  next none => simp [none]
  next one => simp [one]
  next notNone notOne =>
    refine iff_of_false (by simp) (fun single => ?_)
    obtain ⟨entry, only⟩ := List.length_eq_one_iff.mp single
    exact notOne entry.1 entry.2 only

private theorem resolutionIncidents (item : QualityIncident)
    (member : item ∈ replies.incidents library targets) : item.OfKinds resolutionKinds := by
  rcases List.mem_append.mp member with matching | selecting
  · obtain ⟨outcome, inside, refused⟩ := List.mem_filterMap.mp matching
    obtain ⟨target, -, rfl⟩ := List.mem_map.mp inside
    split at refused
    next => cases refused
    next other same => exact Option.some.inj refused ▸ resolveTarget_eq_error same
  · obtain ⟨list, inside, here⟩ := List.mem_flatten.mp selecting
    rw [← List.map_uncurry_zip_eq_zipWith] at inside
    obtain ⟨pair, -, rfl⟩ := List.mem_map.mp inside
    change item ∈ pair.2.incidents pair.1 at here
    unfold Selection.incidents at here
    split at here
    · cases here
    · rw [List.mem_singleton.mp here]
      exact ⟨(by simp [resolutionKinds] : "symbol_select_failed" ∈ resolutionKinds), _, rfl⟩

/-- Without incidents every target is found once and can be used. -/
theorem settled_iff
    (fits : (replies.matched library targets).1.length = replies.selections.length) :
    replies.Settled library targets ↔ replies.incidents library targets = [] := by
  have matching : (replies.matched library targets).2 = [] ↔ ∀ target ∈ targets,
      (uniqueMatches library (symbolLookup library replies.discovered) target).length = 1 := by
    simp only [SymbolReplies.matched, MarketData.resolveSymbols, List.filterMap_eq_nil_iff,
      List.forall_mem_map]
    refine forall₂_congr (fun target _ => ?_)
    rw [← @resolveTarget_isOk_iff library replies.readClock]
    cases resolveTarget library replies.readClock (symbolLookup library replies.discovered)
      target <;> simp
  have selecting : (List.zipWith (fun symbol selection => selection.incidents symbol)
      (replies.matched library targets).1 replies.selections).flatten = [] ↔
        ∀ selection ∈ replies.selections, selection.selected = true := by
    rw [List.flatten_eq_nil_iff, ← List.map_uncurry_zip_eq_zipWith, List.forall_mem_map]
    constructor
    · intro none selection member
      obtain ⟨position, inside, rfl⟩ := List.getElem_of_mem member
      have pair : ((replies.matched library targets).1[position], replies.selections[position]) ∈
          (replies.matched library targets).1.zip replies.selections := by
        rw [← List.getElem_zip (h := by rw [List.length_zip]; omega)]
        exact List.getElem_mem _
      exact (selection_incidents_eq_nil_iff _ _).mp (none _ pair)
    · intro selected pair member
      exact (selection_incidents_eq_nil_iff _ _).mpr (selected _ (List.of_mem_zip member).2)
  unfold SymbolReplies.incidents
  rw [List.append_eq_nil_iff, matching, selecting]
  exact ⟨fun settled => ⟨settled.found, settled.selected⟩, fun both => ⟨both.1, both.2⟩⟩

end Resolution

/-! Sequences of calls. -/

/-- The incidents in the answer to a call that stores what it finds. -/
def Call.reported (env : Environment) (settings : MarketDataSettings) (fuel : Nat)
    (world : World) : Call → List QualityIncident
  | .collectOnce symbolFilter now dryRun =>
      match (Service.collectOnce env settings symbolFilter now dryRun).run world with
      | .ok report _ => storedPart report.dryRun report.qualityIncidents
      | .error _ _ => []
  | .backfill canonicalSymbol timeframe startAt endAt dryRun =>
      match (Service.backfill env settings fuel canonicalSymbol timeframe startAt endAt dryRun).run
          world with
      | .ok (some report) _ => storedPart (dryRun.getD settings.dryRunDefault)
          report.qualityIncidents
      | .ok none _ => []
      | .error _ _ => []

def callStep (env : Environment) (settings : MarketDataSettings) (fuel : Nat) (world : World)
    (call : Call) : List QualityIncident × World :=
  (call.reported env settings fuel world, call.perform env settings fuel world)

/-- Every call has recordings of its own, which the rows count, and the
incidents that it reports are among them. -/
def NoneLost (env : Environment) (settings : MarketDataSettings) (fuel : Nat)
    (calls : List Call) : Prop :=
  ∃ recordings : List (List QualityIncident),
    List.Forall₂ (fun event recording => event.reply.Subperm recording)
        (Machine.trace (callStep env settings fuel) freshWorld calls) recordings ∧
      (Machine.final (callStep env settings fuel) freshWorld calls).tables.Counts
        recordings.flatten

/-- In a collection that returns and stores what it finds, every configured
symbol is one of the broker's and can be used. -/
def SymbolsSettled (env : Environment) (settings : MarketDataSettings) (world : World) :
    Call → Prop
  | .collectOnce symbolFilter now dryRun =>
      dryRun.getD settings.dryRunDefault = false →
        ∀ report after,
          (collectOnce env settings symbolFilter now dryRun).run world = .ok report after →
            ∀ replies, RepliedTo env settings now world replies →
              replies.Settled env.library settings.symbols
  | .backfill _ _ _ _ _ => True

/-- What the recordings of a call are. -/
structure Records (env : Environment) (settings : MarketDataSettings) (world : World)
    (call : Call) (reported recording : List QualityIncident) : Prop where
  quality : AllQuality recording
  settled : SymbolsSettled env settings world call → reported.Subperm recording
  unsettled : ¬SymbolsSettled env settings world call →
    ∃ item ∈ reported, item.OfKinds resolutionKinds

private theorem RepliedTo.settled_iff
    {now : Option Int} {start : World} {replies : SymbolReplies}
    (repliedTo : RepliedTo env settings now start replies) :
    replies.Settled env.library settings.symbols ↔
      replies.incidents env.library settings.symbols = [] :=
  MarketData.settled_iff repliedTo.1.selections.length_eq

private theorem RepliedTo.incidents_eq
    {now : Option Int} {start : World} {replies others : SymbolReplies}
    (repliedTo : RepliedTo env settings now start replies)
    (othersTo : RepliedTo env settings now start others) :
    replies.incidents env.library settings.symbols =
      others.incidents env.library settings.symbols := by
  obtain ⟨-, observedNow, asked, after, observed, ran⟩ := repliedTo
  obtain ⟨-, otherNow, otherAsked, otherAfter, otherObserved, otherRan⟩ := othersTo
  rw [observed] at otherObserved
  obtain ⟨rfl, rfl⟩ := EStateM.Result.ok.inj otherObserved
  rw [ran] at otherRan
  exact (Prod.mk.inj (EStateM.Result.ok.inj otherRan).1).2

private theorem records_collectOnce
    (fuel : Nat) (symbolFilter : Option (List String)) (now : Option Int) (dryRun : Option Bool)
    {world : World} (counts : world.tables.Counts recorded) :
    ∃ recording, Records env settings world (.collectOnce symbolFilter now dryRun)
        (Call.reported env settings fuel world (.collectOnce symbolFilter now dryRun))
        recording ∧
      (Call.perform env settings fuel world (.collectOnce symbolFilter now
        dryRun)).tables.Counts (recorded ++ recording) := by
  have known := ensures_collectOnce_counts env settings symbolFilter now dryRun counts world rfl
  simp only [Call.reported, Call.perform, worldAfter]
  cases ran : (collectOnce env settings symbolFilter now dryRun).run world with
  | error problem after =>
      rw [ran] at known
      obtain ⟨more, quality, counted⟩ := known
      have settled : SymbolsSettled env settings world
          (.collectOnce symbolFilter now dryRun) := by
        intro _ report other returned
        rw [ran] at returned
        cases returned
      exact ⟨more, ⟨quality, fun _ => List.nil_subperm, fun notSettled =>
        absurd settled notSettled⟩, counted⟩
  | ok report after =>
      rw [ran] at known
      obtain ⟨sameDryRun, replies, found, repliedTo, quality, shape, counted⟩ := known
      refine ⟨storedPart report.dryRun found, ⟨?_, ?_, ?_⟩, counted⟩
      · cases report.dryRun with
        | true => exact List.forall_mem_nil _
        | false => exact quality
      · intro settled
        dsimp only
        cases stored : report.dryRun with
        | true => exact List.nil_subperm
        | false =>
            have none := repliedTo.settled_iff.mp
              (settled (sameDryRun.symm.trans stored) report after ran replies repliedTo)
            rw [shape, none]
            exact (List.Perm.refl _).subperm
      · intro notSettled
        dsimp only
        cases stored : report.dryRun with
        | true =>
            refine absurd (fun isFalse => ?_) notSettled
            rw [← sameDryRun, stored] at isFalse
            cases isFalse
        | false =>
            have some : replies.incidents env.library settings.symbols ≠ [] := by
              intro none
              refine notSettled (fun _ _ _ _ others othersTo => othersTo.settled_iff.mpr ?_)
              rw [← repliedTo.incidents_eq othersTo, none]
            obtain ⟨item, member⟩ := List.exists_mem_of_ne_nil _ some
            refine ⟨item, ?_, resolutionIncidents item member⟩
            rw [shape]
            exact List.mem_append_left _ member

private theorem records_backfill
    (fuel : Nat) (canonicalSymbol timeframe : String) (startAt endAt : Int)
    (dryRun : Option Bool) {world : World} (counts : world.tables.Counts recorded) :
    ∃ recording, Records env settings world
        (.backfill canonicalSymbol timeframe startAt endAt dryRun)
        (Call.reported env settings fuel world
          (.backfill canonicalSymbol timeframe startAt endAt dryRun)) recording ∧
      (Call.perform env settings fuel world
        (.backfill canonicalSymbol timeframe startAt endAt dryRun)).tables.Counts
          (recorded ++ recording) := by
  have known := ensures_backfill_counts env settings fuel canonicalSymbol timeframe startAt endAt
    dryRun world counts
  simp only [Call.reported, Call.perform, worldAfter]
  cases ran : (backfill env settings fuel canonicalSymbol timeframe startAt endAt dryRun).run
      world with
  | error problem after =>
      rw [ran] at known
      obtain ⟨more, quality, counted⟩ := known
      exact ⟨more, ⟨quality, fun _ => List.nil_subperm, fun notSettled =>
        absurd trivial notSettled⟩, counted⟩
  | ok result after =>
      rw [ran] at known
      obtain ⟨more, quality, reported, counted⟩ := known
      refine ⟨more, ⟨quality, fun _ => ?_, fun notSettled => absurd trivial notSettled⟩, counted⟩
      cases result with
      | none => exact List.nil_subperm
      | some report =>
          cases stored : dryRun.getD settings.dryRunDefault with
          | true => exact List.nil_subperm
          | false => exact (reported stored).subperm

/-- The recordings of the calls of a run. -/
private theorem exists_recordings
    (fuel : Nat) (calls : List Call) {world : World} (counts : world.tables.Counts recorded) :
    ∃ recordings : List (List QualityIncident),
      List.Forall₂ (fun event recording =>
          Records env settings event.before event.call event.reply recording)
          (Machine.trace (callStep env settings fuel) world calls) recordings ∧
        (Machine.final (callStep env settings fuel) world calls).tables.Counts
          (recorded ++ recordings.flatten) := by
  induction calls generalizing recorded world with
  | nil => exact ⟨[], .nil, by simpa [Machine.final] using counts⟩
  | cons call calls induction =>
      obtain ⟨recording, records, counted⟩ : ∃ recording,
          Records env settings world call (call.reported env settings fuel world) recording ∧
            (call.perform env settings fuel world).tables.Counts (recorded ++ recording) := by
        cases call with
        | collectOnce symbolFilter now dryRun =>
            exact records_collectOnce fuel symbolFilter now dryRun counts
        | backfill canonicalSymbol timeframe startAt endAt dryRun =>
            exact records_backfill fuel canonicalSymbol timeframe startAt endAt dryRun counts
      obtain ⟨recordings, rest, final⟩ := induction counted
      refine ⟨recording :: recordings, .cons records rest, ?_⟩
      rw [List.flatten_cons, ← List.append_assoc]
      exact final

/-- A broker without symbols. -/
def emptyBroker : Environment :=
  { goldBroker (fun _ => []) [] with symbolsGet := fun _ => .ok (some []) }

end SuperAdvisor.MarketData
