import SuperAdvisor.MarketData.CollectionRuns

/-!
# Delivery of ticks

A cycle asks for the ticks of a range and then for the newest tick, and goes on
from the last of both.  A tick that comes in between, or that the range ends
before, is skipped unless it is the newest one.
-/

namespace SuperAdvisor.MarketData

open Raising Service

def TickPayload.marketTimeUtc (payload : TickPayload) : Int :=
  ofMilliseconds payload.marketTimeMsc

/-- The ticks of a broker that are known at each step, by symbol: they are only
added to, their times increase, and the replies are exact. -/
structure TickHistory (env : Environment) (settings : MarketDataSettings) where
  known : String → Nat → List TickPayload
  grows : ∀ logicalSymbol early late, early ≤ late →
    known logicalSymbol early <+: known logicalSymbol late
  increasing : ∀ logicalSymbol moment, (known logicalSymbol moment).Pairwise
    (fun first second => first.marketTimeMsc < second.marketTimeMsc)
  range : ∀ symbol, Resolves env settings symbol → ∀ moment startAt endAt payload,
    env.copyTicksRange moment symbol.brokerSymbol startAt endAt = .ok (some payload) →
      ∀ item, item ∈ payload ↔ item ∈ known symbol.logicalSymbol moment ∧
        startAt ≤ item.marketTimeUtc ∧ item.marketTimeUtc ≤ endAt
  newest : ∀ symbol, Resolves env settings symbol → ∀ moment newest,
    env.symbolInfoTick moment symbol.brokerSymbol = .ok newest →
      newest = (known symbol.logicalSymbol moment).getLast?

/-- A batch with the tick was written, with the files of all its partitions. -/
def TickWritten (library : MarketLibrary) (files : List TableFile) (logicalSymbol : String)
    (item : TickPayload) : Prop :=
  ∃ records, tickFiles library records <:+: files ∧
    ∃ record ∈ records, ∃ symbol : ResolvedSymbol, symbol.logicalSymbol = logicalSymbol ∧
      IsTickOf library symbol item record

theorem TickWritten.mono
    {library : MarketLibrary} {files more : List TableFile} {logicalSymbol : String}
    {item : TickPayload} (written : TickWritten library files logicalSymbol item)
    (grown : files <+: more) : TickWritten library more logicalSymbol item := by
  obtain ⟨records, batch, here⟩ := written
  exact ⟨records, batch.trans grown.isInfix, here⟩

variable {env : Environment} {settings : MarketDataSettings} {logicalSymbol : String}

/-- The ticks known when a cycle asks for the newest one. -/
def TickHistory.atEnd (history : TickHistory env settings) (logicalSymbol : String)
    (entry : CycleEntry) : List TickPayload :=
  history.known logicalSymbol entry.cycle.tickLoad.newestMoment

/-- Where the cycle starts to read ticks. -/
def CycleEntry.tickStart (settings : MarketDataSettings) (logicalSymbol : String)
    (entry : CycleEntry) : Int :=
  MarketData.tickStart settings entry.store.tables logicalSymbol entry.observedNow

/-- Every tick that has become known since the cycle before, unless it is the
newest one, was known when the range was read and the range does not end before
it; without a position the look-back reaches it. -/
def NewTicksInRange (history : TickHistory env settings) (logicalSymbol : String)
    (lower upper : Int) (entries : List CycleEntry) : Prop :=
  ∀ early next late, entries = early ++ next :: late →
    ∀ item ∈ history.atEnd logicalSymbol next,
      (∀ previous ∈ early.getLast?, item ∉ history.atEnd logicalSymbol previous) →
      (history.atEnd logicalSymbol next).getLast? ≠ some item →
      lower ≤ item.marketTimeUtc → item.marketTimeUtc ≤ upper →
        item ∈ history.known logicalSymbol next.cycle.tickLoad.rangeMoment ∧
        item.marketTimeUtc ≤ next.observedNow ∧
        (next.store.tables.getCursor ⟨.ticks, logicalSymbol, none⟩ = none →
          next.observedNow - ofSeconds settings.tickLookbackSeconds ≤ item.marketTimeUtc)

section Histories

variable (history : TickHistory env settings)

/-- A tick that becomes known later has a later time. -/
theorem TickHistory.marketTimeUtc_lt
    {early late : Nat} (later : early ≤ late) {first second : TickPayload}
    (old : first ∈ history.known logicalSymbol early)
    (new : second ∈ history.known logicalSymbol late)
    (fresh : second ∉ history.known logicalSymbol early) : first.marketTimeUtc < second.marketTimeUtc := by
  obtain ⟨rest, shape⟩ := history.grows logicalSymbol early late later
  have ordered := history.increasing logicalSymbol late
  rw [← shape] at new ordered
  have after := (List.mem_append.mp new).resolve_left fresh
  have less := (List.pairwise_append.mp ordered).2.2 first old second after
  unfold TickPayload.marketTimeUtc ofMilliseconds
  omega

/-- Ticks of a history with the same time are the same. -/
theorem TickHistory.eq_of_time
    {moment : Nat} {first second : TickPayload}
    (here : first ∈ history.known logicalSymbol moment)
    (there : second ∈ history.known logicalSymbol moment)
    (same : first.marketTimeMsc = second.marketTimeMsc) : first = second := by
  have distinct : ((history.known logicalSymbol moment).map TickPayload.marketTimeMsc).Nodup :=
    List.pairwise_map.mpr ((history.increasing logicalSymbol moment).imp Int.ne_of_lt)
  exact List.inj_on_of_nodup_map distinct here there same

/-- The replies to a reading are known when the newest tick is asked for. -/
theorem TickHistory.known_of_reply
    {symbol : ResolvedSymbol} (resolved : Resolves env settings symbol) {load : TickLoad}
    {startAt endAt : Int} {earliest : Nat}
    (answers : load.Answers env symbol startAt endAt earliest) {item : TickPayload}
    (replied : item ∈ load.range ++ load.newest.toList) :
    item ∈ history.known symbol.logicalSymbol load.newestMoment := by
  rcases List.mem_append.mp replied with inRange | newest
  · obtain ⟨known, -⟩ :=
      (history.range symbol resolved _ _ _ _ answers.range item).mp inRange
    exact (history.grows _ _ _ (Nat.le_of_lt answers.ordered)).mem known
  · have last := history.newest symbol resolved _ _ answers.newest
    rw [Option.mem_toList] at newest
    exact List.mem_of_getLast? (last ▸ newest)

end Histories

/-- Every tick of the replies has a record of its own in the batch. -/
theorem TickHistory.exists_record
    (history : TickHistory env settings) {symbol : ResolvedSymbol} (resolved : Resolves env settings symbol) {load : TickLoad}
    {startAt endAt : Int} {earliest : Nat}
    (answers : load.Answers env symbol startAt endAt earliest) {item : TickPayload}
    (replied : item ∈ load.range ++ load.newest.toList) :
    ∃ record ∈ load.ticks, IsTickOf env.library symbol item record := by
  obtain ⟨record, inside, sameId⟩ := answers.exists_record replied
  obtain ⟨other, otherReplied, receivedAtUtc, rfl⟩ := answers.exists_payload inside
  have same := history.eq_of_time (history.known_of_reply resolved answers otherReplied)
    (history.known_of_reply resolved answers replied) (marketTimeMsc_of_tickSequenceId sameId)
  exact ⟨_, inside, receivedAtUtc, by rw [same]⟩

/-- What a run of cycles has done for the ticks between two times. -/
structure TicksDelivered (history : TickHistory env settings) (logicalSymbol : String)
    (lower upper : Int) (entries : List CycleEntry) (store : Store) : Prop where
  later : ∀ last ∈ entries.getLast?, last.cycle.tickLoad.newestMoment < store.moment
  positioned : entries ≠ [] → ∀ cursor,
    store.tables.getCursor ⟨.ticks, logicalSymbol, none⟩ = some cursor →
      cursor.cursorUtc ≤ lower ∨ ∃ last ∈ entries.getLast?,
        ∃ item ∈ history.atEnd logicalSymbol last, cursor.cursorUtc = item.marketTimeUtc
  written : ∀ last ∈ entries.getLast?, ∀ item ∈ history.atEnd logicalSymbol last,
    lower ≤ item.marketTimeUtc → item.marketTimeUtc ≤ upper →
      TickWritten env.library store.files logicalSymbol item

section Cycle

variable {history : TickHistory env settings} {lower upper : Int} {entries : List CycleEntry}
  {store : Store} {symbol : ResolvedSymbol} {observedNow : Int} {cycle : SymbolCycle}

/-- A new tick after the lower bound does not lie before the range. -/
private theorem tickStart_le
    (delivered : TicksDelivered history logicalSymbol lower upper entries store)
    (entry : CycleEntry) (here : entry.store = store)
    (later : store.moment ≤ entry.cycle.tickLoad.newestMoment)
    (begins : entries = [] → lower = entry.tickStart settings logicalSymbol)
    {item : TickPayload} (known : item ∈ history.atEnd logicalSymbol entry)
    (fresh : ∀ previous ∈ entries.getLast?, item ∉ history.atEnd logicalSymbol previous)
    (afterLower : lower ≤ item.marketTimeUtc)
    (lookback : store.tables.getCursor ⟨.ticks, logicalSymbol, none⟩ = none →
      entry.observedNow - ofSeconds settings.tickLookbackSeconds ≤ item.marketTimeUtc) :
    entry.tickStart settings logicalSymbol ≤ item.marketTimeUtc := by
  by_cases first : entries = []
  · exact begins first ▸ afterLower
  · unfold CycleEntry.tickStart MarketData.tickStart
    rw [here]
    cases found : store.tables.getCursor ⟨.ticks, logicalSymbol, none⟩ with
    | none => exact lookback found
    | some cursor =>
        rcases delivered.positioned first cursor found with
          notAfter | ⟨previous, isLast, other, otherKnown, same⟩
        · exact Int.le_trans notAfter afterLower
        · have before := delivered.later previous isLast
          have less := history.marketTimeUtc_lt (by omega) otherKnown known
            (fresh previous isLast)
          simp only
          omega

private theorem ticksDelivered_cycle
    (delivered : TicksDelivered history logicalSymbol lower upper entries store)
    (sameSymbol : symbol.logicalSymbol = logicalSymbol)
    (resolved : Resolves env settings symbol)
    (describes : cycle.Describes env settings symbol observedNow store.tables store.moment)
    (begins : entries = [] →
      lower = CycleEntry.tickStart settings logicalSymbol ⟨store, symbol, observedNow, cycle⟩)
    (covered : NewTicksInRange history logicalSymbol lower upper
      (entries ++ [⟨store, symbol, observedNow, cycle⟩]))
    (incidents : List QualityIncident) :
    TicksDelivered history logicalSymbol lower upper
      (entries ++ [⟨store, symbol, observedNow, cycle⟩])
      { moment := cycle.tickLoad.newestMoment + 1
        tables := committedTables store.tables symbol cycle.ticks
          (cycle.currentRows observedNow) (cycle.closedRows observedNow) incidents observedNow
        files := store.files ++ tickFiles env.library cycle.ticks ++
          barFiles env.library cycle.bars } := by
  subst sameSymbol
  have answers := describes.ticks
  have ordered : store.moment ≤ cycle.tickLoad.newestMoment :=
    Nat.le_trans answers.earliest (Nat.le_of_lt answers.ordered)
  refine ⟨?_, ?_, ?_⟩
  · simp
  · intro _ cursor found
    simp only [List.getLast?_concat, Option.mem_some_iff, exists_eq_left']
    rw [getCursor_committedTables, Tables.cursorUnder_ticks, if_pos rfl, Option.none_or] at found
    rcases Option.or_eq_some_iff.mp found with batch | ⟨-, old⟩
    · obtain ⟨latest, isLast, rfl⟩ := Option.map_eq_some_iff.mp batch
      obtain ⟨item, replied, receivedAtUtc, rfl⟩ :=
        answers.exists_payload (List.mem_of_getLast? isLast)
      exact .inr ⟨item, history.known_of_reply resolved answers replied, rfl⟩
    · by_cases first : entries = []
      · have start := begins first
        unfold CycleEntry.tickStart MarketData.tickStart at start
        rw [old] at start
        exact .inl (Int.le_of_eq start.symm)
      · rcases delivered.positioned first cursor old with
          notAfter | ⟨previous, isLast, item, known, same⟩
        · exact .inl notAfter
        · have before := delivered.later previous isLast
          have later := Nat.le_trans (Nat.le_of_lt before) ordered
          exact .inr ⟨item, (history.grows _ _ _ later).mem known, same⟩
  · simp only [List.getLast?_concat, Option.mem_some_iff, forall_eq']
    intro item known afterLower beforeUpper
    by_cases old : ∃ previous ∈ entries.getLast?, item ∈ history.atEnd symbol.logicalSymbol previous
    · obtain ⟨previous, isLast, already⟩ := old
      refine (delivered.written previous isLast item already afterLower beforeUpper).mono ?_
      exact (List.prefix_append _ _).trans (List.prefix_append _ _)
    · have fresh : ∀ previous ∈ entries.getLast?,
          item ∉ history.atEnd symbol.logicalSymbol previous :=
        fun previous isLast already => old ⟨previous, isLast, already⟩
      have replied : item ∈ cycle.tickLoad.range ++ cycle.tickLoad.newest.toList := by
        rw [history.newest symbol resolved _ _ answers.newest]
        by_cases newest :
            (history.known symbol.logicalSymbol cycle.tickLoad.newestMoment).getLast? = some item
        · exact List.mem_append_right _ (by simp [newest])
        · obtain ⟨knownInRange, notAfter, lookback⟩ :=
            covered entries _ [] rfl item known fresh newest afterLower beforeUpper
          refine List.mem_append_left _ ((history.range symbol resolved _ _ _ _
            answers.range item).mpr ⟨knownInRange, ?_, notAfter⟩)
          exact tickStart_le delivered ⟨store, symbol, observedNow, cycle⟩ rfl ordered begins
            known fresh afterLower lookback
      obtain ⟨record, inside, isTick⟩ := history.exists_record resolved answers replied
      exact ⟨cycle.ticks, List.infix_append _ _ _, record, inside, symbol, rfl, isTick⟩

end Cycle

/-- The times of a run are delivered as far as they are known. -/
theorem ticksDelivered_run
    {history : TickHistory env settings} {lower upper : Int} {start finish : Store}
    {entries : List CycleEntry}
    (run : CycleRun env settings logicalSymbol start entries finish)
    (begins : ∀ first ∈ entries.head?, lower = first.tickStart settings logicalSymbol)
    (covered : NewTicksInRange history logicalSymbol lower upper entries) :
    TicksDelivered history logicalSymbol lower upper entries finish := by
  induction run with
  | start => exact ⟨by simp, by simp, by simp⟩
  | @cycle entries middle finish symbol observedNow cycle incidents before sameSymbol last
      induction =>
      have earlier := induction
        (fun first member => begins first (by simp [List.head?_append, Option.mem_def.mp member]))
        (fun early next late shape => covered early next
          (late ++ [⟨middle, symbol, observedNow, cycle⟩]) (by simp [shape]))
      cases last with
      | cycle resolved describes =>
          refine ticksDelivered_cycle earlier sameSymbol resolved describes ?_ covered incidents
          rintro rfl
          exact begins _ rfl
  | other before another last induction =>
      obtain ⟨later, positioned, written⟩ := induction begins covered
      refine ⟨?_, ?_, ?_⟩
      · exact fun entry isLast => Nat.lt_of_lt_of_le (later entry isLast) last.moment_le
      · rw [getCursor_of_other rfl another last]
        exact positioned
      · exact fun entry isLast item known afterLower beforeUpper =>
          (written entry isLast item known afterLower beforeUpper).mono last.files_prefix

/-- Ticks of the time of a run are known at its end. -/
def KnownAtEnd (history : TickHistory env settings) (logicalSymbol : String)
    (lower upper : Int) (entries : List CycleEntry) : Prop :=
  ∀ moment, ∀ item ∈ history.known logicalSymbol moment,
    lower ≤ item.marketTimeUtc → item.marketTimeUtc ≤ upper →
      ∀ last ∈ entries.getLast?, item ∈ history.atEnd logicalSymbol last

/-- Collections that return are cycles, and cycles that have every new tick but
the newest in the range deliver every tick from the start of the first range to
the time of the last cycle. -/
theorem ticks_delivered
    (env : Environment) (settings : MarketDataSettings) (history : TickHistory env settings)
    {calls : List CollectCall} {start after : World} {reports : List CollectReport}
    (ran : runCollections env settings calls start = some (reports, after))
    (logicalSymbol : String) :
    (∃ entries, CyclesOf env settings logicalSymbol start reports after entries) ∧
    ∀ entries, CyclesOf env settings logicalSymbol start reports after entries →
      ∀ firstTime ∈ (observedTimes logicalSymbol reports).head?,
      ∀ lastTime ∈ (observedTimes logicalSymbol reports).getLast?,
        NewTicksInRange history logicalSymbol
            (tickStart settings start.tables logicalSymbol firstTime) lastTime entries →
          KnownAtEnd history logicalSymbol
              (tickStart settings start.tables logicalSymbol firstTime) lastTime entries →
            ∀ moment, ∀ item ∈ history.known logicalSymbol moment,
              tickStart settings start.tables logicalSymbol firstTime ≤ item.marketTimeUtc →
                item.marketTimeUtc ≤ lastTime →
                  TickWritten env.library after.files logicalSymbol item := by
  refine ⟨exists_cyclesOf ran logicalSymbol, ?_⟩
  intro entries cycles firstTime isFirst lastTime isLast covered knownAtEnd moment item known
    afterStart beforeEnd
  have begins : ∀ first ∈ entries.head?,
      tickStart settings start.tables logicalSymbol firstTime =
        first.tickStart settings logicalSymbol := by
    intro first member
    obtain ⟨sameTime, sameCursor⟩ := cycles.first isFirst first member
    unfold CycleEntry.tickStart MarketData.tickStart
    rw [sameTime, sameCursor _ rfl]
  obtain ⟨finish, run, stands⟩ := cycles.run
  obtain ⟨last, isLastEntry, -⟩ := cycles.last isLast
  have delivered := ticksDelivered_run run begins covered
  rw [stands.files]
  exact delivered.written last isLastEntry item
    (knownAtEnd moment item known afterStart beforeEnd last isLastEntry) afterStart beforeEnd

theorem TickWritten.exists_file
    {library : MarketLibrary} {files : List TableFile} {item : TickPayload}
    (written : TickWritten library files logicalSymbol item) :
    ∃ file ∈ files, ∃ record ∈ file.ticks, record.marketTimeMsc = item.marketTimeMsc := by
  obtain ⟨records, batch, record, inside, symbol, -, receivedAtUtc, rfl⟩ := written
  obtain ⟨file, member, here⟩ := exists_tickFile library inside
  exact ⟨file, batch.subset member, _, here, rfl⟩

/-- The ticks of the broker for gold, if they are only added to in order. -/
def goldTicks
    (ticks : Nat → List TickPayload) (bars : List BarPayload)
    (grows : ∀ early late, early ≤ late → ticks early <+: ticks late)
    (increasing : ∀ moment, (ticks moment).Pairwise
      (fun first second => first.marketTimeMsc < second.marketTimeMsc)) :
    TickHistory (goldBroker ticks bars) goldSettings where
  known := fun _ => ticks
  grows := fun _ => grows
  increasing := fun _ => increasing
  range := by
    intro symbol _ moment startAt endAt payload replied item
    obtain rfl := Option.some.inj (Except.ok.inj replied)
    simp [TickPayload.marketTimeUtc]
  newest := fun _ _ _ _ replied => (Except.ok.inj replied).symm

def steadyTicks : TickHistory (goldBroker (fun _ => [goldTick 10]) []) goldSettings :=
  goldTicks _ _ (fun _ _ _ => List.prefix_refl _) (fun _ => List.pairwise_singleton _ _)

theorem steadyTick_delivered :
    ∃ reports after, runCollections (goldBroker (fun _ => [goldTick 10]) []) goldSettings
        [⟨none, some 15000, none⟩, ⟨none, some 100000, none⟩] freshWorld =
          some (reports, after) ∧
      TickWritten plainLibrary after.files "XAUUSD" (goldTick 10) := by
  obtain ⟨⟨reports, after⟩, ran, times⟩ := Option.map_eq_some_iff.mp
    (show (runCollections (goldBroker (fun _ => [goldTick 10]) []) goldSettings
        [⟨none, some 15000, none⟩, ⟨none, some 100000, none⟩] freshWorld).map (fun result =>
          observedTimes "XAUUSD" result.1) = some [15000, 100000]
      by decide +kernel)
  obtain ⟨⟨entries, cycles⟩, delivered⟩ := ticks_delivered _ _ steadyTicks ran "XAUUSD"
  refine ⟨reports, after, ran, delivered entries cycles 15000 (by rw [times]; rfl) 100000
    (by rw [times]; rfl) ?_ ?_ 0 (goldTick 10) (by decide) (by decide) (by decide)⟩
  · intro early next late _ item known _ notNewest
    obtain rfl : item = goldTick 10 := List.mem_singleton.mp known
    exact absurd rfl notNewest
  · exact fun moment item known _ _ last _ => known

/-- Two ticks come in between the two questions of a first cycle. -/
def burst (moment : Nat) : List TickPayload :=
  if moment ≤ 6 then [goldTick 10] else [goldTick 10, goldTick 20, goldTick 25]

def burstTicks : TickHistory (goldBroker burst []) goldSettings :=
  goldTicks burst []
    (by
      intro early late order
      unfold burst
      split
      · split
        · exact List.prefix_refl _
        · exact ⟨[goldTick 20, goldTick 25], rfl⟩
      · split
        · omega
        · exact List.prefix_refl _)
    (by
      intro moment
      unfold burst
      split <;> decide)

theorem burstTick_lost :
    ∃ reports after, runCollections (goldBroker burst []) goldSettings
        [⟨none, some 15000, none⟩, ⟨none, some 100000, none⟩] freshWorld =
          some (reports, after) ∧
      goldTick 20 ∈ burstTicks.known "XAUUSD" 7 ∧
      tickStart goldSettings freshWorld.tables "XAUUSD" 15000 ≤ (goldTick 20).marketTimeUtc ∧
      (goldTick 20).marketTimeUtc ≤ 100000 ∧
      ¬TickWritten plainLibrary after.files "XAUUSD" (goldTick 20) := by
  obtain ⟨⟨reports, after⟩, ran, absent⟩ := Option.map_eq_some_iff.mp
    (show (runCollections (goldBroker burst []) goldSettings
        [⟨none, some 15000, none⟩, ⟨none, some 100000, none⟩] freshWorld).map
          (fun result => result.2.files.all (fun file =>
            file.ticks.all (fun record => record.marketTimeMsc ≠ 20))) = some true
      by decide +kernel)
  refine ⟨reports, after, ran, by decide, by decide, by decide, ?_⟩
  intro written
  obtain ⟨file, member, record, here, same⟩ := written.exists_file
  simp only [List.all_eq_true, decide_eq_true_eq] at absent
  exact absent file member record here same

end SuperAdvisor.MarketData
