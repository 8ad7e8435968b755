import SuperAdvisor.Foundation.RaisingLoops
import SuperAdvisor.MarketData.Collector
import SuperAdvisor.MarketData.StorageRules

/-!
# What the collector reads

Reading changes no store.  A load holds the replies of the broker, the steps at
which they were given and the records made of them.
-/

namespace SuperAdvisor.MarketData

open Raising

variable {env : Environment} {tables : Tables} {files : List TableFile} {earliest : Nat}

theorem ensures_of_later
    {α : Type} {program : Market α} {returns : α → World → Prop} {moment : Nat}
    (later : earliest ≤ moment)
    (ensures : Ensures (At tables files earliest) program returns
      (fun _ => At tables files earliest)) :
    Ensures (At tables files moment) program returns (fun _ => At tables files earliest) :=
  ensures_weaken ensures (fun _ known => known.weaken later) (fun _ _ known => known)
    (fun _ _ known => known)

private theorem ensures_lastError {α : Type} (message : String → MarketProblem) :
    Ensures (At tables files earliest)
      (do throw (message (env.lastError (← nextMoment))) : Market α)
      (fun _ _ => False) (fun _ => At tables files earliest) := by
  refine ensures_bind ensures_nextMoment ?_
  intro moment
  refine ensures_of_fact (fun later => ?_)
  exact ensures_throw (fun _ known => known.weaken (Nat.le_succ_of_le later))

section Retry

variable {α : Type} {operation : Market α} {returns : α → World → Prop}

private theorem ensures_attempt
    (ensures : Ensures (At tables files earliest) operation returns
      (fun _ => At tables files earliest)) :
    Ensures (At tables files earliest) (attempt env operation) returns
      (fun _ => At tables files earliest) := by
  refine ensures_bind ensures_ask ?_
  intro ready
  refine ensures_of_exists (fun moment => ?_)
  refine ensures_of_fact (fun answered => ?_)
  refine ensures_of_later (Nat.le_succ_of_le answered.2) ?_
  cases ready with
  | true => exact ensures
  | false =>
      exact ensures_weaken (ensures_lastError (fun error =>
        .backendConnection ("backend initialize failed: " ++ error)))
        (fun _ known => known) (fun _ _ impossible => impossible.elim)
        (fun _ _ known => known)

/-- Trying again keeps what every attempt ensures. -/
theorem ensures_retryRun
    (ensures : Ensures (At tables files earliest) operation returns
      (fun _ => At tables files earliest)) (maxAttempts : Nat) :
    Ensures (At tables files earliest) (retryRun env maxAttempts operation) returns
      (fun _ => At tables files earliest) := by
  have general : ∀ attempts lastError,
      Ensures (At tables files earliest) (retryFrom env operation attempts lastError) returns
        (fun _ => At tables files earliest) := by
    intro attempts
    induction attempts with
    | zero => exact fun lastError => ensures_throw (fun _ known => known)
    | succ attempts induction =>
        intro lastError
        refine ensures_tryCatch (ensures_attempt ensures) ?_
        intro problem
        cases problem with
        | backendConnection message => exact induction _
        | valueError message | configValidation message | other message =>
            exact ensures_throw (fun _ known => known)
  exact general maxAttempts _

end Retry

theorem ensures_askPayload
    {α : Type} {name : String} {reply : Nat → Except MarketProblem (Option α)} :
    Ensures (At tables files earliest) (askPayload env name reply)
      (fun payload world => ∃ moment, (reply moment = .ok (some payload) ∧ earliest ≤ moment) ∧
        At tables files (moment + 1) world)
      (fun _ => At tables files earliest) := by
  refine ensures_bind ensures_ask ?_
  intro answer
  refine ensures_of_exists (fun moment => ?_)
  refine ensures_of_fact (fun answered => ?_)
  cases answer with
  | some payload => exact ensures_pure (fun _ known => ⟨moment, answered, known⟩)
  | none =>
      refine ensures_of_later (Nat.le_succ_of_le answered.2) ?_
      exact ensures_weaken (ensures_lastError (fun error =>
        .backendConnection ("MetaTrader5 " ++ name ++ " failed: " ++ error)))
        (fun _ known => known) (fun _ _ impossible => impossible.elim)
        (fun _ _ known => known)

/-- The replies to one reading of the ticks. -/
structure TickLoad where
  rangeMoment : Nat
  newestMoment : Nat
  range : List TickPayload
  newest : Option TickPayload
  records : List TickRecord
  readClock : String → Int

/-- The records the reading returns. -/
def TickLoad.ticks (load : TickLoad) : List TickRecord :=
  (normalizeTickBatch load.readClock load.records).1

/-- The record of a tick that was received at some time. -/
def IsTickOf (library : MarketLibrary) (symbol : ResolvedSymbol) (payload : TickPayload)
    (record : TickRecord) : Prop :=
  ∃ receivedAtUtc, record = tickRecord library symbol.logicalSymbol symbol.brokerSymbol payload
    receivedAtUtc symbol.point

/-- The newest tick is asked for after the range. -/
structure TickLoad.Answers (env : Environment) (symbol : ResolvedSymbol)
    (startAt endAt : Int) (earliest : Nat) (load : TickLoad) : Prop where
  earliest : earliest ≤ load.rangeMoment
  ordered : load.rangeMoment < load.newestMoment
  range : env.copyTicksRange load.rangeMoment symbol.brokerSymbol startAt endAt =
    .ok (some load.range)
  newest : env.symbolInfoTick load.newestMoment symbol.brokerSymbol = .ok load.newest
  records : List.Forall₂ (IsTickOf env.library symbol) (load.range ++ load.newest.toList)
    load.records

/-- The replies to one reading of the bars of a timeframe. -/
structure BarLoad where
  timeframe : Timeframe
  startAt : Int
  moment : Nat
  payload : List BarPayload
  records : List BarRecord
  readClock : String → Int

def BarLoad.bars (load : BarLoad) : List BarRecord :=
  (normalizeBarBatch load.readClock load.records).1

structure BarLoad.Answers (env : Environment) (symbol : ResolvedSymbol)
    (endAt asOfUtc : Int) (earliest : Nat) (load : BarLoad) : Prop where
  earliest : earliest ≤ load.moment
  payload : env.copyRatesRange load.moment symbol.brokerSymbol
    (mt5TimeframeMap load.timeframe) load.startAt endAt = .ok (some load.payload)
  records : load.records = load.payload.map (fun item =>
    barRecord symbol.logicalSymbol symbol.brokerSymbol load.timeframe item asOfUtc)

section Records

variable {symbol : ResolvedSymbol} {startAt endAt asOfUtc : Int}

/-- Every tick of a reading is one of the broker's. -/
theorem TickLoad.Answers.exists_payload
    {load : TickLoad} (answers : load.Answers env symbol startAt endAt earliest)
    {record : TickRecord} (member : record ∈ load.ticks) :
    ∃ payload ∈ load.range ++ load.newest.toList,
      IsTickOf env.library symbol payload record := by
  unfold TickLoad.ticks at member
  rw [normalizeTickBatch_fst] at member
  exact Python.exists_of_mem_right answers.records (Python.mem_of_mem_sortedDistinct member)

/-- Every tick of the broker has a record among those of the reading. -/
theorem TickLoad.Answers.exists_record
    {load : TickLoad} (answers : load.Answers env symbol startAt endAt earliest)
    {payload : TickPayload} (member : payload ∈ load.range ++ load.newest.toList) :
    ∃ record ∈ load.ticks, record.sequenceId =
      tickSequenceId symbol.logicalSymbol symbol.brokerSymbol payload := by
  obtain ⟨made, inside, receivedAtUtc, rfl⟩ :=
    Python.exists_of_mem_left answers.records member
  obtain ⟨kept, here, same⟩ := Python.exists_mem_sortedDistinct
    TickRecord.marketTimeMsc TickRecord.sequenceId inside
  refine ⟨kept, ?_, same⟩
  unfold TickLoad.ticks
  rw [normalizeTickBatch_fst]
  exact here

theorem BarLoad.Answers.exists_payload
    {load : BarLoad} (answers : load.Answers env symbol endAt asOfUtc earliest)
    {record : BarRecord} (member : record ∈ load.bars) :
    ∃ payload ∈ load.payload, record = barRecord symbol.logicalSymbol symbol.brokerSymbol
      load.timeframe payload asOfUtc := by
  unfold BarLoad.bars at member
  rw [normalizeBarBatch_fst] at member
  have made := Python.mem_of_mem_sortedDistinct member
  rw [answers.records] at made
  obtain ⟨payload, inside, same⟩ := List.mem_map.mp made
  exact ⟨payload, inside, same.symm⟩

theorem BarLoad.Answers.exists_record
    {load : BarLoad} (answers : load.Answers env symbol endAt asOfUtc earliest)
    {payload : BarPayload} (member : payload ∈ load.payload) :
    ∃ record ∈ load.bars, record.barId =
      barId symbol.logicalSymbol load.timeframe payload.openTime := by
  have made : barRecord symbol.logicalSymbol symbol.brokerSymbol load.timeframe payload asOfUtc ∈
      load.records := by
    rw [answers.records]
    exact List.mem_map_of_mem member
  obtain ⟨kept, here, same⟩ := Python.exists_mem_sortedDistinct
    BarRecord.openTimeUtc BarRecord.barId made
  refine ⟨kept, ?_, same⟩
  unfold BarLoad.bars
  rw [normalizeBarBatch_fst]
  exact here

end Records

theorem normalizeBars_ok
    {logicalSymbol brokerSymbol : String} {timeframe : Timeframe} {payload : List BarPayload}
    {asOfUtc : Int} {records : List BarRecord}
    (normal : payload.mapM (fun item =>
      normalizeBar logicalSymbol brokerSymbol timeframe item asOfUtc) = .ok records) :
    records = payload.map (fun item =>
      barRecord logicalSymbol brokerSymbol timeframe item asOfUtc) := by
  have matched := (Python.mapM_eq_ok_iff.mp normal).imp
    (fun item record made => (normalizeBar_ok made).symm)
  have mapped := List.forall₂_map_left_iff.mpr matched
  rw [List.forall₂_eq_eq_eq] at mapped
  exact mapped.symm

namespace Service

variable {settings : MarketDataSettings} {symbol : ResolvedSymbol}

private theorem ensures_normalizeReceived {payload : TickPayload} :
    Ensures (At tables files earliest) (normalizeReceived env symbol payload)
      (fun record world => IsTickOf env.library symbol payload record ∧
        At tables files earliest world)
      (fun _ => At tables files earliest) := by
  refine ensures_bind ensures_utcNow ?_
  intro receivedAtUtc
  refine ensures_ofExcept ?_ (fun _ _ _ known => known)
  intro record world normal known
  exact ⟨⟨receivedAtUtc, normalizeTick_ok normal⟩, known⟩

theorem ensures_loadTicks {startAt endAt : Int} :
    Ensures (At tables files earliest) (loadTicks env settings symbol startAt endAt)
      (fun result world => ∃ load : TickLoad,
        (load.Answers env symbol startAt endAt earliest ∧
          result = normalizeTickBatch load.readClock load.records) ∧
        At tables files (load.newestMoment + 1) world)
      (fun _ => At tables files earliest) := by
  refine ensures_bind (ensures_retryRun ensures_askPayload _) ?_
  intro range
  refine ensures_of_exists (fun rangeMoment => ?_)
  refine ensures_of_fact (fun rangeAnswered => ?_)
  have notEarlier := Nat.le_succ_of_le rangeAnswered.2
  refine ensures_weaken (?_ : Ensures _ _ _ (fun _ => At tables files (rangeMoment + 1)))
    (fun _ known => known) (fun _ _ known => known) (fun _ _ known => known.weaken notEarlier)
  refine ensures_bind
    (ensures_mapM_forall₂ (fun payload _ => ensures_normalizeReceived)) ?_
  intro records
  refine ensures_of_fact (fun rangeRecords => ?_)
  refine ensures_bind (ensures_retryRun ensures_ask _) ?_
  intro newest
  refine ensures_of_exists (fun newestMoment => ?_)
  refine ensures_of_fact (fun newestAnswered => ?_)
  refine ensures_weaken (?_ : Ensures _ _ _ (fun _ => At tables files (newestMoment + 1)))
    (fun _ known => known) (fun _ _ known => known)
    (fun _ _ known => known.weaken (Nat.le_succ_of_le newestAnswered.2))
  refine ensures_bind
    (ensures_mapM_forall₂ (fun payload _ => ensures_normalizeReceived)) ?_
  intro latest
  refine ensures_of_fact (fun latestRecords => ?_)
  refine ensures_bind ensures_incidentClock ?_
  intro readClock
  refine ensures_pure (fun world known => ?_)
  exact ⟨⟨rangeMoment, newestMoment, range, newest, records ++ latest, readClock⟩,
    ⟨⟨rangeAnswered.2, newestAnswered.2, rangeAnswered.1, newestAnswered.1,
      List.rel_append rangeRecords latestRecords⟩, rfl⟩, known⟩

theorem ensures_loadBars {timeframe : Timeframe} {startAt endAt asOfUtc : Int} :
    Ensures (At tables files earliest)
      (loadBars env settings symbol timeframe startAt endAt asOfUtc)
      (fun result world => ∃ moment payload,
        (earliest ≤ moment ∧
          env.copyRatesRange moment symbol.brokerSymbol (mt5TimeframeMap timeframe) startAt
            endAt = .ok (some payload) ∧
          result = payload.map (fun item =>
            barRecord symbol.logicalSymbol symbol.brokerSymbol timeframe item asOfUtc)) ∧
        At tables files (moment + 1) world)
      (fun _ => At tables files earliest) := by
  refine ensures_bind (ensures_retryRun ensures_askPayload _) ?_
  intro payload
  refine ensures_of_exists (fun moment => ?_)
  refine ensures_of_fact (fun answered => ?_)
  refine ensures_ofExcept ?_ ?_
  · intro records world normal known
    exact ⟨moment, payload, ⟨answered.2, answered.1, normalizeBars_ok normal⟩, known⟩
  · intro _ _ _ known
    exact known.weaken (Nat.le_succ_of_le answered.2)

end Service

end SuperAdvisor.MarketData
