import SuperAdvisor.MarketData.FredAdapter

/-!
# The last known observation of a series

A result for a series carries the observation that was parsed last: it was
parsed now, comes from the cache, or from `_last_known` behind a failure.  The
exception is an answer without a usable value, whose result is empty and goes
into the cache.
-/

namespace SuperAdvisor.MarketData

open Calendar Python

variable {Number : Type} {config : FredConfig} {conversions : Conversions Number}

section Answers

/-- `_parse_latest` passes the item over. -/
def Skipped (conversions : Conversions Number) (item : Value) : Prop :=
  ∃ fields, item = .dict fields ∧
    ((getOr fields "value" (.str ".")).equals (.str ".") = true ∨
      ∃ message, conversions.float (getOr fields "value" (.str ".")) =
        .error (.valueError message))

theorem parseLatest_eq_none_iff {readings : Readings} {series : FredSeries} {items : List Value} :
    parseLatest conversions readings series items = .ok none ↔
      ∀ item ∈ items, Skipped conversions item := by
  induction items with
  | nil => simp [parseLatest]
  | cons item items induction =>
      rw [List.forall_mem_cons, ← induction]
      cases item with
      | dict fields =>
          rw [parseLatest]
          by_cases missing : (getOr fields "value" (.str ".")).equals (.str ".") = true
          · simp only [if_pos missing]
            have skipped : Skipped conversions (.dict fields) := ⟨fields, rfl, .inl missing⟩
            exact (and_iff_right skipped).symm
          · simp only [if_neg missing]
            have skipped : Skipped conversions (.dict fields) ↔ ∃ message,
                conversions.float (getOr fields "value" (.str ".")) =
                  .error (.valueError message) := by
              simp [Skipped, missing]
            rw [skipped]
            cases read : conversions.float (getOr fields "value" (.str ".")) with
            | ok value =>
                cases made : observationOf conversions readings series fields value <;>
                  simp [made, Except.map]
            | error problem => cases problem <;> simp
      | _ => simp [parseLatest, Skipped]

/-- An attempt after which the loop goes on. -/
def Attempt.Retried : Attempt → Prop
  | .httpError code => code ∉ nonRetryable
  | .urlError => True
  | _ => False

/-- Within the retries the network answers with a list of observations. -/
def Answers (maxRetries : Int) (attempts : Nat → Attempt) (items : List Value) : Prop :=
  ∃ attempt < maxRetries.toNat, (∀ earlier < attempt, (attempts earlier).Retried) ∧
    ∃ body, attempts attempt = .body body ∧ observationsOf body = .ok items

theorem tryAttempts_eq_ok_iff
    (maxRetries : Int) (seriesId : String) (failed : Rat) (attempts : Nat → Attempt)
    (left first : Nat) (breaker : CircuitBreaker) (items : List Value) :
    (tryAttempts maxRetries seriesId failed attempts left first breaker).1 = .ok items ↔
      ∃ attempt < left, (∀ earlier < attempt, (attempts (first + earlier)).Retried) ∧
        ∃ body, attempts (first + attempt) = .body body ∧ observationsOf body = .ok items := by
  induction left generalizing first with
  | zero => simp [tryAttempts]
  | succ left induction =>
      -- The first attempt ends the loop, or the others decide.
      have split : (∃ attempt < left + 1,
          (∀ earlier < attempt, (attempts (first + earlier)).Retried) ∧
            ∃ body, attempts (first + attempt) = .body body ∧ observationsOf body = .ok items) ↔
          (∃ body, attempts first = .body body ∧ observationsOf body = .ok items) ∨
            (attempts first).Retried ∧
              (tryAttempts maxRetries seriesId failed attempts left (first + 1) breaker).1 =
                .ok items := by
        rw [induction]
        constructor
        · rintro ⟨attempt, inside, retried, body, answered, read⟩
          cases attempt with
          | zero => exact .inl ⟨body, answered, read⟩
          | succ attempt =>
              refine .inr ⟨retried 0 (by omega), attempt, by omega, ?_, body, ?_, read⟩
              · intro earlier before
                have later := retried (earlier + 1) (by omega)
                rwa [show first + (earlier + 1) = first + 1 + earlier by omega] at later
              · rwa [show first + (attempt + 1) = first + 1 + attempt by omega] at answered
        · rintro (⟨body, answered, read⟩ | ⟨again, attempt, inside, retried, body, answered, read⟩)
          · exact ⟨0, by omega, by simp, body, answered, read⟩
          · refine ⟨attempt + 1, by omega, ?_, body, ?_, read⟩
            · intro earlier before
              cases earlier with
              | zero => exact again
              | succ earlier =>
                  have later := retried earlier (by omega)
                  rwa [show first + 1 + earlier = first + (earlier + 1) by omega] at later
            · rwa [show first + 1 + attempt = first + (attempt + 1) by omega] at answered
      rw [split]
      cases outcome : attempts first with
      | body value =>
          cases read : observationsOf value <;> simp [tryAttempts, outcome, read, Attempt.Retried]
      | httpError code =>
          by_cases final : code ∈ nonRetryable <;>
            simp [tryAttempts, outcome, final, Attempt.Retried]
      | urlError => simp [tryAttempts, outcome, Attempt.Retried]
      | raised text => simp [tryAttempts, outcome, Attempt.Retried]

/-- The fetch comes to nothing without an error exactly if the breaker is closed
and the network sends a list without a usable value. -/
theorem observe_eq_none_iff
    {series : FredSeries} {call : FetchCall} {breaker : CircuitBreaker} :
    (observe config conversions series call breaker).1 = .ok none ↔
      (breaker.isOpen call.readings.breakerRead).1 = false ∧
        ∃ items, Answers config.maxRetries call.attempts items ∧
          ∀ item ∈ items, Skipped conversions item := by
  have answers := tryAttempts_eq_ok_iff config.maxRetries series.seriesId call.readings.failed
    call.attempts config.maxRetries.toNat 0 (breaker.isOpen call.readings.breakerRead).2
  simp only [Nat.zero_add] at answers
  cases opened : (breaker.isOpen call.readings.breakerRead).1 with
  | true => simp [observe, fetchObservations, opened]
  | false =>
      simp only [observe, fetchObservations, opened, Bool.false_eq_true, if_false, true_and]
      cases fetched : (tryAttempts config.maxRetries series.seriesId call.readings.failed
          call.attempts config.maxRetries.toNat 0
          (breaker.isOpen call.readings.breakerRead).2).1 with
      | error message =>
          simp only [reduceCtorEq, false_iff, not_exists, not_and]
          intro items answered
          have read := (answers items).mpr answered
          rw [fetched] at read
          cases read
      | ok items =>
          have same : ∀ other, Answers config.maxRetries call.attempts other ↔ items = other := by
            intro other
            rw [Answers, ← answers other, fetched, Except.ok.injEq]
          simp only [same, exists_eq_left']
          rw [← @parseLatest_eq_none_iff Number conversions call.readings series items]
          cases parseLatest conversions call.readings series items <;> simp

end Answers

section Exits

/-- The observation a call parses. -/
def parsedBy (config : FredConfig) (conversions : Conversions Number)
    (adapter : FredAdapter Number) (call : FetchCall) : Option (FredObservation Number) :=
  match OrderedDict.get? fredSeries call.seriesKey with
  | none => none
  | some series =>
      if config.apiKey = "" then none
      else
        match adapter.cached config series.seriesId call.readings.cacheRead with
        | some _ => none
        | none =>
            match (observe config conversions series call adapter.circuit).1 with
            | .ok observation => observation
            | .error _ => none

/-- The answer to the call has no usable value. -/
def ValuesMissing (config : FredConfig) (conversions : Conversions Number)
    (adapter : FredAdapter Number) (call : FetchCall) : Prop :=
  AsksBreaker config adapter call ∧
    (adapter.circuit.isOpen call.readings.breakerRead).1 = false ∧
    ∃ items, Answers config.maxRetries call.attempts items ∧
      ∀ item ∈ items, Skipped conversions item

/-- The ways out of `fetch_series` for a known series: with `_last_known`, from
the cache, or with what has been parsed. -/
inductive FetchExit (config : FredConfig) (conversions : Conversions Number)
    (adapter : FredAdapter Number) (call : FetchCall) (series : FredSeries) :
    FredSeriesResult Number → FredAdapter Number → Prop where
  | remembered (result : FredSeriesResult Number) (circuit : CircuitBreaker) :
      parsedBy config conversions adapter call = none →
      ¬ValuesMissing config conversions adapter call →
      result.latestObservation = OrderedDict.get? adapter.lastKnown series.seriesId →
      FetchExit config conversions adapter call series result { adapter with circuit := circuit }
  | cached (storedAt : Rat) (result : FredSeriesResult Number) :
      parsedBy config conversions adapter call = none →
      ¬ValuesMissing config conversions adapter call →
      OrderedDict.get? adapter.cache series.seriesId = some (storedAt, result) →
      FetchExit config conversions adapter call series result adapter
  | parsed (result : FredSeriesResult Number) (circuit : CircuitBreaker) :
      (parsedBy config conversions adapter call = none ↔
        ValuesMissing config conversions adapter call) →
      result.latestObservation = parsedBy config conversions adapter call →
      FetchExit config conversions adapter call series result
        (({ adapter with circuit := circuit }).stored series call.readings.cacheWritten
          (parsedBy config conversions adapter call) result)

theorem fetchSeries_exit
    (adapter : FredAdapter Number) (call : FetchCall) {series : FredSeries}
    (known : OrderedDict.get? fredSeries call.seriesKey = some series) :
    FetchExit config conversions adapter call series
      (fetchSeries config conversions adapter call).1
      (fetchSeries config conversions adapter call).2 := by
  have missing : ValuesMissing config conversions adapter call ↔ config.apiKey ≠ "" ∧
      adapter.cached config series.seriesId call.readings.cacheRead = none ∧
      (observe config conversions series call adapter.circuit).1 = .ok none := by
    simp [ValuesMissing, AsksBreaker, observe_eq_none_iff, known, and_assoc]
  simp only [fetchSeries, known, fetchKnown]
  by_cases unconfigured : config.apiKey = ""
  · simp only [if_pos unconfigured]
    exact .remembered _ adapter.circuit (by simp [parsedBy, known, unconfigured])
      (by simp [missing, unconfigured]) rfl
  · simp only [if_neg unconfigured]
    cases hit : adapter.cached config series.seriesId call.readings.cacheRead with
    | some result =>
        obtain ⟨storedAt, listed⟩ : ∃ storedAt,
            OrderedDict.get? adapter.cache series.seriesId = some (storedAt, result) := by
          unfold FredAdapter.cached at hit
          split at hit
          · cases hit
          next storedAt other listed =>
            split at hit
            · cases hit
            · cases hit
              exact ⟨storedAt, listed⟩
        exact .cached storedAt result (by simp [parsedBy, known, unconfigured, hit])
          (by simp [missing, hit]) listed
    | none =>
        have parses : parsedBy config conversions adapter call =
            match (observe config conversions series call adapter.circuit).1 with
            | .ok observation => observation
            | .error _ => none := by
          simp [parsedBy, known, unconfigured, hit]
        cases outcome : (observe config conversions series call adapter.circuit).1 with
        | error message =>
            exact .remembered _ _ (by simp [parses, outcome]) (by simp [missing, outcome]) rfl
        | ok observation =>
            have same : parsedBy config conversions adapter call = observation := by
              simp [parses, outcome]
            obtain rfl := same
            refine .parsed _ _ ?_ rfl
            rw [missing, and_iff_right unconfigured, and_iff_right hit, outcome, Except.ok.injEq]

end Exits

section History

/-- The observation of a series that was parsed last. -/
def lastParsed (config : FredConfig) (conversions : Conversions Number) (key : String)
    (history : List (FredEvent Number)) : Option (FredObservation Number) :=
  (history.filterMap (fun event =>
    if event.call.seriesKey = key then parsedBy config conversions event.before event.call
    else none)).getLast?

/-- The result carries the observation parsed last, also by the call itself. -/
def Remembers (config : FredConfig) (conversions : Conversions Number)
    (past : List (FredEvent Number)) (event : FredEvent Number) : Prop :=
  ∀ observation,
    lastParsed config conversions event.call.seriesKey (past ++ [event]) = some observation →
      event.reply.latestObservation = some observation

/-- When an observation has been parsed, the answers have values. -/
def ValuesFollow (config : FredConfig) (conversions : Conversions Number)
    (past : List (FredEvent Number)) (event : FredEvent Number) : Prop :=
  lastParsed config conversions event.call.seriesKey past ≠ none →
    ¬ValuesMissing config conversions event.before event.call

/-- The adapter knows what was parsed last of every series, and so does the
cache. -/
def Knows (config : FredConfig) (conversions : Conversions Number)
    (past : List (FredEvent Number)) (adapter : FredAdapter Number) : Prop :=
  ∀ key series, OrderedDict.get? fredSeries key = some series →
    OrderedDict.get? adapter.lastKnown series.seriesId = lastParsed config conversions key past ∧
      ∀ observation, lastParsed config conversions key past = some observation →
        ∀ storedAt result, OrderedDict.get? adapter.cache series.seriesId =
            some (storedAt, result) →
          result.latestObservation = some observation

variable {past : List (FredEvent Number)} {adapter : FredAdapter Number} {call : FetchCall}

theorem lastParsed_snoc (key : String) (event : FredEvent Number) :
    lastParsed config conversions key (past ++ [event]) =
      if event.call.seriesKey = key then
        (parsedBy config conversions event.before event.call).or
          (lastParsed config conversions key past)
      else lastParsed config conversions key past := by
  by_cases own : event.call.seriesKey = key
  · cases parsed : parsedBy config conversions event.before event.call <;>
      simp [lastParsed, List.filterMap_append, own, parsed]
  · simp [lastParsed, List.filterMap_append, own]

theorem lastParsed_of_unknown
    {key : String} (unknown : OrderedDict.get? fredSeries key = none) :
    lastParsed config conversions key past = none := by
  have nothing : past.filterMap (fun event =>
      if event.call.seriesKey = key then parsedBy config conversions event.before event.call
      else none) = [] := by
    rw [List.filterMap_eq_nil_iff]
    intro event _
    split
    next own => simp [parsedBy, own, unknown]
    · rfl
  simp [lastParsed, nothing]

theorem remembers_iff
    (knows : Knows config conversions past adapter) :
    Remembers config conversions past
        (Machine.eventOf (fetchSeries config conversions) adapter call) ↔
      ValuesFollow config conversions past
        (Machine.eventOf (fetchSeries config conversions) adapter call) := by
  simp only [Remembers, ValuesFollow, lastParsed_snoc, Machine.eventOf, if_true]
  cases known : OrderedDict.get? fredSeries call.seriesKey with
  | none =>
      have nothing : parsedBy config conversions adapter call = none := by
        simp [parsedBy, known]
      simp [lastParsed_of_unknown known, nothing]
  | some series =>
      obtain ⟨last, inCache⟩ := knows call.seriesKey series known
      have exit := @fetchSeries_exit Number config conversions adapter call series known
      generalize (fetchSeries config conversions adapter call).1 = reply at exit ⊢
      generalize (fetchSeries config conversions adapter call).2 = next at exit
      cases exit with
      | remembered _ circuit nothing present latest =>
          refine iff_of_true ?_ (fun _ => present)
          intro observation parsed
          rw [latest, last]
          simpa [nothing] using parsed
      | cached storedAt _ nothing present listed =>
          refine iff_of_true ?_ (fun _ => present)
          intro observation parsed
          exact inCache observation (by simpa [nothing] using parsed) storedAt reply listed
      | parsed _ circuit missing latest =>
          rw [latest]
          cases parsed : parsedBy config conversions adapter call with
          | some observation =>
              have present : ¬ValuesMissing config conversions adapter call := by
                simp [← missing, parsed]
              exact iff_of_true (by simp) (fun _ => present)
          | none =>
              simp only [Option.none_or, missing.mp parsed, not_true_eq_false, imp_false]
              cases lastParsed config conversions call.seriesKey past <;> simp

theorem knows_next
    (knows : Knows config conversions past adapter)
    (remembers : Remembers config conversions past
      (Machine.eventOf (fetchSeries config conversions) adapter call)) :
    Knows config conversions
      (past ++ [Machine.eventOf (fetchSeries config conversions) adapter call])
      (fetchSeries config conversions adapter call).2 := by
  intro key series known
  obtain ⟨last, inCache⟩ := knows key series known
  by_cases own : call.seriesKey = key
  · subst own
    simp only [Remembers, lastParsed_snoc, Machine.eventOf, if_true] at remembers ⊢
    have exit := @fetchSeries_exit Number config conversions adapter call series known
    generalize (fetchSeries config conversions adapter call).1 = reply at exit remembers
    generalize (fetchSeries config conversions adapter call).2 = next at exit ⊢
    cases exit with
    | remembered _ circuit nothing present latest =>
        simp only [nothing, Option.none_or]
        exact ⟨last, inCache⟩
    | cached storedAt _ nothing present listed =>
        simp only [nothing, Option.none_or]
        exact ⟨last, inCache⟩
    | parsed _ circuit missing latest =>
        rw [latest] at remembers
        simp only [FredAdapter.stored, OrderedDict.get?_set_self, Option.some.injEq]
        refine ⟨?_, ?_⟩
        · cases parsed : parsedBy config conversions adapter call with
          | none => simpa using last
          | some observation => simp [OrderedDict.get?_set_self]
        · rintro observation parsed storedAt result ⟨-, rfl⟩
          rw [latest]
          exact remembers observation parsed
  · have frame := fetchSeries_frame config conversions adapter known (Ne.symm own)
    have same : lastParsed config conversions key
        (past ++ [Machine.eventOf (fetchSeries config conversions) adapter call]) =
          lastParsed config conversions key past := by
      rw [lastParsed_snoc]
      exact if_neg own
    rw [frame.1, frame.2, same]
    exact ⟨last, inCache⟩

end History

/-- An observation, and past the life of the cache an empty answer. -/
def emptyAnswer : List FetchCall :=
  [fredCall "US10Y" (observed "4.25"),
    { fredCall "US10Y" (.body (.dict [(.str "observations", .list [])])) with
      readings :=
        { fredReadings with
          cacheRead := 4000
          breakerRead := 4000
          failed := 4000
          cacheWritten := 4000 } }]

end SuperAdvisor.MarketData
