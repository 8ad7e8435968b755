import SuperAdvisor.MarketData.FredAdapter

/-!
# One breaker for all series

Two runs of an adapter get the same calls and clock readings, and the network
treats them differently only on requests for one series.  The other series
share no cache entry and no last known observation with it, but all series
share the circuit breaker: the results agree as long as the breaker does.
-/

namespace SuperAdvisor.MarketData

open Calendar Python

variable {Number : Type} {config : FredConfig} {conversions : Conversions Number}

/-- The calls differ at most in what the network does for the hidden series. -/
structure SameCall (hidden : String) (left right : FetchCall) : Prop where
  seriesKey : left.seriesKey = right.seriesKey
  readings : left.readings = right.readings
  attempts : left.seriesKey ≠ hidden → left.attempts = right.attempts

def breakerOpen (adapter : FredAdapter Number) (call : FetchCall) : Bool :=
  (adapter.circuit.isOpen call.readings.breakerRead).1

/-- The two adapters know the same of every series but the hidden one. -/
def AgreeOff (hidden : String) (left right : FredAdapter Number) : Prop :=
  ∀ key series, OrderedDict.get? fredSeries key = some series → key ≠ hidden →
    OrderedDict.get? left.cache series.seriesId = OrderedDict.get? right.cache series.seriesId ∧
      OrderedDict.get? left.lastKnown series.seriesId =
        OrderedDict.get? right.lastKnown series.seriesId

section Observing

variable {series : FredSeries} {call : FetchCall}

/-- What the attempts give does not depend on the breaker. -/
theorem tryAttempts_fst
    (maxRetries : Int) (seriesId : String) (failed : Rat) (attempts : Nat → Attempt)
    (left attempt : Nat) (first second : CircuitBreaker) :
    (tryAttempts maxRetries seriesId failed attempts left attempt first).1 =
      (tryAttempts maxRetries seriesId failed attempts left attempt second).1 := by
  induction left generalizing attempt with
  | zero => rfl
  | succ left induction =>
      cases outcome : attempts attempt with
      | body value =>
          cases read : observationsOf value <;> simp [tryAttempts, outcome, read]
      | httpError code =>
          by_cases final : code ∈ nonRetryable
          · simp [tryAttempts, outcome, final]
          · simpa [tryAttempts, outcome, final] using induction (attempt + 1)
      | urlError => simpa [tryAttempts, outcome] using induction (attempt + 1)
      | raised text => simp [tryAttempts, outcome]

theorem observe_open
    {breaker : CircuitBreaker} (opened : (breaker.isOpen call.readings.breakerRead).1 = true) :
    (observe config conversions series call breaker).1 =
      .error ("circuit breaker open for FRED " ++ series.seriesId) := by
  simp [observe, fetchObservations, opened]

/-- Behind a closed breaker only the network decides. -/
theorem observe_closed
    {first second : CircuitBreaker}
    (firstClosed : (first.isOpen call.readings.breakerRead).1 = false)
    (secondClosed : (second.isOpen call.readings.breakerRead).1 = false) :
    (observe config conversions series call first).1 =
      (observe config conversions series call second).1 := by
  have same := tryAttempts_fst config.maxRetries series.seriesId call.readings.failed
    call.attempts config.maxRetries.toNat 0 (first.isOpen call.readings.breakerRead).2
    (second.isOpen call.readings.breakerRead).2
  simp only [observe, fetchObservations, firstClosed, secondClosed, Bool.false_eq_true, if_false,
    same]
  split
  · rfl
  · split <;> rfl

/-- The message of the open breaker is no other message. -/
theorem tryAttempts_ne_open
    (maxRetries : Int) (seriesId : String) (failed : Rat) (attempts : Nat → Attempt)
    (left attempt : Nat) (breaker : CircuitBreaker) (name : String) :
    (tryAttempts maxRetries seriesId failed attempts left attempt breaker).1 ≠
      .error ("circuit breaker open for FRED " ++ name) := by
  have other : ∀ text : String, text.toList.head? = some 'F' →
      (Except.error text : Except String (List Value)) ≠
        .error ("circuit breaker open for FRED " ++ name) := by
    intro text first same
    rw [Except.error.inj same] at first
    simp at first
  induction left generalizing attempt breaker with
  | zero => exact other _ (by simp)
  | succ left induction =>
      cases outcome : attempts attempt with
      | body value =>
          cases read : observationsOf value with
          | ok items => simp [tryAttempts, outcome, read]
          | error problem =>
              simp only [tryAttempts, outcome, read]
              exact other _ (by simp)
      | httpError code =>
          by_cases final : code ∈ nonRetryable
          · simp only [tryAttempts, outcome, if_pos final]
            exact other _ (by simp)
          · simpa [tryAttempts, outcome, final] using induction (attempt + 1) breaker
      | urlError => simpa [tryAttempts, outcome] using induction (attempt + 1) breaker
      | raised text =>
          simp only [tryAttempts, outcome]
          exact other _ (by simp)

theorem observe_ne_open
    {breaker : CircuitBreaker} (closed : (breaker.isOpen call.readings.breakerRead).1 = false)
    (name : String) :
    (observe config conversions series call breaker).1 ≠
      .error ("circuit breaker open for FRED " ++ name) := by
  have other := tryAttempts_ne_open config.maxRetries series.seriesId call.readings.failed
    call.attempts config.maxRetries.toNat 0 (breaker.isOpen call.readings.breakerRead).2 name
  simp only [observe, fetchObservations, closed, Bool.false_eq_true, if_false]
  split
  next message fetched =>
    rw [fetched] at other
    simpa using other
  · split
    next problem _ =>
      intro same
      have first := congrArg (fun text => text.toList.head?) (Except.error.inj same)
      simp at first
    · simp

end Observing

section Calls

variable {hidden : String} {left right : FredAdapter Number}

theorem agreeOff_frame
    {first second : FetchCall} (agree : AgreeOff hidden left right)
    (same : SameCall hidden first second)
    (own : ∀ series, OrderedDict.get? fredSeries first.seriesKey = some series →
      first.seriesKey ≠ hidden →
        OrderedDict.get? (fetchSeries config conversions left first).2.cache series.seriesId =
            OrderedDict.get? (fetchSeries config conversions right second).2.cache
              series.seriesId ∧
          OrderedDict.get? (fetchSeries config conversions left first).2.lastKnown
              series.seriesId =
            OrderedDict.get? (fetchSeries config conversions right second).2.lastKnown
              series.seriesId) :
    AgreeOff hidden (fetchSeries config conversions left first).2
      (fetchSeries config conversions right second).2 := by
  intro key series known visible
  by_cases asked : key = first.seriesKey
  · exact own series (asked ▸ known) (asked ▸ visible)
  · have leftFrame := fetchSeries_frame config conversions left known asked
    have rightFrame := fetchSeries_frame config conversions right known
      (show key ≠ second.seriesKey from same.seriesKey ▸ asked)
    have before := agree key series known visible
    exact ⟨leftFrame.1.trans (before.1.trans rightFrame.1.symm),
      leftFrame.2.trans (before.2.trans rightFrame.2.symm)⟩

/-- The error of a call that asks the breaker. -/
theorem fetchKnown_error
    {adapter : FredAdapter Number} {call : FetchCall} {series : FredSeries}
    (configured : config.apiKey ≠ "")
    (missed : adapter.cached config series.seriesId call.readings.cacheRead = none) :
    (fetchKnown config conversions adapter call series).1.error =
      match (observe config conversions series call adapter.circuit).1 with
      | .error message => some message
      | .ok _ => none := by
  simp only [fetchKnown, if_neg configured, missed]
  split <;> simp_all [seriesResult]

/-- Adapters that know the same of a series and observe the same answer the
same and go on to know the same. -/
theorem fetchKnown_same
    {call : FetchCall} {series : FredSeries}
    (cacheSame : OrderedDict.get? left.cache series.seriesId =
      OrderedDict.get? right.cache series.seriesId)
    (lastSame : OrderedDict.get? left.lastKnown series.seriesId =
      OrderedDict.get? right.lastKnown series.seriesId)
    (observedSame : config.apiKey ≠ "" →
      left.cached config series.seriesId call.readings.cacheRead = none →
        (observe config conversions series call left.circuit).1 =
          (observe config conversions series call right.circuit).1) :
    (fetchKnown config conversions left call series).1 =
        (fetchKnown config conversions right call series).1 ∧
      OrderedDict.get? (fetchKnown config conversions left call series).2.cache series.seriesId =
        OrderedDict.get? (fetchKnown config conversions right call series).2.cache
          series.seriesId ∧
      OrderedDict.get? (fetchKnown config conversions left call series).2.lastKnown
          series.seriesId =
        OrderedDict.get? (fetchKnown config conversions right call series).2.lastKnown
          series.seriesId := by
  have cachedSame : left.cached config series.seriesId call.readings.cacheRead =
      right.cached config series.seriesId call.readings.cacheRead := by
    simp only [FredAdapter.cached, cacheSame]
  unfold fetchKnown
  by_cases unconfigured : config.apiKey = ""
  · simp only [if_pos unconfigured]
    exact ⟨by rw [lastSame], cacheSame, lastSame⟩
  · cases hit : right.cached config series.seriesId call.readings.cacheRead with
    | some result =>
        simp only [if_neg unconfigured, cachedSame, hit]
        exact ⟨trivial, cacheSame, lastSame⟩
    | none =>
        have observed := observedSame unconfigured (cachedSame.trans hit)
        simp only [if_neg unconfigured, cachedSame, hit, observed]
        cases (observe config conversions series call right.circuit).1 with
        | error message => exact ⟨by rw [lastSame], cacheSame, lastSame⟩
        | ok observation =>
            refine ⟨rfl, ?_, ?_⟩
            · simp only [FredAdapter.stored, OrderedDict.get?_set_self]
            · cases observation with
              | none => exact lastSame
              | some observation =>
                  simp only [FredAdapter.stored, OrderedDict.get?_set_self]

/-- Calls for a visible series give the same exactly if the breaker does, and
then leave the same behind. -/
theorem fetchSeries_visible
    (agree : AgreeOff hidden left right) {call : FetchCall} (visible : call.seriesKey ≠ hidden) :
    ((fetchSeries config conversions left call).1 = (fetchSeries config conversions right call).1 ↔
      (AsksBreaker config left call → breakerOpen left call = breakerOpen right call)) ∧
    ((AsksBreaker config left call → breakerOpen left call = breakerOpen right call) →
      AgreeOff hidden (fetchSeries config conversions left call).2
        (fetchSeries config conversions right call).2) := by
  have whenSame : (AsksBreaker config left call → breakerOpen left call = breakerOpen right call) →
      (fetchSeries config conversions left call).1 =
          (fetchSeries config conversions right call).1 ∧
        AgreeOff hidden (fetchSeries config conversions left call).2
          (fetchSeries config conversions right call).2 := by
    intro breaker
    cases known : OrderedDict.get? fredSeries call.seriesKey with
    | none =>
        simp only [fetchSeries, known]
        exact ⟨trivial, agree⟩
    | some series =>
        obtain ⟨cacheSame, lastSame⟩ := agree call.seriesKey series known visible
        have same := @fetchKnown_same Number config conversions left right call series
          cacheSame lastSame (fun configured missed => by
            have decided := breaker ⟨configured, series, known, missed⟩
            simp only [breakerOpen] at decided
            cases opened : (right.circuit.isOpen call.readings.breakerRead).1 with
            | true => rw [observe_open (decided.trans opened), observe_open opened]
            | false => exact observe_closed (decided.trans opened) opened)
        refine ⟨by simpa only [fetchSeries, known] using same.1, ?_⟩
        refine agreeOff_frame agree ⟨rfl, rfl, fun _ => rfl⟩ ?_
        intro other found _
        obtain rfl : series = other := Option.some.inj (known.symm.trans found)
        simpa only [fetchSeries, known] using same.2
  refine ⟨⟨?_, fun breaker => (whenSame breaker).1⟩, fun breaker => (whenSame breaker).2⟩
  rintro replies ⟨configured, series, known, missed⟩
  obtain ⟨cacheSame, -⟩ := agree call.seriesKey series known visible
  have missed' : right.cached config series.seriesId call.readings.cacheRead = none := by
    simpa only [FredAdapter.cached, cacheSame] using missed
  have errors := congrArg FredSeriesResult.error replies
  simp only [fetchSeries, known, fetchKnown_error configured missed,
    fetchKnown_error configured missed'] at errors
  unfold breakerOpen
  cases leftOpen : (left.circuit.isOpen call.readings.breakerRead).1 with
  | true =>
      cases rightOpen : (right.circuit.isOpen call.readings.breakerRead).1 with
      | true => rfl
      | false =>
          rw [observe_open leftOpen] at errors
          have other := @observe_ne_open Number config conversions series call right.circuit
            rightOpen series.seriesId
          cases observed : (observe config conversions series call right.circuit).1 with
          | error message => simp_all
          | ok _ => simp [observed] at errors
  | false =>
      cases rightOpen : (right.circuit.isOpen call.readings.breakerRead).1 with
      | false => rfl
      | true =>
          rw [observe_open rightOpen] at errors
          have other := @observe_ne_open Number config conversions series call left.circuit
            leftOpen series.seriesId
          cases observed : (observe config conversions series call left.circuit).1 with
          | error message => simp_all
          | ok _ => simp [observed] at errors

/-- The visible results of the two runs are the same. -/
def SameResults (hidden : String) (left right : List (FredEvent Number)) : Prop :=
  List.Forall₂
    (fun first second => first.call.seriesKey ≠ hidden → first.reply = second.reply) left right

/-- The breaker answers the visible calls the same in the two runs. -/
def SameBreaker (config : FredConfig) (hidden : String) (left right : List (FredEvent Number)) :
    Prop :=
  List.Forall₂
    (fun first second => first.call.seriesKey ≠ hidden → AsksBreaker config first.before first.call →
      breakerOpen first.before first.call = breakerOpen second.before second.call) left right

theorem SameCall.eq_of_visible
    {first second : FetchCall} (same : SameCall hidden first second)
    (visible : first.seriesKey ≠ hidden) : first = second := by
  obtain ⟨key, readings, attempts⟩ := first
  obtain ⟨key', readings', attempts'⟩ := second
  obtain ⟨rfl, rfl, sameAttempts⟩ := same
  obtain rfl : attempts = attempts' := sameAttempts visible
  rfl

/-- The visible results are the same as long as the breaker is. -/
theorem sameResults_iff
    {leftCalls rightCalls : List FetchCall}
    (differ : List.Forall₂ (SameCall hidden) leftCalls rightCalls)
    (agree : AgreeOff hidden left right) :
    SameResults hidden
        (Machine.trace (fetchSeries config conversions) left leftCalls)
        (Machine.trace (fetchSeries config conversions) right rightCalls) ↔
      SameBreaker config hidden
        (Machine.trace (fetchSeries config conversions) left leftCalls)
        (Machine.trace (fetchSeries config conversions) right rightCalls) := by
  induction differ generalizing left right with
  | nil => exact iff_of_true .nil .nil
  | @cons first second leftCalls rightCalls same _ induction =>
      simp only [SameResults, SameBreaker, Machine.trace, List.forall₂_cons] at induction ⊢
      by_cases visible : first.seriesKey = hidden
      · have next := @agreeOff_frame Number config conversions hidden left right first second
          agree same (fun _ _ shown => absurd visible shown)
        rw [induction next]
        simp [Machine.eventOf, visible]
      · obtain rfl := same.eq_of_visible visible
        obtain ⟨replies, next⟩ :=
          @fetchSeries_visible Number config conversions hidden left right agree first visible
        simp only [Machine.eventOf, visible, not_false_eq_true, forall_const, ne_eq]
        constructor
        · rintro ⟨same, later⟩
          have breaker := replies.mp same
          exact ⟨breaker, (induction (next breaker)).mp later⟩
        · rintro ⟨breaker, later⟩
          exact ⟨replies.mpr breaker, (induction (next breaker)).mpr later⟩

end Calls

/-- Three calls for one series that end as given, and one for the other. -/
def fourCalls (attempt : Attempt) : List FetchCall :=
  [fredCall "US10Y" attempt, fredCall "US10Y" attempt, fredCall "US10Y" attempt,
    fredCall "USD_BROAD" (observed "118.5")]

theorem fourCalls_differ (first second : Attempt) :
    List.Forall₂ (SameCall "US10Y") (fourCalls first) (fourCalls second) := by
  have hidden : SameCall "US10Y" (fredCall "US10Y" first) (fredCall "US10Y" second) :=
    ⟨rfl, rfl, fun visible => absurd rfl visible⟩
  exact .cons hidden (.cons hidden (.cons hidden (.cons ⟨rfl, rfl, fun _ => rfl⟩ .nil)))

end SuperAdvisor.MarketData
