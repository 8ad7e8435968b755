import SuperAdvisor.MarketData.FredAdapter

/-!
# The first usable observation

The adapter passes over an item whose value is missing or no number, and stops at
the first other one, whatever that is.  So it returns the first item with a
finite number and a date exactly if no worse item stands before it.
-/

namespace SuperAdvisor.MarketData

open Python

abbrev Fields := List (Key × Value)

def rawValue (fields : Fields) : Value :=
  getOr fields "value" (.str ".")

def dateText (fields : Fields) : String :=
  (getOr fields "date" (.str "")).text

section Items

variable {Number : Type} (conversions : Conversions Number) (isFinite : Number → Bool)
  (readings : Readings) (series : FredSeries)

/-- The value is missing, or a text that denotes no number. -/
def skipped (fields : Fields) : Bool :=
  (rawValue fields).equals (.str ".") ||
    match conversions.float (rawValue fields) with
    | .error (.valueError _) => true
    | _ => false

def hasFiniteNumber (fields : Fields) : Bool :=
  !(rawValue fields).equals (.str ".") &&
    match conversions.float (rawValue fields) with
    | .ok number => isFinite number
    | .error _ => false

def hasDate (fields : Fields) : Bool :=
  dateText fields != "" && (conversions.parseDate (dateText fields)).toBool

/-- The value is a finite number and the date is well formed. -/
def usable (fields : Fields) : Bool :=
  hasFiniteNumber conversions isFinite fields && hasDate conversions fields

def observationFrom (fields : Fields) : Except Failure (FredObservation Number) := do
  let number ← conversions.float (rawValue fields)
  observationOf conversions readings series fields number

/-- What the parse of these items is meant to return. -/
def firstUsable (objects : List Fields) : Except Failure (Option (FredObservation Number)) :=
  match objects.find? (usable conversions isFinite) with
  | none => .ok none
  | some fields => (observationFrom conversions readings series fields).map some

/-- A result that counts as an observation has a finite value. -/
def FiniteIfReported (result : FredSeriesResult Number) : Prop :=
  result.status ≠ .sourceUnavailable →
    ∃ observation, result.latestObservation = some observation ∧
      isFinite observation.value = true

def CacheFinite (adapter : FredAdapter Number) : Prop :=
  ∀ seriesId stored result, OrderedDict.get? adapter.cache seriesId = some (stored, result) →
    FiniteIfReported isFinite result

/-- A fetch of the series that gets these items. -/
structure Fetches (objects : List Fields) (config : FredConfig) (adapter : FredAdapter Number)
    (call : FetchCall) : Prop where
  readings : call.readings = readings
  known : OrderedDict.get? fredSeries call.seriesKey = some series
  fetched : (fetchObservations config series.seriesId call adapter.circuit).1 =
    .ok (objects.map Value.dict)

/-- The parse returns the first usable item, and a fetch reports it. -/
structure ParsesFirstUsable (objects : List Fields) : Prop where
  parse : parseLatest conversions readings series (objects.map Value.dict) =
    firstUsable conversions isFinite readings series objects
  fetch : ∀ config adapter call, Fetches readings series objects config adapter call →
    CacheFinite isFinite adapter →
      FiniteIfReported isFinite (fetchSeries config conversions adapter call).1 ∧
        CacheFinite isFinite (fetchSeries config conversions adapter call).2

end Items

section Parsing

variable {Number : Type} {conversions : Conversions Number} {isFinite : Number → Bool}
  {readings : Readings} {series : FredSeries} {fields : Fields} {objects : List Fields}

/-- A usable item makes an observation with its number and its date. -/
theorem exists_observationFrom (good : usable conversions isFinite fields = true) :
    ∃ observation, observationFrom conversions readings series fields = .ok observation ∧
      isFinite observation.value = true ∧ observation.date ≠ "" := by
  obtain ⟨hasNumber, isDated⟩ := Bool.and_eq_true_iff.mp good
  obtain ⟨-, finite⟩ := Bool.and_eq_true_iff.mp hasNumber
  obtain ⟨nonempty, parsed⟩ := Bool.and_eq_true_iff.mp isDated
  have dated : dateText fields ≠ "" := by simpa using nonempty
  cases converted : conversions.float (rawValue fields) with
  | error problem => simp [converted] at finite
  | ok number =>
      rw [converted] at finite
      cases read : conversions.parseDate (dateText fields) with
      | error problem => simp [read, Except.toBool] at parsed
      | ok date =>
          have made : ∃ observation,
              observationOf conversions readings series fields number = .ok observation ∧
                observation.value = number ∧ observation.date = dateText fields := by
            unfold dateText at dated read ⊢
            simp only [observationOf, if_neg dated, read, Except.map, bind, Except.bind]
            exact ⟨_, rfl, rfl, rfl⟩
          obtain ⟨observation, observed, hasValue, hasDate⟩ := made
          refine ⟨observation, ?_, hasValue ▸ finite, hasDate ▸ dated⟩
          simp only [observationFrom, converted, bind, Except.bind]
          exact observed

theorem not_skipped_of_usable (good : usable conversions isFinite fields = true) :
    skipped conversions fields = false := by
  obtain ⟨hasNumber, -⟩ := Bool.and_eq_true_iff.mp good
  obtain ⟨present, finite⟩ := Bool.and_eq_true_iff.mp hasNumber
  rw [skipped, Bool.or_eq_false_iff]
  refine ⟨by simpa using present, ?_⟩
  cases converted : conversions.float (rawValue fields) with
  | error problem => simp [converted] at finite
  | ok number => rfl

theorem parseLatest_of_skipped (bad : skipped conversions fields = true) (items : List Value) :
    parseLatest conversions readings series (.dict fields :: items) =
      parseLatest conversions readings series items := by
  unfold skipped rawValue at bad
  rw [parseLatest]
  split
  · rfl
  next present =>
    rw [Bool.or_eq_true_iff, or_iff_right present] at bad
    split at bad
    next converted => simp [converted]
    next => cases bad

/-- The first item that is not passed over ends the parse. -/
theorem parseLatest_of_not_skipped
    (stops : skipped conversions fields = false) (items : List Value) :
    parseLatest conversions readings series (.dict fields :: items) =
      (observationFrom conversions readings series fields).map some := by
  obtain ⟨present, numbered⟩ := Bool.or_eq_false_iff.mp stops
  unfold rawValue at present numbered
  rw [parseLatest, observationFrom, rawValue]
  simp only [present, Bool.false_eq_true, if_false]
  cases converted : conversions.float (getOr fields "value" (.str ".")) with
  | ok number => rfl
  | error problem =>
      rw [converted] at numbered
      cases problem <;> first | rfl | cases numbered

/-- The parse is one of the first item that is not passed over. -/
theorem parseLatest_eq :
    parseLatest conversions readings series (objects.map Value.dict) =
      match objects.find? fun fields => !skipped conversions fields with
      | none => .ok none
      | some fields => (observationFrom conversions readings series fields).map some := by
  induction objects with
  | nil => rfl
  | cons fields objects induction =>
      rw [List.map_cons, List.find?_cons]
      cases bad : skipped conversions fields with
      | true => simpa [parseLatest_of_skipped bad] using induction
      | false => simpa using parseLatest_of_not_skipped bad (objects.map Value.dict)

/-- The usable items stand among those that are not passed over. -/
theorem find?_usable_of_skipped
    (none_left : objects.find? (fun fields => !skipped conversions fields) = none) :
    objects.find? (usable conversions isFinite) = none := by
  rw [List.find?_eq_none] at none_left ⊢
  intro fields member good
  exact none_left fields member (by simp [not_skipped_of_usable good])

theorem find?_usable_of_stop
    (stop : objects.find? (fun fields => !skipped conversions fields) = some fields)
    (good : usable conversions isFinite fields = true) :
    objects.find? (usable conversions isFinite) = some fields := by
  obtain ⟨-, before, after, rfl, skippedBefore⟩ := List.find?_eq_some_iff_append.mp stop
  refine List.find?_eq_some_iff_append.mpr ⟨good, before, after, rfl, ?_⟩
  intro earlier member
  have bad := skippedBefore earlier member
  by_contra isGood
  simp [not_skipped_of_usable (by simpa using isGood)] at bad

/-- An item that the parse stops at without its being usable makes no observation
of a usable item. -/
theorem observationFrom_ne_of_not_usable
    (stops : skipped conversions fields = false)
    (bad : usable conversions isFinite fields = false)
    {observation : FredObservation Number} (finite : isFinite observation.value = true)
    (dated : observation.date ≠ "") :
    observationFrom conversions readings series fields ≠ .ok observation := by
  intro made
  obtain ⟨number, converted, made⟩ := except_bind_eq_ok.mp made
  have present := (Bool.or_eq_false_iff.mp stops).1
  unfold usable hasFiniteNumber hasDate at bad
  by_cases missing : dateText fields = ""
  · unfold dateText at missing
    simp only [observationOf, missing, if_pos, bind, Except.bind] at made
    cases made
    exact dated rfl
  have undated := missing
  unfold dateText at undated
  simp only [observationOf, if_neg undated, bind, Except.bind] at made
  cases read : conversions.parseDate (dateText fields) with
  | error problem =>
      unfold dateText at read
      simp [read, Except.map] at made
  | ok date =>
      have readHere := read
      unfold dateText at readHere
      simp only [readHere, Except.map] at made
      cases made
      have finiteNumber : isFinite number = true := finite
      simp [present, converted, finiteNumber, missing, read, Except.toBool] at bad

/-- The parse is right exactly if the item it stops at is usable. -/
theorem parseLatest_eq_firstUsable_iff :
    parseLatest conversions readings series (objects.map Value.dict) =
        firstUsable conversions isFinite readings series objects ↔
      ∀ fields, objects.find? (fun fields => !skipped conversions fields) = some fields →
        usable conversions isFinite fields = true := by
  rw [parseLatest_eq, firstUsable]
  constructor
  · intro same fields stop
    rw [stop] at same
    have stops : skipped conversions fields = false := by
      simpa using List.find?_some stop
    by_contra bad
    rw [Bool.not_eq_true] at bad
    cases wanted : objects.find? (usable conversions isFinite) with
    | none =>
        rw [wanted] at same
        obtain ⟨observation, -, isNone⟩ := except_map_eq_ok.mp same
        cases isNone
    | some other =>
        rw [wanted] at same
        obtain ⟨observation, made, finite, dated⟩ :=
          @exists_observationFrom _ _ _ readings series _ (List.find?_some wanted)
        simp only [made, Except.map] at same
        obtain ⟨reported, from_stop, isSome⟩ := except_map_eq_ok.mp same
        cases isSome
        exact observationFrom_ne_of_not_usable stops bad finite dated from_stop
  · intro goodStops
    cases stop : objects.find? fun fields => !skipped conversions fields with
    | none => rw [find?_usable_of_skipped stop]
    | some fields => rw [find?_usable_of_stop stop (goodStops fields stop)]

/-- What the specified parse returns has a finite value. -/
theorem finite_of_firstUsable {observation : FredObservation Number}
    (returned : firstUsable conversions isFinite readings series objects =
      .ok (some observation)) : isFinite observation.value = true := by
  unfold firstUsable at returned
  cases wanted : objects.find? (usable conversions isFinite) with
  | none =>
      rw [wanted] at returned
      cases returned
  | some fields =>
      obtain ⟨made, fromFields, finite, -⟩ :=
        @exists_observationFrom _ _ _ readings series _ (List.find?_some wanted)
      simp only [wanted, fromFields, Except.map] at returned
      cases returned
      exact finite

end Parsing

section Fetching

variable {Number : Type} {conversions : Conversions Number} {isFinite : Number → Bool}
  {series : FredSeries} {objects : List Fields} {config : FredConfig}
  {adapter : FredAdapter Number} {call : FetchCall}

/-- A result in the cache is one of those that were reported. -/
theorem finite_of_cached (cacheFinite : CacheFinite isFinite adapter) {seriesId : String}
    {now : Rat} {result : FredSeriesResult Number}
    (found : adapter.cached config seriesId now = some result) :
    FiniteIfReported isFinite result := by
  unfold FredAdapter.cached at found
  split at found
  · cases found
  next stored cached entry =>
    split at found
    · cases found
    · cases found
      exact cacheFinite seriesId stored result entry

theorem cacheFinite_stored (cacheFinite : CacheFinite isFinite adapter) (now : Rat)
    (observation : Option (FredObservation Number)) {result : FredSeriesResult Number}
    (finite : FiniteIfReported isFinite result) :
    CacheFinite isFinite (adapter.stored series now observation result) := by
  intro seriesId stored cached entry
  by_cases same : seriesId = series.seriesId
  · subst same
    simp only [FredAdapter.stored, OrderedDict.get?_set_self, Option.some.injEq,
      Prod.mk.injEq] at entry
    obtain ⟨-, rfl⟩ := entry
    exact finite
  · simp only [FredAdapter.stored] at entry
    rw [OrderedDict.get?_set_of_ne _ _ same] at entry
    exact cacheFinite seriesId stored cached entry

theorem finiteIfReported_of_firstUsable {observation : Option (FredObservation Number)}
    (returned : firstUsable conversions isFinite call.readings series objects = .ok observation) :
    FiniteIfReported isFinite
      (seriesResult series call.readings observation (statusOf observation) none) := by
  intro reported
  cases observation with
  | none => exact absurd rfl reported
  | some observation => exact ⟨observation, rfl, finite_of_firstUsable returned⟩

/-- A fetch whose parse is right reports and keeps finite values only. -/
theorem finite_of_fetches (fetches : Fetches call.readings series objects config adapter call)
    (cacheFinite : CacheFinite isFinite adapter)
    (parsed : parseLatest conversions call.readings series (objects.map Value.dict) =
      firstUsable conversions isFinite call.readings series objects) :
    FiniteIfReported isFinite (fetchSeries config conversions adapter call).1 ∧
      CacheFinite isFinite (fetchSeries config conversions adapter call).2 := by
  have unreported : ∀ latest error, FiniteIfReported isFinite
      (seriesResult series call.readings latest .sourceUnavailable error) :=
    fun _ _ reported => absurd rfl reported
  simp only [fetchSeries, fetches.known, fetchKnown]
  split
  · exact ⟨unreported _ _, cacheFinite⟩
  split
  next result found => exact ⟨finite_of_cached cacheFinite found, cacheFinite⟩
  next =>
    have observed : (observe config conversions series call adapter.circuit).1 =
        (firstUsable conversions isFinite call.readings series objects).mapError
          (fun problem => "unexpected error: " ++ problem.text) := by
      simp only [observe, fetches.fetched, parsed]
      cases firstUsable conversions isFinite call.readings series objects <;> rfl
    rw [observed]
    cases returned : firstUsable conversions isFinite call.readings series objects with
    | error problem => exact ⟨unreported _ _, cacheFinite⟩
    | ok observation =>
        have finite := @finiteIfReported_of_firstUsable _ _ _ _ _ call _ returned
        exact ⟨finite, cacheFinite_stored cacheFinite _ observation finite⟩

end Fetching

/-- One bad observation hides no good one exactly if the item the parse stops at
is usable. -/
theorem parses_first_usable_iff {Number : Type} (conversions : Conversions Number)
    (isFinite : Number → Bool) (readings : Readings) (series : FredSeries)
    (objects : List Fields) :
    ParsesFirstUsable conversions isFinite readings series objects ↔
      ∀ fields, objects.find? (fun fields => !skipped conversions fields) = some fields →
        usable conversions isFinite fields = true := by
  constructor
  · intro holds
    exact parseLatest_eq_firstUsable_iff.mp holds.parse
  · intro goodStops
    have parsed := (@parseLatest_eq_firstUsable_iff _ _ _ readings series _).mpr goodStops
    refine ⟨parsed, ?_⟩
    intro config adapter call fetches cacheFinite
    obtain rfl := fetches.readings
    exact finite_of_fetches fetches cacheFinite parsed

/-- A value of `null` before a good observation. -/
def nullBeforeYield : List Fields :=
  [[(.str "date", .str "2026-06-13"), (.str "value", .none)],
    [(.str "date", .str "2026-06-12"), (.str "value", .str "4.22")]]

theorem nullBeforeYield_not_parsed :
    ¬ ∀ series, OrderedDict.get? fredSeries "US10Y" = some series →
      ParsesFirstUsable decimalConversions (fun _ => true) fredReadings series
        nullBeforeYield := by
  intro holds
  have raised := congrArg Except.toBool (holds _ rfl).parse
  revert raised
  decide +kernel

end SuperAdvisor.MarketData
