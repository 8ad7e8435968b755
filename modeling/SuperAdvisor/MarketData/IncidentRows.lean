import SuperAdvisor.MarketData.Calls

/-!
# The rows of the incidents

A row counts the recordings of its key.  What the collector records comes from
the quality controls; what becomes of the symbols of the broker has kinds of
its own.
-/

namespace SuperAdvisor.MarketData

open Raising Service

/-! What the table says of the recordings. -/

/-- The recordings of a key. -/
def recordedUnder (key : String) (recorded : List QualityIncident) : List QualityIncident :=
  recorded.filter (fun item => item.incidentKey = key)

/-- Every key that was recorded has a row, and every row has the number of the
recordings and the times of the first and the last of them. -/
structure Tables.Counts (tables : Tables) (recorded : List QualityIncident) : Prop where
  complete : ∀ item ∈ recorded,
    ∃ row, OrderedDict.get? tables.incidents item.incidentKey = some row
  rows : ∀ key row, OrderedDict.get? tables.incidents key = some row →
    row.hitCount = (recordedUnder key recorded).length ∧
      (recordedUnder key recorded).head?.map QualityIncident.observedAtUtc =
        some row.firstSeenUtc ∧
      (recordedUnder key recorded).getLast?.map QualityIncident.observedAtUtc =
        some row.lastSeenUtc

namespace Tables

variable {tables : Tables} {recorded : List QualityIncident}

theorem Counts.congr
    {other : Tables} (counts : tables.Counts recorded)
    (same : other.incidents = tables.incidents) : other.Counts recorded := by
  obtain ⟨complete, rows⟩ := counts
  rw [← same] at complete rows
  exact ⟨complete, rows⟩

/-- A row is of a key that was recorded. -/
theorem Counts.exists_recorded
    (counts : tables.Counts recorded) {key : String} {row : IncidentRow}
    (found : OrderedDict.get? tables.incidents key = some row) :
    ∃ item ∈ recorded, item.incidentKey = key := by
  obtain ⟨-, first, -⟩ := counts.rows key row found
  obtain ⟨item, isFirst, -⟩ := Option.map_eq_some_iff.mp first
  exact ⟨item, by simpa [recordedUnder] using List.mem_of_head? isFirst⟩

private theorem recordedUnder_of_get?_none
    (counts : tables.Counts recorded) {key : String}
    (absent : OrderedDict.get? tables.incidents key = none) : recordedUnder key recorded = [] := by
  refine List.filter_eq_nil_iff.mpr (fun item member same => ?_)
  obtain ⟨row, found⟩ := counts.complete item member
  rw [of_decide_eq_true same, absent] at found
  cases found

theorem counts_recordIncident
    (counts : tables.Counts recorded) (item : QualityIncident) :
    (tables.recordIncident item).Counts (recorded ++ [item]) := by
  have others : ∀ key, key ≠ item.incidentKey →
      OrderedDict.get? (tables.recordIncident item).incidents key =
          OrderedDict.get? tables.incidents key ∧
        recordedUnder key (recorded ++ [item]) = recordedUnder key recorded := by
    intro key different
    refine ⟨OrderedDict.get?_set_of_ne _ _ different, ?_⟩
    simp [recordedUnder, List.filter_append, Ne.symm different]
  have own : recordedUnder item.incidentKey (recorded ++ [item]) =
      recordedUnder item.incidentKey recorded ++ [item] := by
    simp [recordedUnder, List.filter_append]
  refine ⟨?_, ?_⟩
  · intro other member
    by_cases same : other.incidentKey = item.incidentKey
    · rw [same]
      exact ⟨_, OrderedDict.get?_set_self _ _ _⟩
    · rw [(others _ same).1]
      refine counts.complete other ((List.mem_append.mp member).resolve_right ?_)
      exact fun isItem => same (congrArg _ (List.mem_singleton.mp isItem))
  · intro key row found
    by_cases same : key = item.incidentKey
    · subst same
      rw [own]
      unfold recordIncident at found
      rw [OrderedDict.get?_set_self] at found
      obtain rfl := Option.some.inj found
      cases before : OrderedDict.get? tables.incidents item.incidentKey with
      | none => simp [recordedUnder_of_get?_none counts before]
      | some old =>
          obtain ⟨hits, first, -⟩ := counts.rows _ old before
          obtain ⟨earliest, isFirst, sameTime⟩ := Option.map_eq_some_iff.mp first
          simp [hits, List.head?_append, isFirst, sameTime]
    · rw [(others key same).1] at found
      rw [(others key same).2]
      exact counts.rows key row found

theorem counts_recordIncidents
    (counts : tables.Counts recorded) (items : List QualityIncident) :
    (items.foldl recordIncident tables).Counts (recorded ++ items) := by
  induction items generalizing tables recorded with
  | nil => simpa using counts
  | cons item items induction => simpa using induction (counts_recordIncident counts item)

theorem counts_empty : ({} : Tables).Counts [] :=
  ⟨by simp, fun _ _ found => nomatch found⟩

end Tables

/-! Where incidents come from. -/

/-- The kinds of the quality controls. -/
def qualityKinds : List String :=
  ["out_of_order_ticks", "tick_time_collision", "duplicate_ticks", "out_of_order_bars",
    "duplicate_bars", "missing_bars", "closed_bar_mutation", "stale_tick", "stale_bar"]

/-- The kinds of the resolution of symbols. -/
def resolutionKinds : List String :=
  ["missing_symbol_mapping", "ambiguous_symbol_mapping", "symbol_select_failed"]

/-- The incident is of one of the kinds, which its key begins with. -/
def QualityIncident.OfKinds (kinds : List String) (item : QualityIncident) : Prop :=
  item.eventKind ∈ kinds ∧ ∃ rest, item.incidentKey = item.eventKind ++ ":" ++ rest

theorem incidentKey_ne
    {item other : QualityIncident} (quality : item.OfKinds qualityKinds)
    (resolution : other.OfKinds resolutionKinds) : item.incidentKey ≠ other.incidentKey := by
  obtain ⟨kind, rest, key⟩ := quality
  obtain ⟨otherKind, otherRest, otherKey⟩ := resolution
  have plain : ∀ text ∈ qualityKinds ++ resolutionKinds, ':' ∉ text.toList := by decide +kernel
  have apart : ∀ text ∈ qualityKinds, text ∉ resolutionKinds := by decide +kernel
  intro same
  rw [key, otherKey] at same
  have kindOf : ∀ text ∈ qualityKinds ++ resolutionKinds, ∀ rest : String,
      (text ++ ":" ++ rest).toList.takeWhile (· ≠ ':') = text.toList := by
    intro text known rest
    have before : ∀ letter ∈ text.toList, decide (letter ≠ ':') = true := by
      intro letter member
      exact decide_eq_true (fun isMark => plain text known (isMark ▸ member))
    simp only [String.toList_append, List.append_assoc, List.takeWhile_append_of_pos before]
    simp
  have sameKind : item.eventKind.toList = other.eventKind.toList := by
    rw [← kindOf _ (List.mem_append_left _ kind) rest, same,
      kindOf _ (List.mem_append_right _ otherKind)]
  exact apart _ kind (String.toList_inj.mp sameKind ▸ otherKind)

abbrev AllQuality (items : List QualityIncident) : Prop :=
  ∀ item ∈ items, item.OfKinds qualityKinds

section Controls

variable {readClock : String → Int}

private theorem ofKinds_incident
    {eventKind : String} (known : eventKind ∈ qualityKinds) (logicalSymbol : String)
    (timeframe : Option Timeframe) (detail uniqueSuffix : String) :
    (incident readClock eventKind logicalSymbol timeframe detail uniqueSuffix).OfKinds
      qualityKinds :=
  ⟨known, logicalSymbol ++ ":" ++ (timeframe.map Timeframe.value).getD "tick" ++ ":" ++
    uniqueSuffix, by simp only [incident, String.append_assoc]⟩

private theorem allQuality_ite
    {condition : Prop} [Decidable condition] {item : QualityIncident}
    (quality : item.OfKinds qualityKinds) : AllQuality (if condition then [item] else []) := by
  intro other member
  split at member
  · exact List.mem_singleton.mp member ▸ quality
  · cases member

theorem allQuality_append
    {items others : List QualityIncident} (first : AllQuality items)
    (second : AllQuality others) : AllQuality (items ++ others) :=
  fun item member => (List.mem_append.mp member).elim (first item) (second item)

theorem allQuality_normalizeTickBatch (records : List TickRecord) :
    AllQuality (normalizeTickBatch readClock records).2 := by
  cases records with
  | nil => exact List.forall_mem_nil _
  | cons first records =>
      refine allQuality_append (allQuality_append ?_ ?_) ?_
      · exact allQuality_ite (ofKinds_incident (by simp [qualityKinds]) _ _ _ _)
      · exact allQuality_ite (ofKinds_incident (by simp [qualityKinds]) _ _ _ _)
      · exact allQuality_ite (ofKinds_incident (by simp [qualityKinds]) _ _ _ _)

theorem allQuality_normalizeBarBatch (records : List BarRecord) :
    AllQuality (normalizeBarBatch readClock records).2 := by
  cases records with
  | nil => exact List.forall_mem_nil _
  | cons first records =>
      refine allQuality_append ?_ ?_
      · exact allQuality_ite (ofKinds_incident (by simp [qualityKinds]) _ _ _ _)
      · exact allQuality_ite (ofKinds_incident (by simp [qualityKinds]) _ _ _ _)

theorem allQuality_detectMissingBars (records : List BarRecord) :
    AllQuality (detectMissingBars readClock records) := by
  cases records with
  | nil => exact List.forall_mem_nil _
  | cons first records =>
      intro item member
      obtain ⟨pair, -, made⟩ := List.mem_filterMap.mp member
      dsimp only at made
      split at made
      next => cases made
      next =>
        split at made
        next =>
          obtain rfl := Option.some.inj made
          exact ofKinds_incident (by simp [qualityKinds]) _ _ _ _
        next => cases made

private theorem allQuality_detectClosedBarMutation (previous latest : Option BarRecord) :
    AllQuality (detectClosedBarMutation readClock previous latest) := by
  unfold detectClosedBarMutation
  split
  next =>
    split
    · exact List.forall_mem_nil _
    · split
      · exact List.forall_mem_nil _
      · exact List.forall_mem_singleton.mpr (ofKinds_incident (by simp [qualityKinds]) _ _ _ _)
  next => exact List.forall_mem_nil _

theorem allQuality_mutations
    {tables : Tables} {closedRows : BarRows} {found : List QualityIncident}
    (mutations : tables.MutationsOf closedRows found) : AllQuality found := by
  obtain ⟨lists, each, rfl⟩ := mutations
  intro item member
  obtain ⟨list, inside, here⟩ := List.mem_flatten.mp member
  obtain ⟨row, -, readClock, rfl⟩ := Python.exists_of_mem_right each inside
  exact allQuality_detectClosedBarMutation _ _ item here

theorem allQuality_classifyFreshness
    (nowUtc : Int) (ticks : List TickRecord) (bars : List BarRecord)
    (freshnessThresholdSeconds : Int) :
    AllQuality (classifyFreshness nowUtc ticks bars freshnessThresholdSeconds).2 := by
  refine allQuality_append ?_ ?_
  · cases maxBy TickRecord.marketTimeMsc ticks with
    | none => exact List.forall_mem_nil _
    | some latest => exact allQuality_ite (ofKinds_incident (by simp [qualityKinds]) _ _ _ _)
  · cases maxBy BarRecord.openTimeUtc bars with
    | none => exact List.forall_mem_nil _
    | some latest => exact allQuality_ite (ofKinds_incident (by simp [qualityKinds]) _ _ _ _)

end Controls

end SuperAdvisor.MarketData
