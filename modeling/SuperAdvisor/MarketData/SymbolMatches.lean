import Mathlib.Data.List.Dedup
import SuperAdvisor.MarketData.Calls

/-!
# Matches of a configured symbol

A symbol of the broker matches a target by its normalised name or description.
How many symbols match decides the outcome of the target, so the order in which
the broker lists its symbols does not matter.
-/

namespace SuperAdvisor.MarketData

variable (library : MarketLibrary)

def SymbolTarget.candidates (target : SymbolTarget) : List String :=
  target.logicalSymbol :: target.aliases

/-- The symbol has a name, and its name or its description is a candidate once
both are normalised. -/
def Matches (candidates : List String) (symbol : DiscoveredSymbol) : Prop :=
  symbol.brokerSymbol ≠ "" ∧
    ∃ candidate ∈ candidates,
      normalizedSymbolName library symbol.brokerSymbol = normalizedSymbolName library candidate ∨
        normalizedSymbolName library symbol.description = normalizedSymbolName library candidate

instance (candidates : List String) (symbol : DiscoveredSymbol) :
    Decidable (Matches library candidates symbol) :=
  inferInstanceAs (Decidable (_ ∧ _))

/-- The symbols of the broker that match a target. -/
def matching (target : SymbolTarget) (discovered : List DiscoveredSymbol) :
    List DiscoveredSymbol :=
  discovered.filter (Matches library target.candidates)

def SymbolTarget.resolvedAs (target : SymbolTarget) (symbol : DiscoveredSymbol) :
    ResolvedSymbol :=
  { logicalSymbol := target.logicalSymbol
    brokerSymbol := symbol.brokerSymbol
    aliases := target.aliases
    description := symbol.description
    point := symbol.point
    digits := symbol.digits
    visible := symbol.visible }

/-- An outcome is an incident of this kind about the target. -/
def Reports (eventKind : String) (target : SymbolTarget)
    (outcome : Except QualityIncident ResolvedSymbol) : Prop :=
  ∃ problem, outcome = .error problem ∧ problem.eventKind = eventKind ∧
    problem.logicalSymbol = target.logicalSymbol

/-- The number of matches decides what becomes of a target. -/
structure Decided (discovered : List DiscoveredSymbol) (target : SymbolTarget)
    (outcome : Except QualityIncident ResolvedSymbol) : Prop where
  resolved : ∀ found, outcome = .ok found ↔
    ∃ symbol ∈ discovered, Matches library target.candidates symbol ∧
      (∀ other ∈ discovered, Matches library target.candidates other → other = symbol) ∧
        found = target.resolvedAs symbol
  ambiguous : Reports "ambiguous_symbol_mapping" target outcome ↔
    ∃ first ∈ discovered, ∃ second ∈ discovered,
      Matches library target.candidates first ∧ Matches library target.candidates second ∧ first ≠ second
  missing : Reports "missing_symbol_mapping" target outcome ↔
    ∀ symbol ∈ discovered, ¬ Matches library target.candidates symbol

variable {library} {discovered : List DiscoveredSymbol} {target : SymbolTarget}

section Lookup

private theorem foldl_appended {entries : List (String × DiscoveredSymbol)}
    (found : Option (List DiscoveredSymbol)) :
    (entries.foldl (fun found entry => some (found.getD [] ++ [entry.2])) found).getD [] =
      found.getD [] ++ entries.map Prod.snd := by
  induction entries generalizing found with
  | nil => simp
  | cons entry entries induction =>
      rw [List.foldl_cons, induction]
      simp

theorem mem_symbolLookup {key : String} {symbol : DiscoveredSymbol} :
    symbol ∈ (OrderedDict.get? (symbolLookup library discovered) key).getD [] ↔
      symbol ∈ discovered ∧ (normalizedSymbolName library symbol.brokerSymbol = key ∨
        normalizedSymbolName library symbol.description = key) := by
  have found := OrderedDict.get?_foldl_update Prod.fst
    (fun (known : Option (List DiscoveredSymbol)) entry => known.getD [] ++ [entry.2])
    (discovered.flatMap (fun symbol =>
      [symbol.brokerSymbol, symbol.description].dedup.map (fun candidate =>
        (normalizedSymbolName library candidate, symbol)))) [] key
  unfold symbolLookup
  rw [found, foldl_appended]
  simp only [OrderedDict.get?, Option.getD_none, List.nil_append, List.mem_map, List.mem_filter,
    List.mem_flatMap, decide_eq_true_eq]
  constructor
  · rintro ⟨_, ⟨⟨listed, inside, candidate, named, rfl⟩, atKey⟩, rfl⟩
    refine ⟨inside, ?_⟩
    rcases List.mem_pair.mp (List.mem_dedup.mp named) with rfl | rfl
    · exact .inl atKey
    · exact .inr atKey
  · rintro ⟨inside, atKey⟩
    rcases atKey with atKey | atKey
    · exact ⟨_, ⟨⟨symbol, inside, symbol.brokerSymbol, by simp [List.mem_dedup], rfl⟩, atKey⟩, rfl⟩
    · exact ⟨_, ⟨⟨symbol, inside, symbol.description, by simp [List.mem_dedup], rfl⟩, atKey⟩, rfl⟩

/-- The symbols found under the candidates of a target. -/
theorem mem_found {symbol : DiscoveredSymbol} :
    symbol ∈ ((target.logicalSymbol :: target.aliases).flatMap (fun candidate =>
      (OrderedDict.get? (symbolLookup library discovered)
        (normalizedSymbolName library candidate)).getD [])).filter
          (fun item => item.brokerSymbol ≠ "") ↔
      symbol ∈ discovered ∧ Matches library target.candidates symbol := by
  rw [List.mem_filter, List.mem_flatMap, decide_eq_true_eq]
  constructor
  · rintro ⟨⟨candidate, configured, found⟩, named⟩
    obtain ⟨inside, same⟩ := mem_symbolLookup.mp found
    exact ⟨inside, named, candidate, configured, same⟩
  · rintro ⟨inside, named, candidate, configured, same⟩
    exact ⟨⟨candidate, configured, mem_symbolLookup.mpr ⟨inside, same⟩⟩, named⟩

end Lookup

section Outcomes

theorem mem_matching {symbol : DiscoveredSymbol} :
    symbol ∈ matching library target discovered ↔
      symbol ∈ discovered ∧ Matches library target.candidates symbol := by
  rw [matching, List.mem_filter, decide_eq_true_eq]

private theorem reports_error
    {readClock : String → Int} {eventKind kind detail : String} :
    Reports eventKind target (.error (symbolIncident readClock kind target.logicalSymbol detail)) ↔
      kind = eventKind := by
  constructor
  · rintro ⟨_, same, kinds, -⟩
    obtain rfl := Except.error.inj same
    exact kinds
  · rintro rfl
    exact ⟨_, rfl, rfl, rfl⟩

private theorem not_reports_ok {eventKind : String} {found : ResolvedSymbol} :
    ¬ Reports eventKind target (.ok found) := by
  rintro ⟨_, same, -⟩
  cases same

variable (distinct : (discovered.map DiscoveredSymbol.brokerSymbol).Nodup)
include distinct

private theorem eq_of_brokerSymbol
    {first second : DiscoveredSymbol} (firstIn : first ∈ discovered)
    (secondIn : second ∈ discovered) (same : first.brokerSymbol = second.brokerSymbol) :
    first = second :=
  List.inj_on_of_nodup_map distinct firstIn secondIn same

theorem mem_uniqueMatches {entry : String × DiscoveredSymbol} :
    entry ∈ uniqueMatches library (symbolLookup library discovered) target ↔
      entry ∈ (matching library target discovered).map (fun symbol =>
        (symbol.brokerSymbol, symbol)) := by
  unfold uniqueMatches
  constructor
  · intro member
    rcases OrderedDict.mem_foldl_set member with ⟨pair, inside, same⟩ | none
    · obtain ⟨symbol, listed, rfl⟩ := List.mem_map.mp inside
      rw [same]
      exact List.mem_map_of_mem (mem_matching.mpr (mem_found.mp listed))
    · cases none
  · intro member
    obtain ⟨symbol, inside, rfl⟩ := List.mem_map.mp member
    have listed := mem_found.mpr (mem_matching.mp inside)
    apply OrderedDict.mem_of_get?
    rw [OrderedDict.get?_ofPairs]
    generalize shape :
      List.map (fun item : DiscoveredSymbol => (item.brokerSymbol, item)) _ = pairs
    have here : (symbol.brokerSymbol, symbol) ∈ pairs := shape ▸ List.mem_map_of_mem listed
    have listedOnce : (pairs.reverse.find? (fun pair => pair.1 = symbol.brokerSymbol)).isSome :=
      List.find?_isSome.mpr ⟨_, List.mem_reverse.mpr here, by simp⟩
    obtain ⟨last, atKey⟩ := Option.isSome_iff_exists.mp listedOnce
    have lastIn := List.mem_reverse.mp (List.mem_of_find?_eq_some atKey)
    have lastKey := List.find?_some atKey
    rw [← shape] at lastIn
    obtain ⟨other, otherListed, rfl⟩ := List.mem_map.mp lastIn
    have same : other = symbol :=
      eq_of_brokerSymbol distinct (mem_found.mp otherListed).1 (mem_found.mp listed).1
        (by simpa using lastKey)
    rw [atKey, same]
    rfl

/-- A dictionary of the matches has them once each. -/
theorem uniqueMatches_perm :
    (uniqueMatches library (symbolLookup library discovered) target).Perm
      ((matching library target discovered).map (fun symbol => (symbol.brokerSymbol, symbol))) := by
  refine (List.perm_ext_iff_of_nodup ?_ ?_).mpr (fun _ => mem_uniqueMatches distinct)
  · exact List.Nodup.of_map _ (OrderedDict.keys_nodup_ofPairs _)
  · refine List.Nodup.map ?_ (List.Nodup.filter _ (List.Nodup.of_map _ distinct))
    exact fun first second same => (Prod.mk.inj same).2

/-- What becomes of a target with these matches. -/
def outcomeOf (readClock : String → Int) (target : SymbolTarget) :
    List DiscoveredSymbol → Except QualityIncident ResolvedSymbol
  | [] =>
      .error (symbolIncident readClock "missing_symbol_mapping" target.logicalSymbol
        "configured symbol could not be resolved from broker discovery")
  | [symbol] => .ok (target.resolvedAs symbol)
  | _ =>
      .error (symbolIncident readClock "ambiguous_symbol_mapping" target.logicalSymbol
        "configured symbol resolved to multiple broker symbols")

theorem resolveTarget_eq (readClock : String → Int) :
    resolveTarget library readClock (symbolLookup library discovered) target =
      outcomeOf readClock target (matching library target discovered) := by
  have same := @uniqueMatches_perm library discovered target distinct
  unfold resolveTarget
  match shape : matching library target discovered with
  | [] =>
      rw [shape, List.map_nil, List.perm_nil] at same
      rw [same]
      rfl
  | [symbol] =>
      rw [shape, List.map_singleton, List.perm_singleton] at same
      rw [same]
      rfl
  | first :: second :: rest =>
      have several := same.length_eq
      rw [shape] at several
      match entries : uniqueMatches library (symbolLookup library discovered) target with
      | [] | [_] => simp [entries] at several
      | _ :: _ :: _ => rfl

theorem decided_outcomeOf (readClock : String → Int) :
    Decided library discovered target
      (outcomeOf readClock target (matching library target discovered)) := by
  have found := fun symbol => @mem_matching library discovered target symbol
  have apart : (matching library target discovered).Nodup :=
    (List.Nodup.of_map _ distinct).filter _
  match shape : matching library target discovered with
  | [] =>
      have none : ∀ symbol ∈ discovered, ¬ Matches library target.candidates symbol := by
        intro symbol inside fits
        have member := (found symbol).mpr ⟨inside, fits⟩
        rw [shape] at member
        cases member
      constructor
      · intro resolved
        refine iff_of_false (fun same => by cases same) ?_
        rintro ⟨symbol, inside, fits, -⟩
        exact none symbol inside fits
      · refine iff_of_false (fun reported => ?_) ?_
        · exact absurd (reports_error.mp reported) (by simp)
        · rintro ⟨first, firstIn, -, -, fits, -⟩
          exact none first firstIn fits
      · exact iff_of_true (reports_error.mpr rfl) none
  | [only] =>
      obtain ⟨onlyIn, onlyFits⟩ := (found only).mp (by simp [shape])
      have unique : ∀ other ∈ discovered, Matches library target.candidates other → other = only := by
        intro other inside fits
        have member := (found other).mpr ⟨inside, fits⟩
        rwa [shape, List.mem_singleton] at member
      constructor
      · intro resolved
        constructor
        · intro same
          exact ⟨only, onlyIn, onlyFits, unique, (Except.ok.inj same).symm⟩
        · rintro ⟨symbol, inside, fits, -, rfl⟩
          rw [unique symbol inside fits]
          rfl
      · refine iff_of_false not_reports_ok ?_
        rintro ⟨first, firstIn, second, secondIn, firstFits, secondFits, different⟩
        exact different
          ((unique first firstIn firstFits).trans (unique second secondIn secondFits).symm)
      · exact iff_of_false not_reports_ok (fun none => none only onlyIn onlyFits)
  | first :: second :: rest =>
      obtain ⟨firstIn, firstFits⟩ := (found first).mp (by simp [shape])
      obtain ⟨secondIn, secondFits⟩ := (found second).mp (by simp [shape])
      have different : first ≠ second := by
        rw [shape] at apart
        exact fun same => (List.nodup_cons.mp apart).1 (by simp [same])
      constructor
      · intro resolved
        refine iff_of_false (fun same => by cases same) ?_
        rintro ⟨symbol, -, -, unique, -⟩
        exact different
          ((unique first firstIn firstFits).trans (unique second secondIn secondFits).symm)
      · exact iff_of_true (reports_error.mpr rfl)
          ⟨first, firstIn, second, secondIn, firstFits, secondFits, different⟩
      · refine iff_of_false (fun reported => ?_) (fun none => none first firstIn firstFits)
        exact absurd (reports_error.mp reported) (by simp)

end Outcomes

section Orders

variable {reordered : List DiscoveredSymbol} {targets : List SymbolTarget}

/-- What an incident is about. -/
def QualityIncident.subject (problem : QualityIncident) : String × String :=
  (problem.eventKind, problem.logicalSymbol)

def problem? : Except QualityIncident ResolvedSymbol → Option QualityIncident
  | .ok _ => none
  | .error problem => some problem

theorem resolveSymbols_eq
    (distinct : (discovered.map DiscoveredSymbol.brokerSymbol).Nodup) (readClock : String → Int) :
    resolveSymbols library readClock targets discovered =
      ((targets.map (fun target =>
        outcomeOf readClock target (matching library target discovered))).filterMap
          Except.toOption,
      (targets.map (fun target =>
        outcomeOf readClock target (matching library target discovered))).filterMap problem?) := by
  have outcomes : targets.map
      (resolveTarget library readClock (symbolLookup library discovered)) =
        targets.map (fun target =>
          outcomeOf readClock target (matching library target discovered)) :=
    List.map_congr_left (fun target _ => resolveTarget_eq distinct readClock)
  rw [← outcomes]
  refine Prod.ext (List.filterMap_congr (fun outcome _ => ?_))
    (List.filterMap_congr (fun outcome _ => ?_)) <;> cases outcome <;> rfl

/-- The order of the matches changes neither the symbol nor the subject. -/
theorem outcomeOf_perm
    {first second : List DiscoveredSymbol} (same : first.Perm second)
    (readClock laterClock : String → Int) :
    (outcomeOf laterClock target second).toOption =
        (outcomeOf readClock target first).toOption ∧
      (problem? (outcomeOf laterClock target second)).map QualityIncident.subject =
        (problem? (outcomeOf readClock target first)).map QualityIncident.subject := by
  match first, second, same with
  | [], second, same =>
      obtain rfl := List.nil_perm.mp same
      exact ⟨rfl, rfl⟩
  | [symbol], second, same =>
      obtain rfl := List.singleton_perm.mp same
      exact ⟨rfl, rfl⟩
  | _ :: _ :: _, [], same => exact absurd same.length_eq (by simp)
  | _ :: _ :: _, [_], same => exact absurd same.length_eq (by simp)
  | _ :: _ :: _, _ :: _ :: _, _ => exact ⟨rfl, rfl⟩

/-- Every target has one outcome, which the number of its matches decides, and
the order in which the broker lists its symbols does not matter. -/
theorem symbols_resolved_decisively
    (library : MarketLibrary) (targets : List SymbolTarget)
    (distinct : (discovered.map DiscoveredSymbol.brokerSymbol).Nodup) (readClock : String → Int) :
    (∃ outcomes, List.Forall₂ (Decided library discovered) targets outcomes ∧
      resolveSymbols library readClock targets discovered =
        (outcomes.filterMap Except.toOption, outcomes.filterMap problem?)) ∧
    ∀ reordered laterClock, discovered.Perm reordered →
      (resolveSymbols library laterClock targets reordered).1 =
          (resolveSymbols library readClock targets discovered).1 ∧
        (resolveSymbols library laterClock targets reordered).2.map QualityIncident.subject =
          (resolveSymbols library readClock targets discovered).2.map QualityIncident.subject := by
  refine ⟨⟨_, ?_, resolveSymbols_eq distinct readClock⟩, fun reordered laterClock same => ?_⟩
  · rw [List.forall₂_map_right_iff, List.forall₂_same]
    exact fun target _ => decided_outcomeOf distinct readClock
  · have reorderedDistinct := (same.map DiscoveredSymbol.brokerSymbol).nodup_iff.mp distinct
    have outcome := fun target => @outcomeOf_perm target _ _
      (same.filter (fun symbol => decide (Matches library target.candidates symbol))) readClock laterClock
    rw [resolveSymbols_eq distinct, resolveSymbols_eq reorderedDistinct]
    simp only [List.filterMap_map, List.map_filterMap]
    constructor
    · exact List.filterMap_congr (fun target _ => (outcome target).1)
    · exact List.filterMap_congr (fun target _ => (outcome target).2)

end Orders

/-- Two symbols of a broker, one of which only describes gold. -/
def goldAndSilver : List DiscoveredSymbol :=
  [{ brokerSymbol := "GOLD.a"
     description := "XAU/USD"
     visible := true
     point := 1 / 100
     digits := 2 },
    { brokerSymbol := "SILVER"
      description := ""
      visible := true
      point := 1 / 1000
      digits := 3 }]

theorem goldAndSilver_resolved :
    ∃ outcomes,
      List.Forall₂ (Decided plainLibrary goldAndSilver)
        [⟨"XAUUSD", ["GOLD"]⟩, ⟨"XAGUSD", []⟩] outcomes ∧
      resolveSymbols plainLibrary (fun _ => 0) [⟨"XAUUSD", ["GOLD"]⟩, ⟨"XAGUSD", []⟩]
        goldAndSilver = (outcomes.filterMap Except.toOption, outcomes.filterMap problem?) :=
  (symbols_resolved_decisively plainLibrary _ (by decide) _).1

end SuperAdvisor.MarketData
