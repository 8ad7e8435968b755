import SuperAdvisor.Foundation.Dict
import SuperAdvisor.Foundation.PythonDict
import SuperAdvisor.Foundation.RaisingLoops
import SuperAdvisor.MarketData.SymbolMatches

/-!
# Settings of the collector

The settings are read from the rendered configuration and from the environment.
A variable of the environment that names a broker's symbol becomes one more
alias of the configured symbol.  The symbol it names is always among the
matches, and it is the outcome if and only if it is the only one.
-/

namespace SuperAdvisor.MarketData

open Python

/-- The variables of the environment, as text and as parsed. -/
structure AppSettings where
  rawValues : Dict String String
  parsedValues : Dict String Value

/-- `_as_dict` -/
def asDict (value : Value) (path : String) : Except MarketProblem (List (Key × Value)) :=
  match value with
  | .dict entries => .ok entries
  | _ => .error (.configValidation (path ++ " must be an object"))

/-- `_as_list` -/
def asList (value : Value) (path : String) : Except MarketProblem (List Value) :=
  match value with
  | .list items => .ok items
  | _ => .error (.configValidation (path ++ " must be a list"))

/-- `_as_int`: `True` is an integer. -/
def asInt (value : Value) (path : String) : Except MarketProblem Int :=
  match value with
  | .int number =>
      if 0 < number then .ok number
      else .error (.configValidation (path ++ " must be a positive integer"))
  | .bool true => .ok 1
  | _ => .error (.configValidation (path ++ " must be a positive integer"))

/-- `_as_str` -/
def asStr (value : Value) (path : String) : Except MarketProblem String :=
  match value with
  | .str text =>
      if text ≠ "" then .ok text
      else .error (.configValidation (path ++ " must be a non-empty string"))
  | _ => .error (.configValidation (path ++ " must be a non-empty string"))

/-- The variables that name the broker's symbol of a configured symbol. -/
def overrideVariables : List (String × String) :=
  [("XAUUSD", "MT5_XAUUSD_SYMBOL"), ("DXY", "MT5_DXY_SYMBOL"), ("EURUSD", "MT5_EURUSD_SYMBOL"),
    ("AUDUSD", "MT5_AUDUSD_SYMBOL"), ("US10Y", "MT5_US10Y_SYMBOL")]

/-- `env_aliases` -/
def envAliases (app : AppSettings) : List (String × String) :=
  overrideVariables.map (fun entry => (entry.1, (app.rawValues.get? entry.2).getD ""))

/-- `tuple(dict.fromkeys(items))` -/
def fromKeys (items : List String) : List String :=
  OrderedDict.keys (OrderedDict.ofPairs (items.map (fun item => (item, ()))))

/-- The target of one entry of the configured symbols. -/
def symbolTarget (app : AppSettings) (item : Value) (index : Nat) :
    Except MarketProblem SymbolTarget := do
  let path := "marketData.symbols[" ++ intText index ++ "]"
  let symbolPayload ← asDict item path
  let aliasesPayload ← asList (getOr symbolPayload "aliases" .none) (path ++ ".aliases")
  let logicalSymbol ← asStr (getOr symbolPayload "canonical" .none) (path ++ ".canonical")
  let aliases ← aliasesPayload.mapM (fun item => asStr item (path ++ ".aliases"))
  let envAlias := (OrderedDict.get? (envAliases app) logicalSymbol).getD ""
  .ok
    { logicalSymbol := logicalSymbol
      aliases := fromKeys (if envAlias ≠ "" then aliases ++ [envAlias] else aliases) }

/-- `Timeframe(value)` -/
def readTimeframe (value : String) : Except MarketProblem Timeframe :=
  match [Timeframe.M1, .M5, .M15, .H1, .H4, .D1].find? (fun item => item.value = value) with
  | some timeframe => .ok timeframe
  | none => .error (.valueError ("'" ++ value ++ "' is not a valid Timeframe"))

/-- The configured symbols. -/
def symbolsPayload (config : List (Key × Value)) : List Value :=
  match getOr config "marketData" .none with
  | .dict marketData =>
      match getOr marketData "symbols" .none with
      | .list items => items
      | _ => []
  | _ => []

/-- The settings without the paths, the backend and the access to the terminal,
which are only checked. -/
def parseMarketDataSettings (config : List (Key × Value)) (app : AppSettings) :
    Except MarketProblem MarketDataSettings := do
  let marketData ← asDict (getOr config "marketData" .none) "marketData"
  let backend ← asDict (getOr marketData "backend" .none) "marketData.backend"
  let storage ← asDict (getOr marketData "storage" .none) "marketData.storage"
  let collection ← asDict (getOr marketData "collection" .none) "marketData.collection"
  let symbolsPayload ← asList (getOr marketData "symbols" .none) "marketData.symbols"
  let timeframesPayload ← asList (getOr marketData "timeframes" .none) "marketData.timeframes"
  let _ ← asStr (getOr storage "baseDir" .none) "marketData.storage.baseDir"
  let _ ← asStr (getOr storage "sqlitePath" .none) "marketData.storage.sqlitePath"
  let _ ← asStr (getOr storage "parquetDir" .none) "marketData.storage.parquetDir"
  let symbols ← symbolsPayload.zipIdx.mapM (fun entry => symbolTarget app entry.1 entry.2)
  let timeframes ← timeframesPayload.mapM (fun item => do
    readTimeframe (← asStr item "marketData.timeframes"))
  let _ ← asStr (getOr backend "kind" .none) "marketData.backend.kind"
  let _ ← asStr (getOr backend "mode" .none) "marketData.backend.mode"
  let _ ← asInt (getOr collection "pollSeconds" .none) "marketData.collection.pollSeconds"
  let tickLookback ← asInt (getOr collection "tickLookbackSeconds" .none)
    "marketData.collection.tickLookbackSeconds"
  let barLookback ← asInt (getOr collection "barLookbackCount" .none)
    "marketData.collection.barLookbackCount"
  let freshness ← asInt (getOr collection "freshnessThresholdSeconds" .none)
    "marketData.collection.freshnessThresholdSeconds"
  let retryAttempts ← asInt (getOr collection "retryMaxAttempts" .none)
    "marketData.collection.retryMaxAttempts"
  let _ ← asInt (getOr collection "retryBackoffSeconds" .none)
    "marketData.collection.retryBackoffSeconds"
  .ok
    { symbols := symbols
      timeframes := timeframes
      tickLookbackSeconds := tickLookback
      barLookbackCount := barLookback
      freshnessThresholdSeconds := freshness
      retryMaxAttempts := retryAttempts.toNat
      dryRunDefault := ((app.parsedValues.get? "DRY_RUN").getD (.bool true)).truthy }

/-- The entry configures a symbol with these aliases. -/
def Configures (item : Value) (logicalSymbol : String) (aliases : List String) : Prop :=
  ∃ payload, item = .dict payload ∧ getOr payload "canonical" .none = .str logicalSymbol ∧
    getOr payload "aliases" .none = .list (aliases.map .str)

section Reading

variable {app : AppSettings}

theorem asDict_eq_ok {value : Value} {path : String} {entries : List (Key × Value)} :
    asDict value path = .ok entries ↔ value = .dict entries := by
  cases value <;> simp [asDict]

theorem asList_eq_ok {value : Value} {path : String} {items : List Value} :
    asList value path = .ok items ↔ value = .list items := by
  cases value <;> simp [asList]

theorem asStr_eq_ok {value : Value} {path text : String} :
    asStr value path = .ok text ↔ value = .str text ∧ text ≠ "" := by
  cases value with
  | str other =>
      simp only [asStr, Value.str.injEq]
      split
      next some =>
        constructor
        · intro same
          obtain rfl := Except.ok.inj same
          exact ⟨rfl, some⟩
        · rintro ⟨rfl, -⟩
          rfl
      next blank =>
        refine iff_of_false (fun same => by cases same) ?_
        rintro ⟨rfl, some⟩
        exact blank some
  | _ => simp [asStr]

theorem mem_fromKeys {items : List String} {item : String} :
    item ∈ fromKeys items ↔ item ∈ items := by
  have general : ∀ (entries : List (String × Unit)),
      item ∈ OrderedDict.keys ((items.map (fun item => (item, ()))).foldl
        (fun entries pair => OrderedDict.set entries pair.1 pair.2) entries) ↔
          item ∈ items ∨ item ∈ OrderedDict.keys entries := by
    induction items with
    | nil => simp
    | cons head items induction =>
        intro entries
        rw [List.map_cons, List.foldl_cons, induction, OrderedDict.mem_keys_set_iff,
          List.mem_cons, or_assoc, or_left_comm]
  exact (general []).trans (by simp [OrderedDict.keys])

private theorem texts_of_read
    {items : List Value} {path : String} {texts : List String}
    (read : items.mapM (fun item => asStr item path) = .ok texts) :
    items = texts.map .str := by
  have each := mapM_eq_ok_iff.mp read
  clear read
  induction each with
  | nil => rfl
  | cons found _ induction =>
      rw [List.map_cons, (asStr_eq_ok.mp found).1, induction]

/-- The names of a configured symbol, the override of its variable among them. -/
theorem candidates_of_symbolTarget
    {item : Value} {index : Nat} {target : SymbolTarget}
    (read : symbolTarget app item index = .ok target) :
    ∃ aliases, Configures item target.logicalSymbol aliases ∧
      ∀ name, OrderedDict.get? overrideVariables target.logicalSymbol = some name →
        ∀ override, app.rawValues.get? name = some override → override ≠ "" →
          ∀ candidate, candidate ∈ target.candidates ↔
            candidate ∈ target.logicalSymbol :: (aliases ++ [override]) := by
  unfold symbolTarget at read
  simp only [except_bind_eq_ok] at read
  obtain ⟨payload, isDict, aliasItems, isList, logicalSymbol, named, aliases, texts, built⟩ := read
  obtain rfl := Except.ok.inj built
  have aliasTexts := texts_of_read texts
  refine ⟨aliases, ⟨payload, asDict_eq_ok.mp isDict, (asStr_eq_ok.mp named).1, ?_⟩, ?_⟩
  · rw [asList_eq_ok.mp isList, aliasTexts]
  · intro name listed override set some candidate
    have found : (OrderedDict.get? (envAliases app) logicalSymbol).getD "" = override := by
      have entry : OrderedDict.get? (envAliases app) logicalSymbol =
          (OrderedDict.get? overrideVariables logicalSymbol).map (fun name =>
            (app.rawValues.get? name).getD "") :=
        OrderedDict.get?_map (fun name => (app.rawValues.get? name).getD "") _ _
      rw [entry, listed, Option.map_some, set]
      rfl
    simp only [SymbolTarget.candidates, List.mem_cons, mem_fromKeys, found, if_pos some]

theorem symbolsPayload_read
    {config : List (Key × Value)} {settings : MarketDataSettings}
    (parsed : parseMarketDataSettings config app = .ok settings) :
    (symbolsPayload config).zipIdx.mapM (fun entry => symbolTarget app entry.1 entry.2) =
      .ok settings.symbols := by
  unfold parseMarketDataSettings at parsed
  simp only [except_bind_eq_ok, asDict_eq_ok, asList_eq_ok] at parsed
  obtain ⟨marketData, isDict, _, -, _, -, _, -, items, isList, _, -, _, -, _, -, _, -, symbols,
    read, _, -, _, -, _, -, _, -, _, -, _, -, _, -, _, -, _, -, built⟩ := parsed
  obtain rfl := Except.ok.inj built
  rw [symbolsPayload, isDict]
  simp only [isList]
  exact read

end Reading

section Overrides

variable {library : MarketLibrary} {discovered : List DiscoveredSymbol}

/-- The resolution of the target succeeds with this symbol of the broker. -/
def ResolvesTo (library : MarketLibrary) (readClock : String → Int)
    (discovered : List DiscoveredSymbol) (target : SymbolTarget) (brokerSymbol : String) : Prop :=
  ∃ found, resolveTarget library readClock (symbolLookup library discovered) target = .ok found ∧
    found.logicalSymbol = target.logicalSymbol ∧ found.brokerSymbol = brokerSymbol

/-- A target resolves to a symbol if and only if no other symbol matches it. -/
theorem resolvesTo_iff
    (distinct : (discovered.map DiscoveredSymbol.brokerSymbol).Nodup) (readClock : String → Int)
    {target : SymbolTarget} {symbol : DiscoveredSymbol} (inside : symbol ∈ discovered)
    (fits : symbol.brokerSymbol ≠ "" → Matches library target.candidates symbol) :
    ResolvesTo library readClock discovered target symbol.brokerSymbol ↔
      symbol.brokerSymbol ≠ "" ∧
        ∀ other ∈ discovered, other ≠ symbol → ¬ Matches library target.candidates other := by
  have decided := @decided_outcomeOf library discovered target distinct readClock
  rw [← resolveTarget_eq distinct] at decided
  constructor
  · rintro ⟨found, same, -, named⟩
    obtain ⟨chosen, chosenIn, chosenFits, unique, rfl⟩ := (decided.resolved found).mp same
    have isChosen : chosen = symbol :=
      List.inj_on_of_nodup_map distinct chosenIn inside named
    subst isChosen
    exact ⟨chosenFits.1, fun other otherIn different otherFits =>
      different (unique other otherIn otherFits)⟩
  · rintro ⟨some, alone⟩
    have chosen := (decided.resolved (target.resolvedAs symbol)).mpr
      ⟨symbol, inside, fits some, fun other otherIn otherFits =>
        Decidable.byContradiction (fun different => alone other otherIn different otherFits), rfl⟩
    exact ⟨_, chosen, rfl, rfl⟩

/-- The symbol that the variable of a configured symbol names is the one it
resolves to if and only if no other symbol of the broker matches the configured
names or the override. -/
theorem override_wins_iff
    {config : List (Key × Value)} {app : AppSettings} {settings : MarketDataSettings}
    (parsed : parseMarketDataSettings config app = .ok settings)
    (distinct : (discovered.map DiscoveredSymbol.brokerSymbol).Nodup) (readClock : String → Int) :
    List.Forall₂ (fun item target => ∃ aliases,
      Configures item target.logicalSymbol aliases ∧
      ∀ name, OrderedDict.get? overrideVariables target.logicalSymbol = some name →
        ∀ symbol ∈ discovered, app.rawValues.get? name = some symbol.brokerSymbol →
          (ResolvesTo library readClock discovered target symbol.brokerSymbol ↔
            symbol.brokerSymbol ≠ "" ∧
              ∀ other ∈ discovered, other ≠ symbol →
                ¬ Matches library
                  (target.logicalSymbol :: (aliases ++ [symbol.brokerSymbol])) other))
      (symbolsPayload config) settings.symbols := by
  have each := mapM_eq_ok_iff.mp (symbolsPayload_read parsed)
  have items : (symbolsPayload config).zipIdx.map Prod.fst = symbolsPayload config := by simp
  rw [← items, List.forall₂_map_left_iff]
  refine each.imp (fun entry target read => ?_)
  obtain ⟨aliases, configures, candidates⟩ := candidates_of_symbolTarget read
  refine ⟨aliases, configures, fun name listed symbol inside set => ?_⟩
  have matches_iff : symbol.brokerSymbol ≠ "" → ∀ other,
      (Matches library target.candidates other ↔
        Matches library (target.logicalSymbol :: (aliases ++ [symbol.brokerSymbol])) other) := by
    intro some other
    simp only [Matches, candidates name listed _ set some]
  have fits : symbol.brokerSymbol ≠ "" → Matches library target.candidates symbol := by
    intro some
    rw [matches_iff some]
    exact ⟨some, symbol.brokerSymbol, by simp, .inl rfl⟩
  rw [resolvesTo_iff distinct readClock inside fits]
  constructor
  · rintro ⟨some, alone⟩
    exact ⟨some, fun other otherIn different =>
      (matches_iff some other).not.mp (alone other otherIn different)⟩
  · rintro ⟨some, alone⟩
    exact ⟨some, fun other otherIn different =>
      (matches_iff some other).not.mpr (alone other otherIn different)⟩

end Overrides

/-- One configured symbol, with the alias `GOLD`. -/
def goldConfig : List (Key × Value) :=
  named [("marketData", .dict (named
    [("backend", .dict (named [("kind", .str "mt5"), ("mode", .str "readonly")])),
      ("storage", .dict (named
        [("baseDir", .str "data"), ("sqlitePath", .str "state.sqlite3"),
          ("parquetDir", .str "parquet")])),
      ("collection", .dict (named
        [("pollSeconds", .int 5), ("tickLookbackSeconds", .int 60), ("barLookbackCount", .int 100),
          ("freshnessThresholdSeconds", .int 120), ("retryMaxAttempts", .int 3),
          ("retryBackoffSeconds", .int 1)])),
      ("symbols", .list
        [.dict (named [("canonical", .str "XAUUSD"), ("aliases", .list [.str "GOLD"])])]),
      ("timeframes", .list [.str "M1"])]))]

/-- `MT5_XAUUSD_SYMBOL=XAUUSD.pro` -/
def proOverride : AppSettings :=
  { rawValues := Dict.empty.set "MT5_XAUUSD_SYMBOL" "XAUUSD.pro"
    parsedValues := Dict.empty }

def proTarget : SymbolTarget :=
  { logicalSymbol := "XAUUSD"
    aliases := ["GOLD", "XAUUSD.pro"] }

def proSettings : MarketDataSettings :=
  { symbols := [proTarget]
    timeframes := [.M1]
    tickLookbackSeconds := 60
    barLookbackCount := 100
    freshnessThresholdSeconds := 120
    retryMaxAttempts := 3
    dryRunDefault := true }

theorem goldConfig_parsed :
    parseMarketDataSettings goldConfig proOverride = .ok proSettings := rfl

def brokerSymbolNamed (brokerSymbol : String) : DiscoveredSymbol :=
  { brokerSymbol := brokerSymbol
    description := ""
    visible := true
    point := 1 / 100
    digits := 2 }

/-- Without a rival the override wins. -/
theorem proOverride_wins :
    ResolvesTo plainLibrary (fun _ => 0)
      [brokerSymbolNamed "XAUUSD.pro", brokerSymbolNamed "XAGUSD"] proTarget "XAUUSD.pro" := by
  have wins := @override_wins_iff plainLibrary
    [brokerSymbolNamed "XAUUSD.pro", brokerSymbolNamed "XAGUSD"] goldConfig proOverride
    proSettings goldConfig_parsed (by decide) (fun _ => 0)
  have payloads : symbolsPayload goldConfig =
      [.dict (named [("canonical", .str "XAUUSD"), ("aliases", .list [.str "GOLD"])])] := rfl
  have symbols : proSettings.symbols = [proTarget] := rfl
  rw [payloads, symbols] at wins
  obtain ⟨⟨aliases, ⟨payload, same, -, listed⟩, exact⟩, -⟩ := List.forall₂_cons.mp wins
  obtain rfl : aliases = ["GOLD"] := by
    obtain rfl := Value.dict.inj same
    have texts : [Value.str "GOLD"] = aliases.map .str := Value.list.inj listed
    match aliases, texts with
    | [name], texts => simpa using texts.symm
  refine (exact "MT5_XAUUSD_SYMBOL" rfl (brokerSymbolNamed "XAUUSD.pro") (by simp) rfl).mpr
    ⟨by simp [brokerSymbolNamed], ?_⟩
  decide +kernel

/-- The broker also lists the plain name of the configured symbol. -/
theorem override_ambiguous :
    ¬ ∀ (library : MarketLibrary) (config : List (Key × Value)) (app : AppSettings)
        (settings : MarketDataSettings) (discovered : List DiscoveredSymbol)
        (readClock : String → Int),
      parseMarketDataSettings config app = .ok settings →
        (discovered.map DiscoveredSymbol.brokerSymbol).Nodup →
          ∀ target ∈ settings.symbols, ∀ name,
            OrderedDict.get? overrideVariables target.logicalSymbol = some name →
              ∀ symbol ∈ discovered, symbol.brokerSymbol ≠ "" →
                app.rawValues.get? name = some symbol.brokerSymbol →
                  ResolvesTo library readClock discovered target symbol.brokerSymbol := by
  intro wins
  obtain ⟨found, resolved, -⟩ := wins plainLibrary goldConfig proOverride proSettings
    [brokerSymbolNamed "XAUUSD", brokerSymbolNamed "XAUUSD.pro"] (fun _ => 0) goldConfig_parsed
    (by decide) proTarget (by simp [proSettings]) "MT5_XAUUSD_SYMBOL" rfl
    (brokerSymbolNamed "XAUUSD.pro") (by simp) (by simp [brokerSymbolNamed]) rfl
  have ambiguous : resolveTarget plainLibrary (fun _ => 0)
      (symbolLookup plainLibrary [brokerSymbolNamed "XAUUSD", brokerSymbolNamed "XAUUSD.pro"])
      proTarget = .error (symbolIncident (fun _ => 0) "ambiguous_symbol_mapping" "XAUUSD"
        "configured symbol resolved to multiple broker symbols") := by
    decide +kernel
  rw [ambiguous] at resolved
  cases resolved

end SuperAdvisor.MarketData
