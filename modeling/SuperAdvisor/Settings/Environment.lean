import SuperAdvisor.Foundation.OrderedDict
import SuperAdvisor.Foundation.PythonText
import SuperAdvisor.Foundation.RaisingLoops

/-!
# The environment file

`audit_environment` and `load_settings`, with the table of variables and their
parsers.  The audit turns a `ValueError` of a parser into an issue; the loader
runs the same parsers on the values of the report and lets it pass.
-/

namespace SuperAdvisor.Settings

open Python

/-- An exception of the standard library. -/
inductive Raised where
  | valueError (message : String)
  | other (message : String)
  deriving DecidableEq

/-- What an audit or a load ends with if it does not return. -/
inductive SettingsError where
  | canonicalEnvMissing (message : String)
  | duplicateEnv (message : String)
  | settingsValidation (message : String)
  | raised (problem : Raised)
  deriving DecidableEq

/-- The components of an absolute path without links. -/
abbrev ResolvedPath := List String

/-- `str.lower`, `repr`, `int` with the message of its `ValueError`, the scheme
and the network location `urlparse` finds, and `Path.resolve`. -/
structure Builtins where
  lower : String → String
  shown : String → String
  int : String → Except String Int
  urlparse : String → Except Raised (String × String)
  resolve : String → Except Raised ResolvedPath

def pathText (path : ResolvedPath) : String :=
  "/" ++ String.intercalate "/" path

/-- The paths of a project that the audit reads. -/
structure ProjectPaths where
  rootDir : String
  stateDir : String
  workspaceDir : String
  runtimeEnvPath : String
  runtimeConfigPath : String

/-- What the audit finds on the disk: whether a file is there, the `.env` files
below the root, and the text of a file. -/
structure Disk where
  isThere : ResolvedPath → Bool
  envFiles : List String
  readText : ResolvedPath → Except Raised String

inductive EnvStatus where
  | present
  | missing
  | blank
  | invalidFormat
  deriving DecidableEq

structure ValidationIssue where
  name : String
  status : EnvStatus
  message : String
  deriving DecidableEq

abbrev EnvValues := List (String × String)

structure EnvAuditReport where
  envPath : ResolvedPath
  values : EnvValues
  statuses : List (String × EnvStatus)
  duplicatePaths : List ResolvedPath
  issues : List ValidationIssue

/-- What a parser makes of a value; a path stands as it is written. -/
inductive Setting where
  | bool (value : Bool)
  | int (value : Int)
  | str (value : String)
  | path (text : String)
  | secret (value : String)
  deriving DecidableEq

inductive Parser where
  | bool
  | int
  | string
  | path
  | url
  | secret
  deriving DecidableEq

structure EnvVarSpec where
  name : String
  parser : Parser
  allowBlank : Bool := true
  expected : Option String := none

structure AppSettings where
  envPath : ResolvedPath
  rawValues : EnvValues
  parsedValues : List (String × Setting)
  secrets : List (String × String)

/-- `values.get(name, default)` -/
def valueOf (values : EnvValues) (name default : String) : String :=
  (OrderedDict.get? values name).getD default

section Parsing

variable (builtins : Builtins)

/-- One line of the file: nothing, or a variable. -/
def parseEnvLine (rawLine : List Char) : Except Raised (Option (String × String)) :=
  let line := (strip (String.ofList rawLine)).toList
  if line = [] ∨ line.head? = some '#' then .ok none
  else if '=' ∉ line then
    .error (.valueError ("Invalid .env line: " ++ builtins.shown (String.ofList rawLine)))
  else
    let key := line.takeWhile (· ≠ '=')
    let value := (line.dropWhile (· ≠ '=')).tail
    .ok (some (strip (String.ofList key), strip (String.ofList value)))

/-- `_parse_env_file`: a later line of a variable replaces its value. -/
def parseEnvFile (text : String) : Except Raised EnvValues := do
  let entries ← (splitLines text.toList).mapM (parseEnvLine builtins)
  .ok (OrderedDict.ofPairs (entries.filterMap id))

def parseBool (raw : String) : Except Raised Setting :=
  let normalized := builtins.lower (strip raw)
  if normalized = "true" then .ok (.bool true)
  else if normalized = "false" then .ok (.bool false)
  else .error (.valueError "expected true or false")

def parseInt (raw : String) : Except Raised Setting :=
  ((builtins.int raw).mapError .valueError).map .int

def parseUrl (raw : String) : Except Raised Setting := do
  let (scheme, netloc) ← builtins.urlparse raw
  if scheme ∉ ["http", "https"] ∨ netloc = "" then
    .error (.valueError "expected absolute http(s) URL")
  else .ok (.str raw)

/-- `spec.parser(raw)` -/
def Parser.parse : Parser → String → Except Raised Setting
  | .bool, raw => parseBool builtins raw
  | .int, raw => parseInt builtins raw
  | .string, raw => .ok (.str raw)
  | .path, raw => .ok (.path raw)
  | .url, raw => parseUrl builtins raw
  | .secret, raw => .ok (.secret raw)

end Parsing

def buildEnvSpecs (paths : ProjectPaths) : List EnvVarSpec :=
  [{ name := "OPENCLAW_HOME", parser := .path,
      allowBlank := false, expected := some paths.rootDir },
    { name := "OPENCLAW_STATE_DIR", parser := .path,
      allowBlank := false, expected := some paths.stateDir },
    { name := "OPENCLAW_CONFIG_PATH", parser := .path,
      allowBlank := false, expected := some paths.runtimeConfigPath },
    { name := "OPENCLAW_WORKSPACE_DIR", parser := .path,
      allowBlank := false, expected := some paths.workspaceDir },
    { name := "OPENCLAW_LOG_LEVEL", parser := .string, allowBlank := false },
    { name := "OPENCLAW_GATEWAY_TOKEN", parser := .secret },
    { name := "OPENCLAW_HOOKS_TOKEN", parser := .secret },
    { name := "ADVISOR_ENGINE_API_TOKEN", parser := .secret },
    { name := "AI_PROVIDER", parser := .string },
    { name := "OPENAI_ENABLED", parser := .bool, allowBlank := false },
    { name := "CLAUDE_ENABLED", parser := .bool, allowBlank := false },
    { name := "GEMINI_ENABLED", parser := .bool, allowBlank := false },
    { name := "DEEPSEEK_ENABLED", parser := .bool, allowBlank := false },
    { name := "AI_PROVIDER_FALLBACK_ENABLED", parser := .bool, allowBlank := false },
    { name := "AI_PROVIDER_FALLBACK_ORDER", parser := .string, allowBlank := false },
    { name := "ALLOW_PAID_PROVIDER_SMOKE_TEST", parser := .bool, allowBlank := false },
    { name := "OPENAI_MODEL", parser := .string },
    { name := "CLAUDE_MODEL", parser := .string },
    { name := "GEMINI_MODEL", parser := .string },
    { name := "DEEPSEEK_MODEL", parser := .string },
    { name := "OPENAI_TIMEOUT_SECONDS", parser := .int },
    { name := "CLAUDE_TIMEOUT_SECONDS", parser := .int },
    { name := "GEMINI_TIMEOUT_SECONDS", parser := .int },
    { name := "DEEPSEEK_TIMEOUT_SECONDS", parser := .int },
    { name := "DEEPSEEK_API_KEY", parser := .secret },
    { name := "OPENAI_API_KEY", parser := .secret },
    { name := "ANTHROPIC_API_KEY", parser := .secret },
    { name := "GEMINI_API_KEY", parser := .secret },
    { name := "GOOGLE_API_KEY", parser := .secret },
    { name := "TELEGRAM_ENABLED", parser := .bool, allowBlank := false },
    { name := "TELEGRAM_BOT_TOKEN", parser := .secret },
    { name := "TELEGRAM_ALLOWED_USER_ID", parser := .string },
    { name := "TELEGRAM_TARGET_CHAT_ID", parser := .string },
    { name := "TELEGRAM_GROUP_CHAT_ID", parser := .string },
    { name := "TELEGRAM_THREAD_ID", parser := .string },
    { name := "OPENCLAW_TELEGRAM_OPERATOR_ENABLED", parser := .bool, allowBlank := false },
    { name := "OPENCLAW_TELEGRAM_OPERATOR_BOT_TOKEN", parser := .secret },
    { name := "OPENCLAW_TELEGRAM_OPERATOR_OWNER_USER_ID", parser := .string },
    { name := "OPENCLAW_TELEGRAM_OPERATOR_ALLOWED_CHAT_IDS", parser := .string },
    { name := "OPENCLAW_TELEGRAM_OPERATOR_MODE", parser := .string, allowBlank := false },
    { name := "OPENCLAW_TELEGRAM_OPERATOR_WEBHOOK_ENABLED", parser := .bool, allowBlank := false },
    { name := "OPENCLAW_TELEGRAM_MARKET_ENABLED", parser := .bool, allowBlank := false },
    { name := "OPENCLAW_TELEGRAM_MARKET_BOT_TOKEN", parser := .secret },
    { name := "OPENCLAW_TELEGRAM_MARKET_TARGET_CHAT_ID", parser := .string },
    { name := "OPENCLAW_TELEGRAM_MARKET_TARGET_THREAD_ID", parser := .string },
    { name := "OPENCLAW_TELEGRAM_MARKET_INBOUND_ENABLED", parser := .bool, allowBlank := false },
    { name := "MT5_ENABLED", parser := .bool, allowBlank := false },
    { name := "MT5_TERMINAL_PATH", parser := .path },
    { name := "MT5_USE_EXISTING_SESSION", parser := .bool, allowBlank := false },
    { name := "MT5_LOGIN", parser := .string },
    { name := "MT5_PASSWORD", parser := .secret },
    { name := "MT5_SERVER", parser := .string },
    { name := "MT5_XAUUSD_SYMBOL", parser := .string },
    { name := "MT5_EURUSD_SYMBOL", parser := .string },
    { name := "MT5_GBPUSD_SYMBOL", parser := .string },
    { name := "MT5_AUDUSD_SYMBOL", parser := .string },
    { name := "MT5_NZDUSD_SYMBOL", parser := .string },
    { name := "MT5_USDJPY_SYMBOL", parser := .string },
    { name := "MT5_USDCHF_SYMBOL", parser := .string },
    { name := "MT5_USDCAD_SYMBOL", parser := .string },
    { name := "MT5_DXY_SYMBOL", parser := .string },
    { name := "MT5_US10Y_SYMBOL", parser := .string },
    { name := "FRED_ENABLED", parser := .bool, allowBlank := false },
    { name := "FRED_API_KEY", parser := .secret },
    { name := "FRED_BASE_URL", parser := .url, allowBlank := false },
    { name := "FRED_TIMEOUT_SECONDS", parser := .int, allowBlank := false },
    { name := "FRED_MAX_RETRIES", parser := .int, allowBlank := false },
    { name := "FRED_CACHE_TTL_SECONDS", parser := .int, allowBlank := false },
    { name := "FRED_US10Y_SERIES_ID", parser := .string, allowBlank := false },
    { name := "FRED_USD_BROAD_SERIES_ID", parser := .string, allowBlank := false },
    { name := "ADVISOR_ONLY", parser := .bool, allowBlank := false, expected := some "true" },
    { name := "EXECUTION_ALLOWED", parser := .bool, allowBlank := false, expected := some "false" },
    { name := "ALLOW_ORDER_SEND", parser := .bool, allowBlank := false, expected := some "false" },
    { name := "ADVISOR_ENGINE_HOST", parser := .string, allowBlank := false },
    { name := "ADVISOR_ENGINE_PORT", parser := .int, allowBlank := false },
    { name := "ADVISOR_ENGINE_BASE_URL", parser := .url, allowBlank := false },
    { name := "ADVISOR_TIMEZONE", parser := .string, allowBlank := false },
    { name := "ADVISOR_PRIMARY_SYMBOL", parser := .string, allowBlank := false },
    { name := "ADVISOR_RUNTIME_MODE", parser := .string, allowBlank := false },
    { name := "OPENCLAW_HOOKS_ENABLED", parser := .bool, allowBlank := false },
    { name := "OPENCLAW_HOOKS_PATH", parser := .string, allowBlank := false },
    { name := "OPENCLAW_GATEWAY_HOST", parser := .string, allowBlank := false },
    { name := "OPENCLAW_GATEWAY_PORT", parser := .int, allowBlank := false },
    { name := "ADVISOR_DATA_DIR", parser := .path, allowBlank := false },
    { name := "ADVISOR_LOG_DIR", parser := .path, allowBlank := false },
    { name := "ADVISOR_DB_PATH", parser := .path, allowBlank := false },
    { name := "APP_ENV", parser := .string, allowBlank := false },
    { name := "DRY_RUN", parser := .bool, allowBlank := false },
    { name := "SHADOW_MODE", parser := .bool, allowBlank := false },
    { name := "LIVE_TELEGRAM_ALLOWED", parser := .bool,
      allowBlank := false, expected := some "false" },
    { name := "REVEAL_SECRET_VALUES", parser := .bool,
      allowBlank := false, expected := some "false" }]

section Auditing

variable (builtins : Builtins) (paths : ProjectPaths)

/-- The `.env` of a temporary directory below a `state` directory. -/
def isTemporaryEnv (path : ResolvedPath) : Bool :=
  path.any (["_tmp", "._tmp", ".tmp_pytest"].contains ·) && path.contains "state" &&
    path.getLast? == some ".env"

def detectDuplicateEnvFiles (disk : Disk) (envPath : String) :
    Except Raised (List ResolvedPath) := do
  let selected ← builtins.resolve envPath
  let runtime ← builtins.resolve paths.runtimeEnvPath
  let found ← disk.envFiles.mapM builtins.resolve
  let duplicates := found.filter fun path =>
    !isTemporaryEnv path && path != selected && path != runtime
  .ok (duplicates.mergeSort fun left right => decide (left ≤ right))

/-- `_validate_expected` -/
def validateExpected (spec : EnvVarSpec) (raw : String) (parsed : Setting) :
    Except Raised Unit :=
  match spec.expected with
  | none => .ok ()
  | some expected =>
      match parsed with
      | .path text => do
          let actual ← builtins.resolve
            (if text.toList.head? = some '/' then text else paths.rootDir ++ "/" ++ text)
          let wanted ← builtins.resolve expected
          if actual = wanted then .ok () else .error (.valueError ("expected " ++ expected))
      | _ =>
          if builtins.lower raw = builtins.lower expected then .ok ()
          else .error (.valueError ("expected " ++ expected))

/-- What the audit records for a variable. -/
structure AuditedVariable where
  name : String
  status : EnvStatus
  issues : List ValidationIssue

def auditVariable (values : EnvValues) (spec : EnvVarSpec) : Except Raised AuditedVariable :=
  match OrderedDict.get? values spec.name with
  | none => .ok ⟨spec.name, .missing, [⟨spec.name, .missing, "Variable is missing"⟩]⟩
  | some raw =>
      if raw = "" then
        .ok ⟨spec.name, .blank,
          if spec.allowBlank then [] else [⟨spec.name, .blank, "Required variable is blank"⟩]⟩
      else
        match spec.parser.parse builtins raw >>= validateExpected builtins paths spec raw with
        | .ok () => .ok ⟨spec.name, .present, []⟩
        | .error (.valueError message) =>
            .ok ⟨spec.name, .invalidFormat, [⟨spec.name, .invalidFormat, message⟩]⟩
        | .error problem => .error problem

/-- `values.get(name, default).lower() == "true"` -/
def isTrue (values : EnvValues) (name default : String) : Bool :=
  builtins.lower (valueOf values name default) == "true"

/-- The issues of variables that may be blank in general, but not here. -/
def blankIssues (statuses : List (String × EnvStatus)) (names : List String) (message : String) :
    List ValidationIssue :=
  (names.filter fun name => OrderedDict.get? statuses name = some .blank).map
    fun name => ⟨name, .blank, message⟩

/-- The variables a bot requires. -/
def requiredWhen (enabled : Bool) (values : EnvValues) (names : List String) (bot : String) :
    List String :=
  if enabled then
    (names.filter fun name => valueOf values name "" = "").map
      fun name => name ++ ": required when " ++ bot ++ " bot is enabled"
  else []

def validateDualBotContract (values : EnvValues) : List String :=
  let operatorEnabled := isTrue builtins values "OPENCLAW_TELEGRAM_OPERATOR_ENABLED" "false"
  let marketEnabled := isTrue builtins values "OPENCLAW_TELEGRAM_MARKET_ENABLED" "false"
  let operatorToken := valueOf values "OPENCLAW_TELEGRAM_OPERATOR_BOT_TOKEN" ""
  let marketToken := valueOf values "OPENCLAW_TELEGRAM_MARKET_BOT_TOKEN" ""
  requiredWhen operatorEnabled values
      ["OPENCLAW_TELEGRAM_OPERATOR_BOT_TOKEN", "OPENCLAW_TELEGRAM_OPERATOR_OWNER_USER_ID",
        "OPENCLAW_TELEGRAM_OPERATOR_ALLOWED_CHAT_IDS"] "operator" ++
    requiredWhen marketEnabled values
      ["OPENCLAW_TELEGRAM_MARKET_BOT_TOKEN", "OPENCLAW_TELEGRAM_MARKET_TARGET_CHAT_ID"]
      "market" ++
    (if operatorToken ≠ "" ∧ operatorToken = marketToken then
      ["OPENCLAW_TELEGRAM_BOT_TOKENS: operator and market tokens must be distinct"]
    else []) ++
    (if isTrue builtins values "OPENCLAW_TELEGRAM_MARKET_INBOUND_ENABLED" "false" &&
        marketEnabled then
      ["OPENCLAW_TELEGRAM_MARKET_INBOUND_ENABLED: market inbound must stay disabled"]
    else []) ++
    (if valueOf values "OPENCLAW_TELEGRAM_OPERATOR_MODE" "polling" == "polling" &&
        isTrue builtins values "OPENCLAW_TELEGRAM_OPERATOR_WEBHOOK_ENABLED" "false" then
      ["OPENCLAW_TELEGRAM_OPERATOR_MODE: polling and webhook cannot both be enabled"]
    else [])

/-- `text.partition(separator)` without the separator -/
def partitionText (separator : List Char) : List Char → List Char × List Char
  | [] => ([], [])
  | symbol :: rest =>
      if separator <+: symbol :: rest then ([], (symbol :: rest).drop separator.length)
      else
        let (before, after) := partitionText separator rest
        (symbol :: before, after)

def contractIssue (issue : String) : ValidationIssue :=
  let (name, message) := partitionText ": ".toList issue.toList
  ⟨String.ofList name, .invalidFormat,
    if message = [] then issue else String.ofList message⟩

/-- The issues between variables. -/
def combinedIssues (values : EnvValues) (statuses : List (String × EnvStatus)) :
    List ValidationIssue :=
  let tokens :=
    (["OPENCLAW_GATEWAY_TOKEN", "OPENCLAW_HOOKS_TOKEN", "ADVISOR_ENGINE_API_TOKEN"].map
      fun name => valueOf values name "").filter (· ≠ "")
  (if isTrue builtins values "TELEGRAM_ENABLED" "false" then
      blankIssues statuses ["TELEGRAM_BOT_TOKEN", "TELEGRAM_TARGET_CHAT_ID"]
        "Required when TELEGRAM_ENABLED=true"
    else []) ++
    (validateDualBotContract builtins values).map contractIssue ++
    (if isTrue builtins values "MT5_ENABLED" "false" &&
        !isTrue builtins values "MT5_USE_EXISTING_SESSION" "true" then
      blankIssues statuses ["MT5_LOGIN", "MT5_PASSWORD", "MT5_SERVER"]
        "Required when MT5_ENABLED=true and MT5_USE_EXISTING_SESSION=false"
    else []) ++
    (if tokens.Nodup then []
    else
      [⟨"OPENCLAW_TOKENS", .invalidFormat,
        "Gateway, hooks, and engine tokens must be distinct when present"⟩])

/-- The part of the audit after the file is read. -/
def auditValues (envPath : ResolvedPath) (values : EnvValues) : Except Raised EnvAuditReport := do
  let audited ← (buildEnvSpecs paths).mapM (auditVariable builtins paths values)
  let statuses := OrderedDict.ofPairs (audited.map fun audit => (audit.name, audit.status))
  .ok
    { envPath := envPath
      values := values
      statuses := statuses
      duplicatePaths := []
      issues := audited.flatMap (·.issues) ++ combinedIssues builtins values statuses }

/-- The selected file and its variables. -/
def readEnvironment (disk : Disk) (envPath : Option String) :
    Except SettingsError (ResolvedPath × EnvValues) := do
  let selected ← (builtins.resolve (envPath.getD paths.runtimeEnvPath)).mapError .raised
  if disk.isThere selected then do
    let duplicates ←
      (detectDuplicateEnvFiles builtins paths disk (pathText selected)).mapError .raised
    if duplicates = [] then do
      let text ← (disk.readText selected).mapError .raised
      let values ← (parseEnvFile builtins text).mapError .raised
      .ok (selected, values)
    else
      .error (.duplicateEnv ("Found prohibited env files: " ++
        String.intercalate ", " (duplicates.map pathText)))
  else .error (.canonicalEnvMissing ("Missing env file: " ++ pathText selected))

def auditEnvironment (disk : Disk) (envPath : Option String) :
    Except SettingsError EnvAuditReport := do
  let (selected, values) ← readEnvironment builtins paths disk envPath
  (auditValues builtins paths selected values).mapError .raised

end Auditing

section Loading

variable (builtins : Builtins) (paths : ProjectPaths)

/-- The parsed value of a variable, blank if it is missing. -/
def loadVariable (values : EnvValues) (spec : EnvVarSpec) : Except Raised (String × Setting) :=
  let raw := valueOf values spec.name ""
  if raw = "" then .ok (spec.name, .str raw)
  else (spec.parser.parse builtins raw).map fun parsed => (spec.name, parsed)

/-- The secret of a variable, if it holds one. -/
def secretOf (spec : EnvVarSpec) (parsed : String × Setting) : Option (String × String) :=
  match parsed.2 with
  | .secret value => some (parsed.1, value)
  | .str value => if spec.parser = .secret then some (parsed.1, value) else none
  | _ => none

def settingsOf (report : EnvAuditReport) : Except Raised AppSettings := do
  let specs := buildEnvSpecs paths
  let parsed ← specs.mapM (loadVariable builtins report.values)
  .ok
    { envPath := report.envPath
      rawValues := report.values
      parsedValues := OrderedDict.ofPairs parsed
      secrets := OrderedDict.ofPairs ((List.zipWith secretOf specs parsed).filterMap id) }

def loadSettings (disk : Disk) (envPath : Option String) (strict : Bool) :
    Except SettingsError AppSettings := do
  let report ← auditEnvironment builtins paths disk envPath
  if strict = true ∧ report.issues ≠ [] then
    .error (.settingsValidation (String.intercalate "; "
      (report.issues.map fun issue => issue.name ++ ": " ++ issue.message)))
  else (settingsOf builtins paths report).mapError .raised

end Loading

end SuperAdvisor.Settings
