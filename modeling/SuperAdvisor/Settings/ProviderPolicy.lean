import SuperAdvisor.Settings.Loading

/-!
# The provider policy

`build_provider_policy_report`: the selection of a provider and the checks of
the settings, each of which may add an issue to the verdict and most of which
make it fail.  Two issues leave the verdict as it is: a selected provider with
an unknown name, and a fallback order without the selected one.
-/

namespace SuperAdvisor.Settings

open Python

inductive Provider where
  | openai
  | claude
  | gemini
  | deepseek
  deriving DecidableEq

namespace Provider

def name : Provider → String
  | openai => "openai"
  | claude => "claude"
  | gemini => "gemini"
  | deepseek => "deepseek"

/-- `OPENCLAW_PROVIDER_IDS` -/
def openclawId : Provider → String
  | openai => "openai"
  | claude => "anthropic"
  | gemini => "google"
  | deepseek => "deepseek"

/-- `PROVIDER_ENABLE_ENV` -/
def enableEnv : Provider → String
  | openai => "OPENAI_ENABLED"
  | claude => "CLAUDE_ENABLED"
  | gemini => "GEMINI_ENABLED"
  | deepseek => "DEEPSEEK_ENABLED"

/-- `PROVIDER_API_KEY_ENV` -/
def apiKeyEnv : Provider → List String
  | openai => ["OPENAI_API_KEY"]
  | claude => ["ANTHROPIC_API_KEY"]
  | gemini => ["GEMINI_API_KEY", "GOOGLE_API_KEY"]
  | deepseek => ["DEEPSEEK_API_KEY"]

/-- `PROVIDER_MODEL_ENV` -/
def modelEnv : Provider → String
  | openai => "OPENAI_MODEL"
  | claude => "CLAUDE_MODEL"
  | gemini => "GEMINI_MODEL"
  | deepseek => "DEEPSEEK_MODEL"

/-- `PROVIDER_TIMEOUT_ENV` -/
def timeoutEnv : Provider → String
  | openai => "OPENAI_TIMEOUT_SECONDS"
  | claude => "CLAUDE_TIMEOUT_SECONDS"
  | gemini => "GEMINI_TIMEOUT_SECONDS"
  | deepseek => "DEEPSEEK_TIMEOUT_SECONDS"

end Provider

def supportedProviders : List Provider :=
  [.openai, .claude, .gemini, .deepseek]

def legacyProviderEnvNames : List String :=
  ["AI_PRIMARY_PROVIDER", "AI_PRIMARY_MODEL", "AI_FALLBACK_PROVIDER_1", "AI_FALLBACK_MODEL_1",
    "AI_FALLBACK_PROVIDER_2", "AI_FALLBACK_MODEL_2", "AI_FALLBACK_PROVIDER_3",
    "AI_FALLBACK_MODEL_3"]

def allowedProviderApiKeyNames : List String :=
  supportedProviders.flatMap Provider.apiKeyEnv

inductive PolicyStatus where
  | pass
  | blocked
  | fail
  deriving DecidableEq

structure ProviderPolicyIssue where
  field : String
  code : String
  message : String
  deriving DecidableEq

structure ProviderPolicyReport where
  status : PolicyStatus
  reason : String
  selectedProvider : Option Provider
  selectedOpenclawProviderId : Option String
  enabledProviders : List Provider
  supportedProviders : List Provider
  openclawProviderIds : List (Provider × String)
  fallbackEnabled : Bool
  fallbackOrder : List String
  providerCredentials : List (Provider × String)
  providerModels : List (Provider × Option String)
  providerTimeoutsSeconds : List (Provider × Option Int)
  legacyProviderRefs : List String
  issues : List ProviderPolicyIssue
  realProviderTest : String
  realProviderBlocker : String

/-- `status`, `reason` and `issues` while the checks run. -/
structure Verdict where
  status : PolicyStatus
  reason : String
  issues : List ProviderPolicyIssue

namespace Verdict

/-- An issue that leaves the status. -/
def noteIf (wrong : Bool) (issue : ProviderPolicyIssue) (verdict : Verdict) : Verdict :=
  if wrong then { verdict with issues := verdict.issues ++ [issue] } else verdict

def failIf (wrong : Bool) (issue : ProviderPolicyIssue) (verdict : Verdict) : Verdict :=
  if wrong then { verdict with status := .fail, issues := verdict.issues ++ [issue] }
  else verdict

end Verdict

section Policy

variable (builtins : Builtins)

/-- The name of a supported provider, or another name of one. -/
def normalizeProviderName (raw : String) : Except String Provider :=
  let normalized := builtins.lower (strip raw)
  if normalized = "" then .error "provider must not be blank"
  else
    match supportedProviders.find? (·.name = normalized) with
    | some provider => .ok provider
    | none =>
        match OrderedDict.get? [("anthropic", Provider.claude), ("google", Provider.gemini)]
          normalized with
        | some provider => .ok provider
        | none => .error ("unsupported provider: " ++ raw)

/-- A setting without the space around it. -/
def stripped (rawValues : EnvValues) (name : String) : String :=
  strip (valueOf rawValues name "")

/-- `_parse_bool` of a setting -/
def isOn (rawValues : EnvValues) (name : String) : Bool :=
  builtins.lower (strip (valueOf rawValues name "false")) == "true"

/-- `_parse_int` of a text -/
def parseTimeout (raw : String) : Except String (Option Int) :=
  if strip raw = "" then .ok none
  else do
    let value ← builtins.int (strip raw)
    if value ≤ 0 then .error "expected positive integer timeout" else .ok (some value)

def splitCsv (raw : String) : List String :=
  ((raw.toList.splitOn ',').map String.ofList).filterMap fun item =>
    if strip item = "" then none else some (builtins.lower (strip item))

def shownTuple (names : List String) : String :=
  match names with
  | [name] => "(" ++ builtins.shown name ++ ",)"
  | names => "(" ++ String.intercalate ", " (names.map builtins.shown) ++ ")"

def providerCredentials (rawValues : EnvValues) (provider : Provider) : List String :=
  provider.apiKeyEnv.filter fun name => stripped rawValues name != ""

section Checks

variable (rawValues : EnvValues)

def enabledProviders : List Provider :=
  supportedProviders.filter fun provider => isOn builtins rawValues provider.enableEnv

def selectedRaw : String :=
  builtins.lower (stripped rawValues "AI_PROVIDER")

/-- The selected provider, or the message of an unsupported name. -/
def selection : Except String (Option Provider) :=
  if selectedRaw builtins rawValues ≠ "" then
    (normalizeProviderName builtins (selectedRaw builtins rawValues)).map some
  else
    match enabledProviders builtins rawValues with
    | [provider] => .ok (some provider)
    | _ => .ok none

def selectedProvider : Option Provider :=
  match selection builtins rawValues with
  | .ok selected => selected
  | .error _ => none

/-- The status and the reason before any check. -/
def initialStatus : PolicyStatus × String :=
  let enabled := enabledProviders builtins rawValues
  if enabled = [] then (.blocked, "NO_ENABLED_PROVIDER")
  else if 1 < enabled.length ∧ selectedProvider builtins rawValues = none then
    (.blocked, "MULTIPLE_ENABLED_PROVIDERS_WITHOUT_PRIMARY")
  else (.pass, "OK")

def initialVerdict : Verdict where
  status := (initialStatus builtins rawValues).1
  reason := (initialStatus builtins rawValues).2
  issues :=
    match selection builtins rawValues with
    | .ok _ => []
    | .error message => [⟨"AI_PROVIDER", "unsupported_provider", message⟩]

def checkSelected (verdict : Verdict) : Verdict :=
  match selectedProvider builtins rawValues with
  | some selected =>
      if selected ∈ enabledProviders builtins rawValues then verdict
      else
        { status := .fail
          reason := "SELECTED_PROVIDER_DISABLED"
          issues := verdict.issues ++ [⟨"AI_PROVIDER", "disabled_provider_selected",
            "selected provider " ++ builtins.shown selected.name ++ " is not enabled"⟩] }
  | none => verdict

/-- The text of the timeout's `ValueError`, if there is one. -/
def timeoutProblem (provider : Provider) : Option String :=
  let raw := stripped rawValues provider.timeoutEnv
  if raw = "" then none
  else
    match parseTimeout builtins raw with
    | .ok _ => none
    | .error message => some message

def modelPrefix (provider : Provider) : String :=
  provider.openclawId ++ "/"

def checkTimeout (verdict : Verdict) (provider : Provider) : Verdict :=
  match timeoutProblem builtins rawValues provider with
  | none => verdict
  | some message => verdict.failIf true ⟨provider.timeoutEnv, "invalid_timeout", message⟩

/-- The round of the loop for a provider. -/
def checkProvider (verdict : Verdict) (provider : Provider) : Verdict :=
  let enabled := (enabledProviders builtins rawValues).contains provider
  let model := stripped rawValues provider.modelEnv
  let verdict := verdict.failIf (enabled && (providerCredentials rawValues provider).isEmpty)
    ⟨String.intercalate "/" provider.apiKeyEnv, "missing_credential",
      provider.name ++ " is enabled but none of " ++ shownTuple builtins provider.apiKeyEnv ++
        " is set"⟩
  let verdict := verdict.failIf (enabled && model == "")
    ⟨provider.modelEnv, "missing_model",
      provider.name ++ " is enabled but " ++ provider.modelEnv ++ " is blank"⟩
  let verdict := verdict.failIf
    (model != "" && !decide ((modelPrefix provider).toList <+: model.toList))
    ⟨provider.modelEnv, "invalid_model_ref",
      provider.modelEnv ++ " must start with " ++ builtins.shown (modelPrefix provider)⟩
  checkTimeout builtins rawValues verdict provider

def unsupportedProviderApiKeys : List String :=
  (rawValues.filter fun entry =>
    decide ("_API_KEY".toList <:+ entry.1.toList) &&
      !allowedProviderApiKeyNames.contains entry.1 && strip entry.2 != "").map Prod.fst

def checkApiKeys : Verdict → Verdict :=
  Verdict.failIf (!(unsupportedProviderApiKeys rawValues).isEmpty)
    ⟨"UNSUPPORTED_PROVIDER_API_KEY", "unsupported_provider_api_key",
      "one or more unsupported provider API keys are set"⟩

def fallbackEnabled : Bool :=
  isOn builtins rawValues "AI_PROVIDER_FALLBACK_ENABLED"

def fallbackOrder : List String :=
  splitCsv builtins (valueOf rawValues "AI_PROVIDER_FALLBACK_ORDER" "")

def invalidFallbacks : List String :=
  (fallbackOrder builtins rawValues).filter fun name =>
    !(supportedProviders.map Provider.name).contains name

/-- The selected provider is missing from a fallback order. -/
def primaryIsMissing : Bool :=
  match selectedProvider builtins rawValues with
  | some selected =>
      !(fallbackOrder builtins rawValues).contains selected.name &&
        !(fallbackOrder builtins rawValues).isEmpty
  | none => false

def checkFallbackNames : Verdict → Verdict :=
  Verdict.failIf
    (fallbackEnabled builtins rawValues && !(invalidFallbacks builtins rawValues).isEmpty)
    ⟨"AI_PROVIDER_FALLBACK_ORDER", "unsupported_fallback_provider",
      "fallback order includes unsupported providers: " ++
        String.intercalate ", " (invalidFallbacks builtins rawValues)⟩

def checkFallbackRepeats : Verdict → Verdict :=
  Verdict.failIf
    (fallbackEnabled builtins rawValues && !decide (fallbackOrder builtins rawValues).Nodup)
    ⟨"AI_PROVIDER_FALLBACK_ORDER", "duplicate_fallback_provider",
      "fallback order contains duplicate providers"⟩

/-- The only check that does not make the verdict fail. -/
def checkFallbackPrimary : Verdict → Verdict :=
  Verdict.noteIf (fallbackEnabled builtins rawValues && primaryIsMissing builtins rawValues)
    ⟨"AI_PROVIDER_FALLBACK_ORDER", "primary_missing_from_fallback_order",
      "selected provider is not represented in fallback order"⟩

def checkLegacy (verdict : Verdict) (name : String) : Verdict :=
  verdict.failIf (stripped rawValues name != "")
    ⟨name, "legacy_provider_setting", name ++ " is deprecated and must be removed"⟩

/-- All checks, in their order. -/
def policyVerdict : Verdict :=
  let verdict := checkSelected builtins rawValues (initialVerdict builtins rawValues)
  let verdict := supportedProviders.foldl (checkProvider builtins rawValues) verdict
  let verdict := checkApiKeys rawValues verdict
  let verdict := checkFallbackNames builtins rawValues verdict
  let verdict := checkFallbackRepeats builtins rawValues verdict
  let verdict := checkFallbackPrimary builtins rawValues verdict
  legacyProviderEnvNames.foldl (checkLegacy rawValues) verdict

def policyReport : ProviderPolicyReport :=
  let verdict := policyVerdict builtins rawValues
  let selected := selectedProvider builtins rawValues
  { status := verdict.status
    reason := verdict.reason
    selectedProvider := selected
    selectedOpenclawProviderId := selected.map Provider.openclawId
    enabledProviders := enabledProviders builtins rawValues
    supportedProviders := supportedProviders
    openclawProviderIds := supportedProviders.map fun provider => (provider, provider.openclawId)
    fallbackEnabled := fallbackEnabled builtins rawValues
    fallbackOrder := fallbackOrder builtins rawValues
    providerCredentials := supportedProviders.map fun provider =>
      (provider, if (providerCredentials rawValues provider).isEmpty then "blank" else "present")
    providerModels := supportedProviders.map fun provider =>
      (provider, if stripped rawValues provider.modelEnv = "" then none
        else some (stripped rawValues provider.modelEnv))
    providerTimeoutsSeconds := supportedProviders.map fun provider =>
      (provider, (parseTimeout builtins (valueOf rawValues provider.timeoutEnv "")).toOption.join)
    legacyProviderRefs := legacyProviderEnvNames.filter fun name => stripped rawValues name != ""
    issues := verdict.issues
    realProviderTest := "BLOCKED"
    realProviderBlocker := "NO_AVAILABLE_AI_CREDIT" }

end Checks

def buildProviderPolicyReport (paths : ProjectPaths) (disk : Disk) (envPath : Option String) :
    Except SettingsError ProviderPolicyReport :=
  (loadSettings builtins paths disk envPath false).map fun settings =>
    policyReport builtins settings.rawValues

end Policy

end SuperAdvisor.Settings
