import SuperAdvisor.Settings.ProviderPolicy

/-!
# Trustworthy verdicts

A check that fails a verdict with each issue it adds keeps a passing verdict
free of issues.  All checks of the policy are of this kind but one, and the
selection may have left an issue before them.  A pass is therefore to be
trusted except where one of these two issues stands alone.
-/

namespace SuperAdvisor.Settings

open Python

/-! Checks of a verdict, and what they require. -/

/-- The check adds an issue, and fails, exactly if the requirement is not met. -/
structure FailsUnless (met : Prop) (check : Verdict → Verdict) : Prop where
  passes : ∀ verdict, (check verdict).status = .pass ↔ verdict.status = .pass ∧ met
  quiet : ∀ verdict, (check verdict).issues = [] ↔ verdict.issues = [] ∧ met

/-- The check adds an issue in the same case, but lets the verdict pass. -/
structure NotesUnless (met : Prop) (check : Verdict → Verdict) : Prop where
  passes : ∀ verdict, (check verdict).status = verdict.status
  quiet : ∀ verdict, (check verdict).issues = [] ↔ verdict.issues = [] ∧ met

section Checks

variable {met first second : Prop} {check earlier later : Verdict → Verdict}

theorem failsUnless_failIf (wrong : Bool) (issue : ProviderPolicyIssue) :
    FailsUnless (wrong = false) (Verdict.failIf wrong issue) := by
  cases wrong <;> constructor <;> simp [Verdict.failIf]

theorem notesUnless_noteIf (wrong : Bool) (issue : ProviderPolicyIssue) :
    NotesUnless (wrong = false) (Verdict.noteIf wrong issue) := by
  cases wrong <;> constructor <;> simp [Verdict.noteIf]

theorem FailsUnless.congr (fails : FailsUnless first check) (same : first ↔ second) :
    FailsUnless second check :=
  propext same ▸ fails

theorem FailsUnless.comp (before : FailsUnless first earlier) (after : FailsUnless second later) :
    FailsUnless (first ∧ second) fun verdict => later (earlier verdict) where
  passes verdict := by rw [after.passes, before.passes, and_assoc]
  quiet verdict := by rw [after.quiet, before.quiet, and_assoc]

theorem failsUnless_foldl {α : Type} {fits : α → Prop} {step : Verdict → α → Verdict}
    (each : ∀ item, FailsUnless (fits item) fun verdict => step verdict item) (items : List α) :
    FailsUnless (∀ item ∈ items, fits item) fun verdict => items.foldl step verdict := by
  induction items with
  | nil => constructor <;> simp
  | cons item items induction =>
      apply ((each item).comp induction).congr
      rw [List.forall_mem_cons]

end Checks

section Policy

variable (builtins : Builtins) (rawValues : EnvValues)

/-! What the checks require. -/

def SelectedIsEnabled : Prop :=
  ∀ selected, selectedProvider builtins rawValues = some selected →
    selected ∈ enabledProviders builtins rawValues

/-- An enabled provider has a credential and a model; a model belongs to its
provider, and a timeout is a positive number. -/
structure ProviderSettled (provider : Provider) : Prop where
  credential : provider ∈ enabledProviders builtins rawValues →
    providerCredentials rawValues provider ≠ []
  model : provider ∈ enabledProviders builtins rawValues →
    stripped rawValues provider.modelEnv ≠ ""
  modelRef : stripped rawValues provider.modelEnv ≠ "" →
    (modelPrefix provider).toList <+: (stripped rawValues provider.modelEnv).toList
  timeout : timeoutProblem builtins rawValues provider = none

structure FallbackSettled : Prop where
  supported : fallbackEnabled builtins rawValues = true →
    invalidFallbacks builtins rawValues = []
  distinct : fallbackEnabled builtins rawValues = true →
    (fallbackOrder builtins rawValues).Nodup

/-- The settings meet every requirement whose failure would fail the policy. -/
structure Settled : Prop where
  someEnabled : enabledProviders builtins rawValues ≠ []
  oneOrSelected : 1 < (enabledProviders builtins rawValues).length →
    selectedProvider builtins rawValues ≠ none
  selected : SelectedIsEnabled builtins rawValues
  providers : ∀ provider, ProviderSettled builtins rawValues provider
  apiKeys : unsupportedProviderApiKeys rawValues = []
  fallback : FallbackSettled builtins rawValues
  legacy : ∀ name ∈ legacyProviderEnvNames, stripped rawValues name = ""

/-- `AI_PROVIDER` is set, and names no supported provider. -/
def NamesUnsupported : Prop :=
  selectedRaw builtins rawValues ≠ "" ∧
    (normalizeProviderName builtins (selectedRaw builtins rawValues)).toBool = false

/-- The fallback is on, with an order that lacks the selected provider. -/
def FallbackLacksPrimary : Prop :=
  fallbackEnabled builtins rawValues = true ∧ primaryIsMissing builtins rawValues = true

/-- What a pass of the policy is to mean. -/
structure Trusted (report : ProviderPolicyReport) : Prop where
  pass : report.status = .pass →
    report.issues = [] ∧ ∃ provider, report.selectedProvider = some provider ∧
      provider ∈ report.enabledProviders ∧
      (∃ name ∈ provider.apiKeyEnv, stripped rawValues name ≠ "") ∧
      (modelPrefix provider).toList <+: (stripped rawValues provider.modelEnv).toList
  issues : report.issues ≠ [] → report.status ≠ .pass

end Policy

section Verdicts

variable {builtins : Builtins} {rawValues : EnvValues}

theorem failsUnless_checkSelected :
    FailsUnless (SelectedIsEnabled builtins rawValues) (checkSelected builtins rawValues) := by
  unfold SelectedIsEnabled checkSelected
  cases selectedProvider builtins rawValues with
  | none => constructor <;> simp
  | some selected =>
      by_cases enabled : selected ∈ enabledProviders builtins rawValues <;>
        constructor <;> simp [enabled]

theorem failsUnless_checkProvider (provider : Provider) :
    FailsUnless (ProviderSettled builtins rawValues provider) fun verdict =>
      checkProvider builtins rawValues verdict provider := by
  have timeout : FailsUnless (timeoutProblem builtins rawValues provider = none) fun verdict =>
      checkTimeout builtins rawValues verdict provider := by
    unfold checkTimeout
    cases timeoutProblem builtins rawValues provider with
    | none => constructor <;> simp
    | some message =>
        apply (failsUnless_failIf true _).congr
        simp
  unfold checkProvider
  apply ((((failsUnless_failIf _ _).comp (failsUnless_failIf _ _)).comp
    (failsUnless_failIf _ _)).comp timeout).congr
  constructor
  · rintro ⟨⟨⟨credential, model⟩, modelRef⟩, timeout⟩
    constructor
    · simpa using credential
    · simpa using model
    · simpa using modelRef
    · exact timeout
  · rintro ⟨credential, model, modelRef, timeout⟩
    refine ⟨⟨⟨?_, ?_⟩, ?_⟩, timeout⟩
    · simpa using credential
    · simpa using model
    · simpa using modelRef

theorem failsUnless_checkApiKeys :
    FailsUnless (unsupportedProviderApiKeys rawValues = []) (checkApiKeys rawValues) := by
  apply (failsUnless_failIf _ _).congr
  simp

theorem failsUnless_checkFallback :
    FailsUnless (FallbackSettled builtins rawValues) fun verdict =>
      checkFallbackRepeats builtins rawValues (checkFallbackNames builtins rawValues verdict) := by
  apply ((failsUnless_failIf _ _).comp (failsUnless_failIf _ _)).congr
  constructor
  · rintro ⟨supported, distinct⟩
    constructor
    · simpa using supported
    · simpa using distinct
  · rintro ⟨supported, distinct⟩
    constructor
    · simpa using supported
    · simpa using distinct

theorem notesUnless_checkFallbackPrimary :
    NotesUnless (¬ FallbackLacksPrimary builtins rawValues)
      (checkFallbackPrimary builtins rawValues) := by
  have notes := notesUnless_noteIf
    (fallbackEnabled builtins rawValues && primaryIsMissing builtins rawValues)
    ⟨"AI_PROVIDER_FALLBACK_ORDER", "primary_missing_from_fallback_order",
      "selected provider is not represented in fallback order"⟩
  rw [Bool.and_eq_false_iff, ← Bool.not_eq_true, ← Bool.not_eq_true, ← not_and_or] at notes
  exact notes

theorem failsUnless_checkLegacy :
    FailsUnless (∀ name ∈ legacyProviderEnvNames, stripped rawValues name = "") fun verdict =>
      legacyProviderEnvNames.foldl (checkLegacy rawValues) verdict := by
  apply failsUnless_foldl
  intro name
  apply (failsUnless_failIf _ _).congr
  simp

/-! The selection. -/

theorem selection_error_iff :
    (selection builtins rawValues).toBool = false ↔ NamesUnsupported builtins rawValues := by
  unfold selection NamesUnsupported
  by_cases blank : selectedRaw builtins rawValues = ""
  · simp only [blank, ne_eq, not_true_eq_false, if_false, false_and, iff_false]
    split <;> simp [Except.toBool]
  · rw [if_pos blank]
    cases normalizeProviderName builtins (selectedRaw builtins rawValues) <;>
      simp [blank, Except.map, Except.toBool]

theorem initialVerdict_issues :
    (initialVerdict builtins rawValues).issues = [] ↔ ¬ NamesUnsupported builtins rawValues := by
  rw [← selection_error_iff, initialVerdict]
  cases selection builtins rawValues <;> simp [Except.toBool]

theorem initialVerdict_passes :
    (initialVerdict builtins rawValues).status = .pass ↔
      enabledProviders builtins rawValues ≠ [] ∧
        (1 < (enabledProviders builtins rawValues).length →
          selectedProvider builtins rawValues ≠ none) := by
  simp only [initialVerdict, initialStatus]
  split
  next none_enabled => simp [none_enabled]
  next some_enabled =>
    split
    next several => simp [several]
    next single => exact iff_of_true rfl ⟨some_enabled, not_and.mp single⟩

/-- Without an unsupported name, a single enabled provider is selected if no
other one is. -/
theorem exists_selected (settled : Settled builtins rawValues)
    (supported : ¬ NamesUnsupported builtins rawValues) :
    ∃ provider, selectedProvider builtins rawValues = some provider := by
  rw [← Option.ne_none_iff_exists']
  intro unselected
  have single : ¬ 1 < (enabledProviders builtins rawValues).length :=
    fun several => settled.oneOrSelected several unselected
  obtain ⟨only, enabled⟩ : ∃ only, enabledProviders builtins rawValues = [only] := by
    apply List.length_eq_one_iff.mp
    have nonempty := List.length_pos_iff.mpr settled.someEnabled
    omega
  rw [← selection_error_iff, Bool.not_eq_false] at supported
  unfold selectedProvider at unselected
  unfold selection at unselected supported
  by_cases blank : selectedRaw builtins rawValues = ""
  · simp [blank, enabled] at unselected
  · rw [if_pos blank] at unselected supported
    cases normalized : normalizeProviderName builtins (selectedRaw builtins rawValues) with
    | error message => simp [normalized, Except.map, Except.toBool] at supported
    | ok provider => simp [normalized, Except.map] at unselected

/-! The verdict as a whole. -/

theorem settled_iff :
    Settled builtins rawValues ↔
      (initialVerdict builtins rawValues).status = .pass ∧
        SelectedIsEnabled builtins rawValues ∧
        (∀ provider ∈ supportedProviders, ProviderSettled builtins rawValues provider) ∧
        unsupportedProviderApiKeys rawValues = [] ∧ FallbackSettled builtins rawValues ∧
        ∀ name ∈ legacyProviderEnvNames, stripped rawValues name = "" := by
  rw [initialVerdict_passes]
  constructor
  · intro settled
    exact ⟨⟨settled.someEnabled, settled.oneOrSelected⟩, settled.selected,
      fun provider _ => settled.providers provider, settled.apiKeys, settled.fallback,
      settled.legacy⟩
  · rintro ⟨⟨someEnabled, oneOrSelected⟩, selected, providers, apiKeys, fallback, legacy⟩
    refine ⟨someEnabled, oneOrSelected, selected, ?_, apiKeys, fallback, legacy⟩
    intro provider
    apply providers
    cases provider <;> decide

/-- The policy passes exactly if no setting fails it. -/
theorem policyVerdict_passes_iff :
    (policyVerdict builtins rawValues).status = .pass ↔ Settled builtins rawValues := by
  have providers := failsUnless_foldl
    (@failsUnless_checkProvider builtins rawValues) supportedProviders
  simp only [policyVerdict]
  rw [failsUnless_checkLegacy.passes, notesUnless_checkFallbackPrimary.passes,
    failsUnless_checkFallback.passes, failsUnless_checkApiKeys.passes, providers.passes,
    failsUnless_checkSelected.passes, settled_iff]
  tauto

/-- The issues of a policy that passes are the two that do not fail it. -/
theorem policyVerdict_quiet_iff (settled : Settled builtins rawValues) :
    (policyVerdict builtins rawValues).issues = [] ↔
      ¬ NamesUnsupported builtins rawValues ∧ ¬ FallbackLacksPrimary builtins rawValues := by
  have providers := failsUnless_foldl
    (@failsUnless_checkProvider builtins rawValues) supportedProviders
  obtain ⟨-, selected, eachProvider, apiKeys, fallback, legacy⟩ := settled_iff.mp settled
  simp only [policyVerdict]
  rw [failsUnless_checkLegacy.quiet, notesUnless_checkFallbackPrimary.quiet,
    failsUnless_checkFallback.quiet, failsUnless_checkApiKeys.quiet, providers.quiet,
    failsUnless_checkSelected.quiet, initialVerdict_issues]
  tauto

/-- A settled provider has a credential and the model of its own. -/
theorem credentialed_of_settled {provider : Provider} (settled : Settled builtins rawValues)
    (enabled : provider ∈ enabledProviders builtins rawValues) :
    (∃ name ∈ provider.apiKeyEnv, stripped rawValues name ≠ "") ∧
      (modelPrefix provider).toList <+: (stripped rawValues provider.modelEnv).toList := by
  have one := settled.providers provider
  refine ⟨?_, one.modelRef (one.model enabled)⟩
  obtain ⟨name, held⟩ := List.exists_mem_of_ne_nil _ (one.credential enabled)
  obtain ⟨listed, nonblank⟩ := List.mem_filter.mp held
  exact ⟨name, listed, by simpa using nonblank⟩

/-! The report shows the verdict and the selection. -/

theorem policyReport_status :
    (policyReport builtins rawValues).status = (policyVerdict builtins rawValues).status := rfl

theorem policyReport_issues :
    (policyReport builtins rawValues).issues = (policyVerdict builtins rawValues).issues := rfl

theorem policyReport_selectedProvider :
    (policyReport builtins rawValues).selectedProvider = selectedProvider builtins rawValues := rfl

theorem policyReport_enabledProviders :
    (policyReport builtins rawValues).enabledProviders = enabledProviders builtins rawValues := rfl

theorem policyReport_passes_iff :
    (policyReport builtins rawValues).status = .pass ↔ Settled builtins rawValues := by
  rw [policyReport_status, policyVerdict_passes_iff]

/-- A report on settings is to be trusted unless they pass with an issue. -/
theorem trusted_policyReport_iff :
    Trusted rawValues (policyReport builtins rawValues) ↔
      ¬ (Settled builtins rawValues ∧
        (NamesUnsupported builtins rawValues ∨ FallbackLacksPrimary builtins rawValues)) := by
  constructor
  · rintro trusted ⟨settled, unseen⟩
    have quiet := (trusted.pass (policyReport_passes_iff.mpr settled)).1
    rw [policyReport_issues, policyVerdict_quiet_iff settled] at quiet
    exact unseen.elim quiet.1 quiet.2
  · intro seen
    have unseen : Settled builtins rawValues →
        ¬ NamesUnsupported builtins rawValues ∧ ¬ FallbackLacksPrimary builtins rawValues :=
      fun settled => not_or.mp fun unseen => seen ⟨settled, unseen⟩
    have quiet : Settled builtins rawValues → (policyReport builtins rawValues).issues = [] := by
      intro settled
      rw [policyReport_issues, policyVerdict_quiet_iff settled]
      exact unseen settled
    constructor
    · intro passes
      have settled := policyReport_passes_iff.mp passes
      obtain ⟨provider, selected⟩ := exists_selected settled (unseen settled).1
      have enabled := settled.selected provider selected
      refine ⟨quiet settled, provider, ?_, ?_, credentialed_of_settled settled enabled⟩
      · rw [policyReport_selectedProvider, selected]
      · rw [policyReport_enabledProviders]
        exact enabled
    · intro issues passes
      exact issues (quiet (policyReport_passes_iff.mp passes))

end Verdicts

section Reports

variable (builtins : Builtins) (paths : ProjectPaths) (disk : Disk) (envPath : Option String)

/-- The report on the settings of an environment is to be trusted. -/
def TrustedPolicy : Prop :=
  ∀ settings report, loadSettings builtins paths disk envPath false = .ok settings →
    buildProviderPolicyReport builtins paths disk envPath = .ok report →
      Trusted settings.rawValues report

end Reports

/-- A pass is to be trusted exactly if the settings do not pass with an issue. -/
theorem pass_trusted_iff (builtins : Builtins) (paths : ProjectPaths) (disk : Disk)
    (envPath : Option String) :
    TrustedPolicy builtins paths disk envPath ↔
      ∀ settings, loadSettings builtins paths disk envPath false = .ok settings →
        ¬ (Settled builtins settings.rawValues ∧
          (NamesUnsupported builtins settings.rawValues ∨
            FallbackLacksPrimary builtins settings.rawValues)) := by
  constructor
  · intro trusted settings loaded
    apply trusted_policyReport_iff.mp
    apply trusted settings _ loaded
    rw [buildProviderPolicyReport, loaded]
    rfl
  · intro seen settings report loaded built
    rw [buildProviderPolicyReport, loaded] at built
    cases built
    exact trusted_policyReport_iff.mpr (seen settings loaded)

/-- An environment with one provider, and another one selected by name. -/
def mistralSelected : String :=
  "OPENAI_ENABLED=true\nOPENAI_API_KEY=key\nOPENAI_MODEL=openai/gpt\nAI_PROVIDER=mistral"

theorem mistralSelected_not_trusted :
    ¬ TrustedPolicy asciiBuiltins advisorPaths (diskOf mistralSelected) none := by
  intro trusted
  have passes : ((buildProviderPolicyReport asciiBuiltins advisorPaths (diskOf mistralSelected)
      none).toOption.map fun report => (decide (report.status = .pass), report.issues.isEmpty)) =
        some (true, false) := by
    decide +kernel
  cases loaded : loadSettings asciiBuiltins advisorPaths (diskOf mistralSelected) none false with
  | error problem => simp [buildProviderPolicyReport, loaded, Except.map, Except.toOption] at passes
  | ok settings =>
      have built : buildProviderPolicyReport asciiBuiltins advisorPaths (diskOf mistralSelected)
          none = .ok (policyReport asciiBuiltins settings.rawValues) := by
        rw [buildProviderPolicyReport, loaded]
        rfl
      rw [built] at passes
      simp only [Except.toOption, Option.map_some, Option.some.injEq, Prod.mk.injEq,
        decide_eq_true_eq] at passes
      obtain ⟨quiet, -⟩ := (trusted settings _ loaded built).pass passes.1
      simp [quiet] at passes

end SuperAdvisor.Settings
