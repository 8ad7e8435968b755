import SuperAdvisor.Foundation.JsonRoundTrip
import SuperAdvisor.Foundation.Placeholders
import SuperAdvisor.Settings.RenderedConfig

/-!
# The rendered template

`render_config` replaces the placeholders of the template twice: those between
quotation marks by the JSON text of a value, then all others by the value as it
is.  The second pass goes over the result of the first, so a value that holds a
placeholder is replaced once more.

The directories of the agents are no settings: they are put over whatever the
environment file says.
-/

namespace SuperAdvisor.Settings

open JsonText Placeholders Python Registry Topology

/-- What `render_config` ends with if it does not return. -/
inductive RenderProblem where
  | settings (problem : SettingsError)
  | raised (problem : Raised)
  | fileNotFound
  | invalid (message : String)
  | jsonDecode
  | registry (problem : RegistryProblem)

/-! The two passes. -/

def isPlaceholderName (symbol : Char) : Bool :=
  symbol.isUpper || symbol.isDigit || symbol == '_'

/-- `PLACEHOLDER_IN_STRING` -/
def placeholderInString : Pattern Char :=
  { opening := [quote, '{', '{']
    closing := ['}', '}', quote]
    isName := isPlaceholderName
    opens := List.cons_ne_nil _ _
    ends := ⟨_, _, rfl, rfl⟩ }

/-- `PLACEHOLDER_RAW` -/
def placeholderRaw : Pattern Char :=
  { opening := ['{', '{']
    closing := ['}', '}']
    isName := isPlaceholderName
    opens := List.cons_ne_nil _ _
    ends := ⟨_, _, rfl, rfl⟩ }

def templateValue (values : EnvValues) (name : List Char) : Except RenderProblem String :=
  match OrderedDict.get? values (String.ofList name) with
  | some value => .ok value
  | none => .error (.invalid ("Missing template value: " ++ String.ofList name))

/-- `_replace_string_placeholder`; the JSON text of a string has no choices. -/
def replaceStringPlaceholder (values : EnvValues) (name : List Char) :
    Except RenderProblem (List Char) :=
  (templateValue values name).map renderString

/-- `_replace_raw_placeholder` -/
def replaceRawPlaceholder (values : EnvValues) (name : List Char) :
    Except RenderProblem (List Char) :=
  (templateValue values name).map String.toList

def renderTemplate (values : EnvValues) (template : List Char) :
    Except RenderProblem (List Char) := do
  let rendered ← substitute placeholderInString (replaceStringPlaceholder values) template
  substitute placeholderRaw (replaceRawPlaceholder values) rendered

/-! The values. -/

section Rendering

variable (builtins : Builtins) (shownPath : String → String) (paths : ProjectPaths)

/-- The text of a parsed path; `shownPath` is `str` of an absolute one. -/
def normalizedPath (text : String) : Except Raised String :=
  if text.toList.head? = some '/' then .ok (shownPath text)
  else (builtins.resolve (paths.rootDir ++ "/" ++ text)).map pathText

def pathValue (entry : String × Setting) : Except Raised (Option (String × String)) :=
  match entry.2 with
  | .path text =>
      (normalizedPath builtins shownPath paths text).map fun shown => some (entry.1, shown)
  | _ => .ok none

/-- `agent_id.upper().replace("-", "_")` -/
def agentVariable (agentId : String) : String :=
  agentId.map fun symbol => if symbol = '-' then '_' else symbol.toUpper

def agentValues (agentId : String) : List (String × String) :=
  let place := "OPENCLAW_" ++ agentVariable agentId
  [(place ++ "_WORKSPACE_DIR", agentPath paths.workspaceDir agentId ""),
    (place ++ "_AGENT_DIR", agentPath paths.stateDir agentId "/agent"),
    (place ++ "_SESSION_STORE", agentPath paths.stateDir agentId "/sessions"),
    (place ++ "_MEMORY_DIR", agentPath paths.stateDir agentId "/memory")]

/-- The values that do not come from the environment file. -/
def directoryValues : List (String × String) :=
  [("OPENCLAW_WORKSPACE_AGENTS_DIR", paths.workspaceDir ++ "/agents"),
    ("OPENCLAW_STATE_AGENTS_DIR", paths.stateDir ++ "/agents")] ++
  runtimeAgentIds.flatMap (agentValues paths)

/-- `render_values` -/
def renderValues (settings : AppSettings) : Except Raised EnvValues := do
  let normalized ← settings.parsedValues.mapM (pathValue builtins shownPath paths)
  .ok ((normalized.filterMap id ++ directoryValues paths).foldl
    (fun values entry => OrderedDict.set values entry.1 entry.2) settings.rawValues)

/-- The entry about the registry, blank if there is none. -/
def registryEntry (library : Library) (files : ProjectFiles) : Except RenderProblem Value :=
  let entry := fun (schema version hash : String) (agents skills : Int) =>
    Value.dict (named
      [("path", .str files.registryPath), ("schemaVersion", .str schema),
        ("registryVersion", .str version), ("registryHash", .str hash),
        ("agentCount", .int agents), ("skillCount", .int skills)])
  match buildAgentRegistry library files with
  | .ok registry =>
      .ok (entry registry.schemaVersion registry.registryVersion registry.registryHash
        registry.agentCount registry.skillCount)
  | .error problem =>
      match problem.caught with
      | some _ => .ok (entry "" "" "" 0 0)
      | none => .error (.registry problem)

def renderConfig (library : Library) (files : ProjectFiles) (disk : Disk)
    (template : Option (List Char)) (envPath : Option String) :
    Except RenderProblem Section := do
  let settings ← (loadSettings builtins paths disk envPath false).mapError .settings
  let values ← (renderValues builtins shownPath paths settings).mapError .raised
  match template with
  | none => .error .fileNotFound
  | some text => do
      let rendered ← renderTemplate values text
      match loads rendered with
      | none => .error .jsonDecode
      | some (.dict payload) => do
          let entry ← registryEntry library files
          .ok (OrderedDict.set payload (.str "agentCapabilityRegistry") entry)
      | some _ => .error (.invalid "Rendered config must be a JSON object")

end Rendering

/-! What stands in the rendered text. -/

/-- What the rendered text holds in place of a segment of the template. -/
inductive Stands (values : EnvValues) : Segment Char → List Char → Prop
  | between {text result : List Char}
      (replaced : substitute placeholderRaw (replaceRawPlaceholder values) text = .ok result) :
      Stands values (.text text) result
  | plain {name : List Char} {value : String}
      (found : OrderedDict.get? values (String.ofList name) = some value)
      (once : ¬placeholderRaw.OccursIn value.toList) :
      Stands values (.hole name) (renderString value)
  | again {name result : List Char} {value : String}
      (found : OrderedDict.get? values (String.ofList name) = some value)
      (occurs : placeholderRaw.OccursIn value.toList)
      (replaced : substitute placeholderRaw (replaceRawPlaceholder values)
        (renderString value) = .ok result) :
      Stands values (.hole name) result

theorem placeholderRaw_avoids_quote : placeholderRaw.Avoids quote :=
  { opening := by decide
    closing := by decide
    name := by decide }

theorem templateValue_eq_ok_iff {values : EnvValues} {name : List Char} {value : String} :
    templateValue values name = .ok value ↔
      OrderedDict.get? values (String.ofList name) = some value := by
  unfold templateValue
  cases OrderedDict.get? values (String.ofList name) <;> simp

private theorem digitChar_ne_brace (digit : Nat) : Nat.digitChar (digit % 16) ≠ '{' := by
  have small : digit % 16 < 16 := Nat.mod_lt _ (by omega)
  generalize digit % 16 = value at small
  revert small
  revert value
  decide

private theorem brace_not_mem_escapeUnit (unit : Nat) : '{' ∉ escapeUnit unit := by
  simp only [escapeUnit, List.mem_cons, List.not_mem_nil, or_false, not_or]
  refine ⟨by decide, by decide, ?_, ?_, ?_, ?_⟩ <;>
    exact fun same => digitChar_ne_brace _ same.symm

private theorem exists_escapeUnit (unit : Nat) :
    ∃ rest, escapeUnit unit = backslash :: rest := ⟨_, rfl⟩

private theorem shortEscape_ne_brace {symbol letter : Char}
    (found : shortEscape symbol = some letter) : letter ≠ '{' := by
  unfold shortEscape at found
  split_ifs at found <;> (cases found; decide)

private theorem escapeChar_cases (symbol : Char) :
    escapeChar symbol = [symbol] ∨
      ∃ rest, escapeChar symbol = backslash :: rest ∧ '{' ∉ rest := by
  unfold escapeChar
  cases short : shortEscape symbol with
  | some letter =>
      refine .inr ⟨_, rfl, ?_⟩
      simpa using (shortEscape_ne_brace short).symm
  | none =>
      by_cases printable : isPrintable symbol = true
      · exact .inl (if_pos printable)
      · have foreign : ∀ unit rest, escapeUnit unit = backslash :: rest → '{' ∉ rest :=
          fun unit rest shape member =>
            brace_not_mem_escapeUnit unit (shape ▸ List.mem_cons_of_mem _ member)
        simp only [if_neg printable]
        split
        · exact .inr ⟨_, rfl, foreign _ _ rfl⟩
        · refine .inr ⟨_, rfl, fun member => ?_⟩
          rcases List.mem_append.mp member with high | low
          · exact foreign _ _ rfl high
          · exact brace_not_mem_escapeUnit _ low

theorem placeholderRaw_kept : placeholderRaw.Kept backslash escapeChar :=
  { avoids :=
      { opening := by decide
        closing := by decide
        name := by decide }
    escaped := fun symbol => by
      rcases escapeChar_cases symbol with same | ⟨rest, shape, foreign⟩
      · exact .inl same
      · refine .inr ⟨rest, shape, fun other member same => foreign ?_⟩
        cases same
        exact member }

/-- The JSON text of a value has no placeholder that the value does not have. -/
theorem not_occursIn_renderString {value : String}
    (once : ¬placeholderRaw.OccursIn value.toList) :
    ¬placeholderRaw.OccursIn (renderString value) :=
  fun occurs => once (occursIn_of_flatMap placeholderRaw_kept
    (occursIn_of_quoted placeholderRaw_avoids_quote occurs))

private theorem expand_eq_ok_iff {values : EnvValues} {segment : Segment Char}
    {result : List Char} :
    expand placeholderRaw (replaceStringPlaceholder values) (replaceRawPlaceholder values)
        segment = .ok result ↔ Stands values segment result := by
  cases segment with
  | text text =>
      constructor
      · exact .between
      · intro stands
        cases stands with
        | between replaced => exact replaced
  | hole name =>
      simp only [expand, replaceStringPlaceholder, except_bind_eq_ok, except_map_eq_ok,
        templateValue_eq_ok_iff]
      constructor
      · rintro ⟨_, ⟨value, found, rfl⟩, replaced⟩
        by_cases occurs : placeholderRaw.OccursIn value.toList
        · exact .again found occurs replaced
        · rw [substitute_of_not_occursIn (not_occursIn_renderString occurs)] at replaced
          cases replaced
          exact .plain found occurs
      · intro stands
        cases stands with
        | plain found once =>
            exact ⟨_, ⟨_, found, rfl⟩,
              substitute_of_not_occursIn (not_occursIn_renderString once)⟩
        | again found occurs replaced => exact ⟨_, ⟨_, found, rfl⟩, replaced⟩

/-- Each segment of a template is rendered on its own: a value without a
placeholder stands as its JSON text, whatever stands around it. -/
theorem renderTemplate_eq_ok_iff (values : EnvValues) (template rendered : List Char) :
    renderTemplate values template = .ok rendered ↔
      ∃ parts, List.Forall₂ (Stands values) (segments placeholderInString template) parts ∧
        rendered = parts.flatten := by
  have quoted : ∀ name result, replaceStringPlaceholder values name = .ok result →
      ∃ body, result = quote :: (body ++ [quote]) := by
    intro name result found
    obtain ⟨value, -, rfl⟩ := except_map_eq_ok.mp found
    exact ⟨_, rfl⟩
  rw [renderTemplate, substitute_substitute_iff placeholderRaw_avoids_quote quoted]
  simp only [mapM_eq_ok_iff, expand_eq_ok_iff]

/-! The directories. -/

theorem directoryValues_distinct (paths : ProjectPaths) :
    ((directoryValues paths).map Prod.fst).Nodup := by
  have names : (directoryValues paths).map Prod.fst =
      (directoryValues ⟨"", "", "", "", ""⟩).map Prod.fst := rfl
  rw [names]
  decide +kernel

/-- No environment file moves the directory of an agent. -/
theorem get?_renderValues
    {builtins : Builtins} {shownPath : String → String} {paths : ProjectPaths}
    {settings : AppSettings} {values : EnvValues}
    (rendered : renderValues builtins shownPath paths settings = .ok values)
    {name value : String} (member : (name, value) ∈ directoryValues paths) :
    OrderedDict.get? values name = some value := by
  obtain ⟨normalized, -, done⟩ := except_bind_eq_ok.mp rendered
  have distinct := directoryValues_distinct paths
  have last : OrderedDict.get? (OrderedDict.ofPairs (directoryValues paths)) name = some value := by
    rw [OrderedDict.ofPairs_of_nodup distinct]
    exact OrderedDict.get?_eq_some_of_mem distinct member
  rw [OrderedDict.get?_ofPairs] at last
  rw [← Except.ok.inj done, List.foldl_append, OrderedDict.get?_foldl_set, last, Option.some_or]

end SuperAdvisor.Settings
