import SuperAdvisor.Events.Envelope
import SuperAdvisor.Foundation.ChainedLog
import SuperAdvisor.Foundation.StableDump

/-!
# The lines of the logs

A log line is the canonical JSON of a record.  Such a line holds no line
boundary, is not blank, and gives every field back as it is after a dump.
-/

namespace SuperAdvisor.Persistence

open Python JsonText ChainedLog

/-- The exceptions that can leave the logs. -/
inductive LogProblem where
  | undecodable
  | python (failure : Failure)
  | json (problem : JsonError)
  | envelope (problem : Events.EventProblem)
  deriving DecidableEq

/-- The first twelve digits of the digest. -/
def fingerprint (sha256Hex : List Char → String) (payload : List Char) : String :=
  String.ofList ((sha256Hex payload).toList.take 12)

/-- `json.loads(line)` -/
def decodeLine (line : List Char) : Except LogProblem Value :=
  match loads line with
  | some value => .ok value
  | none => .error .undecodable

/-- `payload[name]` -/
def field (payload : Value) (name : String) : Except LogProblem Value :=
  (getItem payload name).mapError .python

/-- `str(payload[name])` -/
def fieldText (payload : Value) (name : String) : Except LogProblem String :=
  (field payload name).map Value.text

/-- `canonical_json(value)` -/
def printed (value : Value) : Except LogProblem (List Char) :=
  (canonicalJson value).mapError .json

theorem printed_eq_ok {value : Value} {text : List Char} :
    printed value = .ok text ↔ canonicalJson value = .ok text :=
  except_mapError_eq_ok

theorem canonicalJson_of_toDocument
    {value : Value} {document : Document}
    (converted : value.toDocument canonicalOptions = .ok document) :
    canonicalJson value = .ok (render false document) := by
  rw [canonicalJson, dumps, converted]
  rfl

private theorem isLineBreak_of_isPrintable
    {symbol : Char} (printable : isPrintable symbol = true) : isLineBreak symbol = false := by
  simp only [isPrintable, Bool.and_eq_true, decide_eq_true_eq] at printable
  simp only [isLineBreak, List.contains_eq_mem, List.mem_cons, List.not_mem_nil, or_false,
    decide_eq_false_iff_not]
  omega

/-- The canonical JSON of a dictionary is one line. -/
theorem isRecordLine_of_canonicalJson
    {entries : List (Key × Value)} {line : List Char}
    (dumped : canonicalJson (.dict entries) = .ok line) : IsRecordLine line := by
  obtain ⟨document, converted, rfl⟩ := except_map_eq_ok.mp dumped
  simp only [Value.toDocument, except_bind_eq_ok] at converted
  obtain ⟨arranged, -, fields, -, built⟩ := converted
  cases built
  constructor
  · intro symbol member
    exact isLineBreak_of_isPrintable (render_printable _ _ symbol member)
  · simp [render, isBlankLine, isSpace]

/-- Reading a field of a line that was printed from a record. -/
theorem field_of_printed
    {fields : List (String × Value)} (distinct : (OrderedDict.keys fields).Nodup)
    {line : List Char} (dumped : canonicalJson (.dict (named fields)) = .ok line) :
    ∃ payload, decodeLine line = .ok payload ∧
      ∀ name value, OrderedDict.get? fields name = some value →
        field payload name = .ok (value.reload canonicalOptions) := by
  obtain ⟨document, converted, -⟩ := except_map_eq_ok.mp dumped
  have loaded := loads_dumps dumped
  rw [reload_named rfl distinct converted] at loaded
  refine ⟨_, by rw [decodeLine, loaded], ?_⟩
  intro name value found
  rw [field, getItem_named, OrderedDict.get?_map, get?_sortByName distinct, found]
  rfl

end SuperAdvisor.Persistence
