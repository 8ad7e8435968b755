import SuperAdvisor.Events.CanonicalJson
import SuperAdvisor.Events.Consumer
import SuperAdvisor.Foundation.Cooldown
import SuperAdvisor.Foundation.IsoText
import SuperAdvisor.Foundation.Raising

/-!
# Market alerts

What `TelegramPublisher` asks of a payload before it formats it: a type that may
be published, an expiry that lies ahead, evidence, provenance and the
deduplication key of its contract.  `format_market` then looks the key up in a
file of expiries, formats the message, checks its length and notes the expiry of
the key last.
-/

namespace SuperAdvisor.Telegram

open Python Calendar Events

def allowedMarketPublicationEvents : List String :=
  ["SUPER_POTENTIAL_CONFIRMED",
    "SUPER_POTENTIAL_INVALIDATED",
    "DATA_QUALITY_WARNING",
    "SYSTEM_INCIDENT",
    "SYSTEM_RECOVERED"]

def forbiddenMarketPublicationEvents : List String :=
  ["SUPER_POTENTIAL_CANDIDATE_INTERNAL", "SYSTEM_HEALTH"]

/-- The fields of a publication payload that the policy reads. -/
structure ApprovedPublicationPayload where
  eventType : String
  symbol : String
  timeframe : String
  evidenceIds : List String
  dedupKey : String
  expiresAtUtc : String
  setupId : String
  triggerVersion : String
  provenance : Option (List (Key × Value))

inductive TelegramProblem where
  | policy (message : String)
  | python (failure : Failure)
  deriving DecidableEq

/-- The deduplication key a publication must carry. -/
def expectedKey (eventType symbol timeframe setupId triggerVersion : String) : String :=
  eventType ++ ":" ++ symbol ++ ":" ++ timeframe ++ ":" ++ setupId ++ ":" ++ triggerVersion

/-- `now` is the clock in UTC or the exception of its conversion. -/
def validatePayload (localInstant : DateTime → Except Failure Int)
    (payload : ApprovedPublicationPayload) (now : Except Failure Int) :
    Except TelegramProblem Unit :=
  if payload.eventType ∈ forbiddenMarketPublicationEvents then
    .error (.policy ("event type " ++ payload.eventType ++ " must not be published"))
  else if payload.eventType ∉ allowedMarketPublicationEvents then
    .error (.policy ("unsupported publication event type " ++ payload.eventType))
  else do
    let effectiveNow ← now.mapError .python
    let expires ← (instantOfText localInstant (withOffset payload.expiresAtUtc)).mapError .python
    if expires ≤ effectiveNow then
      .error (.policy "expired publication payload rejected")
    else if payload.evidenceIds.isEmpty then
      .error (.policy "publication requires evidence_ids")
    else if (payload.provenance.getD []).isEmpty then
      .error (.policy "publication requires provenance")
    else if payload.dedupKey ≠ expectedKey payload.eventType payload.symbol payload.timeframe
        payload.setupId payload.triggerVersion then
      .error (.policy "dedup_key does not match market publication contract")
    else .ok ()

open Python JsonText Raising Cooldown

def telegramLimit : Nat := 4096

/-- A publication payload with the fields that the message shows. -/
structure MarketPublication extends ApprovedPublicationPayload where
  severity : String
  status : String
  headline : String
  triggerReasons : List String
  keyLevels : List String
  invalidation : String
  dataQuality : String
  eventTimeUtc : String
  correlationId : String
  direction : String := "WATCH"
  provenance := none

inductive TargetKind where
  | market
  | operator
  deriving DecidableEq

structure TelegramDeliveryRequest where
  formattedThaiText : String
  parseMode : String
  replyToMessageId : Option Int
  dedupKey : String
  priority : String
  redactionStatus : String
  targetKind : TargetKind
  correlationId : String
  deriving DecidableEq

inductive AlertProblem where
  | telegram (problem : TelegramProblem)
  | undecodable
  | python (failure : Failure)
  | json (problem : JsonError)
  deriving DecidableEq

/-! The message. -/

/-- `html.escape(text)` -/
def htmlEscape (text : String) : String :=
  String.ofList (text.toList.flatMap (fun symbol =>
    if symbol = '&' then "&amp;".toList
    else if symbol = '<' then "&lt;".toList
    else if symbol = '>' then "&gt;".toList
    else if symbol = quote then "&quot;".toList
    else if symbol = singleQuote then "&#x27;".toList
    else [symbol]))

def statusTexts : List (String × String) :=
  [("CONFIRMED", "ยืนยันแล้ว"),
    ("INVALIDATED", "ถูกยกเลิก"),
    ("WARNING", "เตือนคุณภาพข้อมูล"),
    ("INCIDENT", "เหตุขัดข้อง"),
    ("RECOVERED", "ระบบกลับมาทำงาน")]

def marketMessage (payload : MarketPublication) : String :=
  let statusText := (OrderedDict.get? statusTexts payload.status).getD payload.status
  "\n".intercalate
    ["XAUUSD | " ++ htmlEscape payload.headline,
      "สถานะ: " ++ htmlEscape statusText,
      "เวลา: " ++ htmlEscape payload.eventTimeUtc,
      "TF: " ++ htmlEscape payload.timeframe,
      "ทิศทาง: " ++ htmlEscape payload.direction,
      "เหตุผลหลัก: " ++ htmlEscape ("; ".intercalate payload.triggerReasons),
      "โซนสำคัญ: " ++ htmlEscape ("; ".intercalate payload.keyLevels),
      "เงื่อนไขยกเลิก: " ++ htmlEscape payload.invalidation,
      "คุณภาพข้อมูล: " ++ htmlEscape payload.dataQuality,
      "ID: " ++ htmlEscape (String.ofList (payload.correlationId.toList.take 12))]

/-- The symbols other than small letters whose capitals are letters of ASCII. -/
def asciiCapitals : List (Char × String) :=
  [('ß', "SS"), ('ı', "I"), ('ſ', "S"), ('ﬀ', "FF"), ('ﬁ', "FI"), ('ﬂ', "FL"), ('ﬃ', "FFI"),
    ('ﬄ', "FFL"), ('ﬅ', "ST"), ('ﬆ', "ST")]

/-- `text.upper()`, up to symbols whose capitals are not in ASCII. -/
def upperText (text : String) : String :=
  String.ofList (text.toList.flatMap (fun symbol =>
    ((OrderedDict.get? asciiCapitals symbol).map String.toList).getD [symbol.toUpper]))

def priorityOf (payload : MarketPublication) : String :=
  if upperText payload.severity ∈ ["CRITICAL", "HIGH"] then "HIGH"
  else if payload.eventType ∈ ["SUPER_POTENTIAL_CONFIRMED", "SUPER_POTENTIAL_INVALIDATED"] then
    "NORMAL"
  else "LOW"

def deliveryRequest (payload : MarketPublication) : TelegramDeliveryRequest :=
  { formattedThaiText := marketMessage payload
    parseMode := "HTML"
    replyToMessageId := none
    dedupKey := payload.dedupKey
    priority := priorityOf payload
    redactionStatus := "REDACTED"
    targetKind := .market
    correlationId := payload.correlationId }

/-! The file of expiries. -/

/-- The floats that the clock gives: the sum with a number of seconds, the number
that JSON keeps of a float, and `float(value)`, which reads that number back. -/
structure FloatClock (Time : Type) where
  plus : Time → Int → Time
  number : Time → FloatLiteral
  float : Value → Except Failure Time
  finite : ∀ time, (number time).isFinite = true
  float_number : ∀ time, float (.float (number time)) = .ok time

/-- The text of the file, if it is there. -/
abbrev DedupFile := Option (List Char)

section Expiries

variable {Time : Type} (clock : FloatClock Time)

def expiryEntry (entry : Key × Value) : Except Failure (String × Time) := do
  let expiry ← clock.float entry.2
  .ok (entry.1.asValue.text, expiry)

/-- `_load` -/
def loadExpiries (file : DedupFile) : Except AlertProblem (List (String × Time)) :=
  match file with
  | none => .ok []
  | some text =>
      match loads text with
      | none => .error .undecodable
      | some (.dict entries) => do
          let values ← (entries.mapM (expiryEntry clock)).mapError .python
          .ok (OrderedDict.ofPairs values)
      | some value => .error (.python (noAttribute value "items"))

def expiriesValue (values : List (String × Time)) : Value :=
  .dict (named (values.map (fun entry => (entry.1, .float (clock.number entry.2)))))

def mark (key : String) (ttlSeconds : Int) (now : Time) : EStateM AlertProblem DedupFile Unit := do
  let values ← ofExcept (loadExpiries clock (← get))
  let written := OrderedDict.set values key (clock.plus now ttlSeconds)
  let text ← ofExcept ((canonicalJson (expiriesValue clock written)).mapError .json)
  set (some text : DedupFile)

variable {clock}

theorem keys_loadExpiries_nodup
    {file : DedupFile} {values : List (String × Time)}
    (loaded : loadExpiries clock file = .ok values) : (OrderedDict.keys values).Nodup := by
  unfold loadExpiries at loaded
  split at loaded
  next => cases loaded; exact .nil
  next text =>
    split at loaded
    next => cases loaded
    next entries read =>
      obtain ⟨pairs, -, built⟩ := except_bind_eq_ok.mp loaded
      cases built
      exact OrderedDict.keys_nodup_ofPairs pairs
    next => cases loaded

private theorem mapM_expiryEntry (values : List (String × Time)) :
    (named (values.map (fun entry => (entry.1, .float (clock.number entry.2))))).mapM
      (expiryEntry clock) = .ok values := by
  induction values with
  | nil => rfl
  | cons entry values induction =>
      have first : expiryEntry clock (.str entry.1, .float (clock.number entry.2)) = .ok entry := by
        simp [expiryEntry, clock.float_number, Key.asValue, Value.text, bind, Except.bind]
      simp only [List.map_cons, named_cons, List.mapM_cons, first, induction]
      rfl

/-- What was written is loaded, in the order of the keys. -/
theorem loadExpiries_written
    {values : List (String × Time)} (distinct : (OrderedDict.keys values).Nodup) :
    ∃ text, canonicalJson (expiriesValue clock values) = .ok text ∧
      loadExpiries clock (some text) = .ok (sortByName values) := by
  have fields : (OrderedDict.keys (values.map (fun entry =>
      (entry.1, Value.float (clock.number entry.2))))).Nodup := by
    simpa [OrderedDict.keys, Function.comp_def] using distinct
  have each : ∀ literal : FloatLiteral, literal.isFinite = true →
      (Value.float literal).toDocument canonicalOptions = .ok (.float literal) := by
    intro literal finite
    simp [Value.toDocument, floatAllowed, finite]
  obtain ⟨document, converted⟩ : ∃ document,
      (expiriesValue clock values).toDocument canonicalOptions = .ok document := by
    refine toDocument_named_ok rfl ?_
    intro field member
    obtain ⟨entry, -, rfl⟩ := List.mem_map.mp member
    exact ⟨_, each _ (clock.finite entry.2)⟩
  have dumped : canonicalJson (expiriesValue clock values) =
      .ok (render canonicalOptions.spaced document) := by
    simp [canonicalJson, dumps, converted, Except.map]
  have kept : (expiriesValue clock values).reload canonicalOptions =
      .dict (named ((sortByName values).map
        (fun entry => (entry.1, .float (clock.number entry.2))))) := by
    rw [expiriesValue, reload_named rfl fields converted,
      sortByName_map (fun time => Value.float (clock.number time)), List.map_map]
    congr 2
    refine List.map_congr_left (fun entry _ => ?_)
    simp [Value.reload, each _ (clock.finite entry.2), Document.loaded, ofDocument]
  refine ⟨_, dumped, ?_⟩
  have sorted : OrderedDict.ofPairs (sortByName values) = sortByName values :=
    OrderedDict.ofPairs_of_nodup (keys_sortByName_nodup distinct)
  simp only [loadExpiries, loads_dumps dumped, kept, mapM_expiryEntry]
  simp [Except.mapError, sorted, bind, Except.bind]

/-- A file that loads is marked; afterwards it loads with the new expiry. -/
theorem mark_returns
    {file : DedupFile} {values : List (String × Time)}
    (loaded : loadExpiries clock file = .ok values) (key : String) (ttlSeconds : Int)
    (now : Time) :
    ∃ written next, (mark clock key ttlSeconds now).run file = .ok ⟨⟩ written ∧
      loadExpiries clock written = .ok next ∧ ∀ wanted, OrderedDict.get? next wanted =
        OrderedDict.get? (OrderedDict.set values key (clock.plus now ttlSeconds)) wanted := by
  have distinct := OrderedDict.keys_nodup_set (keys_loadExpiries_nodup loaded) key
    (clock.plus now ttlSeconds)
  obtain ⟨text, dumped, again⟩ := @loadExpiries_written _ clock _ distinct
  refine ⟨some text, _, ?_, again, get?_sortByName distinct⟩
  simp [mark, run_ofExcept, loaded, dumped, Except.mapError]

end Expiries

/-! The calls. -/

variable {Time : Type} [LinearOrder Time] (clock : FloatClock Time)

def seen (key : String) (now : Time) : EStateM AlertProblem DedupFile Bool := do
  let values ← ofExcept (loadExpiries clock (← get))
  match OrderedDict.get? values key with
  | none => pure false
  | some expiry => pure (decide (now < expiry))

/-- One call of `format_market`: the payload, the policy's clock in UTC or the
exception of its conversion, and what `time.time()` gives when the key is looked
up and when it is noted. -/
structure MarketCall (Time : Type) where
  payload : MarketPublication
  utcNow : Except Failure Int
  asked : Time
  marked : Time

def formatMarket (cooldownSeconds : Int) (localInstant : Calendar.DateTime → Except Failure Int)
    (call : MarketCall Time) : EStateM AlertProblem DedupFile TelegramDeliveryRequest := do
  let payload := call.payload
  ofExcept ((validatePayload localInstant payload.toApprovedPublicationPayload
    call.utcNow).mapError .telegram)
  if ← seen clock payload.dedupKey call.asked then
    throw (.telegram (.policy "duplicate market publication rejected"))
  if (marketMessage payload).length > telegramLimit then
    throw (.telegram (.policy "formatted message exceeds Telegram limit"))
  mark clock payload.dedupKey cooldownSeconds call.marked
  pure (deliveryRequest payload)

variable {clock}

theorem run_seen
    {file : DedupFile} {values : List (String × Time)}
    (loaded : loadExpiries clock file = .ok values) (key : String) (now : Time) :
    ∃ found, (seen clock key now).run file = .ok found file ∧
      (found = false ↔ Free values key now) := by
  cases kept : OrderedDict.get? values key with
  | none =>
      refine ⟨false, by simp [seen, run_ofExcept, loaded, kept], ?_⟩
      simp [Free, kept]
  | some expiry =>
      refine ⟨decide (now < expiry), by simp [seen, run_ofExcept, loaded, kept], ?_⟩
      simp [Free, kept]

/-- The payload passes the policy and the length check. -/
def Publishable (localInstant : Calendar.DateTime → Except Failure Int)
    (call : MarketCall Time) : Prop :=
  validatePayload localInstant call.payload.toApprovedPublicationPayload call.utcNow = .ok () ∧
    (marketMessage call.payload).length ≤ telegramLimit

/-- A call raises and leaves the file alone, or it finds its key free and notes
its expiry. -/
theorem formatMarket_cases
    {file : DedupFile} {values : List (String × Time)}
    (loaded : loadExpiries clock file = .ok values) (cooldownSeconds : Int)
    (localInstant : Calendar.DateTime → Except Failure Int) (call : MarketCall Time) :
    (∃ problem, (formatMarket clock cooldownSeconds localInstant call).run file =
        .error problem file ∧
      ¬(Publishable localInstant call ∧ Free values call.payload.dedupKey call.asked)) ∨
    ∃ written next, (formatMarket clock cooldownSeconds localInstant call).run file =
        .ok (deliveryRequest call.payload) written ∧
      Free values call.payload.dedupKey call.asked ∧
      loadExpiries clock written = .ok next ∧ ∀ wanted, OrderedDict.get? next wanted =
        OrderedDict.get? (OrderedDict.set values call.payload.dedupKey
          (clock.plus call.marked cooldownSeconds)) wanted := by
  cases checked : validatePayload localInstant call.payload.toApprovedPublicationPayload
      call.utcNow with
  | error problem =>
      refine .inl ⟨.telegram problem, ?_, ?_⟩
      · simp [formatMarket, run_ofExcept, checked, Except.mapError]
      · simp [Publishable, checked]
  | ok =>
  obtain ⟨found, looked, free⟩ := run_seen loaded call.payload.dedupKey call.asked
  cases found with
  | true =>
      refine .inl ⟨.telegram (.policy "duplicate market publication rejected"), ?_, ?_⟩
      · simp [formatMarket, run_ofExcept, checked, Except.mapError, looked]
      · exact fun both => by simpa using free.mpr both.2
  | false =>
  by_cases long : (marketMessage call.payload).length > telegramLimit
  · refine .inl ⟨.telegram (.policy "formatted message exceeds Telegram limit"), ?_, ?_⟩
    · simp [formatMarket, run_ofExcept, checked, Except.mapError, looked, long]
    · exact fun both => absurd both.1.2 (Nat.not_le.mpr long)
  · obtain ⟨written, next, marked, again, same⟩ :=
      mark_returns loaded call.payload.dedupKey cooldownSeconds call.marked
    refine .inr ⟨written, next, ?_, free.mp rfl, again, same⟩
    simp [formatMarket, run_ofExcept, checked, Except.mapError, looked, long, marked,
      -bind_pure_comp]

end SuperAdvisor.Telegram
