import SuperAdvisor.Foundation.SeparatedFields
import SuperAdvisor.Telegram.AlertCooldown

/-!
# The keys of market alerts

The deduplication key joins five fields with colons.  A payload is told apart
from every other one that differs in a field exactly if its own fields contain
no colon.
-/

namespace SuperAdvisor.Telegram

open Python JsonText Raising Cooldown

namespace ApprovedPublicationPayload

variable (payload : ApprovedPublicationPayload)

/-- The fields of the key behind the event type. -/
def freeFields : List String :=
  [payload.symbol, payload.timeframe, payload.setupId, payload.triggerVersion]

def keyFields : List String := payload.eventType :: payload.freeFields

end ApprovedPublicationPayload

/-- The policy accepts the payload at some time. -/
def Accepted (localInstant : Calendar.DateTime → Except Failure Int)
    (payload : ApprovedPublicationPayload) : Prop :=
  ∃ now, validatePayload localInstant payload now = .ok ()

def duplicateMessage : String := "duplicate market publication rejected"

section Calls

variable {Time : Type} [LinearOrder Time] (clock : FloatClock Time) (cooldownSeconds : Int)
  (localInstant : Calendar.DateTime → Except Failure Int)

/-- The call is rejected as a duplicate. -/
def DuplicateRejected (file : DedupFile) (call : MarketCall Time) : Prop :=
  (alertStep clock cooldownSeconds localInstant file call).1 =
    .error (.telegram (.policy duplicateMessage))

/-- The second call is rejected as a duplicate because of the first one. -/
def Suppresses (file : DedupFile) (first second : MarketCall Time) : Prop :=
  ¬DuplicateRejected clock cooldownSeconds localInstant file second ∧
    DuplicateRejected clock cooldownSeconds localInstant
      (alertStep clock cooldownSeconds localInstant file first).2 second

/-- The keys of two payloads differ, and formatting one never makes the other a
duplicate. -/
structure ToldApart (payload other : ApprovedPublicationPayload) : Prop where
  keys : payload.dedupKey ≠ other.dedupKey
  independent : ∀ (file : DedupFile) (first second : MarketCall Time),
    first.payload.toApprovedPublicationPayload = payload →
      second.payload.toApprovedPublicationPayload = other →
        ¬Suppresses clock cooldownSeconds localInstant file first second ∧
          ¬Suppresses clock cooldownSeconds localInstant file second first

end Calls

/-! What a call does to the key of another one. -/

section Effects

variable {Time : Type} [LinearOrder Time] {clock : FloatClock Time} {cooldownSeconds : Int}
  {localInstant : Calendar.DateTime → Except Failure Int} {file : DedupFile}
  {call : MarketCall Time}

/-- A call leaves the file, or notes its own key in it. -/
private theorem file_after (call : MarketCall Time) :
    (alertStep clock cooldownSeconds localInstant file call).2 = file ∨
      ∃ values next, loadExpiries clock file = .ok values ∧
        loadExpiries clock (alertStep clock cooldownSeconds localInstant file call).2 = .ok next ∧
        ∀ wanted, wanted ≠ call.payload.dedupKey →
          OrderedDict.get? next wanted = OrderedDict.get? values wanted := by
  cases loaded : loadExpiries clock file with
  | error problem =>
      refine .inl ?_
      cases checked : validatePayload localInstant call.payload.toApprovedPublicationPayload
          call.utcNow <;>
        simp [alertStep, formatMarket, seen, run_ofExcept, loaded, checked, Except.mapError]
  | ok values =>
      rcases formatMarket_cases loaded cooldownSeconds localInstant call with
        ⟨problem, raised, -⟩ | ⟨written, next, returned, -, again, same⟩
      · exact .inl (by simp [alertStep, raised])
      · refine .inr ⟨values, next, rfl, by simpa [alertStep, returned] using again, ?_⟩
        intro wanted different
        rw [same, OrderedDict.get?_set_of_ne _ _ different]

/-- Whether a call is rejected as a duplicate rests on the expiry of its key. -/
private theorem duplicateRejected_iff
    {values : List (String × Time)} (loaded : loadExpiries clock file = .ok values) :
    DuplicateRejected clock cooldownSeconds localInstant file call ↔
      validatePayload localInstant call.payload.toApprovedPublicationPayload call.utcNow =
          .error (.policy duplicateMessage) ∨
        validatePayload localInstant call.payload.toApprovedPublicationPayload call.utcNow =
            .ok () ∧ ¬Free values call.payload.dedupKey call.asked := by
  unfold DuplicateRejected
  cases checked : validatePayload localInstant call.payload.toApprovedPublicationPayload
      call.utcNow with
  | error problem =>
      simp [alertStep, formatMarket, run_ofExcept, checked, Except.mapError]
  | ok =>
      obtain ⟨found, looked, free⟩ := run_seen loaded call.payload.dedupKey call.asked
      cases found with
      | true =>
          refine iff_of_true ?_ (.inr ⟨rfl, fun isFree => by simpa using free.mpr isFree⟩)
          simp [alertStep, formatMarket, run_ofExcept, checked, Except.mapError, looked,
            duplicateMessage]
      | false =>
          refine iff_of_false ?_ (by simp [free.mp rfl])
          rcases formatMarket_cases loaded cooldownSeconds localInstant call with
            ⟨problem, raised, notBoth⟩ | ⟨written, next, returned, -⟩
          · have long : (marketMessage call.payload).length > telegramLimit := by
              by_contra short
              exact notBoth ⟨⟨checked, Nat.not_lt.mp short⟩, free.mp rfl⟩
            simp [alertStep, formatMarket, run_ofExcept, checked, Except.mapError, looked, long,
              duplicateMessage]
          · simp [alertStep, returned]

theorem not_suppresses
    {first second : MarketCall Time}
    (different : second.payload.dedupKey ≠ first.payload.dedupKey) :
    ¬Suppresses clock cooldownSeconds localInstant file first second := by
  rintro ⟨accepted, rejected⟩
  rcases file_after first with same | ⟨values, next, loaded, again, kept⟩
  · rw [same] at rejected
    exact accepted rejected
  · rw [duplicateRejected_iff again, Free, kept _ different] at rejected
    exact accepted ((duplicateRejected_iff loaded).mpr rejected)

end Effects

/-! Keys and fields. -/

section Keys

variable {localInstant : Calendar.DateTime → Except Failure Int}
  {payload other : ApprovedPublicationPayload}

/-- The key that the policy asks for, as a list of characters. -/
private theorem expectedKey_toList (payload : ApprovedPublicationPayload) :
    (expectedKey payload.eventType payload.symbol payload.timeframe payload.setupId
      payload.triggerVersion).toList = [':'].intercalate (payload.keyFields.map String.toList) := by
  simp [expectedKey, ApprovedPublicationPayload.keyFields, ApprovedPublicationPayload.freeFields,
    List.intercalate_cons_cons]

private theorem accepted_key (accepted : Accepted localInstant payload) :
    payload.dedupKey = expectedKey payload.eventType payload.symbol payload.timeframe
        payload.setupId payload.triggerVersion ∧
      payload.eventType ∈ allowedMarketPublicationEvents := by
  obtain ⟨now, checked⟩ := accepted
  unfold validatePayload at checked
  split at checked
  next => cases checked
  next =>
    split at checked
    next => cases checked
    next allowed =>
      obtain ⟨effectiveNow, -, checked⟩ := except_bind_eq_ok.mp checked
      obtain ⟨expires, -, checked⟩ := except_bind_eq_ok.mp checked
      split at checked
      next => cases checked
      next =>
        split at checked
        next => cases checked
        next =>
          split at checked
          next => cases checked
          next =>
            split at checked
            next => cases checked
            next same => exact ⟨not_not.mp same, not_not.mp allowed⟩

private theorem validatePayload_congr
    (payload : ApprovedPublicationPayload) {symbol timeframe setupId triggerVersion : String}
    (same : expectedKey payload.eventType symbol timeframe setupId triggerVersion =
      expectedKey payload.eventType payload.symbol payload.timeframe payload.setupId
        payload.triggerVersion) (now : Except Failure Int) :
    validatePayload localInstant { payload with
        symbol := symbol
        timeframe := timeframe
        setupId := setupId
        triggerVersion := triggerVersion } now = validatePayload localInstant payload now := by
  unfold validatePayload
  rw [same]

private theorem eventType_free
    (allowed : payload.eventType ∈ allowedMarketPublicationEvents) :
    ':' ∉ payload.eventType.toList := by
  have each : ∀ text ∈ allowedMarketPublicationEvents, ':' ∉ text.toList := by decide +kernel
  exact each _ allowed

/-- A payload whose fields contain no colon is determined by its key. -/
private theorem keyFields_of_key
    (accepted : Accepted localInstant payload) (otherAccepted : Accepted localInstant other)
    (free : ∀ field ∈ payload.freeFields, ':' ∉ field.toList)
    (same : payload.dedupKey = other.dedupKey) : other.keyFields = payload.keyFields := by
  obtain ⟨key, allowed⟩ := accepted_key accepted
  obtain ⟨otherKey, -⟩ := accepted_key otherAccepted
  rw [key, otherKey] at same
  have texts := congrArg String.toList same
  rw [expectedKey_toList, expectedKey_toList] at texts
  have allFree : ∀ field ∈ payload.keyFields.map String.toList, ':' ∉ field := by
    intro field member
    obtain ⟨text, inside, rfl⟩ := List.mem_map.mp member
    rcases List.mem_cons.mp inside with rfl | rest
    · exact eventType_free allowed
    · exact free text rest
  exact List.map_injective_iff.mpr (fun _ _ equal => String.toList_injective equal)
    (Separated.eq_of_intercalate_eq allFree rfl texts.symm)

variable {Time : Type} [LinearOrder Time]

/-- A payload that the policy accepts is told apart from all others that differ
in a field of the key exactly if its fields contain no colon. -/
theorem alerts_told_apart_iff
    (clock : FloatClock Time) (cooldownSeconds : Int)
    (localInstant : Calendar.DateTime → Except Failure Int)
    {payload : ApprovedPublicationPayload} (accepted : Accepted localInstant payload) :
    (∀ other, Accepted localInstant other → other.keyFields ≠ payload.keyFields →
      ToldApart clock cooldownSeconds localInstant payload other) ↔
      ∀ field ∈ payload.freeFields, ':' ∉ field.toList := by
  constructor
  · intro apart
    have many : 2 ≤ (payload.freeFields.map String.toList).length := by
      simp [ApprovedPublicationPayload.freeFields]
    suffices determined : ∀ others : List (List Char),
        others.length = (payload.freeFields.map String.toList).length →
        [':'].intercalate others = [':'].intercalate (payload.freeFields.map String.toList) →
          others = payload.freeFields.map String.toList from
      fun field member => (Separated.determined_iff many).mp determined _
        (List.mem_map_of_mem member)
    intro others length same
    obtain ⟨symbol, timeframe, setupId, triggerVersion, rfl⟩ :
        ∃ symbol timeframe setupId triggerVersion,
          others = [symbol, timeframe, setupId, triggerVersion] := by
      simpa [ApprovedPublicationPayload.freeFields, List.length_eq_four] using length
    -- the payload with its fields cut at other colons
    by_contra different
    have key : expectedKey payload.eventType (String.ofList symbol) (String.ofList timeframe)
        (String.ofList setupId) (String.ofList triggerVersion) =
        expectedKey payload.eventType payload.symbol payload.timeframe payload.setupId
          payload.triggerVersion := by
      apply String.toList_injective
      simpa [expectedKey, ApprovedPublicationPayload.freeFields, List.intercalate_cons_cons]
        using same
    obtain ⟨now, checked⟩ := accepted
    refine (apart _ ⟨now, (validatePayload_congr payload key now).trans checked⟩ ?_).keys rfl
    intro sameFields
    refine different ?_
    have texts := congrArg (List.map String.toList) (List.cons.inj sameFields).2
    simpa [ApprovedPublicationPayload.freeFields] using texts
  · intro free other otherAccepted different
    have keys : payload.dedupKey ≠ other.dedupKey :=
      fun same => different (keyFields_of_key accepted otherAccepted free same)
    refine ⟨keys, ?_⟩
    rintro file first second rfl rfl
    exact ⟨not_suppresses (Ne.symm keys), not_suppresses keys⟩

end Keys

/-- The same setup on another timeframe. -/
def slowGoldAlert : MarketPublication :=
  { goldAlert with
    timeframe := "H1"
    dedupKey := "SUPER_POTENTIAL_CONFIRMED:XAUUSD:H1:setup-1:trigger-v1" }

theorem goldAlert_told_apart :
    ToldApart wholeSeconds 3600 (fun _ => .ok 0) goldAlert.toApprovedPublicationPayload
      slowGoldAlert.toApprovedPublicationPayload :=
  (alerts_told_apart_iff wholeSeconds 3600 (fun _ => .ok 0) ⟨.ok 0, rfl⟩).mpr (by decide +kernel)
    slowGoldAlert.toApprovedPublicationPayload ⟨.ok 0, rfl⟩ (by decide +kernel)

/-- The alert with a given timeframe and setup, under one key. -/
def cutAlert (timeframe setupId : String) : MarketPublication :=
  { goldAlert with
    timeframe := timeframe
    setupId := setupId
    dedupKey := "SUPER_POTENTIAL_CONFIRMED:XAUUSD:M15:a:b:trigger-v1" }

def cutCall (timeframe setupId : String) : MarketCall Int :=
  { payload := cutAlert timeframe setupId, utcNow := .ok 0, asked := 0, marked := 0 }

theorem cutAlert_suppressed :
    ¬∀ payload other, Accepted (fun _ => .ok 0) payload → Accepted (fun _ => .ok 0) other →
      other.keyFields ≠ payload.keyFields →
        ToldApart wholeSeconds 3600 (fun _ => .ok 0) payload other := by
  intro apart
  exact (apart (cutAlert "M15" "a:b").toApprovedPublicationPayload
    (cutAlert "M15:a" "b").toApprovedPublicationPayload ⟨.ok 0, rfl⟩ ⟨.ok 0, rfl⟩
    (by decide +kernel)).keys rfl

end SuperAdvisor.Telegram
