import SuperAdvisor.Foundation.Machine
import SuperAdvisor.Telegram.MarketAlerts

/-!
# The cooldown of market alerts

Every publisher over the file reads it anew, so the calls of all of them are one
run over the file, which starts absent.  The file keeps the expiry of the last
accepted call of each key, so accepted calls of one key are a cooldown apart, a
call that is a cooldown after all of them passes, and a rejected one changes
nothing.
-/

namespace SuperAdvisor.Telegram

open Python Machine Cooldown

variable {Time : Type} [LinearOrder Time] (clock : FloatClock Time) (cooldownSeconds : Int)
  (localInstant : Calendar.DateTime → Except Failure Int)

abbrev AlertEvent (Time : Type) :=
  Event DedupFile (MarketCall Time) (Except AlertProblem TelegramDeliveryRequest)

def alertStep (file : DedupFile) (call : MarketCall Time) :
    Except AlertProblem TelegramDeliveryRequest × DedupFile :=
  match (formatMarket clock cooldownSeconds localInstant call).run file with
  | .ok request after => (.ok request, after)
  | .error problem after => (.error problem, after)

def accepted (event : AlertEvent Time) : Bool :=
  event.reply.isOk

/-- The wall clock never goes back between two readings. -/
def ClockAdvances (calls : List (MarketCall Time)) : Prop :=
  (calls.flatMap (fun call => [call.asked, call.marked])).Pairwise (fun early late => early ≤ late)

/-- The second call finds the cooldown of the first one over. -/
def CooledDown (first second : MarketCall Time) : Prop :=
  first.payload.dedupKey = second.payload.dedupKey →
    clock.plus first.marked cooldownSeconds ≤ second.asked

structure CooldownKept (events : List (AlertEvent Time)) : Prop where
  spaced : (events.filter accepted).Pairwise (fun first second =>
    CooledDown clock cooldownSeconds first.call second.call)
  passes : ∀ early event late, events = early ++ event :: late →
    Publishable localInstant event.call →
    (∀ other ∈ early, accepted other = true →
      CooledDown clock cooldownSeconds other.call event.call) → accepted event = true
  unchanged : ∀ event ∈ events, accepted event = false → event.after = event.before

/-- The accepted calls of a run, as the gate sees them. -/
def admissions (events : List (AlertEvent Time)) : List (Admission String Time) :=
  (events.filter accepted).map (fun event =>
    { key := event.call.payload.dedupKey
      asked := event.call.asked
      noted := event.call.marked })

variable {clock cooldownSeconds localInstant}

theorem ClockAdvances.asked_le
    {early : List (MarketCall Time)} {call : MarketCall Time}
    (advances : ClockAdvances (early ++ [call])) {other : MarketCall Time}
    (member : other ∈ early) : other.asked ≤ call.asked := by
  rw [ClockAdvances, List.flatMap_append] at advances
  exact (List.pairwise_append.mp advances).2.2 other.asked
    (List.mem_flatMap.mpr ⟨other, member, by simp⟩) call.asked (by simp)

theorem spaced_admissions_iff {events : List (AlertEvent Time)} :
    Spaced (fun time => clock.plus time cooldownSeconds) (admissions events) ↔
      (events.filter accepted).Pairwise (fun first second =>
        CooledDown clock cooldownSeconds first.call second.call) := by
  simp [Spaced, admissions, List.pairwise_map, CooledDown]

theorem apart_admissions_iff {events : List (AlertEvent Time)} {call : MarketCall Time} :
    Apart (fun time => clock.plus time cooldownSeconds) (admissions events)
        call.payload.dedupKey call.asked ↔
      ∀ other ∈ events, accepted other = true →
        CooledDown clock cooldownSeconds other.call call := by
  constructor
  · intro apart other member admitted same
    exact apart _ (List.mem_map.mpr ⟨other, by simp [member, admitted], rfl⟩) same
  · intro cooled earlier member same
    obtain ⟨other, inside, rfl⟩ := List.mem_map.mp member
    obtain ⟨here, admitted⟩ := List.mem_filter.mp inside
    exact cooled other here admitted same

/-- What one more event has to meet. -/
theorem CooldownKept.concat
    {past : List (AlertEvent Time)} {event : AlertEvent Time}
    (kept : CooldownKept clock cooldownSeconds localInstant past)
    (cooled : accepted event = true → ∀ other ∈ past, accepted other = true →
      CooledDown clock cooldownSeconds other.call event.call)
    (passes : Publishable localInstant event.call →
      (∀ other ∈ past, accepted other = true →
        CooledDown clock cooldownSeconds other.call event.call) → accepted event = true)
    (unchanged : accepted event = false → event.after = event.before) :
    CooldownKept clock cooldownSeconds localInstant (past ++ [event]) := by
  refine ⟨?_, ?_, ?_⟩
  · rw [List.filter_append]
    refine List.pairwise_append.mpr ⟨kept.spaced, List.Pairwise.filter _ (by simp), ?_⟩
    intro first firstIn second secondIn
    obtain ⟨member, firstAccepted⟩ := List.mem_filter.mp firstIn
    obtain ⟨here, secondAccepted⟩ := List.mem_filter.mp secondIn
    obtain rfl := List.mem_singleton.mp here
    exact cooled secondAccepted first member firstAccepted
  · intro early other late shape publishable apart
    rcases List.eq_nil_or_concat late with rfl | ⟨between, last, rfl⟩
    · obtain ⟨rfl, same⟩ := List.append_inj' shape rfl
      obtain rfl := List.singleton_inj.mp same
      exact passes publishable apart
    · refine kept.passes early other between ?_ publishable apart
      have split : past ++ [event] = (early ++ other :: between) ++ [last] := by
        simpa using shape
      exact (List.append_inj' split rfl).1
  · intro other member rejected
    rcases List.mem_append.mp member with before | here
    · exact kept.unchanged other before rejected
    · obtain rfl := List.mem_singleton.mp here
      exact unchanged rejected

/-- The cooldown was kept, and the file keeps the expiries. -/
def Cooling (clock : FloatClock Time) (cooldownSeconds : Int)
    (localInstant : Calendar.DateTime → Except Failure Int) (past : List (AlertEvent Time))
    (file : DedupFile) : Prop :=
  CooldownKept clock cooldownSeconds localInstant past ∧
    ∃ values, loadExpiries clock file = .ok values ∧
      Tracks (fun time => clock.plus time cooldownSeconds) values (admissions past)

theorem Cooling.step
    {past : List (AlertEvent Time)} {file : DedupFile} {call : MarketCall Time}
    (cooling : Cooling clock cooldownSeconds localInstant past file)
    (passed : ∀ other ∈ past, other.call.asked ≤ call.asked) :
    Cooling clock cooldownSeconds localInstant
      (past ++ [eventOf (alertStep clock cooldownSeconds localInstant) file call])
      (alertStep clock cooldownSeconds localInstant file call).2 := by
  obtain ⟨kept, values, loaded, tracks⟩ := cooling
  rcases formatMarket_cases loaded cooldownSeconds localInstant call with
    ⟨problem, ran, refused⟩ | ⟨written, next, ran, free, again, noted⟩
  · have answer : alertStep clock cooldownSeconds localInstant file call =
        (.error problem, file) := by simp [alertStep, ran]
    have rejected : accepted (eventOf (alertStep clock cooldownSeconds localInstant) file call) =
        false := by simp [accepted, eventOf, answer, Except.isOk, Except.toBool]
    refine ⟨kept.concat (by simp [rejected]) ?_ (by simp [eventOf, answer]), values, ?_, ?_⟩
    · intro publishable cooled
      exact absurd ⟨publishable, tracks.free (apart_admissions_iff.mpr cooled)⟩ refused
    · simpa [answer] using loaded
    · simpa [admissions, rejected] using tracks
  · have answer : alertStep clock cooldownSeconds localInstant file call =
        (.ok (deliveryRequest call.payload), written) := by simp [alertStep, ran]
    have admitted : accepted (eventOf (alertStep clock cooldownSeconds localInstant) file call) =
        true := by simp [accepted, eventOf, answer, Except.isOk, Except.toBool]
    have earlier : ∀ admission ∈ admissions past, admission.asked ≤ call.asked := by
      intro admission member
      obtain ⟨other, inside, rfl⟩ := List.mem_map.mp member
      exact passed other (List.mem_filter.mp inside).1
    have apart := tracks.apart (spaced_admissions_iff.mpr kept.spaced) earlier free
    refine ⟨kept.concat (fun _ => apart_admissions_iff.mp apart) (fun _ _ => admitted)
      (by simp [admitted]), next, by simpa [answer] using again, ?_⟩
    rw [admissions, List.filter_append, List.map_append, List.filter_singleton, admitted]
    exact tracks.concat _ noted

variable (clock cooldownSeconds localInstant)

/-- Over any run of calls while the clock does not go back, accepted calls of one
key are a cooldown apart, a call that meets the policy and the length limit a
cooldown after all of them is accepted, and a rejected call leaves the file as it
was. -/
theorem cooldown_kept {calls : List (MarketCall Time)} (advances : ClockAdvances calls) :
    CooldownKept clock cooldownSeconds localInstant
      (trace (alertStep clock cooldownSeconds localInstant) none calls) := by
  have cooling := trace_invariant (alertStep clock cooldownSeconds localInstant)
    (fun past file => ClockAdvances (past.map Event.call) →
      Cooling clock cooldownSeconds localInstant past file)
    ?_ (?_ : _ → Cooling clock cooldownSeconds localInstant [] none) calls
  · rw [List.nil_append, calls_trace] at cooling
    exact (cooling advances).1
  · intro past file call cooling advances
    rw [List.map_append] at advances
    refine (cooling ?_).step ?_
    · rw [ClockAdvances, List.flatMap_append] at advances
      exact (List.pairwise_append.mp advances).1
    · intro other member
      exact advances.asked_le (List.mem_map_of_mem member)
  · exact fun _ => ⟨⟨.nil, by simp, by simp⟩, [], rfl, tracks_nil⟩

/-- A clock that shows whole seconds. -/
def wholeSeconds : FloatClock Int where
  plus now seconds := now + seconds
  number := JsonText.wholeFloat
  float
    | .float literal => .ok (JsonText.integerOf literal.text.dropLast.dropLast)
    | .int value => .ok value
    | value => .error (.typeError ("float() argument must be a string or a real number, not " ++
        quotedText value.typeName))
  finite := JsonText.wholeFloat_isFinite
  float_number now := by simp [JsonText.wholeFloat, JsonText.integerOf_renderInt]

def goldAlert : MarketPublication :=
  { eventType := "SUPER_POTENTIAL_CONFIRMED"
    symbol := "XAUUSD"
    timeframe := "M15"
    evidenceIds := ["ev-1", "ev-2"]
    dedupKey := "SUPER_POTENTIAL_CONFIRMED:XAUUSD:M15:setup-1:trigger-v1"
    expiresAtUtc := "2026-06-15T12:00:00Z"
    setupId := "setup-1"
    triggerVersion := "trigger-v1"
    provenance := some [(.str "source", .str "python-signal-engine")]
    severity := "HIGH"
    status := "CONFIRMED"
    headline := "SUPER POTENTIAL"
    triggerReasons := ["EMA alignment", "RSI confirmation"]
    keyLevels := ["support 2300", "resistance 2320"]
    invalidation := "close below 2295"
    dataQuality := "VALID"
    eventTimeUtc := "2026-06-15T00:00:00Z"
    correlationId := "corr-1234567890"
    direction := "BUY" }

/-- The same alert at once, half an hour later and an hour later. -/
def goldCalls : List (MarketCall Int) :=
  [0, 1800, 3601].map (fun seconds =>
    { payload := goldAlert, utcNow := .ok 0, asked := seconds, marked := seconds + 1 })

theorem goldCalls_cooled :
    CooldownKept wholeSeconds 3600 (fun _ => .ok 0)
      (trace (alertStep wholeSeconds 3600 (fun _ => .ok 0)) none goldCalls) :=
  cooldown_kept wholeSeconds 3600 (fun _ => .ok 0) (by
    unfold ClockAdvances
    decide)

end SuperAdvisor.Telegram
