import Mathlib.Data.Nat.Bitwise
import SuperAdvisor.Foundation.Machine
import SuperAdvisor.Foundation.PlainDump
import SuperAdvisor.Foundation.Reloading
import SuperAdvisor.Foundation.Sha256

/-!
# Signed heartbeats

The signature is made of a dump with sorted keys, and the body that is posted
is another dump, in the order of the record and with the signature in it.  A
monitor that knows the secret can still check the body: loading it, taking the
signature out and dumping the rest again gives the signed text.
-/

namespace Sha256

/-- The digest as bytes. -/
def digestBytes (bytes : List Nat) : List Nat :=
  (digest bytes).toList.flatMap (toDigits 256 4)

/-- A key of the length of a block. -/
def blockKey (key : List Nat) : List Nat :=
  let short := if key.length > 64 then digestBytes key else key
  short ++ List.replicate (64 - short.length) 0

/-- `hmac.new(key, message, sha256).hexdigest()` -/
def hmacHex (key message : List Nat) : String :=
  let block := blockKey key
  let inner := digestBytes (block.map (· ^^^ 0x36) ++ message)
  let outer := digestBytes (block.map (· ^^^ 0x5c) ++ inner)
  String.ofList ((outer.flatMap (toDigits 16 2)).map hexDigit)

example : hmacHex (utf8Bytes ['k', 'e', 'y']) [] =
    "5d5d139563c95b5967b9bd9a8c9b233a9dedb45072794cd232dc1b74832607d0" := by
  decide +kernel

end Sha256

namespace SuperAdvisor.Runtime

open Python JsonText

def heartbeatSchemaVersion : String := "heartbeat-v1"

structure ComponentHealth where
  gateway : String
  pythonEngine : String
  queue : String
  mt5 : String
  deriving DecidableEq

structure ExternalHeartbeat where
  schemaVersion : String
  systemId : String
  emittedAtUtc : String
  sequence : Int
  componentHealth : ComponentHealth
  signature : String
  deriving DecidableEq

/-- `json.dumps(value, sort_keys=True)` -/
def signedOptions : DumpOptions :=
  { sortKeys := true, allowNan := true, spaced := true }

theorem signedOptions_sortKeys : signedOptions.sortKeys = true := rfl

/-- `json.dumps(value)` -/
def postedOptions : DumpOptions :=
  { sortKeys := false, allowNan := true, spaced := true }

def ComponentHealth.fields (health : ComponentHealth) : List (String × Value) :=
  [("gateway", .str health.gateway), ("python_engine", .str health.pythonEngine),
    ("queue", .str health.queue), ("mt5", .str health.mt5)]

/-- The payload that is signed. -/
def unsignedFields (systemId emittedAtUtc : String) (sequence : Int)
    (health : ComponentHealth) : List (String × Value) :=
  [("schema_version", .str heartbeatSchemaVersion), ("system_id", .str systemId),
    ("emitted_at_utc", .str emittedAtUtc), ("sequence", .int sequence),
    ("component_health", .dict (named health.fields))]

/-- `_sign_payload` -/
def signPayload (payload : List Char) (secret : String) : String :=
  Sha256.hmacHex (Sha256.utf8Bytes secret.toList) (Sha256.utf8Bytes payload)

def ExternalHeartbeat.fields (heartbeat : ExternalHeartbeat) : List (String × Value) :=
  [("schema_version", .str heartbeat.schemaVersion), ("system_id", .str heartbeat.systemId),
    ("emitted_at_utc", .str heartbeat.emittedAtUtc), ("sequence", .int heartbeat.sequence),
    ("component_health", .dict (named heartbeat.componentHealth.fields)),
    ("signature", .str heartbeat.signature)]

def ExternalHeartbeat.toDict (heartbeat : ExternalHeartbeat) : Value :=
  .dict (named heartbeat.fields)

/-- `build_external_heartbeat` at the time `emittedAtUtc`. -/
def buildExternalHeartbeat (systemId emittedAtUtc : String) (sequence : Int)
    (componentHealth : ComponentHealth) (signingSecret : String) :
    Except JsonError ExternalHeartbeat := do
  let unsigned ← dumps signedOptions
    (.dict (named (unsignedFields systemId emittedAtUtc sequence componentHealth)))
  .ok
    { schemaVersion := heartbeatSchemaVersion
      systemId := systemId
      emittedAtUtc := emittedAtUtc
      sequence := sequence
      componentHealth := componentHealth
      signature := signPayload unsigned signingSecret }

structure HeartbeatEmitter where
  systemId : String
  signingSecret : String
  endpoint : String
  sequence : Int

/-- What the endpoint makes of the request: a response with its status, or an
exception with its text. -/
inductive Response where
  | answered (status : Int)
  | failed (text : String)

/-- One call of `emit`: the health it reports, the time, and the endpoint. -/
structure Emission where
  componentHealth : ComponentHealth
  now : String
  response : Response

/-- The dictionary that `emit` returns, and the body it has posted. -/
structure Emitted where
  result : Value
  heartbeat : ExternalHeartbeat
  body : Option (List Char)

def HeartbeatEmitter.start (systemId signingSecret : String) (endpoint : Option String) :
    HeartbeatEmitter :=
  { systemId, signingSecret, endpoint := endpoint.getD "", sequence := 0 }

def HeartbeatEmitter.emit (emitter : HeartbeatEmitter) (emission : Emission) :
    Except JsonError Emitted × HeartbeatEmitter :=
  let emitter := { emitter with sequence := emitter.sequence + 1 }
  let reply : Except JsonError Emitted := do
    let heartbeat ← buildExternalHeartbeat emitter.systemId emission.now emitter.sequence
      emission.componentHealth emitter.signingSecret
    if emitter.endpoint = "" then
      .ok
        { result := .dict (named
            [("status", .str "HEARTBEAT_EXTERNAL_NOT_CONFIGURED"),
              ("heartbeat", heartbeat.toDict),
              ("warning", .str "No external endpoint configured; local heartbeat only.")])
          heartbeat := heartbeat
          body := none }
    else
      let payload ← dumps postedOptions heartbeat.toDict
      match emission.response with
      | .answered status =>
          .ok
            { result := .dict (named
                [("status", .str "EMITTED"), ("http_status", .int status),
                  ("heartbeat", heartbeat.toDict)])
              heartbeat := heartbeat
              body := some payload }
      | .failed text =>
          .ok
            { result := .dict (named
                [("status", .str "EMIT_FAILED"), ("error", .str text),
                  ("heartbeat", heartbeat.toDict)])
              heartbeat := heartbeat
              body := some payload }
  (reply, emitter)

/-- What a monitor that knows the secret can check about a body: the signature
in it is that of the other fields. -/
def monitorAccepts (secret : String) (body : List Char) : Bool :=
  match loads body with
  | some (.dict entries) =>
      match lookupEntry entries (.str "signature"),
        dumps signedOptions (.dict (entries.filter (fun entry => entry.1 ≠ .str "signature"))) with
      | some (.str signature), .ok payload => decide (signature = signPayload payload secret)
      | _, _ => false
  | _ => false

private theorem health_fields_dump (health : ComponentHealth) :
    ∀ field ∈ health.fields, ∃ document, field.2.toDocument signedOptions = .ok document := by
  simp [ComponentHealth.fields]

private theorem health_eq_of_reload {health other : ComponentHealth}
    (same : (Value.dict (named health.fields)).reload signedOptions =
      (Value.dict (named other.fields)).reload signedOptions) : health = other := by
  have fields := get?_of_same_reload signedOptions_sortKeys
    (by simp [OrderedDict.keys, ComponentHealth.fields])
    (by simp [OrderedDict.keys, ComponentHealth.fields])
    (health_fields_dump health) (health_fields_dump other) same
  have gateways := fields "gateway"
  have engines := fields "python_engine"
  have queues := fields "queue"
  have terminals := fields "mt5"
  simp [ComponentHealth.fields, OrderedDict.get?] at gateways engines queues terminals
  cases health
  cases other
  simp_all

private theorem unsigned_fields_dump (systemId emittedAtUtc : String) (sequence : Int)
    (health : ComponentHealth) :
    ∀ field ∈ unsignedFields systemId emittedAtUtc sequence health,
      ∃ document, field.2.toDocument signedOptions = .ok document := by
  have nested := toDocument_named_ok signedOptions_sortKeys (health_fields_dump health)
  simp [unsignedFields, nested]

/-- The payload can always be signed. -/
theorem exists_signed (systemId emittedAtUtc : String) (sequence : Int)
    (health : ComponentHealth) :
    ∃ payload, dumps signedOptions
      (.dict (named (unsignedFields systemId emittedAtUtc sequence health))) = .ok payload := by
  obtain ⟨document, converted⟩ := toDocument_named_ok signedOptions_sortKeys
    (unsigned_fields_dump systemId emittedAtUtc sequence health)
  exact ⟨render true document, by rw [dumps, converted]; rfl⟩

/-- Nothing the signature is made for can be changed under it. -/
theorem signed_payload_determines_heartbeat
    (systemId emittedAtUtc : String) (sequence : Int) (health : ComponentHealth)
    (otherId otherTime : String) (otherSequence : Int) (otherHealth : ComponentHealth) :
    dumps signedOptions (.dict (named (unsignedFields systemId emittedAtUtc sequence health))) =
        dumps signedOptions
          (.dict (named (unsignedFields otherId otherTime otherSequence otherHealth))) ↔
      systemId = otherId ∧ emittedAtUtc = otherTime ∧ sequence = otherSequence ∧
        health = otherHealth := by
  constructor
  · intro sameText
    obtain ⟨payload, dumped⟩ := exists_signed systemId emittedAtUtc sequence health
    have reloaded := (loads_dumps dumped).symm.trans (loads_dumps (sameText.symm.trans dumped))
    have fields := get?_of_same_reload signedOptions_sortKeys
      (by simp [OrderedDict.keys, unsignedFields])
      (by simp [OrderedDict.keys, unsignedFields])
      (unsigned_fields_dump systemId emittedAtUtc sequence health)
      (unsigned_fields_dump otherId otherTime otherSequence otherHealth)
      (Option.some.inj reloaded)
    have ids := fields "system_id"
    have times := fields "emitted_at_utc"
    have sequences := fields "sequence"
    have healths := fields "component_health"
    simp [unsignedFields, OrderedDict.get?] at ids times sequences healths
    exact ⟨ids, times, Value.int.inj sequences, health_eq_of_reload healths⟩
  · rintro ⟨rfl, rfl, rfl, rfl⟩
    rfl

private theorem isJson_toDict (heartbeat : ExternalHeartbeat) : heartbeat.toDict.IsJson := by
  have health : (Value.dict (named heartbeat.componentHealth.fields)).IsJson :=
    isJson_named (by simp [OrderedDict.keys, ComponentHealth.fields])
      (by simp [ComponentHealth.fields])
  refine isJson_named (by simp [OrderedDict.keys, ExternalHeartbeat.fields]) ?_
  simpa [ExternalHeartbeat.fields, Value.IsJson] using health

private theorem posted_plain : postedOptions.Plain := ⟨rfl, rfl⟩

/-- The body of a heartbeat loads back as its dictionary. -/
private theorem exists_posted (heartbeat : ExternalHeartbeat) :
    ∃ payload, dumps postedOptions heartbeat.toDict = .ok payload ∧
      loads payload = some heartbeat.toDict := by
  have json := isJson_toDict heartbeat
  obtain ⟨document, converted⟩ := toDocument_of_isJson posted_plain json
  have dumped : dumps postedOptions heartbeat.toDict = .ok (render true document) := by
    rw [dumps, converted]
    rfl
  refine ⟨_, dumped, ?_⟩
  rw [loads_dumps dumped, reload_of_isJson posted_plain json]

/-- A heartbeat is built, and its signature is that of its other fields. -/
private theorem exists_built (systemId now secret : String) (sequence : Int)
    (health : ComponentHealth) :
    ∃ heartbeat payload, buildExternalHeartbeat systemId now sequence health secret =
        .ok heartbeat ∧ heartbeat.sequence = sequence ∧
      heartbeat.signature = signPayload payload secret ∧
      dumps signedOptions (.dict (named
        (heartbeat.fields.filter (fun field => field.1 ≠ "signature")))) = .ok payload := by
  obtain ⟨payload, dumped⟩ := exists_signed systemId now sequence health
  refine ⟨_, payload, by simp only [buildExternalHeartbeat, dumped]; rfl, rfl, rfl, ?_⟩
  rw [← dumped]
  simp [ExternalHeartbeat.fields, unsignedFields]

private theorem filter_named (fields : List (String × Value)) (name : String) :
    (named fields).filter (fun entry => entry.1 ≠ .str name) =
      named (fields.filter (fun field => field.1 ≠ name)) := by
  simp only [named, List.filter_map]
  congr 1
  apply List.filter_congr
  simp

private theorem monitorAccepts_posted {heartbeat : ExternalHeartbeat} {secret : String}
    {payload body : List Char} (signature : heartbeat.signature = signPayload payload secret)
    (dumped : dumps signedOptions (.dict (named
      (heartbeat.fields.filter (fun field => field.1 ≠ "signature")))) = .ok payload)
    (posted : loads body = some heartbeat.toDict) : monitorAccepts secret body = true := by
  have found : lookupEntry (named heartbeat.fields) (.str "signature") =
      some (.str heartbeat.signature) := by
    rw [lookupEntry_named]
    simp [ExternalHeartbeat.fields, OrderedDict.get?]
  simp only [monitorAccepts, posted, ExternalHeartbeat.toDict, filter_named, found, dumped]
  simpa using signature

/-- What a call of `emit` shows to the outside: the number of its heartbeat, and
whether a monitor accepts what it posted. -/
def shown (secret : String) (reply : Except JsonError Emitted) :
    Except JsonError (Int × Option Bool) :=
  reply.map (fun emitted =>
    (emitted.heartbeat.sequence, emitted.body.map (monitorAccepts secret)))

private theorem shown_emit (emitter : HeartbeatEmitter) (emission : Emission) :
    shown emitter.signingSecret (emitter.emit emission).1 =
      .ok (emitter.sequence + 1, if emitter.endpoint = "" then none else some true) := by
  obtain ⟨heartbeat, payload, built, sequence, signature, dumped⟩ :=
    exists_built emitter.systemId emission.now emitter.signingSecret (emitter.sequence + 1)
      emission.componentHealth
  obtain ⟨body, bodyDumped, posted⟩ := exists_posted heartbeat
  have accepted := monitorAccepts_posted signature dumped posted
  by_cases unset : emitter.endpoint = ""
  · simp [HeartbeatEmitter.emit, built, unset, shown, sequence, bind, Except.bind, Except.map]
  · simp only [HeartbeatEmitter.emit, built, unset, bodyDumped, bind, Except.bind, if_false]
    cases emission.response with
    | answered status => simp [shown, Except.map, sequence, accepted]
    | failed text => simp [shown, Except.map, sequence, accepted]

private theorem shown_trace (emissions : List Emission) (emitter : HeartbeatEmitter) :
    (Machine.trace HeartbeatEmitter.emit emitter emissions).map
        (fun event => shown emitter.signingSecret event.reply) =
      (List.range emissions.length).map (fun position =>
        .ok (emitter.sequence + (position : Int) + 1,
          if emitter.endpoint = "" then none else some true)) := by
  induction emissions generalizing emitter with
  | nil => rfl
  | cons emission emissions induction =>
      have first := shown_emit emitter emission
      have shifted : ∀ position : Nat,
          emitter.sequence + ((position + 1 : Nat) : Int) + 1 =
            emitter.sequence + 1 + (position : Int) + 1 := by
        intro position
        omega
      simp only [Machine.trace, Machine.eventOf, List.map_cons, first, List.length_cons,
        List.range_succ_eq_map, List.map_map, Function.comp_def, Nat.succ_eq_add_one, shifted]
      exact congrArg₂ List.cons (by simp) (induction (emitter.emit emission).2)

end SuperAdvisor.Runtime
