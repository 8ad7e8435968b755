import Mathlib.Data.List.Enum
import SuperAdvisor.Foundation.Machine
import SuperAdvisor.Foundation.NamedFields

/-!
# The reliability watchdog

A probe counts its failures since it last succeeded, and the watchdog reports
from that count.  The ledger below has no counts: it keeps every reading of a
probe, and its reports are read off the readings.  Callbacks are only told of
incidents; what they do with them, and whether they raise, is not seen.
-/

namespace SuperAdvisor.Runtime

open Python

def telegramSystemEvents : List String :=
  ["SYSTEM_STARTED", "SYSTEM_RECOVERED", "SYSTEM_SHUTTING_DOWN", "SYSTEM_OFFLINE_DETECTED",
    "GATEWAY_FAILED", "PYTHON_ENGINE_FAILED", "QUEUE_STALLED", "DATA_STALE", "MT5_DISCONNECTED",
    "FRED_UNAVAILABLE", "DISK_LOW", "DATABASE_LOCKED", "EXPERIMENT_FAILED", "SECURITY_INCIDENT"]

/-- What a probe function does: it answers, or it raises with this text. -/
inductive Outcome where
  | answered (healthy : Bool)
  | raised (text : String)
  deriving DecidableEq

/-- One call of a probe function, and the time of it. -/
structure Reading where
  outcome : Outcome
  now : String
  deriving DecidableEq

structure ComponentStatus where
  name : String
  status : String
  message : String
  checkedAtUtc : String
  deriving DecidableEq

structure ComponentProbe where
  name : String
  failureEventType : String
  consecutiveFailures : Nat
  deriving DecidableEq

structure WatchdogReport where
  checkedAtUtc : String
  components : List ComponentStatus
  incidentEvents : List Value

def WatchdogReport.allHealthy (report : WatchdogReport) : Bool :=
  report.components.all (fun component => component.status == "OK")

def Outcome.healthy : Outcome → Bool
  | .answered healthy => healthy
  | .raised _ => false

def Outcome.message : Outcome → String
  | .answered true => "OK"
  | .answered false => "FAILED"
  | .raised text => "probe raised: " ++ text

def ComponentProbe.check (probe : ComponentProbe) (reading : Reading) :
    ComponentStatus × ComponentProbe :=
  let failures := if reading.outcome.healthy then 0 else probe.consecutiveFailures + 1
  let status :=
    if reading.outcome.healthy then "OK" else if failures < 3 then "DEGRADED" else "FAILED"
  ({ name := probe.name
     status := status
     message := reading.outcome.message
     checkedAtUtc := reading.now },
    { probe with consecutiveFailures := failures })

/-- `_build_incident` -/
def buildIncident (failureEventType : String) (consecutiveFailures : Nat)
    (status : ComponentStatus) : Value :=
  .dict (named
    [("event_type", .str
        (if failureEventType ∈ telegramSystemEvents then failureEventType
          else "SYSTEM_INCIDENT")),
      ("severity", .str (if status.status = "FAILED" then "CRITICAL" else "WARNING")),
      ("component", .str status.name),
      ("timestamp_utc", .str status.checkedAtUtc),
      ("consecutive_failures", .int consecutiveFailures),
      ("message", .str status.message),
      ("root_cause", .str ("component_" ++ status.name ++ "_health_probe_failed")),
      ("current_impact", .str ("ส่วนประกอบ " ++ status.name ++ " ทำงานผิดปกติ")),
      ("recovery_action", .str "watchdog จะพยายาม restart อัตโนมัติ")])

/-- A watchdog, and the probe objects of the process. -/
structure Watchdog (π κ : Type) where
  probes : π → ComponentProbe
  registered : List π
  callbacks : List κ

inductive WatchdogCall (π κ : Type) where
  | register (probe : π)
  | onIncident (callback : κ)
  /-- `probe.check()`, by other code. -/
  | check (probe : π) (reading : Reading)
  /-- The probe registered at each position is read once. -/
  | checkAll (now : String) (readings : Nat → Reading)

/-- What a call returns, and which callback is told what. -/
inductive WatchdogReply (κ : Type) where
  | none
  | status (status : ComponentStatus)
  | report (report : WatchdogReport) (told : List (κ × Value))

section Runs

variable {π κ : Type} [DecidableEq π]

/-- What the loop of `check_all` has collected. -/
structure Collected (π κ : Type) where
  statuses : List ComponentStatus
  incidents : List Value
  told : List (κ × Value)
  probes : π → ComponentProbe

/-- The loop of `check_all`, from a position on. -/
def checkFrom (callbacks : List κ) (readings : Nat → Reading) (probes : π → ComponentProbe) :
    Nat → List π → Collected π κ
  | _, [] => { statuses := [], incidents := [], told := [], probes := probes }
  | position, probe :: rest =>
      let (status, checked) := (probes probe).check (readings position)
      let later := checkFrom callbacks readings (Function.update probes probe checked)
        (position + 1) rest
      if status.status ∈ ["DEGRADED", "FAILED"] then
        let incident :=
          buildIncident checked.failureEventType checked.consecutiveFailures status
        { later with
          statuses := status :: later.statuses
          incidents := incident :: later.incidents
          told := callbacks.map (fun callback => (callback, incident)) ++ later.told }
      else { later with statuses := status :: later.statuses }

def Watchdog.step (watchdog : Watchdog π κ) :
    WatchdogCall π κ → WatchdogReply κ × Watchdog π κ
  | .register probe => (.none, { watchdog with registered := watchdog.registered ++ [probe] })
  | .onIncident callback =>
      (.none, { watchdog with callbacks := watchdog.callbacks ++ [callback] })
  | .check probe reading =>
      let (status, checked) := (watchdog.probes probe).check reading
      (.status status,
        { watchdog with probes := Function.update watchdog.probes probe checked })
  | .checkAll now readings =>
      let collected :=
        checkFrom watchdog.callbacks readings watchdog.probes 0 watchdog.registered
      (.report
          { checkedAtUtc := now
            components := collected.statuses
            incidentEvents := collected.incidents }
          collected.told,
        { watchdog with probes := collected.probes })

/-- What a probe is made with. -/
structure Identity where
  name : String
  failureEventType : String
  deriving DecidableEq

/-- A watchdog without probes and callbacks; no probe was checked yet. -/
def Watchdog.fresh (identities : π → Identity) : Watchdog π κ :=
  { probes := fun probe =>
      { name := (identities probe).name
        failureEventType := (identities probe).failureEventType
        consecutiveFailures := 0 }
    registered := []
    callbacks := [] }

/-- Every reading of every probe, oldest first. -/
structure Ledger (π κ : Type) where
  readings : π → List Reading
  registered : List π
  callbacks : List κ

def Ledger.empty : Ledger π κ :=
  { readings := fun _ => [], registered := [], callbacks := [] }

/-- A reading of a probe, behind those made of it before. -/
structure Finding (π : Type) where
  probe : π
  before : List Reading
  reading : Reading

def Reading.failed (reading : Reading) : Bool := !reading.outcome.healthy

/-- The third failure in a row is a failure of the component. -/
def Finding.grade (finding : Finding π) : String :=
  if finding.reading.failed then
    if 2 ≤ finding.before.length ∧ (finding.before.reverse.take 2).all Reading.failed then
      "FAILED"
    else "DEGRADED"
  else "OK"

def Finding.status (identities : π → Identity) (finding : Finding π) : ComponentStatus :=
  { name := (identities finding.probe).name
    status := finding.grade
    message := finding.reading.outcome.message
    checkedAtUtc := finding.reading.now }

/-- The number of failures the readings end with. -/
def failuresAtEnd (readings : List Reading) : Nat :=
  (readings.reverse.takeWhile Reading.failed).length

/-- A failure is an incident. -/
def Finding.incident? (identities : π → Identity) (finding : Finding π) : Option Value :=
  if finding.reading.failed then
    some (buildIncident (identities finding.probe).failureEventType
      (failuresAtEnd (finding.before ++ [finding.reading])) (finding.status identities))
  else none

/-- The readings of one probe in a round over these probes. -/
def roundOf (readings : Nat → Reading) (probes : List π) (probe : π) : List Reading :=
  (probes.zipIdx.filter (fun entry => entry.1 = probe)).map (fun entry => readings entry.2)

/-- The findings of a round; a probe can be registered more than once. -/
def Ledger.findings (ledger : Ledger π κ) (readings : Nat → Reading) : List (Finding π) :=
  ledger.registered.zipIdx.map (fun entry =>
    { probe := entry.1
      before := ledger.readings entry.1 ++
        roundOf readings (ledger.registered.take entry.2) entry.1
      reading := readings entry.2 })

/-- Every callback is told of every incident, whatever callbacks before it did. -/
def Ledger.tell (ledger : Ledger π κ) (incidents : List Value) : List (κ × Value) :=
  incidents.flatMap (fun incident => ledger.callbacks.map (fun callback => (callback, incident)))

def Ledger.step (identities : π → Identity) (ledger : Ledger π κ) :
    WatchdogCall π κ → WatchdogReply κ × Ledger π κ
  | .register probe => (.none, { ledger with registered := ledger.registered ++ [probe] })
  | .onIncident callback => (.none, { ledger with callbacks := ledger.callbacks ++ [callback] })
  | .check probe reading =>
      let finding : Finding π := ⟨probe, ledger.readings probe, reading⟩
      (.status (finding.status identities),
        { ledger with
          readings := Function.update ledger.readings probe
            (ledger.readings probe ++ [reading]) })
  | .checkAll now readings =>
      let findings := ledger.findings readings
      let incidents := findings.filterMap (Finding.incident? identities)
      (.report
          { checkedAtUtc := now
            components := findings.map (Finding.status identities)
            incidentEvents := incidents }
          (ledger.tell incidents),
        { ledger with
          readings := fun probe =>
            ledger.readings probe ++ roundOf readings ledger.registered probe })

/-- The probe object counts the failures its readings end with. -/
structure Tracks (identity : Identity) (readings : List Reading) (probe : ComponentProbe) :
    Prop where
  name : probe.name = identity.name
  failureEventType : probe.failureEventType = identity.failureEventType
  consecutiveFailures : probe.consecutiveFailures = failuresAtEnd readings

omit [DecidableEq π] in
/-- A prefix of `n` elements passes the test exactly if the passing prefix is that long. -/
private theorem le_length_takeWhile_iff {α : Type} (test : α → Bool) (items : List α)
    (n : Nat) :
    n ≤ (items.takeWhile test).length ↔ n ≤ items.length ∧ (items.take n).all test := by
  induction items generalizing n with
  | nil => cases n with
    | zero => simp
    | succ n => simp
  | cons item items induction =>
      cases n with
      | zero => simp
      | succ n =>
          by_cases passes : test item
          · simp [passes, induction]
          · simp [passes]

theorem failuresAtEnd_append (before : List Reading) (reading : Reading) :
    failuresAtEnd (before ++ [reading]) =
      if reading.failed then failuresAtEnd before + 1 else 0 := by
  by_cases failed : reading.failed
  · simp [failuresAtEnd, failed]
  · simp [failuresAtEnd, failed]

omit [DecidableEq π] in
private theorem Tracks.check {identities : π → Identity} {probe : π} {before : List Reading}
    {object : ComponentProbe} (tracks : Tracks (identities probe) before object)
    (reading : Reading) :
    (object.check reading).1 = Finding.status identities ⟨probe, before, reading⟩ ∧
      Tracks (identities probe) (before ++ [reading]) (object.check reading).2 := by
  have third : failuresAtEnd before + 1 < 3 ↔
      ¬ (2 ≤ before.length ∧ (before.reverse.take 2).all Reading.failed) := by
    have long := le_length_takeWhile_iff Reading.failed before.reverse 2
    rw [List.length_reverse] at long
    rw [← long, failuresAtEnd]
    omega
  have count := failuresAtEnd_append before reading
  cases healthy : reading.outcome.healthy with
  | true =>
      have passed : reading.failed = false := by simp [Reading.failed, healthy]
      refine ⟨?_, tracks.name, tracks.failureEventType, ?_⟩
      · simp [ComponentProbe.check, Finding.status, Finding.grade, healthy, passed, tracks.name]
      · simp [ComponentProbe.check, healthy, count, passed]
  | false =>
      have failed : reading.failed = true := by simp [Reading.failed, healthy]
      refine ⟨?_, tracks.name, tracks.failureEventType, ?_⟩
      · simp only [ComponentProbe.check, Finding.status, Finding.grade, healthy, failed,
          tracks.name, tracks.consecutiveFailures, third, Bool.false_eq_true, if_false, if_true]
        by_cases three : 2 ≤ before.length ∧ (before.reverse.take 2).all Reading.failed
        · rw [if_pos three, if_neg (not_not_intro three)]
        · rw [if_neg three, if_pos three]
      · simp [ComponentProbe.check, healthy, count, failed, tracks.consecutiveFailures]

omit [DecidableEq π] in
private theorem grade_mem_iff (finding : Finding π) :
    finding.grade ∈ ["DEGRADED", "FAILED"] ↔ finding.reading.failed = true := by
  unfold Finding.grade
  by_cases failed : finding.reading.failed
  · simp only [failed, if_true, iff_true]
    split
    · simp
    · simp
  · simp [failed]

private theorem roundOf_append (readings : Nat → Reading) (probes : List π) (last probe : π) :
    roundOf readings (probes ++ [last]) probe =
      roundOf readings probes probe ++ if last = probe then [readings probes.length] else [] := by
  by_cases same : last = probe
  · simp [roundOf, List.zipIdx_append, same]
  · simp [roundOf, List.zipIdx_append, same]

/-- The findings of the rest of a round. -/
private def findingsFrom (past : π → List Reading) (readings : Nat → Reading) (done rest : List π) :
    List (Finding π) :=
  (rest.zipIdx done.length).map (fun entry =>
    { probe := entry.1
      before := past entry.1 ++ roundOf readings ((done ++ rest).take entry.2) entry.1
      reading := readings entry.2 })

private theorem findingsFrom_cons (past : π → List Reading) (readings : Nat → Reading)
    (done rest : List π) (probe : π) :
    findingsFrom past readings done (probe :: rest) =
      ⟨probe, past probe ++ roundOf readings done probe, readings done.length⟩ ::
        findingsFrom past readings (done ++ [probe]) rest := by
  simp [findingsFrom]

/-- What the loop collects is what its findings say. -/
private theorem checkFrom_eq {identities : π → Identity} {past : π → List Reading}
    (callbacks : List κ) (readings : Nat → Reading) (rest : List π) :
    ∀ (done : List π) (probes : π → ComponentProbe),
      (∀ probe, Tracks (identities probe) (past probe ++ roundOf readings done probe)
        (probes probe)) →
      let findings := findingsFrom past readings done rest
      let incidents := findings.filterMap (Finding.incident? identities)
      let collected := checkFrom callbacks readings probes done.length rest
      collected.statuses = findings.map (Finding.status identities) ∧
        collected.incidents = incidents ∧
        collected.told = incidents.flatMap
          (fun incident => callbacks.map (fun callback => (callback, incident))) ∧
        ∀ probe, Tracks (identities probe) (past probe ++ roundOf readings (done ++ rest) probe)
          (collected.probes probe) := by
  induction rest with
  | nil =>
      intro done probes tracks
      simpa [findingsFrom, checkFrom] using tracks
  | cons first rest induction =>
      intro done probes tracks
      obtain ⟨status, tracked⟩ := (tracks first).check (readings done.length)
      have trackedAll : ∀ probe,
          Tracks (identities probe) (past probe ++ roundOf readings (done ++ [first]) probe)
            (Function.update probes first ((probes first).check (readings done.length)).2
              probe) := by
        intro probe
        rw [roundOf_append, ← List.append_assoc]
        by_cases same : first = probe
        · subst same
          simpa using tracked
        · simpa [same, Ne.symm same] using tracks probe
      have later := induction (done ++ [first]) _ trackedAll
      simp only [List.length_append, List.length_singleton, List.append_assoc,
        List.singleton_append] at later
      obtain ⟨statuses, incidents, told, tracksLater⟩ := later
      simp only [findingsFrom_cons, List.map_cons, List.filterMap_cons, checkFrom]
      rw [status]
      have graded := grade_mem_iff
        (⟨first, past first ++ roundOf readings done first, readings done.length⟩ : Finding π)
      by_cases failed : (readings done.length).failed
      · have mem := graded.mpr failed
        simp only [Finding.status, mem, if_true, Finding.incident?, failed, List.flatMap_cons,
          tracked.failureEventType, tracked.consecutiveFailures]
        exact ⟨congrArg _ statuses, congrArg _ incidents, congrArg _ told, tracksLater⟩
      · have notMem := mt graded.mp failed
        simp only [Finding.status, notMem, if_false, Finding.incident?, failed]
        exact ⟨congrArg _ statuses, incidents, told, tracksLater⟩

/-- The watchdog has the probes and callbacks of the ledger, and counts. -/
private structure Counts (identities : π → Identity) (watchdog : Watchdog π κ)
    (ledger : Ledger π κ) : Prop where
  registered : watchdog.registered = ledger.registered
  callbacks : watchdog.callbacks = ledger.callbacks
  tracks : ∀ probe, Tracks (identities probe) (ledger.readings probe) (watchdog.probes probe)

private theorem Counts.step {identities : π → Identity} {watchdog : Watchdog π κ}
    {ledger : Ledger π κ} (counts : Counts identities watchdog ledger)
    (call : WatchdogCall π κ) :
    (watchdog.step call).1 = (ledger.step identities call).1 ∧
      Counts identities (watchdog.step call).2 (ledger.step identities call).2 := by
  cases call with
  | register probe =>
      exact ⟨rfl, congrArg (· ++ [probe]) counts.registered, counts.callbacks, counts.tracks⟩
  | onIncident callback =>
      exact ⟨rfl, counts.registered, congrArg (· ++ [callback]) counts.callbacks, counts.tracks⟩
  | check probe reading =>
      obtain ⟨status, tracked⟩ := (counts.tracks probe).check reading
      refine ⟨congrArg WatchdogReply.status status, counts.registered, counts.callbacks, ?_⟩
      intro other
      by_cases same : other = probe
      · subst same
        simpa [Watchdog.step, Ledger.step] using tracked
      · simpa [Watchdog.step, Ledger.step, same] using counts.tracks other
  | checkAll now readings =>
      obtain ⟨probes, registered, callbacks⟩ := watchdog
      obtain ⟨past, probesOfLedger, callbacksOfLedger⟩ := ledger
      obtain ⟨sameProbes, sameCallbacks, tracks⟩ := counts
      obtain rfl : registered = probesOfLedger := sameProbes
      obtain rfl : callbacks = callbacksOfLedger := sameCallbacks
      have initial : ∀ probe, Tracks (identities probe)
          (past probe ++ roundOf readings [] probe) (probes probe) := by
        intro probe
        simpa [roundOf] using tracks probe
      obtain ⟨statuses, incidents, told, tracksLater⟩ :=
        checkFrom_eq callbacks readings registered [] probes initial
      refine ⟨?_, rfl, rfl, tracksLater⟩
      rw [List.length_nil] at statuses incidents told
      simp only [Watchdog.step, Ledger.step, statuses, incidents, told]
      rfl

end Runs

end SuperAdvisor.Runtime
