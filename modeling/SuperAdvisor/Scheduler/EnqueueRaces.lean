import SuperAdvisor.Scheduler.RowEffect

/-!
# Enqueue calls that overtake each other

`enqueue` looks its key up outside the transaction that inserts the row, so
other calls run between its `SELECT` and its `INSERT`.  Every caller makes one
call at a time; the other operations of the queue run in between.  A call is
answered as a duplicate exactly if its key is taken when it looks, and an
insert for a taken key raises.
-/

namespace SuperAdvisor.Scheduler

open Python

variable {Worker Time Caller : Type}

/-- What `enqueue` does behind its `SELECT`. -/
def insertRequest (store : Store Time) (request : EnqueueRequest) (now : Time) :
    Except QueueError (Option (Job Time) × Store Time) :=
  match JsonColumn.dump request.payload with
  | .error problem => .error (.json problem)
  | .ok payload =>
      match store.jobs.insert (newRow request payload now) with
      | .error problem => .error problem
      | .ok jobs =>
          let store := { store with jobs := jobs }
          .ok (get store request.jobId, store)

/-- A call that nothing overtakes is its two steps. -/
theorem enqueue_eq (store : Store Time) (request : EnqueueRequest) (now : Time) :
    enqueue store request now =
      if keyExists store.jobs request.idempotencyKey then .ok (none, store)
      else insertRequest store request now := rfl

/-- The queue with the calls that have looked their key up and not found it. -/
structure RacingQueue (Worker Time Caller : Type) where
  system : System Worker Time
  selected : Caller → Option (EnqueueRequest × Time)

def Call.IsEnqueue : Call → Prop
  | .enqueue _ => True
  | _ => False

inductive Turn (Worker Time Caller : Type) where
  | select (caller : Caller) (request : EnqueueRequest) (now : Time)
  | insert (caller : Caller)
  | other (invocation : Invocation Worker Time) (notEnqueue : ¬invocation.call.IsEnqueue)

/-- A turn that does not fit the state of its caller is `idle`. -/
inductive RaceReply (Time : Type) where
  | returned (job : Option (Job Time))
  | raised (problem : QueueError)
  | waits
  | idle
  | answered (reply : Reply Time)

def RacingQueue.initial (leaseSeconds : Worker → Int) : RacingQueue Worker Time Caller :=
  { system := System.initial leaseSeconds
    selected := fun _ => none }

def Turn.caller? : Turn Worker Time Caller → Option Caller
  | .select caller _ _ => some caller
  | .insert caller => some caller
  | .other _ _ => none

section Steps

variable [DecidableEq Caller] [DecidableEq Worker] [LinearOrder Time] [HAdd Time Int Time]

def raceStep (race : RacingQueue Worker Time Caller) (turn : Turn Worker Time Caller) :
    RaceReply Time × RacingQueue Worker Time Caller :=
  match turn with
  | .select caller request now =>
      match race.selected caller with
      | some _ => (.idle, race)
      | none =>
          if keyExists race.system.store.jobs request.idempotencyKey then (.returned none, race)
          else
            (.waits,
              { race with selected := Function.update race.selected caller (some (request, now)) })
  | .insert caller =>
      match race.selected caller with
      | none => (.idle, race)
      | some (request, now) =>
          let selected := Function.update race.selected caller none
          match insertRequest race.system.store request now with
          | .error problem => (.raised problem, { race with selected := selected })
          | .ok (job, store) =>
              (.returned job,
                { system := { race.system with store := store }
                  selected := selected })
  | .other invocation _ =>
      let (reply, system) := step race.system invocation
      (.answered reply, { race with system := system })

end Steps

abbrev RaceEvent (Worker Time Caller : Type) :=
  Machine.Event (RacingQueue Worker Time Caller) (Turn Worker Time Caller) (RaceReply Time)

/-- The keys in the table. -/
def storedKeys (store : Store Time) : List String :=
  store.jobs.rows.filterMap JobRow.idempotencyKey

def KeyTaken (race : RacingQueue Worker Time Caller) (key : String) : Prop :=
  key ∈ storedKeys race.system.store

/-- The event runs the `INSERT` of a call. -/
def Inserts (event : RaceEvent Worker Time Caller) (request : EnqueueRequest) : Prop :=
  ∃ caller now, event.call = .insert caller ∧
    event.before.selected caller = some (request, now)

/-- The event is the last one of a call. -/
def EndsCall (event : RaceEvent Worker Time Caller) (request : EnqueueRequest) : Prop :=
  Inserts event request ∨
    ∃ caller now job, event.call = .select caller request now ∧ event.reply = .returned job

/-- A call whose key is taken when it ends returns `None` and changes nothing. -/
def Idempotent (event : RaceEvent Worker Time Caller) : Prop :=
  ∀ request key, EndsCall event request → request.idempotencyKey = some key →
    KeyTaken event.before key →
      event.reply = .returned none ∧ event.after.system.store = event.before.system.store

def StoresKey (event : RaceEvent Worker Time Caller) (key : String) : Prop :=
  ∃ request job, Inserts event request ∧ request.idempotencyKey = some key ∧
    event.reply = .returned job

/-- A call has found nothing and waits behind the events of `gap`. -/
structure Waiting (caller : Caller) (request : EnqueueRequest) (now : Time)
    (select : RaceEvent Worker Time Caller) (gap : List (RaceEvent Worker Time Caller)) :
    Prop where
  selects : select.call = .select caller request now
  waits : select.reply = .waits
  between : ∀ event ∈ gap, event.call.caller? = some caller → event.reply = .idle

/-- The empty key was free, and nobody has stored the key in between. -/
structure KeyStaysFree (request : EnqueueRequest) (select : RaceEvent Worker Time Caller)
    (gap : List (RaceEvent Worker Time Caller)) : Prop where
  emptyFree : request.idempotencyKey = some "" → ¬KeyTaken select.before ""
  notStored : ∀ key, request.idempotencyKey = some key → ∀ event ∈ gap, ¬StoresKey event key

def KeyedOnce (race : RacingQueue Worker Time Caller) (key : String) : Prop :=
  (race.system.store.jobs.rows.filter (fun row => row.idempotencyKey == some key)).length ≤ 1

/-- The `UNIQUE` constraint. -/
theorem keyedOnce (race : RacingQueue Worker Time Caller) (key : String) :
    KeyedOnce race key := by
  have unique := List.nodup_iff_count_le_one.mp race.system.store.jobs.uniqueKey key
  rwa [List.count_filterMap, List.countP_eq_length_filter] at unique

theorem keyExists_iff {store : Store Time} {key : String} :
    keyExists store.jobs (some key) = true ↔ key ≠ "" ∧ key ∈ storedKeys store := by
  simp [keyExists, storedKeys]

theorem insertRequest_of_taken
    {store : Store Time} {request : EnqueueRequest} {key : String}
    (given : request.idempotencyKey = some key) (taken : key ∈ storedKeys store) (now : Time) :
    ∃ problem, insertRequest store request now = .error problem := by
  unfold insertRequest
  cases JsonColumn.dump request.payload with
  | error problem => exact ⟨_, rfl⟩
  | ok payload =>
      have refused : store.jobs.insert (newRow request payload now) = .error .integrityError := by
        unfold JobTable.insert
        rw [dif_neg]
        rintro ⟨-, fresh⟩
        exact fresh key given taken
      exact ⟨.integrityError, by simp [refused]⟩

theorem storedKeys_insertRequest
    {store : Store Time} {request : EnqueueRequest} {now : Time}
    {result : Option (Job Time) × Store Time}
    (inserted : insertRequest store request now = .ok result) :
    storedKeys result.2 = storedKeys store ++ request.idempotencyKey.toList := by
  unfold insertRequest at inserted
  split at inserted
  · cases inserted
  · split at inserted
    · cases inserted
    next payload _ jobs grown =>
      cases inserted
      unfold JobTable.insert at grown
      split at grown
      · cases grown
        cases given : request.idempotencyKey <;> simp [storedKeys, newRow, given]
      · cases grown

theorem storedKeys_updateOne
    (store : Store Time) (jobId : String) (accepts : JobRow Time → Bool)
    (change : JobRow Time → JobRow Time) (keeps : JobTable.KeepsKeys change) :
    storedKeys (updateOne store jobId accepts change keeps).2 = storedKeys store :=
  (JobTable.map_keys keeps _ store.jobs.rows).2

section Runs

variable [DecidableEq Caller] [DecidableEq Worker] [LinearOrder Time] [HAdd Time Int Time]

omit [DecidableEq Caller] in
/-- No other operation of the queue touches a key. -/
theorem storedKeys_step
    (system : System Worker Time) (invocation : Invocation Worker Time)
    (notEnqueue : ¬invocation.call.IsEnqueue) :
    storedKeys (step system invocation).2.store = storedKeys system.store := by
  have swept : ∀ now, storedKeys (resetExpired system.store now) = storedKeys system.store :=
    fun now => (@JobTable.map_keys Time (requeue now) (fun _ => ⟨rfl, rfl⟩) _
      system.store.jobs.rows).2
  obtain ⟨worker, now, call⟩ := invocation
  cases call with
  | enqueue request => exact (notEnqueue trivial).elim
  | leaseNext jobType tie =>
      simp only [step, leaseNext]
      split
      · exact swept now
      · exact (storedKeys_updateOne _ _ _ _ _).trans (swept now)
  | renewLease jobId => exact storedKeys_updateOne _ _ _ _ _
  | checkpoint jobId data =>
      cases dumped : JsonColumn.dump data with
      | error problem => simp [step, checkpoint, dumped]
      | ok column =>
          simp only [step, checkpoint, dumped]
          exact storedKeys_updateOne _ _ _ _ _
  | complete jobId =>
      have stored := complete_store now (system.queues worker) system.store jobId
      simp only [step]
      rw [stored]
      exact storedKeys_updateOne _ _ _ _ _
  | fail jobId error =>
      rw [step_fail_store]
      unfold fail
      split
      · rfl
      · simp only
        split
        · split
          · rfl
          · exact storedKeys_updateOne _ jobId anyRow (deadLetterRow error now)
              (fun _ => ⟨rfl, rfl⟩)
        · exact storedKeys_updateOne _ _ _ _ _
  | cancel jobId => exact storedKeys_updateOne _ _ _ _ _
  | resumeInProgress => exact swept now
  | _ => rfl

/-- The keys taken after a turn. -/
theorem keyTaken_step
    (race : RacingQueue Worker Time Caller) (turn : Turn Worker Time Caller) (key : String) :
    KeyTaken (raceStep race turn).2 key ↔
      KeyTaken race key ∨ StoresKey (Machine.eventOf raceStep race turn) key := by
  cases turn with
  | select caller request now =>
      have nothing : ¬StoresKey
          (Machine.eventOf raceStep race (.select caller request now)) key := by
        rintro ⟨_, _, ⟨other, _, called, -⟩, -⟩
        cases called
      have same : (raceStep race (.select caller request now)).2.system = race.system := by
        simp only [raceStep]
        split
        · rfl
        · split <;> rfl
      simp only [nothing, or_false, KeyTaken, same]
  | insert caller =>
      cases waiting : race.selected caller with
      | none =>
          have nothing : ¬StoresKey (Machine.eventOf raceStep race (.insert caller)) key := by
            rintro ⟨_, _, ⟨other, now, called, held⟩, -⟩
            cases called
            exact Option.some_ne_none _ (held.symm.trans waiting)
          simp only [nothing, or_false, KeyTaken, raceStep, waiting]
      | some waits =>
          obtain ⟨request, now⟩ := waits
          cases inserted : insertRequest race.system.store request now with
          | error problem =>
              have nothing : ¬StoresKey (Machine.eventOf raceStep race (.insert caller)) key := by
                rintro ⟨_, _, -, -, returned⟩
                simp [Machine.eventOf, raceStep, waiting, inserted] at returned
              simp only [nothing, or_false, KeyTaken, raceStep, waiting, inserted]
          | ok result =>
              have grown := storedKeys_insertRequest inserted
              have stores : StoresKey (Machine.eventOf raceStep race (.insert caller)) key ↔
                  request.idempotencyKey = some key := by
                constructor
                · rintro ⟨other, _, ⟨_, _, called, held⟩, given, -⟩
                  cases called
                  obtain ⟨rfl, -⟩ := Prod.mk.inj (Option.some.inj (held.symm.trans waiting))
                  exact given
                · intro given
                  exact ⟨request, result.1, ⟨caller, now, rfl, waiting⟩, given,
                    by simp [Machine.eventOf, raceStep, waiting, inserted]⟩
              rw [stores]
              simp [KeyTaken, raceStep, waiting, inserted, grown]
  | other invocation notEnqueue =>
      have nothing : ¬StoresKey
          (Machine.eventOf raceStep race (.other invocation notEnqueue)) key := by
        rintro ⟨_, _, ⟨other, _, called, -⟩, -⟩
        cases called
      simp only [nothing, or_false, KeyTaken, raceStep, storedKeys_step _ _ notEnqueue]

/-- The keys taken after a run. -/
theorem keyTaken_final
    (race : RacingQueue Worker Time Caller) (turns : List (Turn Worker Time Caller))
    (key : String) :
    KeyTaken (Machine.final raceStep race turns) key ↔
      KeyTaken race key ∨ ∃ event ∈ Machine.trace raceStep race turns, StoresKey event key := by
  induction turns generalizing race with
  | nil => simp [Machine.final, Machine.trace]
  | cons turn turns induction =>
      simp only [Machine.final, Machine.trace, List.exists_mem_cons_iff, induction,
        keyTaken_step, or_assoc]

/-- A waiting call waits until a turn of its caller is not idle. -/
theorem selected_step
    {race : RacingQueue Worker Time Caller} {turn : Turn Worker Time Caller} {caller : Caller}
    (between : turn.caller? = some caller → (raceStep race turn).1 = .idle) :
    (raceStep race turn).2.selected caller = race.selected caller := by
  by_cases own : turn.caller? = some caller
  · have idle := between own
    cases turn with
    | select other request now =>
        cases waiting : race.selected other with
        | some _ => simp [raceStep, waiting]
        | none =>
            simp only [raceStep, waiting] at idle
            split at idle <;> cases idle
    | insert other =>
        cases waiting : race.selected other with
        | none => simp [raceStep, waiting]
        | some waits =>
            simp only [raceStep, waiting] at idle
            split at idle <;> cases idle
    | other invocation _ => cases own
  · cases turn with
    | select other request now =>
        have different : caller ≠ other := fun same => own (by simp [Turn.caller?, same])
        simp only [raceStep]
        split
        · rfl
        · split
          · rfl
          · exact Function.update_of_ne different _ _
    | insert other =>
        have different : caller ≠ other := fun same => own (by simp [Turn.caller?, same])
        simp only [raceStep]
        split
        · rfl
        · split <;> exact Function.update_of_ne different _ _
    | other invocation _ => rfl

theorem selected_final
    {caller : Caller} (race : RacingQueue Worker Time Caller)
    (turns : List (Turn Worker Time Caller))
    (between : ∀ event ∈ Machine.trace raceStep race turns,
      event.call.caller? = some caller → event.reply = .idle) :
    (Machine.final raceStep race turns).selected caller = race.selected caller := by
  induction turns generalizing race with
  | nil => rfl
  | cons turn turns induction =>
      have first := selected_step
        (between (Machine.eventOf raceStep race turn) (by simp [Machine.trace]))
      have rest := induction (raceStep race turn).2
        (fun event member => between event (by simp [Machine.trace, member]))
      exact rest.trans first

/-- A `SELECT` that finds nothing. -/
theorem select_waits
    {race : RacingQueue Worker Time Caller} {caller : Caller} {request : EnqueueRequest}
    {now : Time} (waits : (raceStep race (.select caller request now)).1 = .waits) :
    keyExists race.system.store.jobs request.idempotencyKey = false ∧
      (raceStep race (.select caller request now)).2.selected caller = some (request, now) ∧
      (raceStep race (.select caller request now)).2.system = race.system := by
  cases waiting : race.selected caller with
  | some _ => simp [raceStep, waiting] at waits
  | none =>
      by_cases found : keyExists race.system.store.jobs request.idempotencyKey = true
      · simp [raceStep, waiting, found] at waits
      · simp [raceStep, waiting, found]

/-- Every waiting call has looked its key up in the past. -/
def Recorded (past : List (RaceEvent Worker Time Caller)) (race : RacingQueue Worker Time Caller) :
    Prop :=
  ∀ caller request now, race.selected caller = some (request, now) →
    ∃ early select gap, past = early ++ select :: gap ∧ Waiting caller request now select gap

theorem recorded_step
    (past : List (RaceEvent Worker Time Caller)) (race : RacingQueue Worker Time Caller)
    (turn : Turn Worker Time Caller) (recorded : Recorded past race) :
    Recorded (past ++ [Machine.eventOf raceStep race turn]) (raceStep race turn).2 := by
  intro caller request now waiting
  by_cases idle : turn.caller? = some caller → (raceStep race turn).1 = .idle
  · rw [selected_step idle] at waiting
    obtain ⟨early, select, gap, rfl, waits⟩ := recorded caller request now waiting
    refine ⟨early, select, gap ++ [Machine.eventOf raceStep race turn], by simp, waits.selects,
      waits.waits, ?_⟩
    intro event member own
    rcases List.mem_append.mp member with earlier | last
    · exact waits.between event earlier own
    · obtain rfl := List.mem_singleton.mp last
      exact idle own
  · obtain ⟨own, acts⟩ : turn.caller? = some caller ∧ (raceStep race turn).1 ≠ .idle := by
      simpa using idle
    cases turn with
    | select other asked started =>
        obtain rfl : other = caller := Option.some.inj own
        cases before : race.selected other with
        | some _ => simp [raceStep, before] at acts
        | none =>
            by_cases found : keyExists race.system.store.jobs asked.idempotencyKey = true
            · simp [raceStep, before, found] at waiting
            · obtain ⟨rfl, rfl⟩ : asked = request ∧ started = now := by
                simpa [raceStep, before, found] using waiting
              exact ⟨past, _, [], rfl, rfl, by simp [Machine.eventOf, raceStep, before, found],
                by simp⟩
    | insert other =>
        obtain rfl : other = caller := Option.some.inj own
        cases before : race.selected other with
        | none => simp [raceStep, before] at acts
        | some waits =>
            simp only [raceStep, before] at waiting
            split at waiting <;> simp at waiting
    | other invocation _ => cases own

theorem raceStep_insert_of_taken
    {race : RacingQueue Worker Time Caller} {caller : Caller} {request : EnqueueRequest}
    {now : Time} {key : String} (waiting : race.selected caller = some (request, now))
    (given : request.idempotencyKey = some key) (taken : KeyTaken race key) :
    ∃ problem, (raceStep race (.insert caller)).1 = .raised problem := by
  obtain ⟨problem, refused⟩ := insertRequest_of_taken given taken now
  exact ⟨problem, by simp [raceStep, waiting, refused]⟩

/-- The keys at an `INSERT` are those at its `SELECT` and the stored ones. -/
theorem keyTaken_of_waiting
    {start : RacingQueue Worker Time Caller} {turns : List (Turn Worker Time Caller)}
    {early gap : List (RaceEvent Worker Time Caller)} {select : RaceEvent Worker Time Caller}
    {caller : Caller} {request : EnqueueRequest} {now : Time}
    (shape : Machine.trace raceStep start turns = early ++ select :: gap)
    (waiting : Waiting caller request now select gap) (key : String) :
    (Machine.final raceStep start turns).selected caller = some (request, now) ∧
      (KeyTaken (Machine.final raceStep start turns) key ↔
        KeyTaken select.before key ∨ ∃ event ∈ gap, StoresKey event key) ∧
      keyExists select.before.system.store.jobs request.idempotencyKey = false := by
  obtain ⟨race, turn, since, rfl, rfl, last⟩ := Machine.exists_since raceStep shape
  obtain ⟨selects, waits, between⟩ := waiting
  obtain rfl : turn = .select caller request now := selects
  obtain ⟨unknown, held, same⟩ := select_waits waits
  rw [last]
  refine ⟨(selected_final _ since between).trans held, ?_, unknown⟩
  rw [keyTaken_final, KeyTaken, same]
  rfl

/-- In every run at most one job has a key, and all calls are idempotent exactly
if the key of every waiting call stays free until its `INSERT`. -/
theorem enqueue_idempotent_iff
    (leaseSeconds : Worker → Int) (turns : List (Turn Worker Time Caller)) :
    (∀ early late, turns = early ++ late → ∀ key,
      KeyedOnce (Machine.final raceStep (RacingQueue.initial leaseSeconds) early) key) ∧
    ((∀ event ∈ Machine.trace raceStep (RacingQueue.initial leaseSeconds) turns,
        Idempotent event) ↔
      ∀ early select gap insert late caller request now,
        Machine.trace raceStep (RacingQueue.initial leaseSeconds) turns =
          early ++ select :: (gap ++ insert :: late) →
        Waiting caller request now select gap → insert.call = .insert caller →
          KeyStaysFree request select gap) := by
  refine ⟨fun early late _ key => keyedOnce _ key, ?_, ?_⟩
  · intro idempotent early select gap insert late caller request now shape waiting inserts
    have member : insert ∈ Machine.trace raceStep (RacingQueue.initial leaseSeconds) turns := by
      simp [shape]
    rw [← List.cons_append, ← List.append_assoc] at shape
    obtain ⟨first, last, past, rfl⟩ := Machine.exists_next raceStep shape
    obtain rfl : last = .insert caller := inserts
    have free : ∀ key, request.idempotencyKey = some key →
        ¬KeyTaken (Machine.final raceStep (RacingQueue.initial leaseSeconds) first) key := by
      intro key given taken
      have held := (keyTaken_of_waiting past waiting key).1
      obtain ⟨problem, raised⟩ := raceStep_insert_of_taken held given taken
      have returned := (idempotent _ member request key
        (.inl ⟨caller, now, rfl, held⟩) given taken).1
      rw [Machine.eventOf, raised] at returned
      cases returned
    refine ⟨?_, ?_⟩
    · intro given taken
      exact free "" given ((keyTaken_of_waiting past waiting "").2.1.mpr (.inl taken))
    · intro key given event inside stores
      exact free key given
        ((keyTaken_of_waiting past waiting key).2.1.mpr (.inr ⟨event, inside, stores⟩))
  · intro stays event member request key ends given taken
    obtain ⟨early, late, shape⟩ := List.append_of_mem member
    obtain ⟨first, turn, rfl, rfl⟩ := Machine.exists_next raceStep shape
    rcases ends with ⟨caller, now, called, held⟩ | ⟨caller, now, job, called, returned⟩
    · -- An `INSERT` for a taken key contradicts the condition on its call.
      have recorded := Machine.trace_invariant raceStep Recorded recorded_step
        (show Recorded [] (RacingQueue.initial leaseSeconds) from
          fun _ _ _ nothing => by cases nothing) first
      obtain ⟨before, select, gap, split, waiting⟩ := recorded caller request now held
      rw [List.nil_append] at split
      obtain ⟨-, sources, unknown⟩ := keyTaken_of_waiting split waiting key
      rw [split, List.append_assoc, List.cons_append] at shape
      have free := stays before select gap _ late caller request now shape waiting called
      rcases sources.mp taken with atSelect | ⟨event, inside, stores⟩
      · by_cases empty : key = ""
        · exact absurd (empty ▸ atSelect) (free.emptyFree (empty ▸ given))
        · have found := keyExists_iff.mpr ⟨empty, atSelect⟩
          rw [given] at unknown
          exact absurd found (by simp [unknown])
      · exact absurd stores (free.notStored key given event inside)
    · obtain rfl : turn = .select caller request now := called
      simp only [Machine.eventOf, raceStep] at returned ⊢
      split at returned
      · cases returned
      · split at returned
        next found => simp [found]
        · cases returned

end Runs

def keyedRequest (jobId key : String) : EnqueueRequest :=
  { jobId := jobId
    jobType := "t"
    payload := .dict []
    idempotencyKey := some key }

/-- Both callers look the key up before either of them inserts. -/
def lostRace : List (Turn Unit Int Bool) :=
  [.select false (keyedRequest "a" "k") 0, .select true (keyedRequest "b" "k") 0,
    .insert false, .insert true]

/-- One call behind the other, both with the empty key. -/
def emptyKeyTwice : List (Turn Unit Int Bool) :=
  [.select false (keyedRequest "a" "") 0, .insert false,
    .select true (keyedRequest "b" "") 1, .insert true]

/-- The state before the last turn of those runs. -/
def beforeLast (turns : List (Turn Unit Int Bool)) : RacingQueue Unit Int Bool :=
  Machine.final raceStep (RacingQueue.initial (fun _ => 300)) (turns.take 3)

private theorem not_idempotent_last
    {turns : List (Turn Unit Int Bool)} {request : EnqueueRequest} {now : Int} {key : String}
    (shape : turns = turns.take 3 ++ [.insert true])
    (held : (beforeLast turns).selected true = some (request, now))
    (given : request.idempotencyKey = some key) (taken : KeyTaken (beforeLast turns) key) :
    ¬∀ event ∈ Machine.trace raceStep (RacingQueue.initial (fun _ => 300)) turns,
      Idempotent event := by
  intro idempotent
  have member : Machine.eventOf raceStep (beforeLast turns) (.insert true) ∈
      Machine.trace raceStep (RacingQueue.initial (fun _ => 300)) turns := by
    have split := (congrArg (Machine.trace raceStep (RacingQueue.initial (fun _ => 300))) shape).trans
      (Machine.trace_append raceStep _ _ _)
    rw [split]
    exact List.mem_append_right _ (List.mem_singleton.mpr rfl)
  obtain ⟨problem, raised⟩ := raceStep_insert_of_taken held given taken
  have returned := (idempotent _ member request key (.inl ⟨true, now, rfl, held⟩) given taken).1
  rw [Machine.eventOf, raised] at returned
  cases returned

theorem duplicates_not_idempotent :
    (¬∀ event ∈ Machine.trace raceStep (RacingQueue.initial (fun _ => 300)) lostRace,
      Idempotent event) ∧
    ¬∀ event ∈ Machine.trace raceStep (RacingQueue.initial (fun _ => 300)) emptyKeyTwice,
      Idempotent event := by
  constructor
  · refine @not_idempotent_last lostRace (keyedRequest "b" "k") 0 "k" rfl rfl rfl ?_
    exact (by decide +kernel : "k" ∈ storedKeys (beforeLast lostRace).system.store)
  · refine @not_idempotent_last emptyKeyTwice (keyedRequest "b" "") 1 "" rfl rfl rfl ?_
    exact (by decide +kernel : "" ∈ storedKeys (beforeLast emptyKeyTwice).system.store)

end SuperAdvisor.Scheduler
