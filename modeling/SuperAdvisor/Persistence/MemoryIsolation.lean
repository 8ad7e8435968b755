import SuperAdvisor.Foundation.Machine
import SuperAdvisor.Foundation.ValueEquality
import SuperAdvisor.Persistence.AgentMemory

/-!
# Isolation of agent memories

An append touches the directories its path passes and the file of the day.  It
leaves the memory of another agent alone unless it meets that agent's path or
puts a name for that agent's pattern into its directory, which an id with
separators or dots can do.
-/

namespace SuperAdvisor.Persistence

open Python Calendar FileTree PosixTree Raising

section Trees

variable {tree other : MemoryTree} {path : Path} {name : String}

theorem mem_namesIn {location : Location} :
    name ∈ namesIn tree location ↔ ∃ node, nodeAt tree (location ++ [name]) = some node := by
  have found : (∃ node, nodeAt tree (location ++ [name]) = some node) ↔
      location ++ [name] ∈ tree.keys := by
    simp only [nodeAt, List.append_eq_nil_iff, List.cons_ne_nil, and_false, if_false, Dict.get?,
      Dict.keys]
    rw [← Option.isSome_iff_exists, Option.isSome_iff_ne_none, ne_eq, OrderedDict.get?_eq_none_iff,
      not_not]
  rw [found, namesIn, List.mem_filterMap]
  constructor
  · rintro ⟨key, member, listed⟩
    split at listed
    next inside =>
      have shape : location ++ [name] = key := by
        rw [← inside.2]
        exact List.dropLast_append_getLast? name listed
      rwa [shape]
    next => cases listed
  · intro member
    exact ⟨location ++ [name], member, by simp⟩

private theorem namesIn_nodup (location : Location) : (namesIn tree location).Nodup := by
  have keyOf : ∀ key name, name ∈ (if key ≠ [] ∧ key.dropLast = location then key.getLast?
      else none) → key = location ++ [name] := by
    intro key name listed
    split at listed
    next inside =>
      rw [← inside.2]
      exact (List.dropLast_append_getLast? name listed).symm
    next => cases listed
  refine List.Nodup.filterMap ?_ tree.distinct
  intro first second name firstIn secondIn
  rw [keyOf first name firstIn, keyOf second name secondIn]

/-- Two directories with the same files for the pattern are listed alike. -/
theorem memoryNames_congr
    {location : Location}
    (same : ∀ name, isMemoryName name = true →
      nodeAt tree (location ++ [name]) = nodeAt other (location ++ [name])) :
    memoryNames tree location = memoryNames other location := by
  have listed : ((namesIn tree location).filter isMemoryName).Perm
      ((namesIn other location).filter isMemoryName) := by
    refine (List.perm_ext_iff_of_nodup ((namesIn_nodup location).filter _)
      ((namesIn_nodup location).filter _)).mpr ?_
    intro name
    rw [List.mem_filter, List.mem_filter, mem_namesIn, mem_namesIn]
    exact and_congr_left (fun fits => by rw [same name fits])
  refine List.Perm.eq_of_pairwise (fun _ _ _ _ => le_antisymm) (List.pairwise_insertionSort _ _)
    (List.pairwise_insertionSort _ _) ?_
  exact (List.perm_insertionSort _ _).trans (listed.trans (List.perm_insertionSort _ _).symm)

private theorem foldlM_congr_mem
    {α γ : Type} {first second : γ → α → Except MemoryProblem γ} {items : List α}
    (same : ∀ carried, ∀ item ∈ items, first carried item = second carried item) (start : γ) :
    items.foldlM first start = items.foldlM second start := by
  induction items generalizing start with
  | nil => rfl
  | cons item items induction =>
      rw [List.foldlM_cons, List.foldlM_cons, same start item List.mem_cons_self]
      congr 1
      funext carried
      exact induction (fun carried other member =>
        same carried other (List.mem_cons_of_mem _ member)) carried

theorem readDirectory_congr
    (passable : Passable tree path) (otherPassable : Passable other path)
    (same : ∀ name, isMemoryName name = true →
      nodeAt tree (target [] path ++ [name]) = nodeAt other (target [] path ++ [name])) :
    readDirectory tree path = readDirectory other path := by
  have walks : ∀ {tree : MemoryTree}, Passable tree path → ∀ name, isMemoryName name = true →
      walk tree [] (path ++ [name]) = .ok (target [] path ++ [name]) := by
    intro tree passable name fits
    have inner : name ≠ ".." := by
      rintro rfl
      exact absurd fits (by decide)
    rw [walk_concat, walk_of_passable passable]
    simp only [Except.bind, passable _ (target_mem [] path), enter, inner, if_false]
  have texts : ∀ name, isMemoryName name = true →
      readText tree (path ++ [name]) = readText other (path ++ [name]) := by
    intro name fits
    simp only [readText, walks passable name fits, walks otherPassable name fits,
      Except.mapError, bind, Except.bind, same name fits]
  have fits : ∀ name ∈ memoryNames other (target [] path), isMemoryName name = true := by
    intro name member
    exact (List.mem_filter.mp ((List.perm_insertionSort _ _).mem_iff.mp member)).2
  rw [readDirectory, readDirectory, walk_of_passable passable, walk_of_passable otherPassable]
  simp only [Except.mapError, bind, Except.bind]
  rw [memoryNames_congr same]
  refine foldlM_congr_mem (fun entries name member => ?_) []
  rw [texts name (fits name member)]

end Trees

section Operations

variable (store : AgentMemoryStore)

/-- Where the files of an agent are. -/
def agentLocation (agentId : String) : Location :=
  target [] (store.agentPath agentId)

/-- The locations an agent's path passes. -/
def passes (agentId : String) : List Location :=
  visited [] (store.agentPath agentId)

/-- What an append for the agent on the day may have done to the tree. -/
def Touched (agentId : String) (today : Date) (before after : MemoryTree) : Prop :=
  ∀ location, nodeAt after location = nodeAt before location ∨
    (nodeAt before location = none ∧ nodeAt after location = some .directory ∧
      location ∈ passes store agentId) ∨
    (location = agentLocation store agentId ++ [memoryFile today] ∧
      nodeAt before location ≠ some .directory ∧
      ∃ text, nodeAt after location = some (.file text))

private theorem ensures_onTree
    {α : Type} {pre : MemoryTree → Prop} {program : TreeM (List Char) α}
    {returns : α → MemoryTree → Prop} {raises : MemoryTree → Prop}
    (ensures : Ensures pre program returns (fun _ => raises)) :
    Ensures pre (onTree program) returns (fun _ => raises) := by
  intro state holds
  have known := ensures state holds
  cases ran : program.run state with
  | ok value after =>
      rw [show (onTree program).run state = .ok value after by
        simp only [onTree, EStateM.run] at ran ⊢
        rw [ran]]
      rw [ran] at known
      exact known
  | error error after =>
      rw [show (onTree program).run state = .error (.path error) after by
        simp only [onTree, EStateM.run] at ran ⊢
        rw [ran]]
      rw [ran] at known
      exact known

theorem ensures_agentDir (agentId : String) (before : MemoryTree) :
    Ensures (fun tree => tree = before) (store.agentDir agentId)
      (fun path tree => path = store.agentPath agentId ∧ nullChar ∉ agentId.toList ∧
        Grown (store.agentPath agentId) before tree ∧
        Passable tree (store.agentPath agentId))
      (fun _ tree => Grown (store.agentPath agentId) before tree ∧
        (nullChar ∈ agentId.toList ∨ Blocked before (store.agentPath agentId))) := by
  unfold AgentMemoryStore.agentDir
  split
  next embedded =>
    exact ensures_throw (fun tree same => ⟨same ▸ .refl _ _, .inl embedded⟩)
  next plain =>
    have made := ensures_onTree (ensures_makeParents (store.agentPath agentId) before)
    refine ensures_bind (ensures_weaken made (fun _ same => same) (fun _ _ known => known)
      (fun _ _ known => ⟨known.1, .inr known.2⟩)) ?_
    rintro ⟨⟩
    exact ensures_pure (fun tree known => ⟨rfl, plain, known⟩)

variable {store} {agentId : String} {today : Date} {before after : MemoryTree}

theorem Touched.of_grown
    (grown : Grown (store.agentPath agentId) before after) :
    Touched store agentId today before after :=
  fun location => (grown location).imp id .inl

/-- Where a file stands after an append there was no directory before it. -/
private theorem Touched.not_directory
    (touched : Touched store agentId today before after) {location : Location}
    {text : List Char} (found : nodeAt after location = some (.file text)) :
    nodeAt before location ≠ some .directory := by
  rcases touched location with same | ⟨none, -, -⟩ | ⟨-, away, -⟩
  · rw [← same, found]
    simp
  · rw [none]
    simp
  · exact away

/-- Writing the file of the day. -/
private theorem Touched.set
    (touched : Touched store agentId today before after)
    (away : nodeAt before (agentLocation store agentId ++ [memoryFile today]) ≠ some .directory)
    (text : List Char) :
    Touched store agentId today before
      (after.set (agentLocation store agentId ++ [memoryFile today]) (.file text)) := by
  intro location
  rw [nodeAt_set _ (by simp)]
  split
  next same => exact .inr (.inr ⟨same, same ▸ away, text, rfl⟩)
  next => exact touched location

private theorem memoryFile_inner (today : Date) : memoryFile today ≠ ".." := by
  intro same
  have lengths := congrArg (fun name => name.toList.length) same
  simp [memoryFile, length_isoDate] at lengths

private theorem run_openAppend
    {tree : MemoryTree} {path : Path} {location : Location}
    (walked : walk tree [] path = .ok location) :
    (nodeAt tree location = none →
      (openAppend path).run tree = .ok location (tree.set location (.file []))) ∧
    (nodeAt tree location = some .directory →
      (openAppend path).run tree = .error (.path .isADirectory) tree) ∧
    (∀ text, nodeAt tree location = some (.file text) →
      (openAppend path).run tree = .ok location tree) := by
  refine ⟨fun found => ?_, fun found => ?_, fun text found => ?_⟩
  all_goals
    simp only [openAppend, run_bind, run_ofExcept, EStateM.run_get, walked, Except.mapError, found]
    rfl

private theorem ensures_openAppend :
    Ensures (fun tree => Grown (store.agentPath agentId) before tree ∧
        Passable tree (store.agentPath agentId))
      (openAppend (store.agentPath agentId ++ [memoryFile today]))
      (fun location tree => location = agentLocation store agentId ++ [memoryFile today] ∧
        Touched store agentId today before tree ∧
        ∃ text, nodeAt tree location = some (.file text))
      (fun _ tree => Touched store agentId today before tree) := by
  rintro tree ⟨grown, passable⟩
  have touched : Touched store agentId today before tree := .of_grown grown
  have walked : walk tree [] (store.agentPath agentId ++ [memoryFile today]) =
      .ok (agentLocation store agentId ++ [memoryFile today]) := by
    rw [walk_concat, walk_of_passable passable]
    simp only [Except.bind, passable _ (target_mem [] _), enter, memoryFile_inner, if_false]
    rfl
  obtain ⟨created, refused, opened⟩ := run_openAppend walked
  cases found : nodeAt tree (agentLocation store agentId ++ [memoryFile today]) with
  | none =>
      have away : nodeAt before (agentLocation store agentId ++ [memoryFile today]) ≠
          some .directory := by
        intro there
        rw [grown.directory there] at found
        cases found
      rw [created found]
      refine ⟨rfl, touched.set away [], [], ?_⟩
      rw [nodeAt_set _ (by simp), if_pos rfl]
  | some node =>
      cases node with
      | directory =>
          rw [refused found]
          exact touched
      | file text =>
          rw [opened text found]
          exact ⟨rfl, touched, text, found⟩

theorem ensures_append
    (store : AgentMemoryStore) (agentId content : String)
    (provenance : Option (List (Key × Value))) (createdAt : String) (today : Date)
    (before : MemoryTree) :
    Ensures (fun tree => tree = before)
      (store.append agentId content provenance createdAt today)
      (fun _ tree => Touched store agentId today before tree)
      (fun _ tree => Touched store agentId today before tree) := by
  unfold AgentMemoryStore.append
  refine ensures_bind (ensures_weaken (ensures_agentDir store agentId before)
    (fun _ same => same) (fun _ _ known => known) (fun _ _ known => .of_grown known.1)) ?_
  intro directory
  refine ensures_of_fact ?_
  rintro rfl
  refine ensures_of_fact (fun _ => ?_)
  refine ensures_bind ensures_openAppend ?_
  intro location
  refine ensures_of_fact ?_
  rintro rfl
  refine ensures_bind (ensures_ofExcept (fun _ _ _ known => known)
    (fun _ _ _ known => known.1)) ?_
  intro line
  refine ensures_bind ?_ (fun _ => ensures_pure (fun _ known => known))
  rintro tree ⟨touched, text, found⟩
  have ran : (writeText (agentLocation store agentId ++ [memoryFile today])
      (line ++ ['\n'])).run tree =
        .ok ⟨⟩ (tree.set (agentLocation store agentId ++ [memoryFile today])
          (.file (text ++ (line ++ ['\n'])))) := by
    simp only [writeText, run_bind, EStateM.run_get, found]
    rfl
  rw [ran]
  exact touched.set (touched.not_directory found) _

variable (store) in
/-- What `read` returns, if it does not raise. -/
def returned (agentId : String) (tree : MemoryTree) : Option (List Value) :=
  match (store.read agentId).run tree with
  | .ok entries _ => some entries
  | .error _ _ => none

private theorem returned_eq (tree : MemoryTree) :
    returned store agentId tree =
      match (store.agentDir agentId).run tree with
      | .ok path after => (readDirectory after path).toOption
      | .error _ _ => none := by
  have ran : (store.read agentId).run tree =
      match (store.agentDir agentId).run tree with
      | .ok path after => (ofExcept (readDirectory after path) : MemoryM (List Value)).run after
      | .error problem after => .error problem after := by
    simp only [AgentMemoryStore.read, EStateM.run, bind, EStateM.bind]
    cases store.agentDir agentId tree <;> rfl
  rw [returned, ran]
  cases (store.agentDir agentId).run tree with
  | error problem after => rfl
  | ok path after =>
      simp only [run_ofExcept]
      cases readDirectory after path <;> rfl

/-- What a read returns depends on the files in its way and on those it lists. -/
theorem returned_congr
    (blocked : Blocked before (store.agentPath agentId) ↔ Blocked after (store.agentPath agentId))
    (same : ∀ name, isMemoryName name = true →
      agentLocation store agentId ++ [name] ∉ passes store agentId →
        nodeAt before (agentLocation store agentId ++ [name]) =
          nodeAt after (agentLocation store agentId ++ [name])) :
    returned store agentId before = returned store agentId after := by
  have open_of_passable : ∀ {tree state : MemoryTree},
      Grown (store.agentPath agentId) tree state → Passable state (store.agentPath agentId) →
        ¬Blocked tree (store.agentPath agentId) := by
    rintro tree state grown passable ⟨location, member, text, found⟩
    have directory := passable location (List.mem_cons_of_mem _ member)
    rw [(grown.file_iff location text).mpr found] at directory
    cases directory
  have first := ensures_agentDir store agentId before before rfl
  have second := ensures_agentDir store agentId after after rfl
  rw [returned_eq, returned_eq]
  cases ranFirst : (store.agentDir agentId).run before with
  | error problem state =>
      rw [ranFirst] at first
      cases ranSecond : (store.agentDir agentId).run after with
      | error problem state => rfl
      | ok path state =>
          rw [ranSecond] at second
          obtain ⟨rfl, plain, grown, passable⟩ := second
          rcases first.2 with embedded | stopped
          · exact absurd embedded plain
          · exact absurd (blocked.mp stopped) (open_of_passable grown passable)
  | ok path state =>
      rw [ranFirst] at first
      obtain ⟨rfl, plain, grown, passable⟩ := first
      cases ranSecond : (store.agentDir agentId).run after with
      | error problem state =>
          rw [ranSecond] at second
          rcases second.2 with embedded | stopped
          · exact absurd embedded plain
          · exact absurd (blocked.mpr stopped) (open_of_passable grown passable)
      | ok path other =>
          rw [ranSecond] at second
          obtain ⟨rfl, -, otherGrown, otherPassable⟩ := second
          simp only
          rw [readDirectory_congr passable otherPassable]
          intro name fits
          by_cases inside : agentLocation store agentId ++ [name] ∈ passes store agentId
          · exact (passable _ (List.mem_cons_of_mem _ inside)).trans
              (otherPassable _ (List.mem_cons_of_mem _ inside)).symm
          · have kept : ∀ {tree later : MemoryTree}, Grown (store.agentPath agentId) tree later →
                nodeAt later (agentLocation store agentId ++ [name]) =
                  nodeAt tree (agentLocation store agentId ++ [name]) := by
              intro tree later grown
              rcases grown (agentLocation store agentId ++ [name]) with kept | ⟨-, -, member⟩
              · exact kept
              · exact absurd member inside
            exact (kept grown).trans ((same name fits inside).trans (kept otherGrown).symm)

end Operations

section Isolation

variable (store : AgentMemoryStore)

/-- An append for the first agent on the day meets nothing the second one reads. -/
structure Separated (agentId other : String) (today : Date) : Prop where
  apart : agentLocation store agentId ≠ agentLocation store other
  quiet : ∀ name, isMemoryName name = true →
    agentLocation store other ++ [name] ∈ passes store agentId →
      agentLocation store other ++ [name] <+: store.memoryRoot
  clear : agentLocation store agentId ++ [memoryFile today] ∉ passes store other

/-- The condition on two ids and the day of an append: the system calls refuse an
id, or the first directory lies below the root and the two do not meet. -/
def LeavesAlone (agentId other : String) (today : Date) : Prop :=
  nullChar ∈ agentId.toList ∨
    (store.memoryRoot <+: agentLocation store agentId ∧
      (nullChar ∈ other.toList ∨ Separated store agentId other today))

abbrev MemoryEvent := Machine.Event MemoryTree MemoryCall MemoryReply

/-- The event wrote only below the root, and the other agent reads what it read before. -/
structure Isolated (other : String) (event : MemoryEvent) : Prop where
  contained : ∀ location text, nodeAt event.after location = some (.file text) →
    nodeAt event.before location ≠ some (.file text) →
      store.memoryRoot <+: location ∧ location ≠ store.memoryRoot
  unread : returned store other event.after = returned store other event.before

variable {store} {agentId content createdAt other : String}
  {provenance : Option (List (Key × Value))} {today : Date} {before : MemoryTree}

private theorem touched_outcome :
    Touched store agentId today before
      (outcomeOf (store.append agentId content provenance createdAt today) before).2 := by
  have touched := ensures_append store agentId content provenance createdAt today before before rfl
  unfold outcomeOf
  split
  next ran =>
    rw [ran] at touched
    exact touched
  next ran =>
    rw [ran] at touched
    exact touched

/-- Nothing is written for an id the system calls refuse. -/
private theorem outcome_of_null (embedded : nullChar ∈ agentId.toList) :
    (outcomeOf (store.append agentId content provenance createdAt today) before).2 = before := by
  have refused : (store.agentDir agentId).run before = .error .embeddedNull before := by
    unfold AgentMemoryStore.agentDir
    rw [if_pos embedded]
    rfl
  simp only [outcomeOf, AgentMemoryStore.append, EStateM.run_bind, refused]

private theorem returned_of_null
    (embedded : nullChar ∈ other.toList) (tree : MemoryTree) : returned store other tree = none := by
  have refused : (store.agentDir other).run tree = .error .embeddedNull tree := by
    unfold AgentMemoryStore.agentDir
    rw [if_pos embedded]
    rfl
  rw [returned_eq, refused]

private theorem Touched.returned_eq
    {after : MemoryTree} (touched : Touched store agentId today before after)
    (constructed : Constructed store before) (separated : Separated store agentId other today) :
    returned store other after = returned store other before := by
  refine (returned_congr ?_ ?_).symm
  · have files : ∀ location ∈ passes store other, ∀ text,
        nodeAt before location = some (.file text) ↔ nodeAt after location = some (.file text) := by
      intro location member text
      rcases touched location with same | ⟨none, made, -⟩ | ⟨rfl, -, -⟩
      · rw [same]
      · simp [none, made]
      · exact absurd member separated.clear
    exact exists_congr (fun location => and_congr_right (fun member =>
      exists_congr (fun text => files location member text)))
  · intro name fits _
    rcases touched (agentLocation store other ++ [name]) with same | ⟨none, -, member⟩ | ⟨here, -, -⟩
    · exact same.symm
    · rw [constructed _ (separated.quiet name fits member)] at none
      cases none
    · exact absurd (List.append_inj' here rfl).1 (Ne.symm separated.apart)

/-- A call leaves every directory where it is. -/
theorem directory_memoryStep
    (call : MemoryCall) {location : Location} (there : nodeAt before location = some .directory) :
    nodeAt (memoryStep store before call).2 location = some .directory := by
  cases call with
  | append agentId content provenance createdAt today =>
      rcases (touched_outcome : Touched store agentId today before
        (outcomeOf (store.append agentId content provenance createdAt today) before).2) location
        with same | ⟨none, -, -⟩ | ⟨-, away, -⟩
      · exact same.trans there
      · rw [there] at none
        cases none
      · exact absurd there away
  | read agentId =>
      have known := ensures_agentDir store agentId before before rfl
      show nodeAt (outcomeOf (store.read agentId) before).2 location = some .directory
      simp only [outcomeOf, AgentMemoryStore.read, EStateM.run_bind]
      cases ran : (store.agentDir agentId).run before with
      | error problem after =>
          rw [ran] at known
          exact known.1.directory there
      | ok path after =>
          rw [ran] at known
          have kept := known.2.2.1.directory there
          simp only [EStateM.run_get, run_ofExcept]
          cases readDirectory after path <;> exact kept

theorem constructed_final
    {start : MemoryTree} (constructed : Constructed store start) (calls : List MemoryCall) :
    Constructed store (Machine.final (memoryStep store) start calls) := by
  induction calls generalizing start with
  | nil => exact constructed
  | cons call calls induction =>
      exact induction (fun location above => directory_memoryStep call (constructed location above))

/-- In every run an append leaves alone the ids it is separated from. -/
theorem append_isolated_of_leavesAlone
    (store : AgentMemoryStore) {start : MemoryTree} (constructed : Constructed store start)
    (calls : List MemoryCall) {event : MemoryEvent}
    (member : event ∈ Machine.trace (memoryStep store) start calls)
    {agentId content createdAt other : String} {provenance : Option (List (Key × Value))}
    {today : Date} (call : event.call = .append agentId content provenance createdAt today)
    (alone : LeavesAlone store agentId other today) : Isolated store other event := by
  obtain ⟨early, _, later, -, rfl⟩ := (Machine.mem_trace_iff _).mp member
  have constructed := constructed_final constructed early
  generalize Machine.final (memoryStep store) start early = before at constructed
  have called : _ = MemoryCall.append agentId content provenance createdAt today := call
  subst called
  have touched : Touched store agentId today before
    (outcomeOf (store.append agentId content provenance createdAt today) before).2 :=
    touched_outcome
  rcases alone with embedded | ⟨inside, apart⟩
  · have same : (Machine.eventOf (memoryStep store) before
        (.append agentId content provenance createdAt today)).after = before :=
      outcome_of_null embedded
    exact ⟨fun location text now old => absurd (same ▸ now) old, by rw [same]; rfl⟩
  · refine ⟨?_, ?_⟩
    · intro location text now old
      rcases touched location with same | ⟨-, made, -⟩ | ⟨rfl, -, -⟩
      · exact absurd (same.symm.trans now) old
      · cases made.symm.trans now
      · refine ⟨inside.trans (List.prefix_append _ _), fun root => ?_⟩
        have lengths := inside.length_le
        rw [← root] at lengths
        simp at lengths
    · rcases apart with embedded | separated
      · exact (returned_of_null embedded _).trans (returned_of_null embedded _).symm
      · exact touched.returned_eq constructed separated

end Isolation

section Names

/-- The location of a path of proper names, and the locations it passes. -/
theorem target_of_names
    {path : Path} (names : ∀ name ∈ path, IsName name) (here : Location) :
    target here path = here ++ path ∧
      ∀ location ∈ visited here path, location <+: here ++ path := by
  induction path generalizing here with
  | nil => simp [target, visited]
  | cons name path induction =>
      have entered : enter here name = here ++ [name] := by
        simp [enter, (names name List.mem_cons_self).above]
      obtain ⟨reached, passed⟩ := induction
        (fun other member => names other (List.mem_cons_of_mem _ member)) (here ++ [name])
      have whole : here ++ [name] ++ path = here ++ name :: path := by simp
      refine ⟨?_, ?_⟩
      · rw [← whole, ← reached, ← entered]
        rfl
      · intro location member
        rw [visited, entered] at member
        rw [← whole]
        rcases List.mem_cons.mp member with rfl | later
        · exact List.prefix_append _ _
        · exact passed location later

private theorem agentPath_of_isName
    (store : AgentMemoryStore) {agentId : String} (proper : IsName agentId) :
    store.agentPath agentId = store.memoryRoot ++ [agentId] ++ ["memory"] := by
  have text : pathText [agentId] = agentId := by simp [pathText]
  have alone := pathOf_pathText (List.cons_ne_nil agentId [])
    (fun name member => (List.mem_singleton.mp member) ▸ proper)
  have relative : ¬['/'] <+: agentId.toList :=
    fun slash => proper.single (slash.subset (by simp))
  rw [text] at alone
  rw [AgentMemoryStore.agentPath, alone, if_neg relative]

/-- Different proper names are left alone. -/
theorem leavesAlone_of_isName
    (store : AgentMemoryStore) {agentId other : String} (proper : IsName agentId)
    (otherProper : IsName other) (different : agentId ≠ other) (today : Date) :
    LeavesAlone store agentId other today := by
  have located : ∀ {name : String}, IsName name →
      agentLocation store name = store.memoryRoot ++ [name] ++ ["memory"] ∧
        ∀ location ∈ passes store name,
          location <+: store.memoryRoot ++ [name] ++ ["memory"] := by
    intro name isName
    have names : ∀ part ∈ store.memoryRoot ++ [name] ++ ["memory"], IsName part := by
      intro part member
      rcases List.mem_append.mp member with front | last
      · rcases List.mem_append.mp front with root | here
        · exact store.named part root
        · exact (List.mem_singleton.mp here) ▸ isName
      · rw [List.mem_singleton.mp last]
        decide
    rw [agentLocation, passes, agentPath_of_isName store isName]
    simpa using target_of_names names []
  obtain ⟨location, passed⟩ := located proper
  obtain ⟨otherLocation, otherPassed⟩ := located otherProper
  refine .inr ⟨?_, .inr ⟨?_, ?_, ?_⟩⟩
  · rw [location, List.append_assoc]
    exact List.prefix_append _ _
  · rw [location, otherLocation]
    intro same
    exact different (by simpa using same)
  · intro name _ member
    have lengths := (passed _ member).length_le
    rw [otherLocation] at lengths
    simp at lengths
  · intro member
    have lengths := (otherPassed _ member).length_le
    rw [location] at lengths
    simp at lengths

end Names

def memoryStore : AgentMemoryStore :=
  { memoryRoot := ["memory"]
    named := by decide }

/-- The tree after the store was constructed. -/
def emptyMemory : MemoryTree :=
  Dict.empty.set ["memory"] .directory

def memoryDay : Date :=
  { year := 2026
    month := 1
    day := 2
    yearRange := yearRange_2026
    monthRange := monthRange_january
    dayRange := by decide }

def approvedNote (agentId : String) : MemoryCall :=
  .append agentId "approved" none "2026-01-02T00:00:00Z" memoryDay

private theorem constructed_emptyMemory : Constructed memoryStore emptyMemory := by
  intro location above
  rcases List.prefix_cons_iff.mp above with rfl | ⟨rest, rfl, shorter⟩
  · rfl
  · obtain rfl := List.prefix_nil.mp shorter
    rfl

theorem publisher_left_alone :
    Isolated memoryStore "telegram-publisher"
      (Machine.eventOf (memoryStep memoryStore) emptyMemory (approvedNote "super-advisor")) :=
  append_isolated_of_leavesAlone memoryStore constructed_emptyMemory [approvedNote "super-advisor"]
    (List.mem_singleton.mpr rfl) rfl
    (leavesAlone_of_isName memoryStore (by decide +kernel) (by decide +kernel) (by decide)
      memoryDay)

/-- An id with a slash at its end reads the memory of the id without it. -/
theorem trailing_slash_not_isolated :
    ¬∀ (store : AgentMemoryStore) (start : MemoryTree), Constructed store start →
      ∀ (calls : List MemoryCall), ∀ event ∈ Machine.trace (memoryStep store) start calls,
        ∀ agentId other content provenance createdAt today, agentId ≠ other →
          event.call = .append agentId content provenance createdAt today →
            Isolated store other event := by
  intro isolated
  have unread := (isolated memoryStore emptyMemory constructed_emptyMemory [approvedNote "a"] _
    (List.mem_singleton.mpr rfl) "a" "a/" "approved" none "2026-01-02T00:00:00Z" memoryDay
    (by decide) rfl).unread
  have before : returned memoryStore "a/" emptyMemory = some [] := by decide +kernel
  have after : returned memoryStore "a/"
      (memoryStep memoryStore emptyMemory (approvedNote "a")).2 ≠ some [] := by decide +kernel
  exact after (unread.trans before)

end SuperAdvisor.Persistence
