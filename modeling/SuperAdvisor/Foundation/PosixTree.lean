import SuperAdvisor.Foundation.Dict
import SuperAdvisor.Foundation.FileTree
import SuperAdvisor.Foundation.Raising

/-!
# Paths through a tree of directories

A tree maps locations to files and directories; there are no links.  A path is
walked name by name, and `..` leads back to the directory above.  Making a
directory with all its parents touches only locations the path passes.
-/

namespace PosixTree

open FileTree Raising

/-- The names from the root of the file system. -/
abbrev Location := List String

inductive Node (β : Type) where
  | directory
  | file (content : β)

abbrev Tree (β : Type) := Dict Location (Node β)

/-- The errors of the system calls. -/
inductive PathError where
  | notFound
  | notADirectory
  | fileExists
  | isADirectory
  deriving DecidableEq

abbrev TreeM (β : Type) := EStateM PathError (Tree β)

variable {β : Type}

/-- What stands at a location; the root is always there. -/
def nodeAt (tree : Tree β) (location : Location) : Option (Node β) :=
  if location = [] then some .directory else tree.get? location

def enter (here : Location) (part : String) : Location :=
  if part = ".." then here.dropLast else here ++ [part]

/-- Where a path leads. -/
def target (here : Location) (path : Path) : Location :=
  path.foldl enter here

/-- The locations a path passes. -/
def visited (here : Location) : Path → List Location
  | [] => []
  | part :: parts => enter here part :: visited (enter here part) parts

/-- The walk along a path: every part is looked up in a directory. -/
def walk (tree : Tree β) (here : Location) : Path → Except PathError Location
  | [] => .ok here
  | part :: parts =>
      match nodeAt tree here with
      | some .directory => walk tree (enter here part) parts
      | some (.file _) => .error .notADirectory
      | none => .error .notFound

def isDirectoryAt (tree : Tree β) (path : Path) : Bool :=
  match walk tree [] path with
  | .ok location =>
      match nodeAt tree location with
      | some .directory => true
      | _ => false
  | .error _ => false

/-- `os.mkdir(path)` -/
def makeDirectory (path : Path) : TreeM β Unit := do
  let tree ← get
  let location ← ofExcept (walk tree [] path)
  if path.getLast? = some ".." ∨ (nodeAt tree location).isSome then throw .fileExists
  else set (tree.set location .directory)

/-- The end of `Path.mkdir(exist_ok=True)` after another error. -/
def acceptDirectory (path : Path) (problem : PathError) : TreeM β Unit := do
  if isDirectoryAt (← get) path then pure () else throw problem

/-- `Path.mkdir(exist_ok=True)` -/
def makeExisting (path : Path) : TreeM β Unit :=
  tryCatch (makeDirectory path) (fun problem =>
    match problem with
    | .notFound => throw .notFound
    | problem => acceptDirectory path problem)

/-- `Path.mkdir(parents=True, exist_ok=True)`, of the path in reverse. -/
def makeReversed : Path → TreeM β Unit
  | [] => tryCatch (makeDirectory []) (acceptDirectory [])
  | last :: parents =>
      tryCatch (makeDirectory (last :: parents).reverse) (fun problem =>
        match problem with
        | .notFound => do
            makeReversed parents
            makeExisting (last :: parents).reverse
        | problem => acceptDirectory (last :: parents).reverse problem)

def makeParents (path : Path) : TreeM β Unit :=
  makeReversed path.reverse

/-- The names in a directory. -/
def namesIn (tree : Tree β) (location : Location) : List String :=
  tree.keys.filterMap (fun key =>
    if key ≠ [] ∧ key.dropLast = location then key.getLast? else none)

/-! The walk and the locations it passes. -/

theorem visited_concat (here : Location) (path : Path) (last : String) :
    visited here (path ++ [last]) = visited here path ++ [enter (target here path) last] := by
  induction path generalizing here with
  | nil => rfl
  | cons part path induction => simp [visited, target, induction]

theorem target_concat (here : Location) (path : Path) (last : String) :
    target here (path ++ [last]) = enter (target here path) last := by
  simp [target]

theorem target_mem (here : Location) (path : Path) : target here path ∈ here :: visited here path := by
  induction path using List.reverseRecOn with
  | nil => simp [target]
  | append_singleton path last => simp [visited_concat, target_concat]

/-- With a location the path passes the directory above it. -/
theorem dropLast_mem (path : Path) :
    ∀ location ∈ [] :: visited [] path, location.dropLast ∈ [] :: visited [] path := by
  induction path using List.reverseRecOn with
  | nil => simp [visited]
  | append_singleton path last induction =>
      intro location member
      rw [visited_concat, ← List.cons_append] at member ⊢
      rcases List.mem_append.mp member with early | here
      · exact List.mem_append_left _ (induction location early)
      · obtain rfl : location = enter (target [] path) last := by simpa using here
        have known := target_mem [] path
        refine List.mem_append_left _ ?_
        by_cases back : last = ".."
        · simp only [enter, back, if_true]
          exact induction _ (induction _ known)
        · simpa only [enter, back, if_false, List.dropLast_concat] using known

/-- All the directories a path is looked up in are there. -/
def Passable (tree : Tree β) (path : Path) : Prop :=
  ∀ location ∈ [] :: visited [] path, nodeAt tree location = some .directory

@[simp] theorem nodeAt_root (tree : Tree β) : nodeAt tree [] = some .directory := rfl

theorem walk_concat (tree : Tree β) (here : Location) (path : Path) (last : String) :
    walk tree here (path ++ [last]) =
      (walk tree here path).bind (fun location =>
        match nodeAt tree location with
        | some .directory => .ok (enter location last)
        | some (.file _) => .error .notADirectory
        | none => .error .notFound) := by
  induction path generalizing here with
  | nil => rfl
  | cons part path induction =>
      simp only [List.cons_append, walk]
      split
      · exact induction _
      · rfl
      · rfl

theorem walk_of_passable
    {tree : Tree β} {path : Path} (passable : Passable tree path) :
    walk tree [] path = .ok (target [] path) := by
  induction path using List.reverseRecOn with
  | nil => rfl
  | append_singleton path last induction =>
      have before : Passable tree path := by
        intro location member
        refine passable location ?_
        rw [visited_concat, ← List.cons_append]
        exact List.mem_append_left _ member
      rw [walk_concat, induction before, target_concat]
      simp only [Except.bind, before _ (target_mem [] path)]

/-- A walk that succeeds has seen the directories of the path before its last part. -/
theorem passable_of_walk
    {tree : Tree β} {path : Path} {last : String} {location : Location}
    (walked : walk tree [] (path ++ [last]) = .ok location) : Passable tree path := by
  induction path using List.reverseRecOn generalizing last location with
  | nil =>
      intro other member
      obtain rfl : other = [] := by simpa [visited] using member
      rfl
  | append_singleton path part induction =>
      rw [walk_concat] at walked
      cases before : walk tree [] (path ++ [part]) with
      | error problem =>
          rw [before] at walked
          cases walked
      | ok found =>
          have passable := induction before
          rw [before] at walked
          have here : nodeAt tree found = some .directory := by
            simp only [Except.bind] at walked
            split at walked
            next same => exact same
            next => cases walked
            next => cases walked
          rw [walk_concat, walk_of_passable passable] at before
          simp only [Except.bind, passable _ (target_mem [] path), Except.ok.injEq] at before
          intro other member
          rw [visited_concat, ← List.cons_append] at member
          rcases List.mem_append.mp member with early | at_end
          · exact passable other early
          · obtain rfl : other = found := by
              rw [← before]
              simpa using at_end
            exact here

/-- A walk that fails has met a file, or nothing where it looked. -/
theorem walk_eq_error
    {tree : Tree β} {here : Location} {path : Path} {problem : PathError}
    (failed : walk tree here path = .error problem) :
    problem = .notFound ∨ (problem = .notADirectory ∧ ∃ location ∈ here :: visited here path,
      ∃ content, nodeAt tree location = some (.file content)) := by
  induction path generalizing here with
  | nil => cases failed
  | cons part path induction =>
      unfold walk at failed
      split at failed
      · rcases induction failed with missing | ⟨blocked, location, member, content, found⟩
        · exact .inl missing
        · exact .inr ⟨blocked, location, List.mem_cons_of_mem _ member, content, found⟩
      next content found =>
        cases failed
        exact .inr ⟨rfl, here, by simp, content, found⟩
      · cases failed
        exact .inl rfl

/-! Making directories. -/

/-- Nothing but new directories on the way of the path. -/
def Grown (path : Path) (before after : Tree β) : Prop :=
  ∀ location, nodeAt after location = nodeAt before location ∨
    (nodeAt before location = none ∧ nodeAt after location = some .directory ∧
      location ∈ visited [] path)

/-- A file stands where the path passes. -/
def Blocked (tree : Tree β) (path : Path) : Prop :=
  ∃ location ∈ visited [] path, ∃ content, nodeAt tree location = some (.file content)

variable {path : Path} {before after tree : Tree β} {location : Location}

theorem Grown.refl (path : Path) (tree : Tree β) : Grown path tree tree :=
  fun _ => .inl rfl

theorem Grown.trans
    {last : Tree β} (first : Grown path before after) (second : Grown path after last) :
    Grown path before last := by
  intro location
  rcases second location with same | ⟨none, made, member⟩
  · rw [same]
    exact first location
  · rcases first location with kept | ⟨-, directory, -⟩
    · exact .inr ⟨kept ▸ none, made, member⟩
    · rw [none] at directory
      cases directory

theorem Grown.concat (grown : Grown path before after) (last : String) :
    Grown (path ++ [last]) before after := by
  intro location
  refine (grown location).imp id (fun made => ⟨made.1, made.2.1, ?_⟩)
  rw [visited_concat]
  exact List.mem_append_left _ made.2.2

theorem Grown.file_iff (grown : Grown path before after) (location : Location) (content : β) :
    nodeAt after location = some (.file content) ↔ nodeAt before location = some (.file content) := by
  rcases grown location with same | ⟨none, made, -⟩
  · rw [same]
  · simp [none, made]

theorem Grown.directory
    (grown : Grown path before after) (there : nodeAt before location = some .directory) :
    nodeAt after location = some .directory := by
  rcases grown location with same | ⟨-, made, -⟩
  · rw [same, there]
  · exact made

theorem nodeAt_set (tree : Tree β) {location : Location} (inner : location ≠ []) (node : Node β)
    (other : Location) :
    nodeAt (tree.set location node) other =
      if other = location then some node else nodeAt tree other := by
  by_cases same : other = location
  · subst same
    simpa [nodeAt, inner, Dict.get?, Dict.set] using OrderedDict.get?_set_self _ _ _
  · simp only [nodeAt, Dict.get?, Dict.set, same, if_false]
    rw [OrderedDict.get?_set_of_ne _ _ same]

section Making

variable {last : String}

private theorem last_mem (path : Path) (last : String) :
    enter (target [] path) last ∈ visited [] (path ++ [last]) := by
  rw [visited_concat]
  exact List.mem_append_right _ (by simp)

private theorem passable_concat
    (passable : Passable tree path)
    (there : nodeAt tree (enter (target [] path) last) = some .directory) :
    Passable tree (path ++ [last]) := by
  intro location member
  rw [visited_concat, ← List.cons_append] at member
  rcases List.mem_append.mp member with early | here
  · exact passable location early
  · obtain rfl : location = enter (target [] path) last := by simpa using here
    exact there

/-- Whether the last part of a path is a directory. -/
private theorem isDirectoryAt_concat (passable : Passable tree path) :
    isDirectoryAt tree (path ++ [last]) = true ↔
      nodeAt tree (enter (target [] path) last) = some .directory := by
  have walked : walk tree [] (path ++ [last]) = .ok (enter (target [] path) last) := by
    rw [walk_concat, walk_of_passable passable]
    simp only [Except.bind, passable _ (target_mem [] path)]
  rw [isDirectoryAt, walked]
  rcases found : nodeAt tree (enter (target [] path) last) with _ | ⟨_ | content⟩ <;>
    simp [found]

/-- What holds when the directories above the last part are there. -/
private theorem ensures_makeLast
    (handle : PathError → TreeM β Unit)
    (accepts : handle .fileExists = acceptDirectory (path ++ [last]) .fileExists) :
    Ensures (fun state => state = before ∧ Passable before path)
      (tryCatch (makeDirectory (path ++ [last])) handle)
      (fun _ state => Grown (path ++ [last]) before state ∧ Passable state (path ++ [last]))
      (fun _ state => Grown (path ++ [last]) before state ∧ Blocked before (path ++ [last])) := by
  rintro state ⟨rfl, passable⟩
  have walked : walk state [] (path ++ [last]) = .ok (enter (target [] path) last) := by
    rw [walk_concat, walk_of_passable passable]
    simp only [Except.bind, passable _ (target_mem [] path)]
  rw [run_tryCatch]
  have ran : (makeDirectory (path ++ [last])).run state =
      if last = ".." ∨ (nodeAt state (enter (target [] path) last)).isSome then
        .error .fileExists state
      else .ok () (state.set (enter (target [] path) last) .directory) := by
    show (ofExcept (walk state [] (path ++ [last])) >>= fun location =>
      if (path ++ [last]).getLast? = some ".." ∨ (nodeAt state location).isSome
      then throw .fileExists else set (state.set location .directory) : TreeM β Unit).run state = _
    rw [walked, List.getLast?_concat]
    by_cases there : last = ".." ∨ (nodeAt state (enter (target [] path) last)).isSome
    · rw [if_pos there]
      show EStateM.run (if some last = some ".." ∨ _ then _ else _) state = _
      rw [if_pos (by simpa using there)]
      rfl
    · rw [if_neg there]
      show EStateM.run (if some last = some ".." ∨ _ then _ else _) state = _
      rw [if_neg (by simpa using there)]
      rfl
  rw [ran]
  have accept : ∀ problem, (acceptDirectory (path ++ [last]) problem).run state =
      if isDirectoryAt state (path ++ [last]) then .ok () state else .error problem state := by
    intro problem
    show EStateM.run (if isDirectoryAt state (path ++ [last]) then pure () else throw problem)
      state = _
    split <;> rfl
  by_cases there : nodeAt state (enter (target [] path) last) = some .directory
  · simp only [there, Option.isSome_some, or_true, if_true, accepts, accept,
      (isDirectoryAt_concat passable).mpr there]
    exact ⟨.refl _ _, passable_concat passable there⟩
  have inner : last ≠ ".." := by
    rintro rfl
    refine there (passable _ ?_)
    simpa [enter] using dropLast_mem path _ (target_mem [] path)
  have noDirectory : isDirectoryAt state (path ++ [last]) = false :=
    Bool.eq_false_iff.mpr (fun same => there ((isDirectoryAt_concat passable).mp same))
  cases found : nodeAt state (enter (target [] path) last) with
  | some node =>
      simp only [Option.isSome_some, or_true, if_true, accepts, accept, noDirectory]
      refine ⟨.refl _ _, _, last_mem path last, ?_⟩
      cases node with
      | directory => exact absurd found there
      | file content => exact ⟨content, found⟩
  | none =>
      simp only [inner, Option.isSome_none, Bool.false_eq_true, or_self, if_false]
      have nonempty : enter (target [] path) last ≠ [] := by
        intro root
        rw [root] at found
        cases found
      have grown : Grown (path ++ [last]) state
          (state.set (enter (target [] path) last) .directory) := by
        intro location
        rw [nodeAt_set _ nonempty]
        split
        next same => exact .inr ⟨same ▸ found, rfl, same ▸ last_mem path last⟩
        next => exact .inl rfl
      refine ⟨grown, passable_concat (fun location member => grown.directory (passable location member)) ?_⟩
      rw [nodeAt_set _ nonempty, if_pos rfl]

private theorem ensures_makeExisting :
    Ensures (fun state => state = before ∧ Passable before path)
      (makeExisting (path ++ [last]))
      (fun _ state => Grown (path ++ [last]) before state ∧ Passable state (path ++ [last]))
      (fun _ state => Grown (path ++ [last]) before state ∧ Blocked before (path ++ [last])) := by
  unfold makeExisting
  exact ensures_makeLast _ rfl

private theorem Blocked.of_grown
    {state : Tree β} (blocked : Blocked state path) {first : Path}
    (grown : Grown first before state) : Blocked before path := by
  obtain ⟨location, member, content, found⟩ := blocked
  exact ⟨location, member, content, (grown.file_iff location content).mp found⟩

theorem ensures_makeReversed (reversed : Path) (before : Tree β) :
    Ensures (fun state => state = before) (makeReversed reversed)
      (fun _ state => Grown reversed.reverse before state ∧ Passable state reversed.reverse)
      (fun _ state => Grown reversed.reverse before state ∧ Blocked before reversed.reverse) := by
  induction reversed generalizing before with
  | nil =>
      rintro state rfl
      refine ⟨.refl _ _, fun location member => ?_⟩
      obtain rfl : location = [] := by simpa [visited] using member
      rfl
  | cons last parents induction =>
      have split : (last :: parents).reverse = parents.reverse ++ [last] := List.reverse_cons
      unfold makeReversed
      rw [split]
      by_cases passable : Passable before parents.reverse
      · exact ensures_weaken (ensures_makeLast _ rfl) (fun _ same => ⟨same, passable⟩)
          (fun _ _ known => known) (fun _ _ known => known)
      -- the walk to the last part fails
      rintro state rfl
      cases walked : walk state [] (parents.reverse ++ [last]) with
      | ok location => exact absurd (passable_of_walk walked) passable
      | error problem =>
          have failed : (makeDirectory (parents.reverse ++ [last])).run state =
              .error problem state := by
            show (ofExcept (walk state [] (parents.reverse ++ [last])) >>= _ :
              TreeM β Unit).run state = _
            rw [walked]
            rfl
          rw [run_tryCatch, failed]
          rcases walk_eq_error walked with rfl | ⟨rfl, location, member, content, found⟩
          · refine ensures_bind (ensures_weaken (induction state) (fun _ same => same)
              (fun _ _ known => known) ?_) ?_ state rfl
            · rintro _ after ⟨grown, location, member, content, found⟩
              refine ⟨grown.concat last, location, ?_, content, found⟩
              rw [visited_concat]
              exact List.mem_append_left _ member
            · rintro ⟨⟩ middle ⟨grown, passable⟩
              refine ensures_weaken ensures_makeExisting (fun _ known => known) ?_ ?_
                middle ⟨rfl, passable⟩
              · rintro _ after ⟨further, there⟩
                exact ⟨(grown.concat last).trans further, there⟩
              · rintro _ after ⟨further, blocked⟩
                exact ⟨(grown.concat last).trans further, blocked.of_grown grown⟩
          · have noDirectory : isDirectoryAt state (parents.reverse ++ [last]) = false := by
              rw [isDirectoryAt, walked]
            have rejects : (acceptDirectory (parents.reverse ++ [last]) .notADirectory).run state =
                .error .notADirectory state := by
              show EStateM.run (if isDirectoryAt state (parents.reverse ++ [last])
                then pure () else throw PathError.notADirectory) state = _
              rw [noDirectory]
              rfl
            simp only [rejects]
            refine ⟨.refl _ _, location, ?_, content, found⟩
            rcases List.mem_cons.mp member with rfl | later
            · cases found
            · exact later

/-- A path is made, or a file is in its way; nothing else changes. -/
theorem ensures_makeParents (path : Path) (before : Tree β) :
    Ensures (fun state => state = before) (makeParents path)
      (fun _ state => Grown path before state ∧ Passable state path)
      (fun _ state => Grown path before state ∧ Blocked before path) := by
  simpa only [makeParents, List.reverse_reverse] using ensures_makeReversed path.reverse before

end Making

end PosixTree
