import SuperAdvisor.Events.CanonicalJson
import SuperAdvisor.Foundation.Raising
import SuperAdvisor.Foundation.TypedFields

/-!
# The store of skill candidates

A candidate is one file of canonical JSON with a digest of its other fields.
A transition loads it, checks the move and writes it back; evidence that a
call does not give is kept from earlier ones.
-/

namespace SuperAdvisor

open Python

structure SkillCandidate where
  candidateId : String
  skillId : String
  state : String
  createdAtUtc : String
  updatedAtUtc : String
  proposerAgent : String
  evidence : List (Key × Value)
  testResult : Option (List (Key × Value))
  reviewer : Option String
  releaseVersion : Option String
  rollbackReference : Option String
  integrityHash : String

namespace SkillCandidate

/-- The fields under the digest. -/
def content (candidate : SkillCandidate) : List (String × Value) :=
  [("candidate_id", .str candidate.candidateId),
    ("skill_id", .str candidate.skillId),
    ("state", .str candidate.state),
    ("created_at_utc", .str candidate.createdAtUtc),
    ("updated_at_utc", .str candidate.updatedAtUtc),
    ("proposer_agent", .str candidate.proposerAgent),
    ("evidence", .dict candidate.evidence),
    ("test_result", optionalDict candidate.testResult),
    ("reviewer", optionalText candidate.reviewer),
    ("release_version", optionalText candidate.releaseVersion),
    ("rollback_reference", optionalText candidate.rollbackReference)]

def withHash (candidate : SkillCandidate) (hash : String) : SkillCandidate :=
  { candidate with integrityHash := hash }

/-- `candidate.__dict__` -/
def payload (candidate : SkillCandidate) : List (String × Value) :=
  candidate.content ++ [("integrity_hash", .str candidate.integrityHash)]

/-- `SkillCandidate(**payload)`, once the file is read. -/
def ofText (text : List Char) : Except RecordProblem SkillCandidate := do
  let value ← match loads text with
    | some value => .ok value
    | none => .error .undecodable
  let data ← typedDict "payload" value
  if !data.all (fun entry => decide (entry.1 ∈
      ["candidate_id", "skill_id", "state", "created_at_utc", "updated_at_utc",
        "proposer_agent", "evidence", "test_result", "reviewer", "release_version",
        "rollback_reference", "integrity_hash"].map Key.str)) then
    .error .badArguments
  else
    let candidateId ← readArgument data "candidate_id" >>= typedText "candidate_id"
    let skillId ← readArgument data "skill_id" >>= typedText "skill_id"
    let state ← readArgument data "state" >>= typedText "state"
    let createdAtUtc ← readArgument data "created_at_utc" >>= typedText "created_at_utc"
    let updatedAtUtc ← readArgument data "updated_at_utc" >>= typedText "updated_at_utc"
    let proposerAgent ← readArgument data "proposer_agent" >>= typedText "proposer_agent"
    let evidence ← readArgument data "evidence" >>= typedDict "evidence"
    let testResult ← readArgument data "test_result" >>= typedOptionalDict "test_result"
    let reviewer ← readArgument data "reviewer" >>= typedOptional "reviewer"
    let releaseVersion ← readArgument data "release_version" >>= typedOptional "release_version"
    let rollbackReference ←
      readArgument data "rollback_reference" >>= typedOptional "rollback_reference"
    let integrityHash ← readArgument data "integrity_hash" >>= typedText "integrity_hash"
    .ok
      { candidateId := candidateId
        skillId := skillId
        state := state
        createdAtUtc := createdAtUtc
        updatedAtUtc := updatedAtUtc
        proposerAgent := proposerAgent
        evidence := evidence
        testResult := testResult
        reviewer := reviewer
        releaseVersion := releaseVersion
        rollbackReference := rollbackReference
        integrityHash := integrityHash }

end SkillCandidate

/-- The digest of a text, and the file that the path of a candidate names: none
if it cannot be opened. -/
structure SkillLibrary where
  sha256Hex : List Char → String
  fileOf : (candidateId : String) → Option String

/-- The files of the directory and their texts. -/
abbrev SkillStore := List (String × List Char)

abbrev SkillM := EStateM RecordProblem SkillStore

/-- `given or current` -/
def textOr (given current : Option String) : Option String :=
  match given with
  | some text => if text = "" then current else some text
  | none => current

/-- `given or current` -/
def dictOr (given current : Option (List (Key × Value))) : Option (List (Key × Value)) :=
  match given with
  | some (entry :: entries) => some (entry :: entries)
  | _ => current

def skillTransitions : List (String × List String) :=
  [("CANDIDATE", ["TESTED", "REJECTED"]),
    ("TESTED", ["APPROVED", "REJECTED"]),
    ("APPROVED", ["RELEASED", "REJECTED"]),
    ("RELEASED", ["ROLLED_BACK"])]

section Store

variable (library : SkillLibrary)

/-- `_fingerprint` of the fields under the digest. -/
def contentHash (candidate : SkillCandidate) : Except RecordProblem String := do
  let text ← (canonicalJson (.dict (named candidate.content))).mapError .json
  .ok (String.ofList ((library.sha256Hex text).toList.take 12))

namespace SkillStore

/-- `_write`: the text is complete before the file is opened. -/
def write (candidate : SkillCandidate) : SkillM SkillCandidate := do
  let hash ← ofExcept (contentHash library candidate)
  let written := candidate.withHash hash
  let text ← ofExcept ((canonicalJson (.dict (named written.payload))).mapError .json)
  match library.fileOf candidate.candidateId with
  | none => throw .fileNotFound
  | some file =>
      modify (fun store => OrderedDict.set store file (text ++ ['\n']))
      pure written

def load (store : SkillStore) (candidateId : String) : Except RecordProblem SkillCandidate :=
  match (library.fileOf candidateId).bind (OrderedDict.get? store) with
  | none => .error .fileNotFound
  | some text => SkillCandidate.ofText text

/-- The arguments of `create`, and the two readings of the clock. -/
structure Proposal where
  skillId : String
  proposerAgent : String
  evidence : List (Key × Value)
  createdAt : String
  updatedAt : String

def Proposal.candidate (proposal : Proposal) (store : SkillStore) : SkillCandidate :=
  { candidateId := "skill-" ++ intText (store.length + 1)
    skillId := proposal.skillId
    state := "CANDIDATE"
    createdAtUtc := proposal.createdAt
    updatedAtUtc := proposal.updatedAt
    proposerAgent := proposal.proposerAgent
    evidence := proposal.evidence
    testResult := none
    reviewer := none
    releaseVersion := none
    rollbackReference := none
    integrityHash := "" }

def create (proposal : Proposal) : SkillM SkillCandidate := do
  let store ← get
  write library (proposal.candidate store)

/-- The arguments of `transition`, and the reading of the clock. -/
structure Move where
  candidateId : String
  state : String
  reviewer : Option String
  testResult : Option (List (Key × Value))
  releaseVersion : Option String
  rollbackReference : Option String
  now : String

def checkMove (current : SkillCandidate) (move : Move) : Except RecordProblem Unit :=
  match OrderedDict.get? skillTransitions current.state with
  | some allowed =>
      if move.state ∈ allowed then .ok ()
      else .error (.valueError ("invalid skill candidate transition: " ++ current.state ++
        " -> " ++ move.state))
  | none => .error (.valueError ("invalid skill candidate transition: " ++ current.state ++
      " -> " ++ move.state))

def moved (current : SkillCandidate) (move : Move) : SkillCandidate :=
  { candidateId := current.candidateId
    skillId := current.skillId
    state := move.state
    createdAtUtc := current.createdAtUtc
    updatedAtUtc := move.now
    proposerAgent := current.proposerAgent
    evidence := current.evidence
    testResult := dictOr move.testResult current.testResult
    reviewer := textOr move.reviewer current.reviewer
    releaseVersion := textOr move.releaseVersion current.releaseVersion
    rollbackReference := textOr move.rollbackReference current.rollbackReference
    integrityHash := "" }

def transition (move : Move) : SkillM SkillCandidate := do
  let store ← get
  let current ← ofExcept (load library store move.candidateId)
  ofExcept (checkMove current move)
  write library (moved current move)

structure Validation where
  candidateId : String
  state : String
  valid : Bool
  candidate : SkillCandidate

def validate (store : SkillStore) (candidateId : String) : Except RecordProblem Validation := do
  let candidate ← load library store candidateId
  let expectedHash ← contentHash library candidate
  .ok
    { candidateId := candidateId
      state := candidate.state
      valid := decide (candidate.integrityHash = expectedHash)
      candidate := candidate }

/-! A call of the store. -/

inductive Call where
  | create (proposal : Proposal)
  | transition (move : Move)

def Call.perform : Call → SkillM SkillCandidate
  | .create proposal => SkillStore.create library proposal
  | .transition move => SkillStore.transition library move

def step (store : SkillStore) (call : Call) :
    Except RecordProblem SkillCandidate × SkillStore :=
  match (call.perform library).run store with
  | .ok candidate after => (.ok candidate, after)
  | .error problem after => (.error problem, after)

end SkillStore

end Store

end SuperAdvisor
