/-
  Coterie.Workspaces.Integration

  Preparing an integration (`workspace.rs`: `require_linear_result_history`,
  `validate_integration_history`, `integration_candidate`, `rebase_candidate`).  The history of an
  assignment is one commit after the other from the recorded base to the recorded result; rebasing
  replays them on the target, oldest first, and writes every commit but the last.

  What is prepared is a function of the plan: objects that another attempt has written do not
  change it.
-/

import Coterie.Supervisor.Workspaces
import Coterie.Workspaces.Git

namespace Coterie

namespace Git

/-- Why a workspace operation fails. -/
inductive WorkspaceBackendError (Oid : Type) where
  | git (action : String) (path : String) (source : GitError Oid)
  | ambiguousHistory (assignmentId : AssignmentId)
  | integrationConflict (assignmentId : AssignmentId)
  | integrationPlanMismatch (assignmentId : AssignmentId)
deriving DecidableEq, Repr

/-- Why a computation stops: it returns an error, or panics. -/
inductive Halt (Oid : Type) where
  | error (error : WorkspaceBackendError Oid)
  | panic (message : String)
deriving DecidableEq, Repr

/-- The program panics. -/
def Halt.Panics {Oid : Type} : Halt Oid → Prop
  | .error _ => False
  | .panic _ => True

/-- The objects whose publication fails, when they are written or when they are read back. -/
structure Disk (Oid : Type) where
  writes : ObjectType → Oid → Option (GitError Oid)
  reads : ObjectType → Oid → Option (GitError Oid)

/-- A disk on which every object is published. -/
structure Disk.Sound {Oid : Type} (disk : Disk Oid) : Prop where
  writes : ∀ kind oid, disk.writes kind oid = none
  reads : ∀ kind oid, disk.reads kind oid = none

/-- A computation on the objects of a repository.  They stay when it stops. -/
abbrev Work (Oid α : Type) := Tx (Repository Oid) (Halt Oid) α

/-- What an integration publishes: its tree and its commit, with the content when that is new. -/
structure IntegrationCandidate (Oid : Type) where
  treeId : Oid
  targetCommit : Oid
  commitBuffer : Option (Commit Oid)
deriving DecidableEq, Repr

variable {Oid α : Type} [DecidableEq Oid]

/-! ## Validation -/

variable (git : Git Oid)

/-- Accept when single parents lead from a commit to the base. -/
def requireLinearResultHistory (repository : Repository Oid) (workspace : WorkspaceRecord)
    (base current : Oid) : Except (WorkspaceBackendError Oid) Unit :=
  if current = base then .ok ()
  else
    match hfind : git.findCommit repository current with
    | .error source =>
        .error (.git "walk the assignment result history" workspace.path source)
    | .ok commit =>
        match hparents : commit.parents with
        | [parent] => requireLinearResultHistory repository workspace base parent
        | _ => .error (.ambiguousHistory workspace.assignmentId)
termination_by git.generation current
decreasing_by exact findCommit_older hfind (by rw [hparents]; exact List.mem_singleton_self _)

/-- Whether the target is the result or has it in its history. -/
def containsResult (repository : Repository Oid) (target result : Oid) :
    Except (WorkspaceBackendError Oid) Bool :=
  if target = result then .ok true
  else
    (git.graphDescendantOf repository target result).mapError
      (.git "check whether the assignment result is already integrated" repository.path)

/-- Accept a target that has the result, or whose only merge base with the result is the base of
    the assignment. -/
def validateIntegrationHistory (repository : Repository Oid) (workspace : WorkspaceRecord)
    (base result target : Oid) : Except (WorkspaceBackendError Oid) Unit := do
  let _ ← (git.findCommit repository base).mapError
    (.git "resolve the recorded assignment base" repository.path)
  let _ ← (git.findCommit repository result).mapError
    (.git "resolve the recorded assignment result" repository.path)
  let _ ← (git.findCommit repository target).mapError
    (.git "resolve the integration target commit" repository.path)
  if ← containsResult git repository target result then
    pure ()
  else
    let bases ← (git.mergeBases repository target result).mapError
      (.git "resolve the integration merge bases" repository.path)
    if bases = [base] then pure () else throw (.ambiguousHistory workspace.assignmentId)

/-! ## Candidates -/

/-- Ask Git about the objects stored so far. -/
def inspect (action : String) (f : Repository Oid → Except (GitError Oid) α) : Work Oid α :=
  ⟨fun repository =>
    ((f repository).mapError fun source => .error (.git action repository.path source), repository)⟩

/-- Fail when an object is not published. -/
def publish (action : String) (fault : Option (GitError Oid)) : Work Oid Unit :=
  inspect action fun _ => match fault with
    | some source => .error source
    | none => .ok ()

/-- Read an object back through a fresh repository. -/
def verifyPublishedObject (disk : Disk Oid) (kind : ObjectType) (oid : Oid) : Work Oid Unit :=
  publish "verify Git object publication through a fresh repository" (disk.reads kind oid)

/-- Write the tree of a merge. -/
def writeTree (disk : Disk Oid) (action : String) (index : Index Oid) : Work Oid Oid := do
  publish action (disk.writes .tree index.tree)
  verifyPublishedObject disk .tree index.tree
  pure index.tree

/-- Write the commit of a candidate, unless it has been stored before. -/
def IntegrationCandidate.writeCommit (disk : Disk Oid) (workspace : WorkspaceRecord)
    (candidate : IntegrationCandidate Oid) : Work Oid Unit := do
  match candidate.commitBuffer with
  | some buffer => do
      publish "write the integration commit" (disk.writes .commit (git.address buffer))
      Tx.write fun repository => { repository with commits := repository.commits ++ [buffer] }
      Tx.require (.error (.integrationPlanMismatch workspace.assignmentId)) fun _ =>
        git.address buffer = candidate.targetCommit
  | none => pure ()
  verifyPublishedObject disk .commit candidate.targetCommit

/-- The signature of commits that an integration makes. -/
def integrationSignature (integratedAt : Int) : Signature where
  name := "Coterie"
  email := "coterie@localhost"
  time := integratedAt
  offset := 0

/-- The commits from a commit back to the base, newest first. -/
def commitsBack (repository : Repository Oid) (base current : Oid) :
    Except (GitError Oid) (List (Commit Oid)) :=
  if current = base then .ok []
  else
    match hfind : git.findCommit repository current with
    | .error source => .error source
    | .ok commit =>
        match hparents : commit.parents with
        | [] => .error (.failed "parent 0 does not exist")
        | parent :: _ => (commitsBack repository base parent).map (commit :: ·)
termination_by git.generation current
decreasing_by exact findCommit_older hfind (by rw [hparents]; exact List.mem_cons_self)

/-- What is done when a replayed commit cannot be made. -/
def replayAction : String :=
  "replay the assignment commits onto the integration target"

/-- The commit that replaces another one on a new parent. -/
def rebased (signature : Signature) (commit parent : Commit Oid) (tree : Oid) : Commit Oid where
  tree
  parents := [git.address parent]
  author := commit.author
  committer := signature
  message := commit.message
  extraHeaders := []

/-- Replay the remaining commits, oldest first, on a parent. -/
def replay (disk : Disk Oid) (workspace : WorkspaceRecord) (signature : Signature) :
    Commit Oid → List (Commit Oid) → Work Oid (IntegrationCandidate Oid)
  | _, [] => throw (.panic "the already-integrated check handles an unchanged result")
  | parent, commit :: rest => do
      let index ← inspect replayAction fun _ => git.cherrypickCommit commit parent
      Tx.require (.error (.integrationConflict workspace.assignmentId)) fun _ => !index.hasConflicts
      let treeId ← writeTree disk replayAction index
      let _ ← inspect replayAction fun _ => commit.messageRaw
      let buffer := git.rebased signature commit parent treeId
      let candidate : IntegrationCandidate Oid :=
        { treeId, targetCommit := git.address buffer, commitBuffer := some buffer }
      if rest.isEmpty then
        pure candidate
      else
        -- the parent of the next commit has to be stored
        candidate.writeCommit git disk workspace
        let parent ← inspect replayAction fun repository =>
          git.findCommit repository candidate.targetCommit
        replay disk workspace signature parent rest

/-- The candidate that replays the commits of the assignment on the target. -/
def rebaseCandidate (disk : Disk Oid) (workspace : WorkspaceRecord) (base result target : Oid)
    (integratedAt : Int) : Work Oid (IntegrationCandidate Oid) := do
  let commits ← inspect replayAction fun repository => git.commitsBack repository base result
  let parent ← inspect replayAction fun repository => git.findCommit repository target
  git.replay disk workspace (integrationSignature integratedAt) parent commits.reverse

/-- The candidate that merges the result into the target. -/
def mergeCandidate (disk : Disk Oid) (workspace : WorkspaceRecord) (base result target : Oid)
    (integratedAt : Int) : Work Oid (IntegrationCandidate Oid) := do
  let baseCommit ← inspect "resolve the assignment base tree" fun repository =>
    git.findCommit repository base
  let targetCommit ← inspect "resolve the integration target commit" fun repository =>
    git.findCommit repository target
  let resultCommit ← inspect "resolve the assignment result commit" fun repository =>
    git.findCommit repository result
  let index ← inspect "prepare the integration merge" fun _ =>
    git.mergeTrees baseCommit.tree targetCommit.tree resultCommit.tree
  Tx.require (.error (.integrationConflict workspace.assignmentId)) fun _ => !index.hasConflicts
  let treeId ← writeTree disk "write the integration tree" index
  let buffer : Commit Oid :=
    { tree := treeId
      parents := [target, result]
      author := integrationSignature integratedAt
      committer := integrationSignature integratedAt
      message := ("coterie: integrate assignment " ++ workspace.assignmentId.text).toUTF8.toList
      extraHeaders := [] }
  pure { treeId, targetCommit := git.address buffer, commitBuffer := some buffer }

/-- What integrating the result into the target publishes. -/
def integrationCandidate (disk : Disk Oid) (workspace : WorkspaceRecord) (base result target : Oid)
    (integratedAt : Int) (strategy : IntegrationStrategy) :
    Work Oid (IntegrationCandidate Oid) := do
  let integrated ← (⟨fun repository =>
    ((git.containsResult repository target result).mapError .error, repository)⟩ : Work Oid Bool)
  if integrated then
    let commit ← inspect "resolve the integrated target tree" fun repository =>
      git.findCommit repository target
    pure { treeId := commit.tree, targetCommit := target, commitBuffer := none }
  else if target = base then
    let commit ← inspect "resolve the assignment result tree" fun repository =>
      git.findCommit repository result
    pure { treeId := commit.tree, targetCommit := result, commitBuffer := none }
  else
    match strategy with
    | .rebase => git.rebaseCandidate disk workspace base result target integratedAt
    | .merge => git.mergeCandidate disk workspace base result target integratedAt

end Git

end Coterie
