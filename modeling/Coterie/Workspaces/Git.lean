/-
  Coterie.Workspaces.Git

  What the workspace backend uses of Git: commits that are addressed by their content, repositories
  that store them, cherry-picks and merges of trees, and questions about the history.  Only commits
  are stored: a tree is known by its identifier.
-/

import Coterie.Base.Except
import Coterie.Base.History
import Coterie.Base.Tx
import Coterie.Base.Utf8
import Coterie.State.Schema

namespace Coterie

namespace Git

/-! ## Objects -/

/-- Who wrote a commit, and when. -/
structure Signature where
  name : String
  email : String
  time : Int
  offset : Int
deriving DecidableEq, Repr

/-- The content of a commit.  The message has the bytes that are stored. -/
structure Commit (Oid : Type) where
  tree : Oid
  parents : List Oid
  author : Signature
  committer : Signature
  message : List UInt8
  extraHeaders : List String
deriving DecidableEq, Repr

/-- The kind of an object. -/
inductive ObjectType where
  | commit
  | tree
deriving DecidableEq, Repr

/-- Why Git failed. -/
inductive GitError (Oid : Type) where
  | notFound (oid : Oid)
  | invalidUtf8
  | failed (message : String)
deriving DecidableEq, Repr

/-- The outcome of a merge: whether it has conflicts, and the tree that it is written as. -/
structure Index (Oid : Type) where
  hasConflicts : Bool
  tree : Oid
deriving DecidableEq, Repr

/-- The commits that a repository stores. -/
structure Repository (Oid : Type) where
  path : String
  commits : List (Commit Oid)
deriving DecidableEq, Repr

/-- The text of a message. -/
def Commit.messageRaw {Oid : Type} (commit : Commit Oid) :
    Except (GitError Oid) (List UInt8) :=
  if Utf8.Valid commit.message then .ok commit.message else .error .invalidUtf8

/-- The second repository stores what the first one does. -/
structure Repository.Grown {Oid : Type} (repository repository' : Repository Oid) : Prop where
  path : repository'.path = repository.path
  commits : ∀ commit ∈ repository.commits, commit ∈ repository'.commits

end Git

/-! ## Git -/

/-- Git: identifiers are those of contents, merges are functions of their arguments, and what it
    answers about a history is so. -/
structure Git (Oid : Type) extends History.Addressing (@Git.Commit.parents Oid) where
  cherrypickCommit : Git.Commit Oid → Git.Commit Oid → Except (Git.GitError Oid) (Git.Index Oid)
  mergeTrees : Oid → Oid → Oid → Except (Git.GitError Oid) (Git.Index Oid)
  graphDescendantOf : Git.Repository Oid → Oid → Oid → Except (Git.GitError Oid) Bool
  mergeBases : Git.Repository Oid → Oid → Oid → Except (Git.GitError Oid) (List Oid)
  /-- A commit is no descendant of itself. -/
  descends : ∀ repository commit ancestor answer,
    graphDescendantOf repository commit ancestor = .ok answer →
      (answer = true ↔ commit ≠ ancestor ∧ toAddressing.Ancestor ancestor commit)
  /-- An answer stays the answer when objects are added. -/
  descends_grown : ∀ repository repository' commit ancestor answer,
    repository.Grown repository' → graphDescendantOf repository commit ancestor = .ok answer →
      graphDescendantOf repository' commit ancestor = .ok answer
  common : ∀ repository one two bases, mergeBases repository one two = .ok bases →
    ∀ base ∈ bases, toAddressing.Ancestor base one ∧ toAddressing.Ancestor base two

namespace Git

variable {Oid : Type} [DecidableEq Oid] (git : Git Oid)

/-- Find a stored commit. -/
def findCommit (repository : Repository Oid) (oid : Oid) : Except (GitError Oid) (Commit Oid) :=
  match repository.commits.find? fun commit => git.address commit = oid with
  | some commit => .ok commit
  | none => .error (.notFound oid)

variable {git} {repository repository' : Repository Oid} {oid : Oid} {commit : Commit Oid}

theorem findCommit_eq_ok :
    git.findCommit repository oid = .ok commit ↔
      commit ∈ repository.commits ∧ git.address commit = oid := by
  unfold findCommit
  constructor
  · intro h
    cases hfind : repository.commits.find? fun commit => git.address commit = oid with
    | none =>
        rw [hfind] at h
        cases h
    | some found =>
        rw [hfind] at h
        cases h
        exact ⟨List.mem_of_find?_eq_some hfind, by simpa using List.find?_some hfind⟩
  · rintro ⟨hmem, haddress⟩
    cases hfind : repository.commits.find? fun commit => git.address commit = oid with
    | none =>
        have hno := List.find?_eq_none.mp hfind commit hmem
        rw [decide_eq_true_eq] at hno
        exact absurd haddress hno
    | some found =>
        have hfound : git.address found = oid := by simpa using List.find?_some hfind
        rw [git.injective (hfound.trans haddress.symm)]

/-- A commit that is found names its parents by older identifiers. -/
theorem findCommit_older (h : git.findCommit repository oid = .ok commit) {parent : Oid}
    (hparent : parent ∈ commit.parents) : git.generation parent < git.generation oid := by
  rw [← (findCommit_eq_ok.mp h).2]
  exact git.older commit parent hparent

omit [DecidableEq Oid] in
theorem Repository.Grown.refl (repository : Repository Oid) : repository.Grown repository :=
  ⟨rfl, fun _ h => h⟩

omit [DecidableEq Oid] in
theorem Repository.Grown.trans {repository'' : Repository Oid} (h : repository.Grown repository')
    (h' : repository'.Grown repository'') : repository.Grown repository'' :=
  ⟨h'.path.trans h.path, fun commit hmem => h'.commits commit (h.commits commit hmem)⟩

theorem findCommit_grown (hgrown : repository.Grown repository')
    (h : git.findCommit repository oid = .ok commit) :
    git.findCommit repository' oid = .ok commit := by
  obtain ⟨hmem, haddress⟩ := findCommit_eq_ok.mp h
  exact findCommit_eq_ok.mpr ⟨hgrown.commits commit hmem, haddress⟩

end Git

end Coterie
