/-
  Coterie.Workspaces.Rebase

  Rebasing replays exactly the commits of an assignment.  `Replays` is what the new commits have to
  be; the loop makes them, and whenever it makes a candidate it is the last of them, so that another
  attempt, on a repository that has only grown, makes the same one.
-/

import Coterie.Workspaces.Integration

namespace Coterie

namespace Git

variable {Oid : Type} [DecidableEq Oid] {git : Git Oid} {repository repository' : Repository Oid}
  {workspace : WorkspaceRecord} {base result target : Oid}

/-! ## The history of an assignment -/

/-- The stored commits that lead from the base to a commit. -/
def Stored (git : Git Oid) (repository : Repository Oid) (base : Oid)
    (commits : List (Commit Oid)) (tip : Oid) : Prop :=
  git.Linear base commits tip ∧ ∀ commit ∈ commits, commit ∈ repository.commits

omit [DecidableEq Oid] in
theorem Stored.grown {commits : List (Commit Oid)} (h : git.Stored repository base commits result)
    (hgrown : repository.Grown repository') : git.Stored repository' base commits result :=
  ⟨h.1, fun commit hmem => hgrown.commits commit (h.2 commit hmem)⟩

/-- A history is accepted exactly when single parents lead from its tip to the base. -/
theorem requireLinearResultHistory_eq_ok {current : Oid} :
    git.requireLinearResultHistory repository workspace base current = .ok () ↔
      ∃ commits, git.Stored repository base commits current := by
  constructor
  · intro h
    fun_induction requireLinearResultHistory git repository workspace base current with
    | case1 => exact ⟨[], .base, fun _ hmem => absurd hmem List.not_mem_nil⟩
    | case2 => cases h
    | case3 current hne commit hfind parent hparents ih =>
        obtain ⟨commits, hlinear, hstored⟩ := ih h
        obtain ⟨hmem, haddress⟩ := findCommit_eq_ok.mp hfind
        refine ⟨commits ++ [commit], ?_, ?_⟩
        · rw [← haddress]
          exact hlinear.next hparents
        · intro other hother
          rcases List.mem_append.mp hother with hother | hother
          · exact hstored other hother
          · rw [List.mem_singleton.mp hother]
            exact hmem
    | case4 => cases h
  · rintro ⟨commits, hlinear, hstored⟩
    induction hlinear with
    | base =>
        rw [requireLinearResultHistory, if_pos rfl]
    | next hlinear hparents ih =>
        rename_i front tip commit
        have hne : git.address commit ≠ base := by
          intro heq
          have hlt := hlinear.generation_lt hparents
          rw [heq] at hlt
          exact Nat.lt_irrefl _ hlt
        have hfind : git.findCommit repository (git.address commit) = .ok commit :=
          findCommit_eq_ok.mpr ⟨hstored commit (by simp), rfl⟩
        rw [requireLinearResultHistory, if_neg hne]
        split
        · next source herror =>
            rw [hfind] at herror
            cases herror
        · next found hok =>
            rw [hfind] at hok
            cases hok
            split
            · next parent hparent =>
                rw [hparents, List.singleton_inj] at hparent
                rw [← hparent]
                exact ih fun other hother => hstored other (List.mem_append_left _ hother)
            · next hno => exact absurd hparents (hno tip)

/-- The commits that are walked back are those of the history, newest first. -/
theorem commitsBack_of_stored {commits : List (Commit Oid)}
    (h : git.Stored repository base commits result) :
    git.commitsBack repository base result = .ok commits.reverse := by
  obtain ⟨hlinear, hstored⟩ := h
  induction hlinear with
  | base => rw [commitsBack, if_pos rfl, List.reverse_nil]
  | next hlinear hparents ih =>
      rename_i front tip commit
      have hne : git.address commit ≠ base := by
        intro heq
        have hlt := hlinear.generation_lt hparents
        rw [heq] at hlt
        exact Nat.lt_irrefl _ hlt
      have hfind : git.findCommit repository (git.address commit) = .ok commit :=
        findCommit_eq_ok.mpr ⟨hstored commit (by simp), rfl⟩
      rw [commitsBack, if_neg hne]
      split
      · next source herror =>
          rw [hfind] at herror
          cases herror
      · next found hok =>
          rw [hfind] at hok
          cases hok
          split
          · next hnil =>
              rw [hparents] at hnil
              cases hnil
          · next parent others hcons =>
              rw [hparents] at hcons
              cases hcons
              rw [ih fun other hother => hstored other (List.mem_append_left _ hother),
                List.reverse_append]
              rfl

/-- Whether the target has the result is answered as it is. -/
theorem containsResult_eq_ok {answer : Bool}
    (h : git.containsResult repository target result = .ok answer) :
    answer = true ↔ git.Ancestor result target := by
  unfold containsResult at h
  by_cases heq : target = result
  · rw [if_pos heq] at h
    cases h
    rw [heq]
    exact ⟨fun _ => .refl, fun _ => rfl⟩
  · rw [if_neg heq] at h
    cases hanswer : git.graphDescendantOf repository target result with
    | error source =>
        rw [hanswer] at h
        cases h
    | ok found =>
        rw [hanswer] at h
        cases h
        rw [git.descends _ _ _ _ hanswer]
        exact ⟨fun hdescends => hdescends.2, fun hancestor => ⟨heq, hancestor⟩⟩

theorem containsResult_grown {answer : Bool} (hgrown : repository.Grown repository')
    (h : git.containsResult repository target result = .ok answer) :
    git.containsResult repository' target result = .ok answer := by
  unfold containsResult at h ⊢
  by_cases heq : target = result
  · rw [if_pos heq] at h ⊢
    exact h
  · rw [if_neg heq] at h ⊢
    cases hanswer : git.graphDescendantOf repository target result with
    | error source =>
        rw [hanswer] at h
        cases h
    | ok found =>
        rw [hanswer] at h
        rw [git.descends_grown _ _ _ _ _ hgrown hanswer]
        exact h

/-- The target of an accepted history is stored, and has the result or the base in its history. -/
theorem validateIntegrationHistory_eq_ok
    (h : git.validateIntegrationHistory repository workspace base result target = .ok ()) :
    (∃ commit, git.findCommit repository target = .ok commit) ∧
      (git.Ancestor result target ∨ git.Ancestor base target) := by
  unfold validateIntegrationHistory at h
  obtain ⟨_, -, h⟩ := Except.bind_eq_ok.mp h
  obtain ⟨_, -, h⟩ := Except.bind_eq_ok.mp h
  obtain ⟨commit, htarget, h⟩ := Except.bind_eq_ok.mp h
  obtain ⟨answer, hanswer, h⟩ := Except.bind_eq_ok.mp h
  refine ⟨⟨commit, Except.mapError_eq_ok.mp htarget⟩, ?_⟩
  cases answer with
  | true => exact .inl ((containsResult_eq_ok hanswer).mp rfl)
  | false =>
      obtain ⟨bases, hbases, h⟩ := Except.bind_eq_ok.mp h
      by_cases heq : bases = [base]
      · have hcommon := git.common _ _ _ _ (Except.mapError_eq_ok.mp hbases) base
          (by rw [heq]; exact List.mem_singleton_self _)
        exact .inr hcommon.1
      · rw [if_neg heq] at h
        cases h

/-! ## Replaying -/

/-- The commits that replace others on a parent: each has the tree of the cherry-pick, the author and
    the message of the commit that it replaces, and the one before it as its only parent. -/
inductive Replays (git : Git Oid) (signature : Signature) :
    Commit Oid → List (Commit Oid) → List (Commit Oid) → Prop where
  | done (parent : Commit Oid) : Replays git signature parent [] []
  | next {parent commit : Commit Oid} {rest new : List (Commit Oid)} {tree : Oid} :
      git.cherrypickCommit commit parent = .ok ⟨false, tree⟩ → Utf8.Valid commit.message →
        Replays git signature (git.rebased signature commit parent tree) rest new →
          Replays git signature parent (commit :: rest)
            (git.rebased signature commit parent tree :: new)

/-- The candidate of a list of new commits: the last of them. -/
def lastOf (new : List (Commit Oid)) (candidate : IntegrationCandidate Oid) : Prop :=
  ∃ last, new.getLast? = some last ∧
    candidate = ⟨last.tree, git.address last, some last⟩

namespace Replays

variable {signature : Signature} {parent : Commit Oid} {commits new new' : List (Commit Oid)}

omit [DecidableEq Oid] in
/-- There is one way to replay commits. -/
theorem unique (h : git.Replays signature parent commits new)
    (h' : git.Replays signature parent commits new') : new = new' := by
  induction h generalizing new' with
  | done => cases h'; rfl
  | next hpick _ _ ih =>
      cases h' with
      | next hpick' _ hrest' =>
          rw [hpick] at hpick'
          cases hpick'
          rw [ih hrest']

omit [DecidableEq Oid] in
/-- Every commit is replaced by one with its author and its message. -/
theorem forall₂ (h : git.Replays signature parent commits new) :
    List.Forall₂ (fun commit replaced =>
      replaced.author = commit.author ∧ replaced.message = commit.message) commits new := by
  induction h with
  | done => exact .nil
  | next _ _ _ ih => exact .cons ⟨rfl, rfl⟩ ih

omit [DecidableEq Oid] in
/-- The new commits are a linear history above the parent. -/
theorem linear (h : git.Replays signature parent commits new) {last : Commit Oid}
    (hlast : new.getLast? = some last) :
    git.Linear (git.address parent) new (git.address last) := by
  induction h with
  | done => cases hlast
  | next _ _ hrest ih =>
      rename_i parent commit rest new tree _ _
      cases hrest with
      | done =>
          cases hlast
          exact History.Addressing.Linear.cons rfl .base
      | next =>
          rw [List.getLast?_cons_cons] at hlast
          exact History.Addressing.Linear.cons rfl (ih hlast)

end Replays

/-! ## The steps of an attempt -/

section

variable {α : Type} {action : String} {disk : Disk Oid} {signature : Signature}
  {parent : Commit Oid} {commits new : List (Commit Oid)} {candidate : IntegrationCandidate Oid}

omit [DecidableEq Oid] in
theorem inspect_eq_ok {f : Repository Oid → Except (GitError Oid) α} {a : α} :
    (inspect action f).run repository = (.ok a, repository') ↔
      f repository = .ok a ∧ repository' = repository := by
  unfold inspect
  rw [Prod.mk.injEq, Except.mapError_eq_ok]
  exact and_congr_right fun _ => eq_comm

omit [DecidableEq Oid] in
theorem publish_eq_ok {fault : Option (GitError Oid)} {u : Unit} :
    (publish action fault).run repository = (.ok u, repository') ↔
      fault = none ∧ repository' = repository := by
  unfold publish
  rw [inspect_eq_ok]
  cases fault with
  | none => simp
  | some source => simp

omit [DecidableEq Oid] in
theorem writeTree_eq_ok {index : Index Oid} {tree : Oid} :
    (writeTree disk action index).run repository = (.ok tree, repository') ↔
      disk.writes .tree index.tree = none ∧ disk.reads .tree index.tree = none ∧
        tree = index.tree ∧ repository' = repository := by
  unfold writeTree verifyPublishedObject
  constructor
  · intro h
    obtain ⟨_, written, hwrite, hrest⟩ := Tx.bind_eq_ok.mp h
    obtain ⟨hwrites, hwritten⟩ := publish_eq_ok.mp hwrite
    obtain ⟨_, verified, hread, hlast⟩ := Tx.bind_eq_ok.mp hrest
    obtain ⟨hreads, hverified⟩ := publish_eq_ok.mp hread
    obtain ⟨htree, hsame⟩ := Tx.pure_eq_ok.mp hlast
    exact ⟨hwrites, hreads, htree.symm, by rw [← hsame, hverified, hwritten]⟩
  · rintro ⟨hwrites, hreads, rfl, rfl⟩
    refine Tx.bind_eq_ok.mpr ⟨(), repository', publish_eq_ok.mpr ⟨hwrites, rfl⟩, ?_⟩
    exact Tx.bind_eq_ok.mpr ⟨(), repository', publish_eq_ok.mpr ⟨hreads, rfl⟩, rfl⟩

/-- A commit that is written is stored. -/
theorem writeCommit_eq_ok {tree : Oid} {buffer : Commit Oid} {u : Unit} :
    ((⟨tree, git.address buffer, some buffer⟩ : IntegrationCandidate Oid).writeCommit git disk
        workspace).run repository = (.ok u, repository') ↔
      disk.writes .commit (git.address buffer) = none ∧
        disk.reads .commit (git.address buffer) = none ∧
        repository' = { repository with commits := repository.commits ++ [buffer] } := by
  unfold IntegrationCandidate.writeCommit verifyPublishedObject
  constructor
  · intro h
    obtain ⟨_, _, hwrite, hrest⟩ := Tx.bind_eq_ok.mp h
    obtain ⟨hwrites, hwritten⟩ := publish_eq_ok.mp hwrite
    obtain ⟨_, _, happend, hrest⟩ := Tx.bind_eq_ok.mp hrest
    have happended := Tx.write_eq_ok.mp happend
    obtain ⟨_, _, hsame, hrest⟩ := Tx.bind_eq_ok.mp hrest
    obtain ⟨-, hchecked⟩ := Tx.require_eq_ok.mp hsame
    obtain ⟨hreads, hverified⟩ := publish_eq_ok.mp hrest
    exact ⟨hwrites, hreads, by rw [hverified, ← hchecked, ← happended, hwritten]⟩
  · rintro ⟨hwrites, hreads, rfl⟩
    refine Tx.bind_eq_ok.mpr ⟨(), repository, publish_eq_ok.mpr ⟨hwrites, rfl⟩, ?_⟩
    refine Tx.bind_eq_ok.mpr ⟨(), _, Tx.write_eq_ok.mpr rfl, ?_⟩
    refine Tx.bind_eq_ok.mpr ⟨(), _, Tx.require_eq_ok.mpr ⟨decide_eq_true rfl, rfl⟩, ?_⟩
    exact publish_eq_ok.mpr ⟨hreads, rfl⟩

/-! ## Objects are only added -/

omit [DecidableEq Oid] in
instance : Std.Refl (@Repository.Grown Oid) where
  refl := Repository.Grown.refl

omit [DecidableEq Oid] in
instance : IsTrans (Repository Oid) Repository.Grown where
  trans _ _ _ := Repository.Grown.trans

omit [DecidableEq Oid] in
theorem inspect_grows {f : Repository Oid → Except (GitError Oid) α} :
    Tx.Keeps Repository.Grown (inspect action f) :=
  fun repository => .refl repository

omit [DecidableEq Oid] in
theorem writeTree_grows (index : Index Oid) :
    Tx.Keeps Repository.Grown (writeTree disk action index) :=
  inspect_grows.bind fun _ => inspect_grows.bind fun _ => .pure _

theorem writeCommit_grows :
    Tx.Keeps Repository.Grown (candidate.writeCommit git disk workspace) := by
  unfold IntegrationCandidate.writeCommit verifyPublishedObject
  cases candidate.commitBuffer with
  | none => exact inspect_grows
  | some buffer =>
      refine inspect_grows.bind fun _ => ?_
      refine (Tx.Keeps.write ?_).bind fun _ => (Tx.Keeps.require _ _).bind fun _ => inspect_grows
      exact fun repository => ⟨rfl, fun _ hmem => List.mem_append_left _ hmem⟩

theorem replay_grows (parent : Commit Oid) (commits : List (Commit Oid)) :
    Tx.Keeps Repository.Grown (git.replay disk workspace signature parent commits) := by
  induction commits generalizing parent with
  | nil => exact .throw _
  | cons commit rest ih =>
      unfold replay
      refine inspect_grows.bind fun index => (Tx.Keeps.require _ _).bind fun _ => ?_
      refine (writeTree_grows index).bind fun tree => inspect_grows.bind fun _ => ?_
      exact .ite (.pure _) (writeCommit_grows.bind fun _ => inspect_grows.bind ih)

/-- An attempt only adds objects, also one that is interrupted. -/
theorem integrationCandidate_grows (integratedAt : Int) (strategy : IntegrationStrategy) :
    Tx.Keeps Repository.Grown
      (git.integrationCandidate disk workspace base result target integratedAt strategy) := by
  unfold integrationCandidate
  refine Tx.Keeps.bind (fun repository => .refl repository) fun integrated => ?_
  refine .ite (inspect_grows.bind fun _ => .pure _) ?_
  refine .ite (inspect_grows.bind fun _ => .pure _) ?_
  cases strategy with
  | rebase =>
      exact inspect_grows.bind fun commits => inspect_grows.bind fun parent => replay_grows _ _
  | merge =>
      unfold mergeCandidate
      refine inspect_grows.bind fun _ => inspect_grows.bind fun _ => inspect_grows.bind fun _ => ?_
      refine inspect_grows.bind fun index => (Tx.Keeps.require _ _).bind fun _ => ?_
      exact (writeTree_grows index).bind fun _ => .pure _

/-! ## The loop -/

/-- A candidate is the last of the commits that replay those of the assignment, and all before it
    are stored. -/
theorem replay_eq_ok
    (h : (git.replay disk workspace signature parent commits).run repository =
      (.ok candidate, repository')) :
    ∃ new, git.Replays signature parent commits new ∧ git.lastOf new candidate ∧
      ∀ commit ∈ new.dropLast, commit ∈ repository'.commits := by
  induction commits generalizing parent repository with
  | nil => cases h
  | cons commit rest ih =>
      unfold replay at h
      obtain ⟨index, _, hindex, h⟩ := Tx.bind_eq_ok.mp h
      obtain ⟨hpick, hfirst⟩ := inspect_eq_ok.mp hindex
      obtain ⟨_, _, hrequire, h⟩ := Tx.bind_eq_ok.mp h
      obtain ⟨hclean, hsecond⟩ := Tx.require_eq_ok.mp hrequire
      obtain ⟨tree, _, htree, h⟩ := Tx.bind_eq_ok.mp h
      obtain ⟨-, -, rfl, hthird⟩ := writeTree_eq_ok.mp htree
      obtain ⟨_, _, hmessage, h⟩ := Tx.bind_eq_ok.mp h
      obtain ⟨hvalid, hfourth⟩ := inspect_eq_ok.mp hmessage
      have hpick : git.cherrypickCommit commit parent = .ok ⟨false, index.tree⟩ := by
        rw [hpick]
        obtain ⟨hasConflicts, tree⟩ := index
        cases hasConflicts with
        | false => rfl
        | true => cases hclean
      have hvalid : Utf8.Valid commit.message := by
        unfold Commit.messageRaw at hvalid
        by_contra hno
        rw [if_neg hno] at hvalid
        cases hvalid
      by_cases hrest : rest = []
      · rw [hrest] at h ⊢
        obtain ⟨hcandidate, -⟩ := Tx.pure_eq_ok.mp h
        refine ⟨_, .next hpick hvalid (.done _), ⟨_, rfl, hcandidate.symm⟩, ?_⟩
        intro other hother
        cases hother
      · rw [if_neg (by rw [List.isEmpty_iff]; exact hrest)] at h
        obtain ⟨_, written, hwrite, h⟩ := Tx.bind_eq_ok.mp h
        obtain ⟨-, -, hwritten⟩ := writeCommit_eq_ok.mp hwrite
        obtain ⟨next, _, hnext, h⟩ := Tx.bind_eq_ok.mp h
        obtain ⟨hfind, hsame⟩ := inspect_eq_ok.mp hnext
        obtain ⟨-, haddress⟩ := findCommit_eq_ok.mp hfind
        rw [git.injective haddress, hsame] at h
        obtain ⟨new, hreplays, ⟨last, hlast, hcandidate⟩, hstored⟩ := ih h
        have hnonempty : new ≠ [] := by
          rintro rfl
          cases hlast
        refine ⟨_, .next hpick hvalid hreplays, ⟨last, ?_, hcandidate⟩, ?_⟩
        · rw [List.getLast?_cons_of_ne_nil hnonempty]
          exact hlast
        · intro other hother
          rw [List.dropLast_cons_of_ne_nil hnonempty] at hother
          rcases List.mem_cons.mp hother with rfl | hother
          · have hgrown := (replay_grows _ rest).of_ok h
            refine hgrown.commits _ ?_
            rw [hwritten]
            exact List.mem_append_right _ (List.mem_singleton_self _)
          · exact hstored other hother

/-- On a disk without faults the loop makes the candidate, whatever is stored. -/
theorem replay_of_replays (hdisk : disk.Sound) (h : git.Replays signature parent commits new)
    (hlast : git.lastOf new candidate) (repository : Repository Oid) :
    ∃ repository', (git.replay disk workspace signature parent commits).run repository =
      (.ok candidate, repository') := by
  induction h generalizing repository with
  | done =>
      obtain ⟨last, hnone, -⟩ := hlast
      cases hnone
  | next hpick hvalid hreplays ih =>
      rename_i parent commit rest new tree
      unfold replay
      have hmessage : commit.messageRaw = (.ok commit.message : Except (GitError Oid) _) :=
        if_pos hvalid
      have hstep : ∀ {β : Type} {x : Work Oid β} {f : β → Work Oid (IntegrationCandidate Oid)}
          {b : β}, x.run repository = (.ok b, repository) →
            (∃ repository', (f b).run repository = (.ok candidate, repository')) →
              ∃ repository', (x >>= f).run repository = (.ok candidate, repository') := by
        intro β x f b hx hf
        obtain ⟨repository', hf⟩ := hf
        exact ⟨repository', Tx.bind_eq_ok.mpr ⟨b, repository, hx, hf⟩⟩
      refine hstep (inspect_eq_ok.mpr ⟨hpick, rfl⟩) ?_
      refine hstep (b := ()) (Tx.require_eq_ok.mpr ⟨rfl, rfl⟩) ?_
      refine hstep (writeTree_eq_ok.mpr ⟨hdisk.writes _ _, hdisk.reads _ _, rfl, rfl⟩) ?_
      refine hstep (inspect_eq_ok.mpr ⟨hmessage, rfl⟩) ?_
      obtain ⟨last, hlast, rfl⟩ := hlast
      cases hreplays with
      | done =>
          cases hlast
          exact ⟨repository, rfl⟩
      | next hpick' hvalid' hreplays' =>
          rw [List.getLast?_cons_cons] at hlast
          rw [if_neg (by simp)]
          obtain ⟨repository', hrest⟩ := ih ⟨last, hlast, rfl⟩ { repository with
            commits := repository.commits ++ [git.rebased signature commit parent tree] }
          refine ⟨repository', Tx.bind_eq_ok.mpr ⟨(), _,
            writeCommit_eq_ok.mpr ⟨hdisk.writes _ _, hdisk.reads _ _, rfl⟩, ?_⟩⟩
          refine Tx.bind_eq_ok.mpr ⟨git.rebased signature commit parent tree, _,
            inspect_eq_ok.mpr ⟨findCommit_eq_ok.mpr ⟨?_, rfl⟩, rfl⟩, hrest⟩
          exact List.mem_append_right _ (List.mem_singleton_self _)

/-! ## No panic -/

/-- A computation does not panic. -/
abbrev Calm (x : Work Oid α) : Prop :=
  Tx.Avoids (fun _ => True) Halt.Panics x

omit [DecidableEq Oid] in
theorem inspect_calm {f : Repository Oid → Except (GitError Oid) α} : Calm (inspect action f) := by
  intro repository halt repository' _ h
  unfold inspect at h
  dsimp only at h
  cases hf : f repository with
  | ok a =>
      rw [hf] at h
      cases h
  | error source =>
      rw [hf] at h
      cases h
      exact id

omit [DecidableEq Oid] in
theorem require_calm {error : WorkspaceBackendError Oid} {p : Repository Oid → Bool} :
    Calm (Tx.require (.error error) p) :=
  .require id p

omit [DecidableEq Oid] in
theorem writeTree_calm (index : Index Oid) : Calm (writeTree disk action index) :=
  inspect_calm.seq fun _ => inspect_calm.seq fun _ => .pure _

theorem writeCommit_calm : Calm (candidate.writeCommit git disk workspace) := by
  unfold IntegrationCandidate.writeCommit verifyPublishedObject
  cases candidate.commitBuffer with
  | none => exact inspect_calm
  | some buffer =>
      refine inspect_calm.seq fun _ => ?_
      exact (Tx.Avoids.write _).seq fun _ => require_calm.seq fun _ => inspect_calm

/-- The loop does not run out of commits when it begins with one. -/
theorem replay_calm (hnonempty : commits ≠ []) :
    Calm (git.replay disk workspace signature parent commits) := by
  induction commits generalizing parent with
  | nil => exact absurd rfl hnonempty
  | cons commit rest ih =>
      unfold replay
      refine inspect_calm.seq fun index => require_calm.seq fun _ => ?_
      refine (writeTree_calm index).seq fun tree => inspect_calm.seq fun _ => ?_
      by_cases hrest : rest = []
      · rw [if_pos (List.isEmpty_iff.mpr hrest)]
        exact .pure _
      · rw [if_neg (by rw [List.isEmpty_iff]; exact hrest)]
        exact writeCommit_calm.seq fun _ => inspect_calm.seq fun _ => ih hrest

theorem mergeCandidate_calm (integratedAt : Int) :
    Calm (git.mergeCandidate disk workspace base result target integratedAt) := by
  unfold mergeCandidate
  refine inspect_calm.seq fun _ => inspect_calm.seq fun _ => inspect_calm.seq fun _ => ?_
  refine inspect_calm.seq fun index => require_calm.seq fun _ => ?_
  exact (writeTree_calm index).seq fun _ => .pure _

/-! ## Candidates -/

/-- The loop runs over the commits of the assignment, oldest first. -/
theorem rebaseCandidate_run (hstored : git.Stored repository base commits result)
    (hparent : git.findCommit repository target = .ok parent) (integratedAt : Int) :
    (git.rebaseCandidate disk workspace base result target integratedAt).run repository =
      (git.replay disk workspace (integrationSignature integratedAt) parent commits).run
        repository := by
  unfold rebaseCandidate inspect
  rw [Tx.run_bind]
  dsimp only
  rw [commitsBack_of_stored hstored, Except.mapError]
  dsimp only
  rw [Tx.run_bind]
  dsimp only
  rw [hparent, Except.mapError]
  dsimp only
  rw [List.reverse_reverse]

/-- What is prepared for a target that has the result, for one that is the base, and for others. -/
theorem integrationCandidate_run {answer : Bool}
    (hanswer : git.containsResult repository target result = .ok answer) (integratedAt : Int)
    (strategy : IntegrationStrategy) :
    (git.integrationCandidate disk workspace base result target integratedAt strategy).run
        repository =
      if answer = true then
        (do
          let commit ← inspect "resolve the integrated target tree" fun repository =>
            git.findCommit repository target
          pure ⟨commit.tree, target, none⟩ : Work Oid (IntegrationCandidate Oid)).run repository
      else if target = base then
        (do
          let commit ← inspect "resolve the assignment result tree" fun repository =>
            git.findCommit repository result
          pure ⟨commit.tree, result, none⟩ : Work Oid (IntegrationCandidate Oid)).run repository
      else
        match strategy with
        | .rebase =>
            (git.rebaseCandidate disk workspace base result target integratedAt).run repository
        | .merge =>
            (git.mergeCandidate disk workspace base result target integratedAt).run
              repository := by
  unfold integrationCandidate
  rw [Tx.run_bind]
  dsimp only
  rw [hanswer, Except.mapError]
  dsimp only
  rw [Tx.run_ite, Tx.run_ite]
  cases strategy with
  | rebase => rfl
  | merge => rfl

end

/-- The candidate of a rebase: the commits of the assignment, and what they were replayed as. -/
structure RebasedOnto (git : Git Oid) (repository repository' : Repository Oid)
    (base result target : Oid) (integratedAt : Int) (candidate : IntegrationCandidate Oid)
    (commits new : List (Commit Oid)) : Prop where
  /-- The commits lead from the base to the result, oldest first. -/
  history : git.Stored repository base commits result
  /-- They are the commits that the result has and the base does not. -/
  range : ∀ oid, oid ∈ commits.map git.address ↔
    git.Ancestor oid result ∧ ¬ git.Ancestor oid base
  /-- The new commits lead from the target to the candidate, each the only parent of the next. -/
  above : git.Linear target new candidate.targetCommit
  /-- One commit replaces each, with the same author and the same message. -/
  replaced : List.Forall₂ (fun commit replaced =>
    replaced.author = commit.author ∧ replaced.message = commit.message) commits new
  /-- Their trees are those of the cherry-picks, one on the other. -/
  picked : ∃ parent, git.address parent = target ∧
    git.Replays (integrationSignature integratedAt) parent commits new
  /-- The last one is the candidate, with its tree. -/
  last : git.lastOf new candidate
  /-- All others are stored. -/
  stored : ∀ commit ∈ new.dropLast, commit ∈ repository'.commits

section

variable {disk disk' : Disk Oid} {integratedAt : Int} {candidate : IntegrationCandidate Oid}
  {commits : List (Commit Oid)} {parent : Commit Oid}

/-- What the target has is answered before a candidate is made. -/
theorem containsResult_of_candidate
    (h : ((git.integrationCandidate disk workspace base result target integratedAt .rebase).run
      repository).1 = .ok candidate) :
    ∃ answer, git.containsResult repository target result = .ok answer := by
  cases hanswer : git.containsResult repository target result with
  | ok answer => exact ⟨answer, rfl⟩
  | error error =>
      unfold integrationCandidate at h
      rw [Tx.run_bind] at h
      dsimp only at h
      rw [hanswer] at h
      cases h

/-- A candidate for a target that neither is the base nor has the result replays the commits. -/
theorem rebasedOnto_of_candidate (hstored : git.Stored repository base commits result)
    (hparent : git.findCommit repository target = .ok parent) (htarget : target ≠ base)
    (hresult : ¬ git.Ancestor result target)
    (h : ((git.integrationCandidate disk workspace base result target integratedAt .rebase).run
      repository).1 = .ok candidate) :
    ∃ new, RebasedOnto git repository
      ((git.integrationCandidate disk workspace base result target integratedAt .rebase).run
        repository).2 base result target integratedAt candidate commits new := by
  obtain ⟨answer, hanswer⟩ := containsResult_of_candidate h
  have hno : ¬ answer = true := fun hyes => hresult ((containsResult_eq_ok hanswer).mp hyes)
  have hrun : (git.integrationCandidate disk workspace base result target integratedAt .rebase).run
      repository = (git.replay disk workspace (integrationSignature integratedAt) parent
        commits).run repository := by
    rw [integrationCandidate_run hanswer, if_neg hno, if_neg htarget]
    exact rebaseCandidate_run hstored hparent integratedAt
  rw [hrun] at h ⊢
  obtain ⟨new, hreplays, hlast, hdropped⟩ := replay_eq_ok (Prod.ext h rfl)
  obtain ⟨-, haddress⟩ := findCommit_eq_ok.mp hparent
  obtain ⟨last, hnewest, rfl⟩ := hlast
  have habove := hreplays.linear hnewest
  rw [haddress] at habove
  exact ⟨new,
    { history := hstored
      range := hstored.1.mem_iff
      above := habove
      replaced := hreplays.forall₂
      picked := ⟨parent, haddress, hreplays⟩
      last := ⟨last, hnewest, rfl⟩
      stored := hdropped }⟩

/-- A candidate that publishes a stored commit stays the same. -/
theorem found_again {action : String} {oid : Oid}
    {publishes : Commit Oid → IntegrationCandidate Oid} (hgrown : repository.Grown repository')
    (h : ((do
      let commit ← inspect action fun repository => git.findCommit repository oid
      pure (publishes commit) : Work Oid (IntegrationCandidate Oid)).run repository).1 =
        .ok candidate) :
    ((do
      let commit ← inspect action fun repository => git.findCommit repository oid
      pure (publishes commit) : Work Oid (IntegrationCandidate Oid)).run repository').1 =
        .ok candidate := by
  obtain ⟨commit, _, hinspect, hpure⟩ := Tx.bind_eq_ok.mp (Prod.ext h rfl)
  obtain ⟨hfind, -⟩ := inspect_eq_ok.mp hinspect
  obtain ⟨rfl, -⟩ := Tx.pure_eq_ok.mp hpure
  have hagain : (inspect action fun repository => git.findCommit repository oid).run repository' =
      (.ok commit, repository') := inspect_eq_ok.mpr ⟨findCommit_grown hgrown hfind, rfl⟩
  exact congrArg Prod.fst (Tx.bind_eq_ok.mpr ⟨commit, repository', hagain, rfl⟩)

/-- When the cherry-picks succeed and the objects are published, a candidate is made. -/
theorem candidate_of_replays {new : List (Commit Oid)} (hdisk : disk.Sound)
    (hstored : git.Stored repository base commits result)
    (hparent : git.findCommit repository target = .ok parent)
    (hreplays : git.Replays (integrationSignature integratedAt) parent commits new)
    (htarget : target ≠ base) (hresult : git.containsResult repository target result = .ok false)
    (hnonempty : new ≠ []) :
    ∃ candidate, ((git.integrationCandidate disk workspace base result target integratedAt
      .rebase).run repository).1 = .ok candidate := by
  have hlast : new.getLast? = some (new.getLast hnonempty) := List.getLast?_eq_some_getLast _
  rw [integrationCandidate_run hresult, if_neg Bool.false_ne_true, if_neg htarget]
  dsimp only
  rw [rebaseCandidate_run hstored hparent]
  obtain ⟨_, hrun⟩ := replay_of_replays hdisk hreplays ⟨_, hlast, rfl⟩ repository
  rw [hrun]
  exact ⟨_, rfl⟩

/-- Another attempt, on a repository that has only grown, makes the same candidate. -/
theorem candidate_again (hstored : git.Stored repository base commits result)
    (hparent : git.findCommit repository target = .ok parent)
    (hgrown : repository.Grown repository')
    (h : ((git.integrationCandidate disk workspace base result target integratedAt .rebase).run
      repository).1 = .ok candidate) :
    (∀ candidate', ((git.integrationCandidate disk' workspace base result target integratedAt
      .rebase).run repository').1 = .ok candidate' → candidate' = candidate) ∧
    (disk'.Sound → ((git.integrationCandidate disk' workspace base result target integratedAt
      .rebase).run repository').1 = .ok candidate) := by
  obtain ⟨answer, hanswer⟩ := containsResult_of_candidate h
  rw [integrationCandidate_run hanswer] at h
  rw [integrationCandidate_run (containsResult_grown hgrown hanswer)]
  by_cases hyes : answer = true
  · rw [if_pos hyes] at h ⊢
    rw [found_again hgrown h]
    exact ⟨fun _ heq => (Except.ok.inj heq).symm, fun _ => rfl⟩
  rw [if_neg hyes] at h ⊢
  by_cases hbase : target = base
  · rw [if_pos hbase] at h ⊢
    rw [found_again hgrown h]
    exact ⟨fun _ heq => (Except.ok.inj heq).symm, fun _ => rfl⟩
  rw [if_neg hbase] at h ⊢
  dsimp only at h ⊢
  rw [rebaseCandidate_run hstored hparent] at h
  rw [rebaseCandidate_run (hstored.grown hgrown) (findCommit_grown hgrown hparent)]
  obtain ⟨new, hreplays, hlast, -⟩ := replay_eq_ok (Prod.ext h rfl)
  constructor
  · intro candidate' h'
    obtain ⟨new', hreplays', hlast', -⟩ := replay_eq_ok (Prod.ext h' rfl)
    rw [hreplays'.unique hreplays] at hlast'
    obtain ⟨last, hnewest, rfl⟩ := hlast
    obtain ⟨last', hnewest', rfl⟩ := hlast'
    rw [hnewest] at hnewest'
    rw [Option.some.inj hnewest']
  · intro hdisk
    obtain ⟨_, hrun⟩ := replay_of_replays hdisk hreplays hlast repository'
    rw [hrun]

/-- Preparing the integration of an accepted history does not panic. -/
theorem integrationCandidate_calm
    (hstored : git.Stored repository base commits result)
    (hparent : git.findCommit repository target = .ok parent)
    (hhistory : git.Ancestor result target ∨ git.Ancestor base target)
    (strategy : IntegrationStrategy) (message : String) :
    ((git.integrationCandidate disk workspace base result target integratedAt strategy).run
      repository).1 ≠ .error (.panic message) := by
  cases hanswer : git.containsResult repository target result with
  | error error =>
      unfold integrationCandidate
      rw [Tx.run_bind]
      dsimp only
      rw [hanswer]
      nofun
  | ok answer =>
      rw [integrationCandidate_run hanswer]
      have hcalm : ∀ {x : Work Oid (IntegrationCandidate Oid)}, Calm x →
          (x.run repository).1 ≠ .error (.panic message) :=
        fun hx h => hx repository _ _ trivial (Prod.ext h rfl) trivial
      by_cases hyes : answer = true
      · rw [if_pos hyes]
        exact hcalm (inspect_calm.seq fun _ => .pure _)
      rw [if_neg hyes]
      by_cases hbase : target = base
      · rw [if_pos hbase]
        exact hcalm (inspect_calm.seq fun _ => .pure _)
      rw [if_neg hbase]
      cases strategy with
      | merge => exact hcalm (mergeCandidate_calm integratedAt)
      | rebase =>
          dsimp only
          rw [rebaseCandidate_run hstored hparent]
          refine hcalm (replay_calm ?_)
          -- a result that is the base is in the history of the target
          intro hnil
          have hresult := hstored.1.eq_nil_iff.mp hnil
          rw [containsResult_eq_ok hanswer, hresult] at hyes
          rw [hresult, or_self] at hhistory
          exact hyes hhistory

end

/-- A result history is accepted exactly when single parents lead from it to the base.  For an
    accepted history and target, preparing an integration does not panic; a rebase has a candidate
    when the cherry-picks succeed and the objects are published; the candidate replays exactly the
    commits of the assignment on the target; objects are only added to the repository, and on every
    repository that has grown another attempt makes the same candidate. -/
theorem rebase_replays (git : Git Oid) (disk : Disk Oid) (repository : Repository Oid)
    (workspace : WorkspaceRecord) (base result target : Oid) (integratedAt : Int) :
    (git.requireLinearResultHistory repository workspace base result = .ok () ↔
      ∃ commits, git.Stored repository base commits result) ∧
    (git.requireLinearResultHistory repository workspace base result = .ok () →
      git.validateIntegrationHistory repository workspace base result target = .ok () →
      (∀ strategy message,
        ((git.integrationCandidate disk workspace base result target integratedAt strategy).run
          repository).1 ≠ .error (.panic message)) ∧
      (disk.Sound → target ≠ base → git.containsResult repository target result = .ok false →
        (∃ parent commits new, git.findCommit repository target = .ok parent ∧
          git.Stored repository base commits result ∧
          git.Replays (integrationSignature integratedAt) parent commits new) →
        ∃ candidate, ((git.integrationCandidate disk workspace base result target integratedAt
          .rebase).run repository).1 = .ok candidate) ∧
      ∀ candidate,
        ((git.integrationCandidate disk workspace base result target integratedAt .rebase).run
          repository).1 = .ok candidate →
        (target ≠ base → ¬ git.Ancestor result target →
          ∃ commits new, RebasedOnto git repository
            ((git.integrationCandidate disk workspace base result target integratedAt .rebase).run
              repository).2 base result target integratedAt candidate commits new) ∧
        ∀ disk' repository', repository.Grown repository' →
          repository.Grown ((git.integrationCandidate disk' workspace base result target
            integratedAt .rebase).run repository').2 ∧
          (∀ candidate', ((git.integrationCandidate disk' workspace base result target integratedAt
            .rebase).run repository').1 = .ok candidate' → candidate' = candidate) ∧
          (disk'.Sound → ((git.integrationCandidate disk' workspace base result target integratedAt
            .rebase).run repository').1 = .ok candidate)) := by
  refine ⟨requireLinearResultHistory_eq_ok, fun hlinear hvalid => ?_⟩
  obtain ⟨commits, hstored⟩ := requireLinearResultHistory_eq_ok.mp hlinear
  obtain ⟨⟨parent, hparent⟩, hhistory⟩ := validateIntegrationHistory_eq_ok hvalid
  refine ⟨integrationCandidate_calm hstored hparent hhistory, ?_, ?_⟩
  · rintro hdisk htarget hresult ⟨parent', commits', new, hparent', hstored', hreplays⟩
    refine candidate_of_replays hdisk hstored' hparent' hreplays htarget hresult ?_
    -- without a new commit the result would be the base
    rintro rfl
    cases hreplays
    have hbase := hstored'.1.eq_nil_iff.mp rfl
    rw [hbase, or_self] at hhistory
    rw [hbase] at hresult
    exact Bool.false_ne_true ((containsResult_eq_ok hresult).mpr hhistory)
  intro candidate hcandidate
  refine ⟨fun htarget hresult =>
    ⟨commits, rebasedOnto_of_candidate hstored hparent htarget hresult hcandidate⟩, ?_⟩
  intro disk' repository' hgrown
  have hkept : repository'.Grown ((git.integrationCandidate disk' workspace base result target
      integratedAt .rebase).run repository').2 :=
    integrationCandidate_grows integratedAt .rebase repository'
  exact ⟨hgrown.trans hkept, candidate_again hstored hparent hgrown hcandidate⟩

/-! ## Objects that are their own identifiers -/

/-- Trees and commits, named by themselves. -/
inductive Object where
  | tree (name : String)
  | commit (tree : Object) (parents : List Object) (author committer : Signature)
      (message : List UInt8) (extraHeaders : List String)

/-- The object of a commit. -/
def Object.ofCommit (commit : Commit Object) : Object :=
  .commit commit.tree commit.parents commit.author commit.committer commit.message
    commit.extraHeaders

noncomputable instance : DecidableEq Object := Classical.decEq _

/-- An object is older than those that it is part of. -/
noncomputable def objectAddressing : History.Addressing (@Commit.parents Object) where
  address := Object.ofCommit
  injective := by
    rintro ⟨⟩ ⟨⟩ h
    cases h
    rfl
  generation := sizeOf
  older := by
    intro commit parent hmem
    have hlt := List.sizeOf_lt_of_mem hmem
    simp only [Object.ofCommit, Object.commit.sizeOf_spec]
    omega

/-- The merge of two trees that were made of a third one. -/
noncomputable def threeWay (base ours theirs : Object) : Index Object :=
  if ours = base then ⟨false, theirs⟩ else if theirs = base then ⟨false, ours⟩
  else ⟨decide (ours ≠ theirs), ours⟩

open Classical in
/-- Git with such objects, whose trees are merged as a whole. -/
noncomputable def objectGit : Git Object where
  toAddressing := objectAddressing
  cherrypickCommit commit parent :=
    match commit.parents with
    | .commit tree _ _ _ _ _ :: _ => .ok (threeWay tree parent.tree commit.tree)
    | _ => .error (.failed "a cherry-pick needs a parent")
  mergeTrees base ours theirs := .ok (threeWay base ours theirs)
  graphDescendantOf _ commit ancestor :=
    .ok (decide (commit ≠ ancestor ∧ objectAddressing.Ancestor ancestor commit))
  mergeBases repository one two :=
    .ok ((repository.commits.map Object.ofCommit).filter fun base =>
      objectAddressing.Ancestor base one ∧ objectAddressing.Ancestor base two ∧
        ∀ other, objectAddressing.Ancestor other one → objectAddressing.Ancestor other two →
          objectAddressing.Ancestor base other → other = base)
  descends := by
    intro repository commit ancestor answer h
    cases h
    exact decide_eq_true_iff
  descends_grown := fun _ _ _ _ _ _ h => h
  common := by
    intro repository one two bases h base hbase
    cases h
    have hfilter := (List.mem_filter.mp hbase).2
    rw [decide_eq_true_iff] at hfilter
    exact ⟨hfilter.1, hfilter.2.1⟩

/-- A commit of one tree on other commits. -/
def sampleCommit (tree : String) (parents : List Object) (message : List UInt8) :
    Commit Object where
  tree := .tree tree
  parents
  author := ⟨"worker", "worker@localhost", 1, 0⟩
  committer := ⟨"worker", "worker@localhost", 1, 0⟩
  message
  extraHeaders := []

/-- The base of an assignment, its two commits, and a target that has got another commit. -/
def sampleBase : Commit Object := sampleCommit "before" [] []
def sampleFirst : Commit Object := sampleCommit "between" [.ofCommit sampleBase] []
def sampleResult : Commit Object := sampleCommit "after" [.ofCommit sampleFirst] []
def sampleTarget : Commit Object := sampleCommit "before" [.ofCommit sampleBase] [120]

def sampleRepository : Repository Object where
  path := "/p/.git"
  commits := [sampleBase, sampleFirst, sampleResult, sampleTarget]

def sampleWorkspace : WorkspaceRecord where
  assignmentId := ⟨"assignment"⟩
  generation := 1
  runId := ⟨"r"⟩
  projectId := ⟨"p"⟩
  kind := .worktree
  path := "/w"
  state := .observed
  baseCommit := none
  resultCommit := none
  targetCommit := none
  createdAt := 0
  reconciledAt := none

def sampleDisk : Disk Object where
  writes _ _ := none
  reads _ _ := none

theorem sample_ancestor {oid : Object} {tree : String} {parent : Commit Object}
    {message : List UInt8} :
    objectGit.Ancestor oid (.ofCommit (sampleCommit tree [.ofCommit parent] message)) ↔
      oid = .ofCommit (sampleCommit tree [.ofCommit parent] message) ∨
        objectGit.Ancestor oid (.ofCommit parent) := by
  rw [show Object.ofCommit (sampleCommit tree [.ofCommit parent] message) =
    objectGit.address (sampleCommit tree [.ofCommit parent] message) from rfl,
    History.Addressing.Ancestor.address_iff]
  refine or_congr Iff.rfl ?_
  constructor
  · rintro ⟨other, hother, h⟩
    rw [List.mem_singleton.mp hother] at h
    exact h
  · intro h
    exact ⟨_, List.mem_singleton_self _, h⟩

theorem sample_ancestor_base {oid : Object} :
    objectGit.Ancestor oid (.ofCommit sampleBase) ↔ oid = .ofCommit sampleBase := by
  rw [show Object.ofCommit sampleBase = objectGit.address sampleBase from rfl,
    History.Addressing.Ancestor.address_iff]
  simp [sampleBase, sampleCommit]

theorem sample_ancestor_target {oid : Object} :
    objectGit.Ancestor oid (.ofCommit sampleTarget) ↔
      oid = .ofCommit sampleTarget ∨ oid = .ofCommit sampleBase := by
  rw [← sample_ancestor_base]
  exact sample_ancestor

theorem sample_ancestor_result {oid : Object} :
    objectGit.Ancestor oid (.ofCommit sampleResult) ↔
      oid = .ofCommit sampleResult ∨ oid = .ofCommit sampleFirst ∨ oid = .ofCommit sampleBase := by
  rw [← sample_ancestor_base]
  exact sample_ancestor.trans (or_congr Iff.rfl sample_ancestor)

theorem sample_distinct :
    Object.ofCommit sampleTarget ≠ .ofCommit sampleResult ∧
      Object.ofCommit sampleTarget ≠ .ofCommit sampleFirst ∧
      Object.ofCommit sampleTarget ≠ .ofCommit sampleBase ∧
      Object.ofCommit sampleResult ≠ .ofCommit sampleBase ∧
      Object.ofCommit sampleFirst ≠ .ofCommit sampleBase := by
  simp [Object.ofCommit, sampleTarget, sampleResult, sampleFirst, sampleBase, sampleCommit]

theorem sample_not_ancestor :
    ¬ objectGit.Ancestor (.ofCommit sampleResult) (.ofCommit sampleTarget) := by
  obtain ⟨hresult, -, -, hbase, -⟩ := sample_distinct
  rw [sample_ancestor_target]
  rintro (h | h)
  · exact hresult h.symm
  · exact hbase h

theorem sample_containsResult :
    objectGit.containsResult sampleRepository (.ofCommit sampleTarget) (.ofCommit sampleResult) =
      .ok false := by
  cases hanswer : objectGit.containsResult sampleRepository (.ofCommit sampleTarget)
      (.ofCommit sampleResult) with
  | error error =>
      unfold containsResult at hanswer
      rw [if_neg sample_distinct.1] at hanswer
      cases hanswer
  | ok answer =>
      cases answer with
      | false => rfl
      | true => exact absurd ((containsResult_eq_ok hanswer).mp rfl) sample_not_ancestor

theorem sample_stored :
    objectGit.Stored sampleRepository (.ofCommit sampleBase) [sampleFirst, sampleResult]
      (.ofCommit sampleResult) := by
  refine ⟨?_, ?_⟩
  · have hfirst := @History.Addressing.Linear.next _ _ _ objectAddressing (.ofCommit sampleBase) []
      _ sampleFirst .base rfl
    exact @History.Addressing.Linear.next _ _ _ objectAddressing _ [sampleFirst] _ sampleResult
      hfirst rfl
  · intro commit hmem
    rcases List.mem_cons.mp hmem with rfl | hmem
    · simp [sampleRepository]
    · rw [List.mem_singleton.mp hmem]
      simp [sampleRepository]

theorem sample_find {commit : Commit Object} (hmem : commit ∈ sampleRepository.commits) :
    objectGit.findCommit sampleRepository (.ofCommit commit) = .ok commit :=
  findCommit_eq_ok.mpr ⟨hmem, rfl⟩

/-- The base is the only merge base of the result and the target. -/
theorem sample_mergeBases :
    objectGit.mergeBases sampleRepository (.ofCommit sampleTarget) (.ofCommit sampleResult) =
      .ok [.ofCommit sampleBase] := by
  obtain ⟨hresult, hfirst, htarget, hbase, hbetween⟩ := sample_distinct
  classical
  refine congrArg Except.ok ?_
  show List.filter _ [Object.ofCommit sampleBase, .ofCommit sampleFirst, .ofCommit sampleResult,
    .ofCommit sampleTarget] = [.ofCommit sampleBase]
  rw [List.filter_cons_of_pos, List.filter_cons_of_neg, List.filter_cons_of_neg,
    List.filter_cons_of_neg, List.filter_nil]
  · rw [decide_eq_true_iff]
    rintro ⟨-, hancestor, -⟩
    rcases sample_ancestor_result.mp hancestor with h | h | h
    · exact hresult h
    · exact hfirst h
    · exact htarget h
  · rw [decide_eq_true_iff]
    rintro ⟨hancestor, -, -⟩
    rcases sample_ancestor_target.mp hancestor with h | h
    · exact hresult h.symm
    · exact hbase h
  · rw [decide_eq_true_iff]
    rintro ⟨hancestor, -, -⟩
    rcases sample_ancestor_target.mp hancestor with h | h
    · exact hfirst h.symm
    · exact hbetween h
  · rw [decide_eq_true_iff]
    refine ⟨sample_ancestor_target.mpr (.inr rfl), sample_ancestor_result.mpr (.inr (.inr rfl)), ?_⟩
    intro other htop hother _
    rcases sample_ancestor_target.mp htop with rfl | rfl
    · rcases sample_ancestor_result.mp hother with h | h | h
      · exact absurd h hresult
      · exact absurd h hfirst
      · exact h
    · rfl

theorem sample_validated :
    objectGit.validateIntegrationHistory sampleRepository sampleWorkspace (.ofCommit sampleBase)
      (.ofCommit sampleResult) (.ofCommit sampleTarget) = .ok () := by
  unfold validateIntegrationHistory
  rw [sample_find (by simp [sampleRepository]), sample_find (by simp [sampleRepository]),
    sample_find (by simp [sampleRepository]), sample_containsResult, sample_mergeBases]
  show (if [Object.ofCommit sampleBase] = [.ofCommit sampleBase] then _ else _) = _
  rw [if_pos rfl]
  rfl

/-- The first commit as it is picked onto the target. -/
noncomputable def samplePicked : Commit Object :=
  objectGit.rebased (integrationSignature 7) sampleFirst sampleTarget (.tree "between")

/-- Both commits are picked onto the target. -/
theorem sample_replays :
    objectGit.Replays (integrationSignature 7) sampleTarget [sampleFirst, sampleResult]
      [samplePicked,
        objectGit.rebased (integrationSignature 7) sampleResult samplePicked (.tree "after")] := by
  refine .next ?_ (by simp [Utf8.Valid, sampleFirst, sampleCommit])
    (.next ?_ (by simp [Utf8.Valid, sampleResult, sampleCommit]) (.done _))
  · show Except.ok (threeWay (.tree "before") (.tree "before") (.tree "between")) = _
    rw [threeWay, if_pos rfl]
  · show Except.ok (threeWay (.tree "between") (.tree "between") (.tree "after")) = _
    rw [threeWay, if_pos rfl]

/-- Two commits are replayed on a target that has got another one. -/
theorem rebase_replays_sample :
    ∃ repository' candidate new,
      RebasedOnto objectGit sampleRepository repository' (.ofCommit sampleBase)
        (.ofCommit sampleResult) (.ofCommit sampleTarget) 7 candidate [sampleFirst, sampleResult]
          new := by
  have hlinear := (rebase_replays objectGit sampleDisk sampleRepository sampleWorkspace
    (.ofCommit sampleBase) (.ofCommit sampleResult) (.ofCommit sampleTarget) 7).1.mpr
      ⟨_, sample_stored⟩
  obtain ⟨-, hmakes, hrebases⟩ := (rebase_replays objectGit sampleDisk sampleRepository sampleWorkspace
    (.ofCommit sampleBase) (.ofCommit sampleResult) (.ofCommit sampleTarget) 7).2 hlinear
      sample_validated
  obtain ⟨-, -, htarget, -, -⟩ := sample_distinct
  obtain ⟨candidate, hcandidate⟩ := hmakes ⟨fun _ _ => rfl, fun _ _ => rfl⟩ htarget
    sample_containsResult ⟨sampleTarget, _, _, sample_find (by simp [sampleRepository]),
      sample_stored, sample_replays⟩
  obtain ⟨commits, new, hrebased⟩ := (hrebases candidate hcandidate).1 htarget sample_not_ancestor
  obtain rfl : commits = [sampleFirst, sampleResult] := hrebased.history.1.unique sample_stored.1
  exact ⟨_, candidate, new, hrebased⟩

end Git

end Coterie
