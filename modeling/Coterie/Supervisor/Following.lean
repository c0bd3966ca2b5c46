/-
  Coterie.Supervisor.Following

  Following the events of a run (`supervisor.rs`: `follow_output`, `stopped_stream_page`,
  `events`).  The follower asks a live supervisor for page after page.  When the connection is lost
  it looks into the database of the run, which it may read once the run is stopped, and otherwise
  connects again.

  The follower as a machine: the store changes between any two of its steps, answers come from the
  store as it is then, connections are lost and requests fail at any point.  A follower that has
  exited sees nothing any more.
-/

import Coterie.State.Events
import Coterie.Supervisor.Authority
import Coterie.Supervisor.Machine
import Coterie.Supervisor.Progress

namespace Coterie

/-- Every command only appends to the log. -/
theorem Command.exec_logGrows (command : Command) (db : Db) : db.LogGrows (command.exec db) :=
  (command.exec_written db).logGrows

namespace Follow

/-! ## Pages -/

/-- A page of the event stream. -/
structure EventsPage where
  events : List EventRecord
  nextCursor : Nat
deriving DecidableEq, Repr

/-- What is followed: the run, the caller, the project as the operator's context has it, the page
    limit, and the sizes of the serialized events. -/
structure Target where
  runId : RunId
  caller : AuthenticatedCaller
  projectId : ProjectId
  identity : JsonValue
  limit : Nat
  size : EventRecord → Nat

/-- Serve a request for events. -/
def events (target : Target) (caller : AuthenticatedCaller) (after : Nat) : Request EventsPage := do
  requireOperator caller "only the operator can inspect the full event stream"
  Tx.require (invalidArgument "event limit must be between 1 and 1000") fun _ =>
    decide (1 ≤ target.limit ∧ target.limit ≤ 1000)
  Tx.require (invalidArgument "event cursor is too large") fun _ => decide ((after : Int) ≤ i64Max)
  let events ← Tx.read (·.eventsAfter target.size target.runId after target.limit)
  pure { events, nextCursor := Paging.cursorAfter (·.sequence) after events }

/-- The run is stopped. -/
def runStopped (db : Db) (runId : RunId) : Bool :=
  (db.run runId).any (·.status == .stopped)

/-- The run is stopped and the project of the context is attached to it. -/
def stoppedProject (target : Target) (db : Db) : Bool :=
  runStopped db target.runId &&
    (db.project target.projectId).any fun stored =>
      stored.runId == target.runId && stored.identity == target.identity

/-- The page of a stopped run as its database has it; none of a run that is not stopped. -/
def stoppedStreamPage (target : Target) (after : Nat) (db : Db) :
    Option (Except RequestError EventsPage) :=
  if stoppedProject target db = true then some ((events target .operator after).run db).1 else none

/-! ## The follower -/

/-- Why a follower exits without success. -/
inductive FollowError where
  | refused (error : RequestError)
  | disconnected
  | failed (message : String)
deriving DecidableEq, Repr

/-- What the follower does next. -/
inductive Mode where
  | asking
  | inspecting
  | connecting
  | exited (outcome : Except FollowError Unit)
deriving DecidableEq

/-- The variables of the loop, and what was rendered. -/
structure Follower where
  after : Nat
  stopped : Bool
  rendered : List EventRecord
  mode : Mode

/-- A response arrives. -/
def Follower.receive (follower : Follower) : Except RequestError EventsPage → Follower
  | .error error => { follower with mode := .exited (.error (.refused error)) }
  | .ok page =>
      let stopped := follower.stopped || page.events.any (·.eventType == .runStopped)
      { after := page.nextCursor
        stopped
        rendered := follower.rendered ++ page.events
        mode := if (stopped && page.events.isEmpty) = true then .exited (.ok ()) else .asking }

/-- A store, a follower of one of its runs, and whether that has read a page from the database of
    the stopped run. -/
structure Following where
  db : Db
  follower : Follower
  readStopped : Bool

/-- What may happen to a follower. -/
inductive FollowInput where
  /-- The store changes, in any way that keeps its log. -/
  | change (write : Db → Db) (grows : ∀ db : Db, db.LogGrows (write db))
  | answer
  | lose
  | inspect
  | fail (message : String)

/-- The follower waits for an answer. -/
def Mode.waits : Mode → Bool
  | .asking | .connecting => true
  | .inspecting | .exited _ => false

/-- The state after an input. -/
def Following.step (target : Target) (input : FollowInput) (s : Following) : Following :=
  match s.follower.mode, input with
  | .exited _, _ => s
  | _, .change write _ => { s with db := write s.db }
  | .asking, .answer | .connecting, .answer =>
      { s with
        follower := s.follower.receive
          ((events target target.caller s.follower.after).run s.db).1 }
  | .inspecting, .answer => s
  | .asking, .lose =>
      { s with
        follower := { s.follower with
          mode := if target.caller.isOperator = true then .inspecting
            else .exited (.error .disconnected) } }
  | .connecting, .lose => { s with follower := { s.follower with mode := .inspecting } }
  | .inspecting, .lose => s
  | .inspecting, .inspect =>
      match stoppedStreamPage target s.follower.after s.db with
      | none => { s with follower := { s.follower with mode := .connecting } }
      | some response =>
          { s with
            follower := { s.follower with stopped := true }.receive response
            readStopped := true }
  | .asking, .inspect | .connecting, .inspect => s
  | _, .fail message =>
      { s with follower := { s.follower with mode := .exited (.error (.failed message)) } }

/-- A follower from a cursor, over any course of the store and the connection. -/
def followMachine (target : Target) (start : Nat) : Machine Following FollowInput where
  start :=
    { db := .empty
      follower := { after := start, stopped := false, rendered := [], mode := .asking }
      readStopped := false }
  step := Following.step target

/-! ## What a follower has shown -/

variable {target : Target} {start : Nat} {s : Following}

/-- A request from this cursor is served. -/
structure Served (target : Target) (caller : AuthenticatedCaller) (after : Nat) : Prop where
  operator : caller.isOperator = true
  limit : 1 ≤ target.limit ∧ target.limit ≤ 1000
  cursor : (after : Int) ≤ i64Max

/-- A request that is served is answered with a page, any other with an error. -/
theorem events_cases (target : Target) (caller : AuthenticatedCaller) (after : Nat) (db : Db) :
    (Served target caller after ∧ ((events target caller after).run db).1 =
      .ok ⟨db.eventsAfter target.size target.runId after target.limit,
        Paging.cursorAfter (·.sequence) after
          (db.eventsAfter target.size target.runId after target.limit)⟩) ∨
    (¬ Served target caller after ∧
      ∃ error, ((events target caller after).run db).1 = .error error) := by
  unfold events requireOperator
  rw [Tx.run_bind, Tx.run_require]
  by_cases hoperator : caller.isOperator = true
  · rw [if_pos hoperator]
    dsimp only
    rw [Tx.run_bind, Tx.run_require]
    by_cases hlimit : 1 ≤ target.limit ∧ target.limit ≤ 1000
    · rw [if_pos (decide_eq_true hlimit)]
      dsimp only
      rw [Tx.run_bind, Tx.run_require]
      by_cases hcursor : (after : Int) ≤ i64Max
      · rw [if_pos (decide_eq_true hcursor)]
        exact .inl ⟨⟨hoperator, hlimit, hcursor⟩, rfl⟩
      · rw [if_neg (by rw [decide_eq_true_eq]; exact hcursor)]
        exact .inr ⟨fun h => hcursor h.cursor, _, rfl⟩
    · rw [if_neg (by rw [decide_eq_true_eq]; exact hlimit)]
      exact .inr ⟨fun h => hlimit h.limit, _, rfl⟩
  · rw [if_neg hoperator]
    exact .inr ⟨fun h => hoperator h.operator, _, rfl⟩

/-- The cursor stands where the follower began or at an event of the run, and what was shown is
    what lies between. -/
structure Shown (target : Target) (start : Nat) (s : Following) : Prop where
  numbered : s.db.LogNumbered
  cursor : s.follower.after = start ∨
    start < s.follower.after ∧ ∃ event ∈ s.db.logOf target.runId, event.sequence = s.follower.after
  rendered : s.follower.rendered ++ s.db.unread target.runId s.follower.after =
    s.db.unread target.runId start

theorem Shown.start_le (h : Shown target start s) : start ≤ s.follower.after := by
  rcases h.cursor with hsame | ⟨hlt, -⟩
  · exact Nat.le_of_eq hsame.symm
  · exact Nat.le_of_lt hlt

/-- The unread events of a log that has grown. -/
theorem unread_grown {db db' : Db} {runId : RunId} {new : List EventRecord} {cursor : Nat}
    (hnumbered : db.LogNumbered) (hnumbered' : db'.LogNumbered)
    (hnew : db.logOf runId ++ new = db'.logOf runId) :
    db'.unread runId cursor =
      db.unread runId cursor ++ new.filter fun event => cursor < event.sequence := by
  rw [Db.unread, Db.unread, hnumbered'.eventsOf_eq, hnumbered.eventsOf_eq, ← hnew, Paging.later,
    Paging.later, List.filter_append]

/-- A change of the store shows nothing and hides nothing. -/
theorem Shown.change (h : Shown target start s) {db : Db} (hgrows : s.db.LogGrows db) :
    Shown target start { s with db } := by
  obtain ⟨new, hnew⟩ := hgrows.logOf target.runId
  have hnumbered := hgrows.numbered h.numbered
  refine ⟨hnumbered, ?_, ?_⟩
  · refine h.cursor.imp_right ?_
    rintro ⟨hlt, event, hevent, hsequence⟩
    exact ⟨hlt, event, hnew ▸ List.mem_append_left new hevent, hsequence⟩
  · dsimp only
    rw [unread_grown h.numbered hnumbered hnew, unread_grown h.numbered hnumbered hnew,
      ← List.append_assoc, h.rendered]
    congr 1
    rcases h.cursor with hsame | ⟨hlt, event, hevent, hsequence⟩
    · rw [hsame]
    · -- a new event comes after the one at the cursor
      have hordered := hnumbered.ordered target.runId
      rw [← hnew] at hordered
      have hafter := (List.pairwise_append.mp hordered).2.2 event hevent
      apply List.filter_congr
      intro other hother
      have hbehind : event.sequence < other.sequence := hafter other hother
      rw [decide_eq_decide]
      omega

/-- What is left unread is read from the end of the page on. -/
theorem Shown.receive (h : Shown target start s) (hlimit : 0 < target.limit) (mode : Mode)
    (stopped readStopped : Bool) :
    Shown target start
      { s with
        follower :=
          { after := Paging.cursorAfter (·.sequence) s.follower.after
              (s.db.eventsAfter target.size target.runId s.follower.after target.limit)
            stopped
            rendered := s.follower.rendered ++
              s.db.eventsAfter target.size target.runId s.follower.after target.limit
            mode }
        readStopped } := by
  have hpage := eventsAfter_isPage target.size s.db target.runId s.follower.after hlimit
  have hordered : Paging.Ordered (·.sequence) (s.db.eventsOf target.runId) := by
    rw [h.numbered.eventsOf_eq]
    exact h.numbered.ordered target.runId
  refine ⟨h.numbered, ?_, ?_⟩
  · dsimp only
    obtain ⟨taken, rest, hsplit, htaken, -, -⟩ := hpage
    rw [List.filterMap_some] at htaken
    rw [htaken]
    rcases List.eq_nil_or_concat taken with rfl | ⟨front, event, rfl⟩
    · exact h.cursor
    · rw [List.concat_eq_append] at hsplit ⊢
      rw [Paging.cursorAfter_concat]
      have hmem : event ∈ Paging.later (·.sequence) (s.db.eventsOf target.runId)
          s.follower.after := by
        rw [hsplit]
        simp
      obtain ⟨hevent, hlt⟩ := Paging.mem_later.mp hmem
      rw [h.numbered.eventsOf_eq] at hevent
      have hstart := h.start_le
      exact .inr ⟨by omega, event, hevent, rfl⟩
  · have hconserves := hpage.conserves hordered
    rw [List.filterMap_some, List.filterMap_some] at hconserves
    dsimp only
    rw [List.append_assoc, ← h.rendered]
    exact congrArg (s.follower.rendered ++ ·) hconserves

/-- A page is empty when nothing is left unread. -/
theorem eventsAfter_eq_nil {size : EventRecord → Nat} {db : Db} {runId : RunId} {after limit : Nat}
    (hlimit : 0 < limit) :
    db.eventsAfter size runId after limit = [] ↔ db.unread runId after = [] := by
  rw [Db.eventsAfter, eventPage_eq_nil, List.take_eq_nil_iff]
  exact ⟨fun h => h.resolve_left (by omega), .inr⟩

/-! ## When a follower is right -/

/-- The follower has shown a stop of the run, or has read the database of the stopped run. -/
def StopSeen (s : Following) : Prop :=
  s.follower.rendered.any (·.eventType == .runStopped) = true ∨ s.readStopped = true

/-- A follower is right: it has rendered a first part of the events after its start, and when it
    exits with success the run is stopped and all of them are rendered. -/
structure Right (target : Target) (start : Nat) (s : Following) : Prop where
  rendered : s.follower.rendered <+: s.db.unread target.runId start
  complete : s.follower.mode = .exited (.ok ()) →
    runStopped s.db target.runId = true ∧ s.follower.rendered = s.db.unread target.runId start

/-- An answer that makes the follower exit early: nothing is left to be shown, a stop of the run has
    been seen, and yet the run is active. -/
def EndsEarly (target : Target) (start : Nat) (s : Following) : FollowInput → Prop
  | .answer => s.follower.mode.waits = true ∧ Served target target.caller s.follower.after ∧
      s.follower.rendered = s.db.unread target.runId start ∧ StopSeen s ∧
      runStopped s.db target.runId = false
  | _ => False

/-- What is kept as long as the follower has not gone wrong. -/
structure Sound (target : Target) (start : Nat) (s : Following) : Prop extends
    Shown target start s where
  seen : s.follower.stopped = true ↔ StopSeen s
  success : s.follower.mode = .exited (.ok ()) →
    runStopped s.db target.runId = true ∧ s.follower.rendered = s.db.unread target.runId start

theorem Sound.right (h : Sound target start s) : Right target start s :=
  ⟨⟨_, h.rendered⟩, h.success⟩

/-! ## Steps -/

/-- The page that is left when nothing is unread. -/
theorem Shown.all_rendered (h : Shown target start s)
    (hnone : s.db.unread target.runId s.follower.after = []) :
    s.follower.rendered = s.db.unread target.runId start := by
  have hrendered := h.rendered
  rw [hnone, List.append_nil] at hrendered
  exact hrendered

/-- A response is received soundly when the last empty page comes from a stopped run. -/
theorem Shown.respond (h : Shown target start s) {caller : AuthenticatedCaller}
    {stopped readStopped : Bool} (hseen : stopped = true ↔ StopSeen { s with readStopped })
    (hstop : Served target caller s.follower.after →
      s.follower.rendered = s.db.unread target.runId start → stopped = true →
        runStopped s.db target.runId = true) :
    Sound target start
      { s with
        follower := { s.follower with stopped }.receive
          ((events target caller s.follower.after).run s.db).1
        readStopped } := by
  rcases events_cases target caller s.follower.after s.db with
    ⟨hserved, hpage⟩ | ⟨-, error, herror⟩
  · have hlimit : 0 < target.limit := hserved.limit.1
    rw [hpage, Follower.receive]
    refine { toShown := h.receive hlimit _ _ _, seen := ?_, success := ?_ }
    · unfold StopSeen at hseen ⊢
      dsimp only at hseen ⊢
      rw [Bool.or_eq_true, hseen, List.any_append, Bool.or_eq_true]
      constructor
      · rintro ((hshown | hread) | hnew)
        · exact .inl (.inl hshown)
        · exact .inr hread
        · exact .inl (.inr hnew)
      · rintro ((hshown | hnew) | hread)
        · exact .inl (.inl hshown)
        · exact .inr hnew
        · exact .inl (.inr hread)
    · intro hexit
      dsimp only at hexit ⊢
      split at hexit
      · rename_i hlast
        rw [Bool.and_eq_true, List.isEmpty_iff] at hlast
        obtain ⟨hstopped, hempty⟩ := hlast
        rw [hempty, List.any_nil, Bool.or_false] at hstopped
        rw [hempty, List.append_nil]
        have hall := h.all_rendered ((eventsAfter_eq_nil hlimit).mp hempty)
        exact ⟨hstop hserved hall hstopped, hall⟩
      · cases hexit
  · rw [herror, Follower.receive]
    exact
      { toShown := ⟨h.numbered, h.cursor, h.rendered⟩
        seen := hseen
        success := by intro hexit; cases hexit }

/-- A step that only moves the follower to another mode. -/
theorem Sound.move (h : Sound target start s) {mode : Mode} (hmode : mode ≠ .exited (.ok ())) :
    Sound target start { s with follower := { s.follower with mode } } :=
  { toShown := ⟨h.numbered, h.cursor, h.rendered⟩
    seen := h.seen
    success := fun hexit => absurd hexit hmode }

/-- A change of the store that the follower has not exited before. -/
theorem Sound.change (h : Sound target start s) (hmode : s.follower.mode ≠ .exited (.ok ()))
    {db : Db} (hgrows : s.db.LogGrows db) : Sound target start { s with db } :=
  { toShown := h.toShown.change hgrows
    seen := h.seen
    success := fun hexit => absurd hexit hmode }

/-- An answer that does not end the follower early is received soundly. -/
theorem Sound.answer (h : Sound target start s) (hwaits : s.follower.mode.waits = true)
    (hnot : ¬ EndsEarly target start s .answer) :
    Sound target start
      { s with
        follower := s.follower.receive
          ((events target target.caller s.follower.after).run s.db).1 } := by
  refine @Shown.respond _ _ _ h.toShown target.caller _ _ h.seen ?_
  intro hserved hall hstopped
  by_contra hactive
  rw [Bool.not_eq_true] at hactive
  exact hnot ⟨hwaits, hserved, hall, h.seen.mp hstopped, hactive⟩

/-- A look into the database of the run is sound: what it reads is from a stopped run. -/
theorem Sound.inspect (h : Sound target start s) :
    Sound target start
      (match stoppedStreamPage target s.follower.after s.db with
        | none => { s with follower := { s.follower with mode := .connecting } }
        | some response =>
            { s with
              follower := { s.follower with stopped := true }.receive response
              readStopped := true }) := by
  unfold stoppedStreamPage
  by_cases hstopped : stoppedProject target s.db = true
  · rw [if_pos hstopped]
    rw [stoppedProject, Bool.and_eq_true] at hstopped
    refine h.toShown.respond ?_ ?_
    · exact ⟨fun _ => .inr rfl, fun _ => rfl⟩
    · intro _ _ _
      exact hstopped.1
  · rw [if_neg hstopped]
    exact h.move nofun

/-- A step that does not end the follower early keeps it sound. -/
theorem step_sound (h : Sound target start s) (input : FollowInput)
    (hnot : ¬ EndsEarly target start s input) : Sound target start (s.step target input) := by
  unfold Following.step
  cases hmode : s.follower.mode with
  | exited outcome => exact h
  | asking =>
      cases input with
      | change write grows => exact h.change (by rw [hmode]; nofun) (grows s.db)
      | answer => exact h.answer (by rw [hmode]; rfl) hnot
      | lose =>
          refine h.move ?_
          split
          · nofun
          · nofun
      | inspect => exact h
      | fail message => exact h.move nofun
  | connecting =>
      cases input with
      | change write grows => exact h.change (by rw [hmode]; nofun) (grows s.db)
      | answer => exact h.answer (by rw [hmode]; rfl) hnot
      | lose => exact h.move nofun
      | inspect => exact h
      | fail message => exact h.move nofun
  | inspecting =>
      cases input with
      | change write grows => exact h.change (by rw [hmode]; nofun) (grows s.db)
      | answer => exact h
      | lose => exact h
      | inspect => exact h.inspect
      | fail message => exact h.move nofun

/-- A follower that ends early exits with success while the run is active. -/
theorem step_endsEarly (h : Sound target start s) {input : FollowInput}
    (hearly : EndsEarly target start s input) :
    (s.step target input).follower.mode = .exited (.ok ()) ∧
      runStopped (s.step target input).db target.runId = false := by
  cases input with
  | answer =>
      obtain ⟨hwaits, hserved, hall, hseen, hactive⟩ := hearly
      have hlimit : 0 < target.limit := hserved.limit.1
      have hrendered := h.rendered
      rw [← hall, List.append_right_eq_self] at hrendered
      have hempty : s.db.eventsAfter target.size target.runId s.follower.after target.limit = [] :=
        (eventsAfter_eq_nil hlimit).mpr hrendered
      have hpage := (events_cases target target.caller s.follower.after s.db).resolve_right
        (fun hrefused => hrefused.1 hserved)
      have hexit : (s.follower.receive
          ((events target target.caller s.follower.after).run s.db).1).mode = .exited (.ok ()) := by
        rw [hpage.2, hempty, Follower.receive, h.seen.mpr hseen]
        rfl
      unfold Following.step
      cases hmode : s.follower.mode with
      | asking => exact ⟨hexit, hactive⟩
      | connecting => exact ⟨hexit, hactive⟩
      | inspecting => rw [hmode] at hwaits; cases hwaits
      | exited outcome => rw [hmode] at hwaits; cases hwaits
  | change write grows => exact hearly.elim
  | lose => exact hearly.elim
  | inspect => exact hearly.elim
  | fail message => exact hearly.elim

/-- A follower that has exited stays as it is. -/
theorem runFrom_exited {outcome : Except FollowError Unit} (inputs : List FollowInput)
    (hmode : s.follower.mode = .exited outcome) :
    (followMachine target start).runFrom s inputs = s := by
  induction inputs with
  | nil => rfl
  | cons input inputs ih =>
      rw [Machine.runFrom_cons]
      have hsame : (followMachine target start).step input s = s := by
        show Following.step target input s = s
        unfold Following.step
        rw [hmode]
      rw [hsame]
      exact ih

/-- From a sound state: a follower is right exactly when no step ended it early. -/
theorem runFrom_right (inputs : List FollowInput) (h : Sound target start s) :
    Right target start ((followMachine target start).runFrom s inputs) ↔
      (followMachine target start).Meets (fun s input => ¬ EndsEarly target start s input) s
        inputs := by
  induction inputs generalizing s with
  | nil => exact ⟨fun _ => trivial, fun _ => h.right⟩
  | cons input inputs ih =>
      rw [Machine.runFrom_cons, Machine.Meets]
      by_cases hearly : EndsEarly target start s input
      · obtain ⟨hexit, hactive⟩ := step_endsEarly h hearly
        constructor
        · intro hright
          have hfrozen : (followMachine target start).runFrom
              ((followMachine target start).step input s) inputs = s.step target input :=
            runFrom_exited inputs hexit
          rw [hfrozen] at hright
          have hstopped := (hright.complete hexit).1
          rw [hactive] at hstopped
          cases hstopped
        · rintro ⟨hnot, -⟩
          exact absurd hearly hnot
      · rw [and_iff_right hearly]
        exact ih (step_sound h input hearly)

/-- Nothing has been shown at the start. -/
theorem start_sound (target : Target) (start : Nat) :
    Sound target start (followMachine target start).start :=
  { numbered := .empty
    cursor := .inl rfl
    rendered := rfl
    seen := by
      constructor
      · intro hstopped
        cases hstopped
      · rintro (hshown | hread)
        · cases hshown
        · cases hread
    success := nofun }

end Follow

/-- What a follower of the events of a run has rendered is the first part of the events after its
    cursor, each once and in order, and it exits with success only when the run is stopped and
    every event of it has been rendered: exactly when it never ended early, at an answer of a live
    supervisor that had nothing left to show, after a stop of the run was seen that the run has
    been recovered from. -/
theorem Follow.follow_events (target : Target) (start : Nat) (inputs : List FollowInput) :
    Right target start ((followMachine target start).run inputs) ↔
      (followMachine target start).Meets (fun s input => ¬ EndsEarly target start s input)
        (followMachine target start).start inputs :=
  runFrom_right inputs (start_sound target start)

namespace Follow

/-! ## A run that is not recovered -/

/-- The log behind a cursor tells of a stop of the run. -/
def tellsStop (db : Db) (runId : RunId) (start : Nat) : Bool :=
  (db.unread runId start).any (·.eventType == .runStopped)

/-- A change of the store leaves the run active, though it was stopped or the log behind the
    follower's start tells of a stop. -/
def Recovers (target : Target) (start : Nat) (s : Following) : FollowInput → Prop
  | .change write _ => runStopped (write s.db) target.runId = false ∧
      (runStopped s.db target.runId = true ∨ tellsStop (write s.db) target.runId start = true)
  | _ => False

/-- A stop that the follower may have seen still stands. -/
def StopStands (target : Target) (start : Nat) (s : Following) : Prop :=
  tellsStop s.db target.runId start = true ∨ s.readStopped = true →
    runStopped s.db target.runId = true

theorem StopStands.not_endsEarly (h : StopStands target start s) (input : FollowInput) :
    ¬ EndsEarly target start s input := by
  cases input with
  | answer =>
      rintro ⟨-, -, hall, hseen, hactive⟩
      -- all of the log has been shown, so that a stop among it is one of the log
      have hstopped : runStopped s.db target.runId = true := by
        refine h (hseen.imp_left fun hshown => ?_)
        rw [tellsStop, ← hall]
        exact hshown
      rw [hstopped] at hactive
      cases hactive
  | change write grows => exact id
  | lose => exact id
  | inspect => exact id
  | fail message => exact id

theorem StopStands.change (h : StopStands target start s) {write : Db → Db}
    {grows : ∀ db : Db, db.LogGrows (write db)}
    (hnot : ¬ Recovers target start s (.change write grows)) :
    StopStands target start { s with db := write s.db } := by
  intro hseen
  by_contra hactive
  refine hnot ⟨by simpa using hactive, ?_⟩
  exact hseen.symm.imp (fun hread => h (.inr hread)) id

/-- What the follower reads from the database of its run, it reads from a stopped run. -/
theorem StopStands.inspect (h : StopStands target start s) :
    StopStands target start
      (match stoppedStreamPage target s.follower.after s.db with
        | none => { s with follower := { s.follower with mode := .connecting } }
        | some response =>
            { s with
              follower := { s.follower with stopped := true }.receive response
              readStopped := true }) := by
  unfold stoppedStreamPage
  by_cases hstopped : stoppedProject target s.db = true
  · rw [if_pos hstopped]
    -- the page is read from a database in which the run is stopped
    rw [stoppedProject, Bool.and_eq_true] at hstopped
    exact fun _ => hstopped.1
  · rw [if_neg hstopped]
    exact h

theorem StopStands.step (h : StopStands target start s) {input : FollowInput}
    (hnot : ¬ Recovers target start s input) :
    StopStands target start (s.step target input) := by
  unfold Following.step
  cases hmode : s.follower.mode with
  | exited outcome => exact h
  | asking =>
      cases input with
      | change write grows => exact h.change hnot
      | answer => exact h
      | lose => exact h
      | inspect => exact h
      | fail message => exact h
  | connecting =>
      cases input with
      | change write grows => exact h.change hnot
      | answer => exact h
      | lose => exact h
      | inspect => exact h
      | fail message => exact h
  | inspecting =>
      cases input with
      | change write grows => exact h.change hnot
      | answer => exact h
      | lose => exact h
      | inspect => exact h.inspect
      | fail message => exact h

/-- A follower of a run that is not recovered is right, whatever it reads when. -/
theorem right_of_unrecovered {inputs : List FollowInput}
    (hmeets : (followMachine target start).Meets (fun s input => ¬ Recovers target start s input)
      (followMachine target start).start inputs) :
    Right target start ((followMachine target start).run inputs) := by
  have hsound : Sound target start ((followMachine target start).run inputs) ∧
      StopStands target start ((followMachine target start).run inputs) := by
    refine Machine.invariant_runFrom
      (I := fun s => Sound target start s ∧ StopStands target start s) ?_
      ⟨start_sound target start, ?_⟩ hmeets
    · rintro s input ⟨hsound, hstands⟩ hnot
      exact ⟨step_sound hsound input (hstands.not_endsEarly input), hstands.step hnot⟩
    · rintro (htells | hread)
      · have hnone : (Db.empty.unread target.runId start) = [] := by
          simp [Db.unread, Db.eventsOf, Db.empty, Paging.later]
        rw [tellsStop, show (followMachine target start).start.db = .empty from rfl, hnone]
          at htells
        cases htells
      · cases hread
  exact hsound.1.right

/-! ## A run that was recovered -/

/-- An operator follows a run. -/
def recoveredTarget : Target where
  runId := ⟨"r"⟩
  caller := .operator
  projectId := ⟨"p"⟩
  identity := .null
  limit := 100
  size _ := 100

/-- A run is started, stopped and recovered. -/
def recovery : List Command :=
  [.startRun ⟨"r"⟩ ⟨⟨"p"⟩, ⟨"r"⟩, "primary", "/p", "/p", .null, true, 0⟩ 0,
    .beginRunShutdown ⟨"r"⟩ ⟨"stop"⟩ 1000 250 5000,
    .persistShutdown ⟨"r"⟩ ⟨"stop"⟩ 2,
    .recoverRun ⟨⟨"recover"⟩, ⟨"r"⟩, none, 3⟩ none "go on"]

/-- What the commands do to the store the follower reads from. -/
def changes (commands : List Command) : List FollowInput :=
  commands.map fun command => .change command.exec command.exec_logGrows

/-- The store of the recovered run. -/
def recoveredDb : Db := recovery.foldl (fun db command => command.exec db) .empty

theorem recoveredDb_numbered : recoveredDb.LogNumbered := by
  have hnumbered : ∀ (commands : List Command) (db : Db), db.LogNumbered →
      (commands.foldl (fun db command => command.exec db) db).LogNumbered := by
    intro commands
    induction commands with
    | nil => exact fun _ h => h
    | cons command commands ih => exact fun db h => ih _ ((command.exec_logGrows db).numbered h)
  exact hnumbered recovery .empty .empty

/-- What an answer shows from a cursor of the recovered run. -/
theorem recovered_events (after : Nat) (hcursor : (after : Int) ≤ i64Max) (page : EventsPage)
    (hevents : eventPage recoveredTarget.size
      (((recoveredDb.logOf ⟨"r"⟩).filter fun event => after < event.sequence).take 100) =
        page.events)
    (hnext : Paging.cursorAfter (·.sequence) after page.events = page.nextCursor) :
    ((events recoveredTarget .operator after).run recoveredDb).1 = .ok page := by
  have hpage := (events_cases recoveredTarget .operator after recoveredDb).resolve_right
    (fun h => h.1 ⟨rfl, by decide, hcursor⟩)
  have hread : recoveredDb.eventsAfter recoveredTarget.size recoveredTarget.runId after
      recoveredTarget.limit = page.events := by
    rw [Db.eventsAfter, recoveredDb_numbered.eventsOf_eq]
    exact hevents
  rw [hread, hnext] at hpage
  exact hpage.2

/-- A follower of a run that was stopped and recovered ends with success while the run is
    active. -/
theorem follow_events_recovered :
    ¬ Right recoveredTarget 0
      ((followMachine recoveredTarget 0).run (changes recovery ++ [.answer, .answer])) := by
  have hstart : (followMachine recoveredTarget 0).run (changes recovery) =
      ⟨recoveredDb, ⟨0, false, [], .asking⟩, false⟩ := rfl
  -- the first answer shows all events, the stop among them
  have hstop : (recoveredDb.logOf ⟨"r"⟩).any (·.eventType == .runStopped) = true := by
    decide +kernel
  have hfirst : Following.step recoveredTarget .answer
      ⟨recoveredDb, ⟨0, false, [], .asking⟩, false⟩ =
      ⟨recoveredDb, ⟨7, true, recoveredDb.logOf ⟨"r"⟩, .asking⟩, false⟩ := by
    have hpage := recovered_events 0 (by decide) ⟨recoveredDb.logOf ⟨"r"⟩, 7⟩ (by decide +kernel)
      (by decide +kernel)
    have hsome : (recoveredDb.logOf ⟨"r"⟩).isEmpty = false := by decide +kernel
    show Following.mk _ (Follower.receive _ ((events recoveredTarget .operator 0).run _).1) _ = _
    rw [hpage, Follower.receive]
    simp [hstop, hsome]
  -- the second finds nothing left
  have hsecond : Following.step recoveredTarget .answer
      ⟨recoveredDb, ⟨7, true, recoveredDb.logOf ⟨"r"⟩, .asking⟩, false⟩ =
      ⟨recoveredDb, ⟨7, true, recoveredDb.logOf ⟨"r"⟩, .exited (.ok ())⟩, false⟩ := by
    have hpage := recovered_events 7 (by decide) ⟨[], 7⟩ (by decide +kernel) rfl
    show Following.mk _ (Follower.receive _ ((events recoveredTarget .operator 7).run _).1) _ = _
    rw [hpage, Follower.receive]
    simp
  have hend : (followMachine recoveredTarget 0).run (changes recovery ++ [.answer, .answer]) =
      ⟨recoveredDb, ⟨7, true, recoveredDb.logOf ⟨"r"⟩, .exited (.ok ())⟩, false⟩ := by
    rw [Machine.run_append, hstart]
    show Following.step recoveredTarget .answer (Following.step recoveredTarget .answer _) = _
    rw [hfirst]
    exact hsecond
  have hactive : runStopped recoveredDb ⟨"r"⟩ = false := by decide +kernel
  intro hright
  rw [hend] at hright
  have hstopped : runStopped recoveredDb ⟨"r"⟩ = true := (hright.complete rfl).1
  rw [hactive] at hstopped
  cases hstopped

end Follow

end Coterie
