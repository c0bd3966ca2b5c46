/-
  Coterie.State.Events

  The event log of a run and its pages (`state.rs`: `append_event`, `events_after`).  Every write
  appends to the log at the next sequence, so that the sequences of a run are `1, 2, …` in the order
  in which the events were written, and no event changes.

  A page is cut by its limit and by a byte budget.  The size of a serialized event is a parameter:
  the fields that only readers see are left out of the model.
-/

import Coterie.Base.Paging
import Coterie.State.Frame
import Coterie.State.Progress

namespace Coterie

/-! ## Pages -/

/-- Leave room for the RPC envelope and page cursor beneath the transport limit. -/
def maximumEventPageLength : Nat := 900 * 1024

/-- The events that fit behind `length` bytes. -/
def fillPage (size : EventRecord → Nat) : Nat → List EventRecord → List EventRecord
  | _, [] => []
  | length, event :: rest =>
      if maximumEventPageLength < length + size event then []
      else event :: fillPage size (length + size event) rest

/-- The events of a page: the first one, whatever its size, and those that fit behind it. -/
def eventPage (size : EventRecord → Nat) : List EventRecord → List EventRecord
  | [] => []
  | event :: rest => event :: fillPage size (size event) rest

/-- The events after a cursor, at most `limit`. -/
def Db.eventsAfter (size : EventRecord → Nat) (db : Db) (runId : RunId) (after limit : Nat) :
    List EventRecord :=
  eventPage size (((db.eventsOf runId).filter fun event => after < event.sequence).take limit)

theorem fillPage_isPrefix (size : EventRecord → Nat) (length : Nat) (events : List EventRecord) :
    fillPage size length events <+: events := by
  induction events generalizing length with
  | nil => exact List.prefix_refl _
  | cons event rest ih =>
      rw [fillPage]
      split
      · exact List.nil_prefix
      · exact List.prefix_cons_inj event |>.mpr (ih _)

theorem eventPage_isPrefix (size : EventRecord → Nat) (events : List EventRecord) :
    eventPage size events <+: events := by
  cases events with
  | nil => exact List.prefix_refl _
  | cons event rest => exact List.prefix_cons_inj event |>.mpr (fillPage_isPrefix size _ rest)

/-- A page begins with the first event. -/
theorem eventPage_eq_nil {size : EventRecord → Nat} {events : List EventRecord} :
    eventPage size events = [] ↔ events = [] := by
  cases events with
  | nil => exact Iff.rfl
  | cons event rest => exact iff_of_false (List.cons_ne_nil _ _) (List.cons_ne_nil _ _)

/-- A page of the log shows a first part of the events after the cursor, at least one of them if
    there is any. -/
theorem eventsAfter_isPage (size : EventRecord → Nat) (db : Db) (runId : RunId) (after : Nat)
    {limit : Nat} (hlimit : 0 < limit) :
    Paging.IsPage (·.sequence) some (db.eventsOf runId) after
      (db.eventsAfter size runId after limit)
      (Paging.cursorAfter (·.sequence) after (db.eventsAfter size runId after limit)) := by
  have htaken : db.eventsAfter size runId after limit <+: db.unread runId after :=
    (eventPage_isPrefix size _).trans (List.take_prefix limit _)
  obtain ⟨rest, hrest⟩ := htaken
  refine ⟨db.eventsAfter size runId after limit, rest, hrest.symm, ?_, rfl, fun hnil => ?_⟩
  · rw [List.filterMap_some]
  · have hnone := eventPage_eq_nil.mp hnil
    rw [List.take_eq_nil_iff] at hnone
    have hunread : db.unread runId after = [] := hnone.resolve_left (by omega)
    rw [hnil, hunread] at hrest
    exact hrest

/-! ## The log -/

/-- The events of a run in the order in which they were written. -/
def Db.logOf (db : Db) (runId : RunId) : List EventRecord :=
  db.events.filter (·.runId == runId)

/-- The sequences of every run are `1, 2, …`. -/
def Db.LogNumbered (db : Db) : Prop :=
  ∀ runId, (db.logOf runId).map (·.sequence) = List.range' 1 (db.logOf runId).length

namespace Db.LogNumbered

variable {db : Db} {runId : RunId}

theorem empty : Db.empty.LogNumbered := fun _ => rfl

theorem ordered (h : db.LogNumbered) (runId : RunId) :
    Paging.Ordered (·.sequence) (db.logOf runId) := by
  have hsorted := List.pairwise_lt_range' (s := 1) (n := (db.logOf runId).length) 1
  rw [← h runId, List.pairwise_map] at hsorted
  exact hsorted

/-- Reading the log by sequence gives the order in which it was written. -/
theorem eventsOf_eq (h : db.LogNumbered) (runId : RunId) : db.eventsOf runId = db.logOf runId := by
  refine List.mergeSort_of_pairwise ((h.ordered runId).imp fun hlt => ?_)
  rw [decide_eq_true_eq]
  exact Nat.le_of_lt hlt

/-- The next sequence is the first that is free. -/
theorem next (h : db.LogNumbered) (runId : RunId) :
    db.nextEventSequence runId = (db.logOf runId).length + 1 := by
  have hmax : ((db.logOf runId).map (·.sequence)).foldl max 0 = (db.logOf runId).length := by
    rw [h runId]
    refine Nat.le_antisymm (Table.foldl_max_le_iff.mpr ⟨Nat.zero_le _, ?_⟩) ?_
    · intro sequence hsequence
      rw [List.mem_range'_1] at hsequence
      omega
    · by_cases hempty : (db.logOf runId).length = 0
      · omega
      · refine Table.le_foldl_max ?_
        rw [List.mem_range'_1]
        omega
  rw [Db.nextEventSequence]
  exact congrArg (· + 1) hmax

/-- An event is written behind the log of its run. -/
theorem pushEvent (h : db.LogNumbered) (event : NewEvent) : (db.pushEvent event).LogNumbered := by
  intro other
  by_cases hrun : event.runId = other
  · subst hrun
    have hlog : (db.pushEvent event).logOf event.runId =
        db.logOf event.runId ++ [db.eventRecord event] := by
      rw [Db.logOf, Db.pushEvent, List.filter_append]
      congr 1
      exact List.filter_cons_of_pos (beq_self_eq_true event.runId)
    have hnext : (db.eventRecord event).sequence = 1 + 1 * (db.logOf event.runId).length := by
      rw [Nat.one_mul, Nat.add_comm]
      exact h.next event.runId
    rw [hlog, List.map_append, h event.runId, List.length_append, List.length_singleton,
      List.range'_concat, List.map_singleton, hnext]
  · have hlog : (db.pushEvent event).logOf other = db.logOf other := by
      rw [Db.logOf, Db.pushEvent, List.filter_append]
      have hnone : [db.eventRecord event].filter (·.runId == other) = [] :=
        List.filter_cons_of_neg (by simpa [Db.eventRecord] using hrun)
      rw [hnone, List.append_nil]
      rfl
    rw [hlog]
    exact h other

end Db.LogNumbered

/-- The log grows behind what it was, and stays numbered. -/
structure Db.LogGrows (db db' : Db) : Prop where
  events : db.events <+: db'.events
  numbered : db.LogNumbered → db'.LogNumbered

instance : Std.Refl Db.LogGrows where
  refl _ := ⟨List.prefix_refl _, id⟩

instance : IsTrans Db Db.LogGrows where
  trans _ _ _ hab hbc := ⟨hab.events.trans hbc.events, fun h => hbc.numbered (hab.numbered h)⟩

/-- Whatever is written, events are only appended. -/
theorem Written.logGrows {tables : List TableName} {db db' : Db} (h : Written tables db db') :
    db.LogGrows db' := by
  refine h.rel fun s t hwrite => ?_
  cases hwrite with
  | event event _ _ _ => exact ⟨List.prefix_append _ _, fun h => h.pushEvent event⟩
  | _ => exact ⟨List.prefix_refl _, id⟩

theorem Db.LogGrows.logOf {db db' : Db} (h : db.LogGrows db') (runId : RunId) :
    db.logOf runId <+: db'.logOf runId := by
  obtain ⟨new, hnew⟩ := h.events
  refine ⟨new.filter (·.runId == runId), ?_⟩
  rw [Db.logOf, Db.logOf, ← hnew, List.filter_append]

end Coterie
