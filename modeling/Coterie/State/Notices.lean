/-
  Coterie.State.Notices

  The notifications of one session.  What the store holds about them is a binding and a list of
  deliveries (`Notice`); `NoticeStep` is what one request may do to them.

  The mark of a session is where its log and its inbox ended when it last received a delivery, and
  before that the end of the log at its enabling and the start of the inbox.  Nothing stores it.
  `Notice.Sound` ties it to the cursors of the binding: a claim moves the cursors ahead of the mark,
  and while no delivery is outstanding they are the mark.
-/

import Coterie.State.Notifications
import Mathlib.Order.Lattice

namespace Coterie

-- ============================================================================
-- One session
-- ============================================================================

/-- What the store holds about the notifications of a session. -/
structure Notice where
  binding : Option ForegroundNotification
  deliveries : List NotificationDelivery

/-- Up to where the log and the inbox are covered. -/
def ForegroundNotification.cursors (binding : ForegroundNotification) : Nat × Nat :=
  (binding.eventCursor, binding.messageCursor)

def ForegroundNotification.moveTo (binding : ForegroundNotification) (cursors : Nat × Nat) :
    ForegroundNotification :=
  { binding with eventCursor := cursors.1, messageCursor := cursors.2 }

namespace NotificationDelivery

def cursors (delivery : NotificationDelivery) : Nat × Nat :=
  (delivery.eventCursor, delivery.messageCursor)

/-- Accepted by the provider and received by the session. -/
def settled (delivery : NotificationDelivery) : Bool :=
  delivery.state == .observed .accepted && delivery.receiptState == .received

def received (delivery : NotificationDelivery) : Bool :=
  delivery.receiptState == .received

/-- The provider's queue has answered. -/
def observe (outcome : QueueOutcome) (observedAt : Int) (delivery : NotificationDelivery) :
    NotificationDelivery :=
  { delivery with state := .observed outcome, observedAt := some observedAt }

/-- The session has reported the delivery. -/
def receive (receivedAt : Int) (delivery : NotificationDelivery) : NotificationDelivery :=
  { delivery with receiptState := .received, receivedAt := some receivedAt }

/-- What later requests keep of a delivery. -/
structure Kept (delivery delivery' : NotificationDelivery) : Prop where
  operationId : delivery'.operationId = delivery.operationId
  cursors : delivery'.cursors = delivery.cursors
  observed : delivery.state ≠ .attempting →
    delivery'.state = delivery.state ∧ delivery'.observedAt = delivery.observedAt
  received : delivery.received = true →
    delivery'.received = true ∧ delivery'.receivedAt = delivery.receivedAt

instance : Std.Refl Kept where
  refl _ := ⟨rfl, rfl, fun _ => ⟨rfl, rfl⟩, fun h => ⟨h, rfl⟩⟩

instance : IsTrans NotificationDelivery Kept where
  trans := by
    intro a b c hab hbc
    refine ⟨hbc.operationId.trans hab.operationId, hbc.cursors.trans hab.cursors, ?_, ?_⟩
    · intro hobserved
      obtain ⟨hstate, hat⟩ := hab.observed hobserved
      obtain ⟨hstate', hat'⟩ := hbc.observed (by rwa [hstate])
      exact ⟨hstate'.trans hstate, hat'.trans hat⟩
    · intro hreceived
      obtain ⟨hreceived', hat⟩ := hab.received hreceived
      obtain ⟨hreceived'', hat'⟩ := hbc.received hreceived'
      exact ⟨hreceived'', hat'.trans hat⟩

end NotificationDelivery

namespace Notice

/-- The deliveries that are not settled yet. -/
def outstanding (n : Notice) : List NotificationDelivery :=
  n.deliveries.filter (!·.settled)

/-- How many deliveries the session has received. -/
def receipts (n : Notice) : Nat :=
  n.deliveries.countP (·.received)

/-- The mark after a change from `n` to `n'`, where `high` is the present end of the log and of the
    inbox.  A session that was just enabled has not been told of any message, so that its mark is the
    start of the inbox. -/
def mark (high : Nat × Nat) (n n' : Notice) (mark : Nat × Nat) : Nat × Nat :=
  if n.binding.isNone && n'.binding.isSome then (high.1, 0)
  else if n.receipts < n'.receipts then high
  else mark

end Notice

/-- What a request may do to the notifications of a session whose log and inbox end at `high`. -/
inductive NoticeStep (high : Nat × Nat) : Notice → Notice → Prop where
  | same (n : Notice) : NoticeStep high n n
  | enable (binding : ForegroundNotification) (deliveries : List NotificationDelivery)
      (hthread : binding.threadId = none) (hcursors : binding.cursors = (high.1, 0)) :
      NoticeStep high ⟨none, deliveries⟩ ⟨some binding, deliveries⟩
  | bind (binding : ForegroundNotification) (deliveries : List NotificationDelivery)
      (thread : String) (hthread : binding.threadId = none ∨ binding.threadId = some thread) :
      NoticeStep high ⟨some binding, deliveries⟩
        ⟨some { binding with threadId := some thread }, deliveries⟩
  | claim (binding : ForegroundNotification) (deliveries : List NotificationDelivery)
      (delivery : NotificationDelivery) (hthread : binding.threadId ≠ none)
      (hsettled : ∀ other ∈ deliveries, other.settled = true)
      (hnew : delivery.state = .attempting ∧ delivery.receiptState = .pending)
      (hfrom : binding.cursors ≤ delivery.cursors)
      (hto : delivery.cursors ≤ binding.cursors ⊔ high) :
      NoticeStep high ⟨some binding, deliveries⟩
        ⟨some (binding.moveTo delivery.cursors), deliveries ++ [delivery]⟩
  | observe (n : Notice) (p : NotificationDelivery → Bool) (outcome : QueueOutcome)
      (observedAt : Int) (hp : ∀ delivery, p delivery = true → delivery.state = .attempting) :
      NoticeStep high n
        ⟨n.binding, Table.updateWhere p (·.observe outcome observedAt) n.deliveries⟩
  | receive (n : Notice) (delivery : NotificationDelivery) (receivedAt : Int)
      (hmem : delivery ∈ n.deliveries) (hpending : delivery.receiptState = .pending) :
      NoticeStep high n
        ⟨n.binding.map (·.moveTo high),
          Table.updateWhere (·.operationId == delivery.operationId) (·.receive receivedAt)
            n.deliveries⟩

/-- The notifications of a session fit its mark and the present ends of its log and its inbox. -/
structure Notice.Sound (high mark : Nat × Nat) (n : Notice) : Prop where
  bound : n.deliveries ≠ [] → n.binding.isSome = true
  single : n.outstanding.length ≤ 1
  reached : ∀ binding, n.binding = some binding →
    mark ≤ binding.cursors ∧ binding.cursors ≤ high
  covered : ∀ binding, n.binding = some binding →
    ∀ delivery ∈ n.deliveries, delivery.cursors ≤ binding.cursors
  idle : ∀ binding, n.binding = some binding →
    (∀ delivery ∈ n.deliveries, delivery.received = true) → binding.cursors = mark

/-- What later requests keep of the notifications of a session. -/
structure Notice.Continues (n n' : Notice) : Prop where
  binding : ∀ binding, n.binding = some binding → ∃ binding', n'.binding = some binding' ∧
    (∀ thread, binding.threadId = some thread → binding'.threadId = some thread) ∧
      binding.cursors ≤ binding'.cursors
  length : n.deliveries.length ≤ n'.deliveries.length
  kept : List.Forall₂ NotificationDelivery.Kept n.deliveries
    (n'.deliveries.take n.deliveries.length)

namespace Notice

theorem sound_empty (high mark : Nat × Nat) : Sound high mark ⟨none, []⟩ where
  bound := fun h => absurd rfl h
  single := Nat.zero_le _
  reached := nofun
  covered := nofun
  idle := nofun

/-- The log and the inbox only get longer. -/
theorem Sound.mono {high high' mark : Nat × Nat} {n : Notice} (h : n.Sound high mark)
    (hhigh : high ≤ high') : n.Sound high' mark where
  bound := h.bound
  single := h.single
  reached := fun binding hbinding =>
    ⟨(h.reached binding hbinding).1, (h.reached binding hbinding).2.trans hhigh⟩
  covered := h.covered
  idle := h.idle

instance : Std.Refl Continues where
  refl n := by
    refine ⟨fun binding hbinding => ⟨binding, hbinding, fun _ h => h, le_refl _⟩,
      Nat.le_refl _, ?_⟩
    rw [List.take_length]
    exact List.forall₂_refl _

instance : IsTrans Notice Continues where
  trans := by
    intro a b c hab hbc
    refine ⟨fun binding hbinding => ?_, Nat.le_trans hab.length hbc.length, ?_⟩
    · obtain ⟨binding', hbinding', hthread, hcursors⟩ := hab.binding binding hbinding
      obtain ⟨binding'', hbinding'', hthread', hcursors'⟩ := hbc.binding binding' hbinding'
      exact ⟨binding'', hbinding'', fun thread h => hthread' thread (hthread thread h),
        hcursors.trans hcursors'⟩
    · have hrest := List.forall₂_take a.deliveries.length hbc.kept
      rw [List.take_take, min_eq_left hab.length] at hrest
      exact Table.forall₂_trans hab.kept hrest

/-- Deliveries that are changed in place. -/
theorem Continues.of_forall₂ {n n' : Notice}
    (hbinding : ∀ binding, n.binding = some binding → ∃ binding', n'.binding = some binding' ∧
      (∀ thread, binding.threadId = some thread → binding'.threadId = some thread) ∧
        binding.cursors ≤ binding'.cursors)
    (hkept : List.Forall₂ NotificationDelivery.Kept n.deliveries n'.deliveries) :
    n.Continues n' := by
  refine ⟨hbinding, hkept.length_eq.le, ?_⟩
  rw [hkept.length_eq, List.take_length]
  exact hkept

section Step

variable {high mark : Nat × Nat} {n n' : Notice}

theorem outstanding_length (n : Notice) :
    n.outstanding.length = n.deliveries.countP (!·.settled) :=
  List.countP_eq_length_filter.symm

theorem received_of_outstanding (h : n.outstanding = []) :
    ∀ delivery ∈ n.deliveries, delivery.received = true := by
  intro delivery hmem
  have hsettled := List.filter_eq_nil_iff.mp h delivery hmem
  unfold NotificationDelivery.settled at hsettled
  simp only [Bool.not_eq_true', Bool.not_eq_false, Bool.and_eq_true] at hsettled
  exact hsettled.2

/-- Deliveries that are changed in place and stay settled where they were. -/
theorem single_of_forall₂ {deliveries deliveries' : List NotificationDelivery}
    (h : List.Forall₂ (fun a b : NotificationDelivery => a.settled = true → b.settled = true)
      deliveries deliveries')
    (hsingle : deliveries.countP (!·.settled) ≤ 1) : deliveries'.countP (!·.settled) ≤ 1 := by
  refine Nat.le_trans (Table.countP_le_of_forall₂ (fun a b hab hb => ?_) h) hsingle
  cases ha : a.settled with
  | false => rfl
  | true =>
      rw [hab ha] at hb
      cases hb

/-- A change that enables nothing and receives nothing leaves the mark where it is. -/
theorem Sound.unmarked (hbinding : (n.binding.isNone && n'.binding.isSome) = false)
    (hreceipts : n'.receipts = n.receipts) (h : n'.Sound high mark) :
    n'.Sound high (Notice.mark high n n' mark) := by
  have hmark : Notice.mark high n n' mark = mark := by
    unfold Notice.mark
    rw [hbinding, hreceipts, if_neg (by decide), if_neg (Nat.lt_irrefl _)]
  rwa [hmark]

/-- A session is enabled without a delivery, from the present end of its log and the start of its
    inbox. -/
theorem Sound.enabled {binding : ForegroundNotification} {deliveries : List NotificationDelivery}
    (h : Sound high mark ⟨none, deliveries⟩) (hcursors : binding.cursors = (high.1, 0)) :
    Sound high (Notice.mark high ⟨none, deliveries⟩ ⟨some binding, deliveries⟩ mark)
      ⟨some binding, deliveries⟩ := by
  have hnone : deliveries = [] := by
    by_contra hsome
    exact Bool.false_ne_true (h.bound hsome)
  subst hnone
  refine ⟨fun _ => rfl, h.single, ?_, fun _ _ => nofun, ?_⟩
  · rintro _ ⟨⟩
    rw [hcursors]
    exact ⟨le_refl _, ⟨le_refl _, Nat.zero_le _⟩⟩
  · rintro _ ⟨⟩ -
    exact hcursors

/-- A claim moves the cursors ahead of the mark and leaves one delivery outstanding. -/
theorem Sound.claimed {binding : ForegroundNotification} {deliveries : List NotificationDelivery}
    {delivery : NotificationDelivery} (h : Sound high mark ⟨some binding, deliveries⟩)
    (hsettled : ∀ other ∈ deliveries, other.settled = true)
    (hpending : delivery.receiptState = .pending) (hfrom : binding.cursors ≤ delivery.cursors)
    (hto : delivery.cursors ≤ binding.cursors ⊔ high) :
    Sound high
      (Notice.mark high ⟨some binding, deliveries⟩
        ⟨some (binding.moveTo delivery.cursors), deliveries ++ [delivery]⟩ mark)
      ⟨some (binding.moveTo delivery.cursors), deliveries ++ [delivery]⟩ := by
  have hreceived : delivery.received = false := by
    unfold NotificationDelivery.received
    rw [hpending]
    rfl
  have hhigh : delivery.cursors ≤ high := by
    rwa [sup_eq_right.mpr (h.reached binding rfl).2] at hto
  refine .unmarked rfl (by simp [Notice.receipts, hreceived]) ⟨fun _ => rfl, ?_, ?_, ?_, ?_⟩
  · -- the others are settled
    rw [outstanding_length, List.countP_append]
    have hnone : deliveries.countP (!·.settled) = 0 :=
      List.countP_eq_zero.mpr fun other hother => by simp [hsettled other hother]
    rw [hnone, Nat.zero_add]
    exact List.countP_le_length
  · rintro _ ⟨⟩
    exact ⟨(h.reached binding rfl).1.trans hfrom, hhigh⟩
  · rintro _ ⟨⟩ other hother
    rcases List.mem_append.mp hother with hold | hlast
    · exact (h.covered binding rfl other hold).trans hfrom
    · rw [List.mem_singleton.mp hlast]
      exact le_refl _
  · -- the new delivery is still to be received
    rintro _ ⟨⟩ hall
    rw [hall delivery (List.mem_append_right _ (List.mem_singleton_self _))] at hreceived
    cases hreceived

/-- An outcome settles no delivery that was not received. -/
theorem Sound.observed (h : n.Sound high mark) {p : NotificationDelivery → Bool}
    {outcome : QueueOutcome} {observedAt : Int}
    (hp : ∀ delivery, p delivery = true → delivery.state = .attempting) :
    Sound high
      (Notice.mark high n
        ⟨n.binding, Table.updateWhere p (·.observe outcome observedAt) n.deliveries⟩ mark)
      ⟨n.binding, Table.updateWhere p (·.observe outcome observedAt) n.deliveries⟩ := by
  have hrows : ∀ delivery' ∈ Table.updateWhere p (·.observe outcome observedAt) n.deliveries,
      ∃ delivery ∈ n.deliveries, delivery'.cursors = delivery.cursors ∧
        delivery'.received = delivery.received := by
    intro delivery' hmem
    obtain ⟨delivery, hold, rfl⟩ := Table.mem_updateWhere.mp hmem
    refine ⟨delivery, hold, ?_⟩
    split <;> exact ⟨rfl, rfl⟩
  have hreceipts : (Table.updateWhere p (·.observe outcome observedAt) n.deliveries).countP
      (·.received) = n.receipts := by
    refine Table.countP_updateWhere_of_eq ?_ _
    exact fun _ _ => rfl
  refine .unmarked (by cases n.binding <;> rfl) hreceipts ⟨?_, ?_, h.reached, ?_, ?_⟩
  · intro hsome
    refine h.bound fun hnone => hsome ?_
    rw [hnone]
    rfl
  · rw [outstanding_length]
    refine single_of_forall₂ ?_ (outstanding_length n ▸ h.single)
    refine List.forall₂_map_right_iff.mpr (List.forall₂_same.mpr fun delivery _ hsettled => ?_)
    -- what is attempted is not settled
    have hother : ¬ p delivery = true := by
      intro hselected
      unfold NotificationDelivery.settled at hsettled
      rw [hp delivery hselected] at hsettled
      cases hsettled
    rwa [if_neg hother]
  · intro binding hbinding delivery' hmem
    obtain ⟨delivery, hold, hcursors, -⟩ := hrows delivery' hmem
    rw [hcursors]
    exact h.covered binding hbinding delivery hold
  · intro binding hbinding hall
    refine h.idle binding hbinding fun delivery hold => ?_
    by_cases hselected : p delivery = true
    · exact hall (delivery.observe outcome observedAt)
        (Table.mem_updateWhere_of_pos hold hselected)
    · exact hall delivery
        (Table.mem_updateWhere_of_neg hold (Bool.eq_false_iff.mpr hselected))

/-- A receipt moves the mark and the cursors to the present. -/
theorem Sound.received (h : n.Sound high mark) {delivery : NotificationDelivery}
    {receivedAt : Int} (hmem : delivery ∈ n.deliveries)
    (hpending : delivery.receiptState = .pending) :
    Sound high
      (Notice.mark high n ⟨n.binding.map (·.moveTo high), Table.updateWhere
        (·.operationId == delivery.operationId) (·.receive receivedAt) n.deliveries⟩ mark)
      ⟨n.binding.map (·.moveTo high), Table.updateWhere
        (·.operationId == delivery.operationId) (·.receive receivedAt) n.deliveries⟩ := by
  obtain ⟨binding, hbinding⟩ := Option.isSome_iff_exists.mp (h.bound (List.ne_nil_of_mem hmem))
  have hmark : Notice.mark high n ⟨n.binding.map (·.moveTo high), Table.updateWhere
      (·.operationId == delivery.operationId) (·.receive receivedAt) n.deliveries⟩ mark =
        high := by
    have hlt : n.receipts < (Table.updateWhere (·.operationId == delivery.operationId)
        (·.receive receivedAt) n.deliveries).countP (·.received) := by
      refine Table.countP_lt_updateWhere (fun _ _ _ => rfl) hmem (beq_self_eq_true _) ?_ rfl
      unfold NotificationDelivery.received
      rw [hpending]
      rfl
    unfold Notice.mark
    rw [hbinding]
    exact (if_neg Bool.false_ne_true).trans (if_pos hlt)
  rw [hmark]
  refine ⟨fun _ => by rw [hbinding]; rfl, ?_, ?_, ?_, ?_⟩
  · rw [outstanding_length]
    refine single_of_forall₂ ?_ (outstanding_length n ▸ h.single)
    refine List.forall₂_map_right_iff.mpr (List.forall₂_same.mpr fun other _ hsettled => ?_)
    split
    · unfold NotificationDelivery.settled at hsettled ⊢
      rw [Bool.and_eq_true] at hsettled ⊢
      exact ⟨hsettled.1, rfl⟩
    · exact hsettled
  · intro moved hmoved
    rw [hbinding] at hmoved
    cases hmoved
    exact ⟨le_refl _, le_refl _⟩
  · intro moved hmoved other' hother'
    rw [hbinding] at hmoved
    cases hmoved
    obtain ⟨other, hother, rfl⟩ := Table.mem_updateWhere.mp hother'
    have hold := (h.covered binding hbinding other hother).trans (h.reached binding hbinding).2
    split <;> exact hold
  · intro moved hmoved _
    rw [hbinding] at hmoved
    cases hmoved
    rfl

/-- A request keeps the notifications in line with the mark. -/
theorem Sound.step (h : n.Sound high mark) (hstep : NoticeStep high n n') :
    n'.Sound high (Notice.mark high n n' mark) := by
  cases hstep with
  | same => exact .unmarked (by cases n.binding <;> rfl) rfl h
  | enable binding deliveries hthread hcursors => exact h.enabled hcursors
  | bind binding deliveries thread hthread =>
      -- the thread is no part of what the invariant says
      refine .unmarked rfl rfl ⟨fun _ => rfl, h.single, ?_, ?_, ?_⟩
      · rintro _ ⟨⟩
        exact h.reached binding rfl
      · rintro _ ⟨⟩
        exact h.covered binding rfl
      · rintro _ ⟨⟩
        exact h.idle binding rfl
  | claim binding deliveries delivery hthread hsettled hnew hfrom hto =>
      exact h.claimed hsettled hnew.2 hfrom hto
  | observe _ p outcome observedAt hp => exact h.observed hp
  | receive _ delivery receivedAt hmem hpending => exact h.received hmem hpending

/-- A request keeps the thread, the cursors and the deliveries that there are. -/
theorem Sound.continues (h : n.Sound high mark) (hkeyed : Table.Keyed (·.operationId) n.deliveries)
    (hstep : NoticeStep high n n') : n.Continues n' := by
  cases hstep with
  | same => exact Std.Refl.refl n
  | enable binding deliveries hthread hcursors =>
      exact .of_forall₂ nofun (List.forall₂_refl _)
  | bind binding deliveries thread hthread =>
      refine .of_forall₂ ?_ (List.forall₂_refl _)
      rintro _ ⟨⟩
      refine ⟨_, rfl, fun other hother => ?_, le_refl _⟩
      rcases hthread with hnone | hsame
      · rw [hnone] at hother
        cases hother
      · rw [hsame] at hother
        exact hother
  | claim binding deliveries delivery hthread hsettled hnew hfrom hto =>
      refine ⟨?_, by simp, ?_⟩
      · rintro _ ⟨⟩
        exact ⟨_, rfl, fun _ hother => hother, hfrom⟩
      · rw [List.take_left]
        exact List.forall₂_refl _
  | observe _ p outcome observedAt hp =>
      refine .of_forall₂ (fun binding hbinding => ⟨binding, hbinding, fun _ h => h, le_refl _⟩) ?_
      refine Table.forall₂_updateWhere (fun delivery hselected => ?_) _
      exact ⟨rfl, rfl, fun hobserved => absurd (hp delivery hselected) hobserved,
        fun hreceived => ⟨hreceived, rfl⟩⟩
  | receive _ delivery receivedAt hmem hpending =>
      refine .of_forall₂ (fun binding hbinding => ?_) ?_
      · refine ⟨binding.moveTo high, ?_, fun _ h => h, (h.reached binding hbinding).2⟩
        show n.binding.map _ = _
        rw [hbinding]
        rfl
      · refine List.forall₂_map_right_iff.mpr (List.forall₂_same.mpr fun other hother => ?_)
        split
        · next hselected =>
            obtain rfl := hkeyed.eq_of_key_eq hother hmem (eq_of_beq hselected)
            refine ⟨rfl, rfl, fun _ => ⟨rfl, rfl⟩, fun hreceived => ?_⟩
            unfold NotificationDelivery.received at hreceived
            rw [hpending] at hreceived
            cases hreceived
        · exact Std.Refl.refl other

end Step

end Notice

-- ============================================================================
-- The sessions of a store
-- ============================================================================

def Db.notice (db : Db) (id : SessionId) : Notice where
  binding := db.foregroundNotification id
  deliveries := db.deliveriesTo id

/-- Where the log and the inbox of a session end. -/
def Db.highWater (db : Db) (id : SessionId) : Nat × Nat :=
  match db.session id with
  | some session =>
      (db.lastEventSequence session.runId, db.highestCursor session.runId session.agentId)
  | none => (0, 0)

/-- What a request does to the notifications of the sessions; operations stay unique. -/
structure Db.Notifies (db db' : Db) : Prop where
  steps : ∀ id, NoticeStep (db.highWater id) (db.notice id) (db'.notice id)
  keyed : Table.Keyed (·.operationId) db'.notificationDeliveries

/-- Sessions and deliveries have one row for each key. -/
structure Db.NoticesKeyed (db : Db) : Prop where
  sessions : Table.Keyed (·.id) db.sessions
  deliveries : Table.Keyed (·.operationId) db.notificationDeliveries

section Store

variable {db db' : Db} {scope : SessionScope} {id : SessionId}

theorem Db.Notifies.of_same (h : db.NoticesKeyed) : db.Notifies db where
  steps := fun _ => .same _
  keyed := h.deliveries

/-- A request is about one session. -/
theorem Db.Notifies.of_session (own : SessionId)
    (hown : NoticeStep (db.highWater own) (db.notice own) (db'.notice own))
    (hothers : ∀ id, id ≠ own → db'.notice id = db.notice id)
    (hkeyed : Table.Keyed (·.operationId) db'.notificationDeliveries) : db.Notifies db' where
  steps := by
    intro id
    by_cases hsame : id = own
    · rw [hsame]
      exact hown
    · rw [hothers id hsame]
      exact .same _
  keyed := hkeyed

theorem highWater_of_current (hkeyed : db.NoticesKeyed)
    (hcurrent : db.sessionScopeIsCurrent scope = true) :
    db.highWater scope.sessionId =
      (db.lastEventSequence scope.runId, db.highestCursor scope.runId scope.agentId) := by
  simp only [Db.sessionScopeIsCurrent, Bool.and_eq_true, List.any_eq_true, beq_iff_eq] at hcurrent
  obtain ⟨⟨⟨⟨session, hsession, ⟨⟨hid, hrun⟩, hagent⟩, -⟩, -⟩, -⟩, -⟩ := hcurrent
  have hfound : db.session scope.sessionId = some session := by
    rw [← hid]
    exact hkeyed.sessions.find?_eq_some hsession
  unfold Db.highWater
  rw [hfound, ← hrun, ← hagent]

theorem current_of_live (h : db.notificationsLive scope = true) :
    db.sessionScopeIsCurrent scope = true := by
  simp only [Db.notificationsLive, Bool.and_eq_true] at h
  exact h.1.1.1

theorem foregroundNotification_sessionId {binding : ForegroundNotification}
    (h : db.foregroundNotification id = some binding) : binding.sessionId = id := by
  simpa using List.find?_some h

section Updates

variable {f : ForegroundNotification → ForegroundNotification}
  {g : NotificationDelivery → NotificationDelivery} {p : NotificationDelivery → Bool}

theorem notice_updateNotification (db : Db) (id : SessionId)
    (hf : ∀ row, (f row).sessionId = row.sessionId) :
    (db.updateNotification id f).notice id =
      ⟨(db.foregroundNotification id).map f, db.deliveriesTo id⟩ := by
  unfold Db.notice Db.updateNotification Db.foregroundNotification
  rw [Table.find?_updateWhere fun row _ => by rw [hf]]
  congr 1
  refine Option.map_congr fun row hrow => ?_
  rw [if_pos (List.find?_some hrow)]

theorem notice_updateNotification_of_ne {id' : SessionId} (hne : id' ≠ id) (db : Db)
    (hf : ∀ row, (f row).sessionId = row.sessionId) :
    (db.updateNotification id f).notice id' = db.notice id' := by
  unfold Db.notice Db.updateNotification Db.foregroundNotification
  rw [Table.find?_updateWhere fun row _ => by rw [hf]]
  congr 1
  refine (Option.map_congr fun row hrow => ?_).trans Option.map_id'
  have hid := List.find?_some hrow
  rw [if_neg]
  intro hselected
  exact hne ((eq_of_beq hid).symm.trans (eq_of_beq hselected))

theorem notice_updateDeliveries (db : Db) (id : SessionId)
    (hg : ∀ row, (g row).sessionId = row.sessionId) :
    (db.updateDeliveries p g).notice id =
      ⟨db.foregroundNotification id, Table.updateWhere p g (db.deliveriesTo id)⟩ := by
  unfold Db.notice Db.updateDeliveries Db.deliveriesTo
  rw [Table.filter_updateWhere fun row _ => by rw [hg]]
  rfl

end Updates

theorem mem_deliveriesTo {delivery : NotificationDelivery} :
    delivery ∈ db.deliveriesTo id ↔
      delivery ∈ db.notificationDeliveries ∧ delivery.sessionId = id := by
  simp [Db.deliveriesTo]

/-! ## What is pending -/

theorem lt_unnotifiedMessages {cursor : Nat} :
    cursor < db.unnotifiedMessages scope cursor ↔
      ∃ message ∈ db.inboxOf scope.runId scope.agentId,
        message.acknowledgedAt = none ∧ cursor < message.sequence := by
  unfold Db.unnotifiedMessages
  rw [Table.lt_foldl_max_iff]
  simp only [List.mem_map, List.mem_filter, Bool.and_eq_true, decide_eq_true_eq, beq_iff_eq,
    lt_irrefl, false_or]
  constructor
  · rintro ⟨_, ⟨message, ⟨hmem, hlt, hnone⟩, rfl⟩, -⟩
    exact ⟨message, hmem, hnone, hlt⟩
  · rintro ⟨message, hmem, hnone, hlt⟩
    exact ⟨_, ⟨message, ⟨hmem, hlt, hnone⟩, rfl⟩, hlt⟩

/-- The event can wake the session. -/
def EventRecord.Wakes (scope : SessionScope) (event : EventRecord) : Prop :=
  event.runId = scope.runId ∧ event.actor ≠ scope.agentId.text ∧
    event.agentId ≠ some scope.agentId ∧ Db.wakingKinds.contains event.eventType = true

theorem lt_unnotifiedEvents {cursor : Nat} :
    cursor < db.unnotifiedEvents scope cursor ↔
      ∃ event ∈ db.events, event.Wakes scope ∧ cursor < event.sequence := by
  unfold Db.unnotifiedEvents EventRecord.Wakes
  rw [Table.lt_foldl_max_iff]
  simp only [List.mem_map, List.mem_filter, Bool.and_eq_true, decide_eq_true_eq, beq_iff_eq,
    bne_iff_ne, lt_irrefl, false_or]
  constructor
  · rintro ⟨_, ⟨event, ⟨hmem, ⟨⟨⟨hrun, hlt⟩, hactor⟩, hagent⟩, hkind⟩, rfl⟩, -⟩
    exact ⟨event, hmem, ⟨hrun, hactor, hagent, hkind⟩, hlt⟩
  · rintro ⟨event, hmem, ⟨hrun, hactor, hagent, hkind⟩, hlt⟩
    exact ⟨_, ⟨event, ⟨hmem, ⟨⟨⟨hrun, hlt⟩, hactor⟩, hagent⟩, hkind⟩, rfl⟩, hlt⟩

theorem unnotifiedMessages_le {cursor : Nat} :
    cursor ≤ db.unnotifiedMessages scope cursor ∧
      db.unnotifiedMessages scope cursor ≤
        max cursor (db.highestCursor scope.runId scope.agentId) := by
  refine ⟨(Table.foldl_max_le_iff.mp (le_refl _)).1,
    Table.foldl_max_le_iff.mpr ⟨le_max_left _ _, fun value hvalue => ?_⟩⟩
  obtain ⟨message, hmem, rfl⟩ := List.mem_map.mp hvalue
  exact (Table.le_foldl_max (List.mem_map_of_mem (List.mem_filter.mp hmem).1)).trans
    (le_max_right _ _)

theorem unnotifiedEvents_le {cursor : Nat} :
    cursor ≤ db.unnotifiedEvents scope cursor ∧
      db.unnotifiedEvents scope cursor ≤ max cursor (db.lastEventSequence scope.runId) := by
  refine ⟨(Table.foldl_max_le_iff.mp (le_refl _)).1,
    Table.foldl_max_le_iff.mpr ⟨le_max_left _ _, fun value hvalue => ?_⟩⟩
  obtain ⟨event, hmem, rfl⟩ := List.mem_map.mp hvalue
  obtain ⟨hmem, hselected⟩ := List.mem_filter.mp hmem
  simp only [Bool.and_eq_true] at hselected
  have hlog : event ∈ db.events.filter (·.runId == scope.runId) :=
    List.mem_filter.mpr ⟨hmem, hselected.1.1.1.1⟩
  exact (Table.le_foldl_max (List.mem_map_of_mem hlog)).trans (le_max_right _ _)

/-- What is pending goes to the thread of a binding whose deliveries are all settled. -/
theorem pendingNotification_eq_some {progress : Bool} {thread : String} {events messages : Nat} :
    db.pendingNotification scope progress = some (thread, events, messages) ↔
      db.notificationsLive scope = true ∧ ∃ binding,
        db.foregroundNotification scope.sessionId = some binding ∧
        binding.threadId = some thread ∧
        (∀ delivery ∈ db.deliveriesTo scope.sessionId, delivery.settled = true) ∧
        messages = db.unnotifiedMessages scope binding.messageCursor ∧
        events = (if progress = true then db.unnotifiedEvents scope binding.eventCursor
          else binding.eventCursor) ∧
        (binding.messageCursor < messages ∨ binding.eventCursor < events) := by
  have hsettled : ∀ deliveries : List NotificationDelivery,
      (!deliveries.any fun delivery => delivery.state != .observed .accepted ||
        delivery.receiptState != .received) = true ↔
          ∀ delivery ∈ deliveries, delivery.settled = true := by
    intro deliveries
    rw [Bool.not_eq_true', List.any_eq_false]
    refine forall₂_congr fun delivery _ => ?_
    unfold NotificationDelivery.settled
    simp only [bne, Bool.not_eq_true, Bool.or_eq_false_iff, Bool.not_eq_false', Bool.and_eq_true]
  unfold Db.pendingNotification
  by_cases hlive : db.notificationsLive scope = true
  · rw [if_neg (not_not.mpr hlive)]
    cases hbinding : db.foregroundNotification scope.sessionId with
    | none => simp
    | some binding =>
        rw [Option.filter_some]
        by_cases hall : ∀ delivery ∈ db.deliveriesTo scope.sessionId, delivery.settled = true
        · rw [if_pos ((hsettled _).mpr hall)]
          dsimp only
          -- the inner condition, which `split` must leave alone
          generalize hevents : (if progress = true then
            db.unnotifiedEvents scope binding.eventCursor else binding.eventCursor) = present
          constructor
          · intro h
            split at h
            · cases h
            · next hthread =>
                split at h
                · next hpending =>
                    cases h
                    exact ⟨hlive, binding, rfl, hthread, hall, rfl, hevents.symm, hpending⟩
                · cases h
          · rintro ⟨-, _, ⟨⟩, hthread, -, rfl, rfl, hpending⟩
            rw [hevents] at hpending ⊢
            rw [hthread]
            exact if_pos hpending
        · rw [if_neg (mt (hsettled _).mp hall)]
          simp [hall]
  · rw [if_pos hlive]
    simp [hlive]

/-- What is pending lies between the cursors and the ends of the log and the inbox. -/
theorem pendingNotification_between {binding : ForegroundNotification} {progress : Bool}
    {events messages : Nat} (hkeyed : db.NoticesKeyed)
    (hlive : db.notificationsLive scope = true)
    (hmessages : messages = db.unnotifiedMessages scope binding.messageCursor)
    (hevents : events = if progress = true then db.unnotifiedEvents scope binding.eventCursor
      else binding.eventCursor) :
    binding.cursors ≤ (events, messages) ∧
      (events, messages) ≤ binding.cursors ⊔ db.highWater scope.sessionId := by
  have hbetween : binding.eventCursor ≤ events ∧
      events ≤ max binding.eventCursor (db.lastEventSequence scope.runId) := by
    rw [hevents]
    split
    · exact unnotifiedEvents_le
    · exact ⟨le_refl _, le_max_left _ _⟩
  rw [highWater_of_current hkeyed (current_of_live hlive), hmessages]
  exact ⟨⟨hbetween.1, unnotifiedMessages_le.1⟩, ⟨hbetween.2, unnotifiedMessages_le.2⟩⟩

/-! ## What the repositories do -/

theorem deliveriesTo_append (db : Db) (delivery : NotificationDelivery) (id : SessionId) :
    Db.deliveriesTo
        { db with notificationDeliveries := db.notificationDeliveries ++ [delivery] } id =
      db.deliveriesTo id ++ if delivery.sessionId = id then [delivery] else [] := by
  unfold Db.deliveriesTo
  rw [List.filter_append, List.filter_singleton]
  simp only [beq_iff_eq, Bool.cond_eq_ite]

theorem enableNotifications_notifies (hkeyed : db.NoticesKeyed)
    (h : (enableNotifications scope).run db = (.ok (), db')) : db.Notifies db' := by
  obtain ⟨current, _, h₁, r₁⟩ := Tx.bind_eq_ok.mp h
  obtain ⟨rfl, rfl⟩ := Tx.read_eq_ok.mp h₁
  rcases Tx.when_eq_ok.mp r₁ with ⟨hcurrent, r₂⟩ | ⟨-, rfl⟩
  · obtain ⟨found, _, h₂, r₃⟩ := Tx.bind_eq_ok.mp r₂
    obtain ⟨rfl, rfl⟩ := Tx.read_eq_ok.mp h₂
    rcases Tx.when_eq_ok.mp r₃ with ⟨hnone, h₃⟩ | ⟨-, rfl⟩
    · obtain rfl := Tx.write_eq_ok.mp h₃
      refine .of_session scope.sessionId ?_ (fun id hother => ?_) hkeyed.deliveries
      · have hhigh := highWater_of_current hkeyed hcurrent
        have hafter : ∀ binding : ForegroundNotification, binding.sessionId = scope.sessionId →
            (db.foregroundNotifications ++ [binding]).find? (·.sessionId == scope.sessionId) =
              some binding := by
          intro binding hid
          have hbefore : db.foregroundNotifications.find? (·.sessionId == scope.sessionId) = none :=
            hnone
          rw [List.find?_append, hbefore, Option.none_or, List.find?_cons_of_pos]
          rw [hid]
          exact beq_self_eq_true _
        unfold Db.notice Db.foregroundNotification at *
        rw [hnone, hafter _ rfl]
        exact .enable _ _ rfl (by rw [hhigh]; rfl)
      · unfold Db.notice Db.foregroundNotification
        dsimp only
        rw [List.find?_append, List.find?_cons_of_neg, List.find?_nil, Option.or_none]
        · rfl
        · simpa using fun hsame : scope.sessionId = id => hother hsame.symm
    · exact .of_same hkeyed
  · exact .of_same hkeyed

theorem bindNotifications_notifies {thread : String} {isBound : Bool} (hkeyed : db.NoticesKeyed)
    (h : (bindNotifications scope thread).run db = (.ok isBound, db')) : db.Notifies db' := by
  obtain ⟨live, _, h₁, r₁⟩ := Tx.bind_eq_ok.mp h
  obtain ⟨rfl, rfl⟩ := Tx.read_eq_ok.mp h₁
  split at r₁
  · obtain ⟨-, rfl⟩ := Tx.pure_eq_ok.mp r₁
    exact .of_same hkeyed
  · obtain ⟨found, _, h₂, r₂⟩ := Tx.bind_eq_ok.mp r₁
    obtain ⟨rfl, rfl⟩ := Tx.read_eq_ok.mp h₂
    split at r₂
    · next hfree =>
        obtain ⟨_, _, h₃, r₃⟩ := Tx.bind_eq_ok.mp r₂
        obtain rfl := Tx.write_eq_ok.mp h₃
        obtain ⟨-, rfl⟩ := Tx.pure_eq_ok.mp r₃
        obtain ⟨binding, hbinding, hthread⟩ := (Option.any_eq_true _ _).mp hfree
        rw [Bool.or_eq_true, beq_iff_eq, beq_iff_eq] at hthread
        refine .of_session scope.sessionId ?_ (fun id hother => ?_) hkeyed.deliveries
        · rw [notice_updateNotification]
          · unfold Db.notice
            rw [hbinding]
            exact .bind binding _ thread hthread
          · exact fun _ => rfl
        · exact notice_updateNotification_of_ne hother db fun _ => rfl
    · obtain ⟨-, rfl⟩ := Tx.pure_eq_ok.mp r₂
      exact .of_same hkeyed

theorem claimPending_notifies {operationId : OperationId} {progress : Bool} {now : Int}
    {claim : Option NotificationClaim} (hkeyed : db.NoticesKeyed)
    (h : (claimNotification.claimPending scope operationId progress now).run db =
      (.ok claim, db')) : db.Notifies db' := by
  obtain ⟨pending, _, h₁, r₁⟩ := Tx.bind_eq_ok.mp h
  obtain ⟨hpending, rfl⟩ := Tx.read_eq_ok.mp h₁
  split at r₁
  · obtain ⟨-, rfl⟩ := Tx.pure_eq_ok.mp r₁
    exact .of_same hkeyed
  · next thread events messages =>
      obtain ⟨_, _, h₂, r₂⟩ := Tx.bind_eq_ok.mp r₁
      obtain ⟨hunique, rfl⟩ := Tx.require_eq_ok.mp h₂
      obtain ⟨_, _, h₃, r₃⟩ := Tx.bind_eq_ok.mp r₂
      obtain rfl := Tx.write_eq_ok.mp h₃
      obtain ⟨_, _, h₄, r₄⟩ := Tx.bind_eq_ok.mp r₃
      obtain rfl := Tx.write_eq_ok.mp h₄
      obtain ⟨-, rfl⟩ := Tx.pure_eq_ok.mp r₄
      obtain ⟨hlive, binding, hbinding, hthread, hsettled, hmessages, hevents, -⟩ :=
        pendingNotification_eq_some.mp hpending
      obtain ⟨hfrom, hto⟩ := pendingNotification_between hkeyed hlive hmessages hevents
      let delivery : NotificationDelivery :=
        { operationId, sessionId := scope.sessionId, eventCursor := events,
          messageCursor := messages, state := .attempting, receiptState := .pending,
          createdAt := now, observedAt := none, receivedAt := none }
      refine .of_session scope.sessionId ?_ (fun id hother => ?_) ?_
      · rw [notice_updateNotification]
        · have hbound : binding.threadId ≠ none := by
            rw [hthread]
            exact Option.some_ne_none _
          have hstep : NoticeStep (db.highWater scope.sessionId)
              ⟨some binding, db.deliveriesTo scope.sessionId⟩
              ⟨some (binding.moveTo delivery.cursors),
                db.deliveriesTo scope.sessionId ++ [delivery]⟩ :=
            .claim binding _ delivery hbound hsettled ⟨rfl, rfl⟩ hfrom hto
          have hdeliveries := deliveriesTo_append db delivery scope.sessionId
          rw [if_pos rfl] at hdeliveries
          rw [hdeliveries]
          show NoticeStep _ ⟨db.foregroundNotification scope.sessionId, _⟩
            ⟨(db.foregroundNotification scope.sessionId).map _, _⟩
          rw [hbinding]
          exact hstep
        · exact fun _ => rfl
      · rw [notice_updateNotification_of_ne hother]
        · have hdeliveries := deliveriesTo_append db delivery id
          rw [if_neg (Ne.symm hother), List.append_nil] at hdeliveries
          exact congrArg (Notice.mk _) hdeliveries
        · exact fun _ => rfl
      · refine Table.keyed_append hkeyed.deliveries fun other hother hsame => ?_
        rw [Bool.not_eq_true', List.any_eq_false] at hunique
        exact hunique other hother (by rw [hsame]; exact beq_self_eq_true _)

theorem claimNotification_notifies {operationId : OperationId} {progress : Bool} {now : Int}
    {claim : Option NotificationClaim} (hkeyed : db.NoticesKeyed)
    (h : (claimNotification scope operationId progress now).run db = (.ok claim, db')) :
    db.Notifies db' := by
  obtain ⟨live, _, h₁, r₁⟩ := Tx.bind_eq_ok.mp h
  obtain ⟨rfl, rfl⟩ := Tx.read_eq_ok.mp h₁
  split at r₁
  · obtain ⟨-, rfl⟩ := Tx.pure_eq_ok.mp r₁
    exact .of_same hkeyed
  · obtain ⟨deliveries, _, h₂, r₂⟩ := Tx.bind_eq_ok.mp r₁
    obtain ⟨rfl, rfl⟩ := Tx.read_eq_ok.mp h₂
    split at r₂
    · obtain ⟨binding, _, h₃, r₃⟩ := Tx.bind_eq_ok.mp r₂
      obtain ⟨rfl, rfl⟩ := Tx.read_eq_ok.mp h₃
      split at r₃
      · obtain ⟨-, rfl⟩ := Tx.pure_eq_ok.mp r₃
        exact .of_same hkeyed
      · cases r₃
      · exact claimPending_notifies hkeyed r₃
    · exact claimPending_notifies hkeyed r₂

theorem observeNotification_notifies {operationId : OperationId} {outcome : QueueOutcome}
    {now : Int} (hkeyed : db.NoticesKeyed)
    (h : (observeNotification scope operationId outcome now).run db = (.ok (), db')) :
    db.Notifies db' := by
  obtain ⟨current, _, h₁, r₁⟩ := Tx.bind_eq_ok.mp h
  obtain ⟨rfl, rfl⟩ := Tx.read_eq_ok.mp h₁
  rcases Tx.when_eq_ok.mp r₁ with ⟨-, h₂⟩ | ⟨-, rfl⟩
  · obtain rfl := Tx.write_eq_ok.mp h₂
    refine .of_session scope.sessionId ?_ (fun id hother => ?_)
      (Table.keyed_updateWhere (fun _ _ => rfl) hkeyed.deliveries)
    · rw [notice_updateDeliveries]
      · refine .observe (db.notice scope.sessionId) _ outcome now fun delivery hselected => ?_
        simp only [Bool.and_eq_true, beq_iff_eq] at hselected
        exact hselected.2
      · exact fun _ => rfl
    · rw [notice_updateDeliveries]
      · refine congrArg (Notice.mk _) (Table.updateWhere_eq_self _ fun delivery hmem => ?_)
        -- the deliveries of another session are not selected
        have hsession := (mem_deliveriesTo.mp hmem).2
        rw [Bool.eq_false_iff]
        intro hselected
        simp only [Bool.and_eq_true, beq_iff_eq] at hselected
        exact hother (hsession.symm.trans hselected.1.2)
      · exact fun _ => rfl
  · exact .of_same hkeyed

theorem receiveNotification_notifies {deliveryId : OperationId} {now : Int} {isReceived : Bool}
    (hkeyed : db.NoticesKeyed)
    (h : (receiveNotification scope deliveryId now).run db = (.ok isReceived, db')) :
    db.Notifies db' := by
  obtain ⟨live, _, h₁, r₁⟩ := Tx.bind_eq_ok.mp h
  obtain ⟨rfl, rfl⟩ := Tx.read_eq_ok.mp h₁
  split at r₁
  · obtain ⟨-, rfl⟩ := Tx.pure_eq_ok.mp r₁
    exact .of_same hkeyed
  · next hlive =>
      rw [not_not] at hlive
      obtain ⟨deliveries, _, h₂, r₂⟩ := Tx.bind_eq_ok.mp r₁
      obtain ⟨rfl, rfl⟩ := Tx.read_eq_ok.mp h₂
      dsimp only at r₂
      split at r₂
      · obtain ⟨-, rfl⟩ := Tx.pure_eq_ok.mp r₂
        exact .of_same hkeyed
      · next hreceipt =>
          obtain ⟨_, _, h₃, r₃⟩ := Tx.bind_eq_ok.mp r₂
          obtain rfl := Tx.write_eq_ok.mp h₃
          obtain ⟨_, _, h₄, r₄⟩ := Tx.bind_eq_ok.mp r₃
          obtain rfl := Tx.write_eq_ok.mp h₄
          obtain ⟨-, rfl⟩ := Tx.pure_eq_ok.mp r₄
          obtain ⟨delivery, hfound, hpending⟩ := Option.map_eq_some_iff.mp hreceipt
          have hmem := List.mem_of_find?_eq_some hfound
          have hselected := List.find?_some hfound
          simp only [Bool.and_eq_true, beq_iff_eq] at hselected
          obtain ⟨rfl, -⟩ := hselected
          have hkeyed' := Table.keyed_updateWhere (p := (·.operationId == delivery.operationId))
            (f := NotificationDelivery.receive now) (fun _ _ => rfl) hkeyed.deliveries
          refine .of_session scope.sessionId ?_ (fun id hother => ?_) hkeyed'
          · have hstep : NoticeStep (db.highWater scope.sessionId) (db.notice scope.sessionId)
                ⟨(db.foregroundNotification scope.sessionId).map
                    (·.moveTo (db.highWater scope.sessionId)),
                  Table.updateWhere (·.operationId == delivery.operationId) (·.receive now)
                    (db.deliveriesTo scope.sessionId)⟩ :=
              .receive (db.notice scope.sessionId) delivery now hmem hpending
            have hdeliveries := congrArg Notice.deliveries (notice_updateDeliveries
              (p := (·.operationId == delivery.operationId)) (g := NotificationDelivery.receive now)
              db scope.sessionId fun _ => rfl)
            rw [notice_updateNotification]
            · refine Eq.mp (congrArg (NoticeStep _ _) ?_) hstep
              refine congrArg₂ Notice.mk ?_ hdeliveries.symm
              rw [highWater_of_current hkeyed (current_of_live hlive)]
              rfl
            · exact fun _ => rfl
          · rw [notice_updateNotification_of_ne hother]
            · refine (notice_updateDeliveries (g := NotificationDelivery.receive now) db id
                fun _ => rfl).trans (congrArg (Notice.mk _)
                  (Table.updateWhere_eq_self _ fun other hmem' => ?_))
              -- the operation is the one of this session's delivery
              rw [Bool.eq_false_iff]
              intro hselected
              obtain ⟨hother', hsession⟩ := mem_deliveriesTo.mp hmem'
              obtain ⟨hdelivery, hsession'⟩ := mem_deliveriesTo.mp hmem
              have hsame := hkeyed.deliveries.eq_of_key_eq hother' hdelivery (eq_of_beq hselected)
              rw [hsame] at hsession
              exact hother (hsession.symm.trans hsession')
            · exact fun _ => rfl
      · obtain ⟨-, rfl⟩ := Tx.pure_eq_ok.mp r₂
        exact .of_same hkeyed
      · obtain ⟨-, rfl⟩ := Tx.pure_eq_ok.mp r₂
        exact .of_same hkeyed

end Store

end Coterie
