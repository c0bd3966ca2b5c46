/-
  Coterie.State.Notifications

  Durable, generation-fenced notifications of foreground sessions (`state/notifications.rs`,
  `migrations/0018_foreground_notifications.sql`, `migrations/0019_notification_receipts.sql`).  A
  session is bound to one thread of its provider; a delivery is recorded before it is attempted.
-/

import Coterie.State.Messages
import Coterie.State.Sessions
import Coterie.State.Supervision

namespace Coterie

/-- A delivery that was granted to the owner of the foreground process. -/
structure NotificationClaim where
  operationId : OperationId
  threadId : String
deriving DecidableEq, Repr

/-- A lower-case canonical UUID. -/
def validThreadId (value : String) : Bool :=
  value.toList.length == 36 && value.toList.zipIdx.all fun (char, index) =>
    if [8, 13, 18, 23].contains index then char == '-'
    else char.isDigit || ('a' ≤ char && char ≤ 'f')

namespace Db

/-- The binding of a session. -/
def foregroundNotification (db : Db) (id : SessionId) : Option ForegroundNotification :=
  db.foregroundNotifications.find? (·.sessionId == id)

/-- The deliveries to a session. -/
def deliveriesTo (db : Db) (id : SessionId) : List NotificationDelivery :=
  db.notificationDeliveries.filter (·.sessionId == id)

/-- The session can be notified. -/
def notificationsLive (db : Db) (scope : SessionScope) : Bool :=
  db.sessionScopeIsCurrent scope && (db.runShutdown scope.runId).isNone &&
    !(db.sessionControlsOf scope.runId).any (·.scope == scope) &&
    (db.session scope.sessionId).any fun session =>
      session.processOwner == .foreground && session.state == .running

/-- A delivery whose outcome nobody can tell. -/
def isUncertain (now : Int) (delivery : NotificationDelivery) : Bool :=
  delivery.receiptState == .legacy ||
    (delivery.state == .observed .failed || delivery.state == .observed .unknown) ||
    (delivery.state == .attempting && decide (delivery.createdAt < max i64Min (now - 15)))

def notificationAvailability (db : Db) (scope : SessionScope) (now : Int) :
    NotificationAvailability :=
  if ¬ db.notificationsLive scope then .unavailable
  else
    match (db.foregroundNotification scope.sessionId).map (·.threadId) with
    | none => .unavailable
    | some none => .pendingBinding
    | some (some _) =>
        if (db.deliveriesTo scope.sessionId).any (isUncertain now) then .uncertain else .automatic

/-- The greatest sequence of the agent's messages that are neither covered nor acknowledged. -/
def unnotifiedMessages (db : Db) (scope : SessionScope) (messageCursor : Nat) : Nat :=
  (((db.inboxOf scope.runId scope.agentId).filter fun message =>
    decide (messageCursor < message.sequence) && message.acknowledgedAt == none).map
      (·.sequence)).foldl max messageCursor

/-- The events that can wake a coordinator.  Its own task creation and closure must not create a
    feedback loop. -/
def wakingKinds : List EventKind :=
  [.taskLifecycleChanged, .assignmentLifecycleChanged, .sessionLifecycleChanged,
    .sessionDeadlineApproaching, .sessionControlChanged, .taskRecovered]

/-- The greatest sequence of other actors' waking events that are not covered. -/
def unnotifiedEvents (db : Db) (scope : SessionScope) (eventCursor : Nat) : Nat :=
  ((db.events.filter fun event =>
    event.runId == scope.runId && decide (eventCursor < event.sequence) &&
      event.actor != scope.agentId.text && event.agentId != some scope.agentId &&
      wakingKinds.contains event.eventType).map (·.sequence)).foldl max eventCursor

/-- The thread to notify, and up to where: earlier deliveries must have been received. -/
def pendingNotification (db : Db) (scope : SessionScope) (progress : Bool) :
    Option (String × Nat × Nat) :=
  if ¬ db.notificationsLive scope then none
  else
    match (db.foregroundNotification scope.sessionId).filter fun _ =>
        !(db.deliveriesTo scope.sessionId).any fun delivery =>
          delivery.state != .observed .accepted || delivery.receiptState != .received with
    | none => none
    | some binding =>
        match binding.threadId with
        | none => none
        | some thread =>
            let messages := db.unnotifiedMessages scope binding.messageCursor
            let events :=
              if progress then db.unnotifiedEvents scope binding.eventCursor
              else binding.eventCursor
            if binding.messageCursor < messages ∨ binding.eventCursor < events then
              some (thread, events, messages)
            else none

/-- Change the binding of a session. -/
def updateNotification (db : Db) (id : SessionId)
    (f : ForegroundNotification → ForegroundNotification) : Db :=
  { db with
    foregroundNotifications :=
      Table.updateWhere (·.sessionId == id) f db.foregroundNotifications }

/-- Change some deliveries. -/
def updateDeliveries (db : Db) (p : NotificationDelivery → Bool)
    (f : NotificationDelivery → NotificationDelivery) : Db :=
  { db with notificationDeliveries := Table.updateWhere p f db.notificationDeliveries }

/-- The events of a run up to now. -/
def lastEventSequence (db : Db) (runId : RunId) : Nat :=
  ((db.events.filter (·.runId == runId)).map (·.sequence)).foldl max 0

end Db

/-- The deliveries of a session begin at the present end of the log. -/
def enableNotifications (scope : SessionScope) : Repo Unit := do
  Tx.when (← Tx.read (·.sessionScopeIsCurrent scope)) do
    Tx.when ((← Tx.read (·.foregroundNotification scope.sessionId)) = none) do
      Tx.write fun db =>
        { db with
          foregroundNotifications := db.foregroundNotifications ++ [{
            sessionId := scope.sessionId
            runId := scope.runId
            agentId := scope.agentId
            generation := scope.generation
            threadId := none
            eventCursor := db.lastEventSequence scope.runId
            messageCursor := 0 }] }

/-- Bind a session to a thread; a bound one stays with its thread. -/
def bindNotifications (scope : SessionScope) (thread : String) : Repo Bool := do
  if ¬ (← Tx.read (·.notificationsLive scope)) ∨ ¬ validThreadId thread then pure false
  else do
    let binding ← Tx.read (·.foregroundNotification scope.sessionId)
    if binding.any fun binding => binding.threadId == none || binding.threadId == some thread then do
      Tx.write (·.updateNotification scope.sessionId ({ · with threadId := some thread }))
      pure true
    else pure false

/-- Grant a delivery, or return the granted one again. -/
def claimNotification (scope : SessionScope) (id : OperationId) (progress : Bool) (now : Int) :
    Repo (Option NotificationClaim) := do
  if ¬ (← Tx.read (·.notificationsLive scope)) then pure none
  else
    match (← Tx.read (·.deliveriesTo scope.sessionId)).find? (·.operationId == id) with
    | some _ => do
        let binding ← Tx.read (·.foregroundNotification scope.sessionId)
        match binding.map (·.threadId) with
        | some (some thread) => pure (some { operationId := id, threadId := thread })
        | some none => throw .unreadableText
        | none => claimPending
    | none => claimPending
where
  /-- Grant a delivery of what is pending. -/
  claimPending : Repo (Option NotificationClaim) := do
    match ← Tx.read (·.pendingNotification scope progress) with
    | none => pure none
    | some (thread, events, messages) => do
        constraint (.unique "notification_deliveries.operation_id") fun db =>
          !db.notificationDeliveries.any (·.operationId == id)
        Tx.write fun db =>
          { db with
            notificationDeliveries := db.notificationDeliveries ++ [{
              operationId := id
              sessionId := scope.sessionId
              eventCursor := events
              messageCursor := messages
              state := .attempting
              receiptState := .pending
              createdAt := now
              observedAt := none
              receivedAt := none }] }
        Tx.write (·.updateNotification scope.sessionId
          ({ · with eventCursor := events, messageCursor := messages }))
        pure (some { operationId := id, threadId := thread })

/-- Record how an attempted delivery went. -/
def observeNotification (scope : SessionScope) (id : OperationId) (outcome : QueueOutcome)
    (now : Int) : Repo Unit := do
  Tx.when (← Tx.read (·.sessionScopeIsCurrent scope))
    (Tx.write (·.updateDeliveries
      (fun delivery => delivery.operationId == id && delivery.sessionId == scope.sessionId &&
        delivery.state == .attempting)
      ({ · with state := .observed outcome, observedAt := some now })))

/-- The recipient reports a delivery.  It reads everything after this report, so that the cursors
    move to the present; a replayed report must not move them. -/
def receiveNotification (scope : SessionScope) (deliveryId : OperationId) (now : Int) :
    Repo Bool := do
  if ¬ (← Tx.read (·.notificationsLive scope)) then pure false
  else
    let deliveries ← Tx.read (·.deliveriesTo scope.sessionId)
    let delivery := deliveries.find? fun delivery =>
      delivery.operationId == deliveryId &&
        (delivery.state == .attempting || delivery.state == .observed .accepted)
    match delivery.map NotificationDelivery.receiptState with
    | some .received => pure true
    | some .pending => do
        Tx.write (·.updateDeliveries (·.operationId == deliveryId)
          ({ · with receiptState := .received, receivedAt := some now }))
        Tx.write fun db => db.updateNotification scope.sessionId
          ({ · with
            eventCursor := db.lastEventSequence scope.runId
            messageCursor := db.highestCursor scope.runId scope.agentId })
        pure true
    | some .legacy | none => pure false

end Coterie
