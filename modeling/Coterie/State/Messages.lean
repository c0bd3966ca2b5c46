/-
  Coterie.State.Messages

  Durable messages between agents (`state.rs`, `migrations/0004_durable_messages.sql`).  Each
  recipient has an inbox of its own, whose sequences the store allocates; an acknowledgement covers
  the inbox up to a sequence.  Messages are never deleted, and an acknowledgement is final.
-/

import Coterie.State.Operations

namespace Coterie

namespace Db

/-- The messages to one agent, in the order in which they were sent. -/
def inboxOf (db : Db) (runId : RunId) (recipientAgentId : AgentId) : List MessageRecord :=
  db.messages.filter fun message =>
    message.runId == runId && message.recipientAgentId == recipientAgentId

/-- The greatest sequence of an inbox; 0 when it is empty. -/
def highestCursor (db : Db) (runId : RunId) (recipientAgentId : AgentId) : Nat :=
  ((db.inboxOf runId recipientAgentId).map (·.sequence)).foldl max 0

/-- The sequence of the next message to an agent. -/
def nextMessageSequence (db : Db) (runId : RunId) (recipientAgentId : AgentId) : Nat :=
  db.highestCursor runId recipientAgentId + 1

/-- The messages to an agent after a cursor, by sequence. -/
def messagesAfter (db : Db) (runId : RunId) (recipientAgentId : AgentId) (after : Nat) :
    List MessageRecord :=
  ((db.inboxOf runId recipientAgentId).filter fun message => after < message.sequence).mergeSort
    fun a b => a.sequence ≤ b.sequence

/-- The greatest acknowledged sequence of an inbox. -/
def acknowledgedThrough (db : Db) (runId : RunId) (recipientAgentId : AgentId) : Nat :=
  (((db.inboxOf runId recipientAgentId).filter (·.acknowledgedAt != none)).map
    (·.sequence)).foldl max 0

end Db

/-- Write a new message. -/
def insertMessage (message : MessageRecord) : Repo Unit := do
  constraint (.unique "messages.id") fun db => !db.messages.any (·.id == message.id)
  constraint (.unique "messages.run_id, recipient_agent_id, sequence") fun db =>
    !db.messages.any fun row => row.runId == message.runId &&
      row.recipientAgentId == message.recipientAgentId && row.sequence == message.sequence
  constraint (.check "sequence > 0") fun _ => 0 < message.sequence
  constraint (.foreignKey "messages.run_id") fun db => db.runs.any (·.id == message.runId)
  constraint (.foreignKey "messages.run_id, sender_agent_id") fun db =>
    message.senderAgentId.all fun id =>
      db.agents.any fun agent => agent.id == id && agent.runId == message.runId
  constraint (.foreignKey "messages.run_id, recipient_agent_id") fun db =>
    db.agents.any fun agent =>
      agent.id == message.recipientAgentId && agent.runId == message.runId
  Tx.write fun db => { db with messages := db.messages ++ [message] }

/-! ## Acknowledging -/

/-- The input to an acknowledgement. -/
structure AcknowledgeMessagesMutation where
  operationId : OperationId
  runId : RunId
  agentId : AgentId
  through : Nat
  acknowledgedAt : Int
deriving DecidableEq, Repr

/-- The durable result of acknowledging a recipient-local message cursor. -/
inductive AcknowledgeMessagesResult where
  | acknowledged (acknowledgedThrough acknowledgedCount : Nat)
  | cursorNotFound (highestCursor : Nat)
deriving DecidableEq, Repr

/-- The result as its operation stores it. -/
def AcknowledgeMessagesResult.toJson : AcknowledgeMessagesResult → JsonValue
  | .acknowledged acknowledgedThrough acknowledgedCount =>
      .obj [("acknowledged_count", .num acknowledgedCount),
        ("acknowledged_through", .num acknowledgedThrough), ("status", .str "acknowledged")]
  | .cursorNotFound highestCursor =>
      .obj [("highest_cursor", .num highestCursor), ("status", .str "cursor_not_found")]

/-- The rows that an acknowledgement changes. -/
def AcknowledgeMessagesMutation.covers (acknowledgement : AcknowledgeMessagesMutation)
    (message : MessageRecord) : Bool :=
  message.runId == acknowledgement.runId &&
    message.recipientAgentId == acknowledgement.agentId &&
      decide (message.sequence ≤ acknowledgement.through) && message.acknowledgedAt == none

/-- Acknowledge an inbox up to a sequence.  The trigger on the table refuses a time before the
    message was sent. -/
def applyMessageAcknowledgement (acknowledgement : AcknowledgeMessagesMutation) :
    Repo AcknowledgeMessagesResult := do
  let highestCursor ← Tx.read (·.highestCursor acknowledgement.runId acknowledgement.agentId)
  if acknowledgement.through = 0 ∨ highestCursor < acknowledgement.through then
    pure (.cursorNotFound highestCursor)
  else do
    let acknowledgedThrough ←
      Tx.read (·.acknowledgedThrough acknowledgement.runId acknowledgement.agentId)
    let acknowledgedCount ← Tx.read fun db => db.messages.countP acknowledgement.covers
    constraint (.trigger "message acknowledgements are final") fun db =>
      db.messages.all fun message =>
        !acknowledgement.covers message || decide (message.createdAt ≤ acknowledgement.acknowledgedAt)
    Tx.write fun db =>
      { db with
        messages := Table.updateWhere acknowledgement.covers
          (fun message => { message with acknowledgedAt := some acknowledgement.acknowledgedAt })
          db.messages }
    pure (.acknowledged (max acknowledgedThrough acknowledgement.through) acknowledgedCount)

/-- The mutation of an acknowledgement. -/
def AcknowledgeMessagesMutation.mutation (acknowledgement : AcknowledgeMessagesMutation) :
    Mutation where
  id := acknowledgement.operationId
  runId := acknowledgement.runId
  kind := "message.acknowledge"
  actorAgentId := some acknowledgement.agentId
  request := .obj [("agent_id", .str acknowledgement.agentId.text),
    ("through", .num acknowledgement.through)]
  createdAt := acknowledgement.acknowledgedAt

/-- The event of an acknowledgement that changed something. -/
def AcknowledgeMessagesMutation.event (acknowledgement : AcknowledgeMessagesMutation)
    (acknowledgedThrough acknowledgedCount : Nat) : NewEvent where
  runId := acknowledgement.runId
  kind := .messageAcknowledged
  actor := acknowledgement.agentId.text
  subject := acknowledgement.agentId.text
  agentId := some acknowledgement.agentId
  operationId := some acknowledgement.operationId
  data := .obj [("acknowledged_count", .num acknowledgedCount),
    ("acknowledged_through", .num acknowledgedThrough)]
  createdAt := acknowledgement.acknowledgedAt

/-- Write the event of an acknowledgement. -/
def recordAcknowledgement (acknowledgement : AcknowledgeMessagesMutation) :
    AcknowledgeMessagesResult → Repo Unit
  | .acknowledged acknowledgedThrough acknowledgedCount =>
      Tx.when (0 < acknowledgedCount)
        (appendEvent (acknowledgement.event acknowledgedThrough acknowledgedCount))
  | .cursorNotFound _ => pure ()

/-- The closure of an acknowledgement: it never lets the inbox regress. -/
def acknowledgeMessages (acknowledgement : AcknowledgeMessagesMutation) : Repo JsonValue := do
  let result ← applyMessageAcknowledgement acknowledgement
  recordAcknowledgement acknowledgement result
  pure result.toJson

end Coterie
