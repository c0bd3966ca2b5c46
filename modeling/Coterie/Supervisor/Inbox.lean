/-
  Coterie.Supervisor.Inbox

  Reading and acknowledging an agent's messages (`supervisor.rs`: `inbox`, `acknowledge_inbox`).
  Both concern the inbox of the agent that asks.
-/

import Coterie.Supervisor.Progress

namespace Coterie

/-- What a reader is shown of a message.  The sender stands for the summary that the supervisor
    reads from the sender's row. -/
structure MessageSummary where
  id : MessageId
  sequence : Nat
  sender : Option AgentId
  body : String
  createdAt : Int
  acknowledged : Bool
deriving DecidableEq, Repr

/-- The summary of a message. -/
def MessageRecord.summary (message : MessageRecord) : MessageSummary where
  id := message.id
  sequence := message.sequence
  sender := message.senderAgentId
  body := message.body
  createdAt := message.createdAt
  acknowledged := message.acknowledgedAt.isSome

/-- The messages of an inbox, and the sequence of the last one. -/
structure InboxPage where
  messages : List MessageSummary
  nextCursor : Nat
deriving DecidableEq, Repr

/-- Only agents have an inbox. -/
def inboxOwner (caller : AuthenticatedCaller) : Request AgentId :=
  Tx.okOr (.rpc .permissionDenied "the operator does not have an agent inbox") caller.agentId

/-- A cursor of the database is a signed 64-bit integer. -/
def requireInboxCursor (cursor : Nat) : Request Unit :=
  Tx.require (invalidArgument "inbox cursor is too large") fun _ =>
    decide (cursor ≤ i64Max.toNat)

/-- Read the caller's messages after a cursor. -/
def inbox (runId : RunId) (caller : AuthenticatedCaller) (after : Nat) : Request InboxPage := do
  requireCurrentCaller runId caller
  let agentId ← inboxOwner caller
  requireInboxCursor after
  let messages ← Tx.read (·.messagesAfter runId agentId after)
  pure {
    messages := messages.map (·.summary)
    nextCursor := Paging.cursorAfter (·.sequence) after messages }

/-- The result of a mutation, whether it was applied now or earlier. -/
def mutationValue {α : Type} : MutationOutcome α → α
  | .applied result => result
  | .replayed result => result

/-- Acknowledge the caller's messages up to a sequence. -/
def acknowledgeInbox (runId : RunId) (caller : AuthenticatedCaller) (operationId : OperationId)
    (through : Nat) (acknowledgedAt : Int) : Request JsonValue := do
  requireCurrentCaller runId caller
  let agentId ← inboxOwner caller
  requireInboxCursor through
  let acknowledgement : AcknowledgeMessagesMutation :=
    { operationId, runId, agentId, through, acknowledgedAt }
  let outcome ← committed (mutationBody .json acknowledgement.mutation none
    (acknowledgeMessages acknowledgement))
  pure (mutationValue outcome)

end Coterie
