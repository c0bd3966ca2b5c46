/-
  Coterie.Supervisor.Authority

  Who a request comes from and what it may do (`supervisor.rs`: `AuthenticatedCaller`,
  `require_current_caller`, `require_capability`, `require_operator`).  The configuration is the one that was saved for the run when it
  started; it never changes afterwards.
-/

import Coterie.Config.Resolver
import Coterie.Supervisor.Work

namespace Coterie

/-! ## Callers -/

/-- The authenticated sender of a request. -/
inductive AuthenticatedCaller where
  | operator
  | agent (scope : SessionScope)
deriving DecidableEq, Repr

namespace AuthenticatedCaller

def isOperator : AuthenticatedCaller → Bool
  | .operator => true
  | .agent _ => false

def agentId : AuthenticatedCaller → Option AgentId
  | .operator => none
  | .agent scope => some scope.agentId

end AuthenticatedCaller

/-- The caller's session generation is the current one of the run. -/
def Db.callerIsCurrent (db : Db) (runId : RunId) : AuthenticatedCaller → Bool
  | .operator => true
  | .agent scope =>
      scope.runId == runId &&
        (db.activeSessionCredential scope.runId scope.agentId scope.sessionId).any
          fun credential => credential.generation == scope.generation

/-! ## Checks -/

/-- An agent must still be the one that was authenticated. -/
def requireCurrentCaller (runId : RunId) (caller : AuthenticatedCaller) : Request Unit :=
  Tx.require (.rpc .unauthenticated "the caller's session generation is no longer active")
    (·.callerIsCurrent runId caller)

/-- The agent of a run. -/
def agentRecord (runId : RunId) (agentId : AgentId) : Request AgentRecord := do
  Tx.okOr (.rpc .notFound s!"agent `{agentId.text}` does not exist")
    ((← Tx.read (·.agent agentId)).filter (·.runId == runId))

/-- The role lacks a capability. -/
def capabilityDenied (role : String) (capability : Capability) : RequestError :=
  .rpc .permissionDenied
    (s!"role `{role}` is not authorized for `{capability.namespace}:{capability.action}`" ++
      if capability.namespace = "spawn" then
        "; ask an authorized coordinator or the operator to launch; inspecting capacity grants " ++
          "no authority"
      else "")

/-- An agent's role must grant the capability; the operator may do everything. -/
def requireCapability (config : EffectiveConfig) (runId : RunId) (caller : AuthenticatedCaller)
    (capability : Capability) : Request Unit := do
  match caller.agentId with
  | none => pure ()
  | some agentId =>
      let agent ← agentRecord runId agentId
      Tx.require (capabilityDenied agent.role capability) fun _ =>
        config.archetype.authorize agent.role capability == .allowed

/-- Only the operator may go on. -/
def requireOperator (caller : AuthenticatedCaller) (message : String) : Request Unit :=
  Tx.require (.rpc .permissionDenied message) fun _ => caller.isOperator

/-! ## What they accept -/

/-- The role of an agent may do something. -/
def EffectiveConfig.Grants (config : EffectiveConfig) (role : String) (capability : Capability) :
    Prop :=
  config.archetype.authorize role capability = .allowed

section

variable {config : EffectiveConfig} {runId : RunId} {db : Db} {scope : SessionScope}
  {agent : AgentRecord}

theorem agentRecord_run (hagent : db.agent scope.agentId = some agent)
    (hrun : agent.runId = runId) : (agentRecord runId scope.agentId).run db = (.ok agent, db) := by
  unfold agentRecord
  rw [Tx.run_bind, Tx.run_read]
  dsimp only
  rw [hagent, Option.filter_some, hrun, beq_self_eq_true, if_pos rfl, Tx.run_okOr_some]

/-- A capability is what the role grants. -/
theorem requireCapability_eq_ok (hagent : db.agent scope.agentId = some agent)
    (hrun : agent.runId = runId) {capability : Capability} :
    (requireCapability config runId (.agent scope) capability).run db = (.ok (), db) ↔
      config.Grants agent.role capability := by
  unfold requireCapability EffectiveConfig.Grants
  show (agentRecord runId scope.agentId >>= _).run db = _ ↔ _
  rw [Tx.run_bind_of_ok (agentRecord_run hagent hrun)]
  rw [Tx.run_require]
  by_cases h : config.archetype.authorize agent.role capability = .allowed
  · simp [h]
  · simp [h]

end

end Coterie
