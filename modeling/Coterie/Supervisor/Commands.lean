/-
  Coterie.Supervisor.Commands

  The commands that a caller is told it may use (`supervisor.rs`: `available_commands`), and the
  checks on the caller that the handlers of their requests make.  The list is written by hand, with
  one capability for a command; the handlers decide by the target of a request.

  `Advertised` is what the list is for: a command is in it when the caller may make one of its
  requests.  `advertised_iff` says for which callers that is so.
-/

import Coterie.Supervisor.Names

namespace Coterie

/-! ## Commands and their requests -/

/-- The commands that have a request (`public_request`). -/
inductive PublicCommand where
  | projectList
  | projectAttach
  | status
  | whoami
  | prime
  | assignmentShow
  | progress
  | taskCreate
  | taskReady
  | taskShow
  | taskRecover
  | taskSubmitRetained
  | taskResubmit
  | taskClose
  | spawn
  | workspaceIntegrate
  | finish
  | send
  | inbox
  | logs
  | events
  | stop
deriving DecidableEq, Repr

/-- How the command line calls a command. -/
def PublicCommand.name : PublicCommand → String
  | projectList        => "project list"
  | projectAttach      => "project attach"
  | status             => "status"
  | whoami             => "whoami"
  | prime              => "prime"
  | assignmentShow     => "assignment show"
  | progress           => "progress"
  | taskCreate         => "task create"
  | taskReady          => "task ready"
  | taskShow           => "task show"
  | taskRecover        => "task recover"
  | taskSubmitRetained => "task submit-retained"
  | taskResubmit       => "task resubmit"
  | taskClose          => "task close"
  | spawn              => "spawn"
  | workspaceIntegrate => "workspace integrate"
  | finish             => "finish"
  | send               => "send"
  | inbox              => "inbox"
  | logs               => "logs"
  | events             => "events"
  | stop               => "stop"

/-- The requests, with the arguments on which the checks of the caller depend: the canonical root of
    an attached project, the agent that holds a retained assignment, and names or ids of agents.
    They are new ones: a request whose operation is recorded is replayed without the check of the
    root (`projectAttach`) and of the independence of the caller (`taskSubmitRetained`).  The request
    for the report of `coterie doctor`, which no listed command makes, is left out. -/
inductive PublicRequest where
  | projectList
  | projectAttach (canonicalPath : String)
  | status
  | whoami
  | prime
  | assignmentShow
  | progress
  | taskCreate
  | taskReady
  | taskShow
  | taskRecover (acknowledgeLost : Bool)
  | taskSubmitRetained (holder : AgentId)
  | taskResubmit
  | taskClose (operatorOverride : Bool)
  | spawn (role : String)
  | workspaceIntegrate
  | finish
  | send (recipient : String)
  | inbox
  | inboxAcknowledge
  | logs (agent : String)
  | events
  | shutdown
deriving DecidableEq, Repr

/-- The command that makes a request. -/
def PublicRequest.command : PublicRequest → PublicCommand
  | projectList              => .projectList
  | projectAttach _          => .projectAttach
  | status                   => .status
  | whoami                   => .whoami
  | prime                    => .prime
  | assignmentShow           => .assignmentShow
  | progress                 => .progress
  | taskCreate               => .taskCreate
  | taskReady                => .taskReady
  | taskShow                 => .taskShow
  | taskRecover _            => .taskRecover
  | taskSubmitRetained _     => .taskSubmitRetained
  | taskResubmit             => .taskResubmit
  | taskClose _              => .taskClose
  | spawn _                  => .spawn
  | workspaceIntegrate       => .workspaceIntegrate
  | finish                   => .finish
  | send _                   => .send
  | inbox | inboxAcknowledge => .inbox
  | logs _                   => .logs
  | events                   => .events
  | shutdown                 => .stop

/-! ## The checks of the handlers -/

/-- The names of an absolute path. -/
def pathComponents (path : String) : List (List Char) :=
  (path.toList.splitOnP (· == '/')).filter fun part => part ≠ [] ∧ part ≠ ['.']

/-- A project lies beneath one of the allowed roots. -/
def rootAllowed (project : String) (allowed : List String) : Bool :=
  allowed.any fun root => (pathComponents root).isPrefixOf (pathComponents project)

section Checks

variable (config : EffectiveConfig) (runId : RunId) (caller : AuthenticatedCaller)

/-- Only an agent may go on. -/
def requireAgent (message : String) : Request AgentId :=
  Tx.okOr (.rpc .permissionDenied message) caller.agentId

/-- Whom a message may be sent to. -/
def authorizeSend (recipient : String) : Request Unit := do
  let recipient ← resolveAgent config runId recipient
  match caller.agentId with
  | none => pure ()
  | some senderId =>
      if senderId = recipient.id then
        throw (invalidArgument "an agent cannot send a message to itself")
      else do
        let sender ← agentRecord runId senderId
        let action :=
          if recipient.role = config.archetype.lead then "lead"
          else if recipient.role = sender.role then "peer"
          else recipient.role
        if config.archetype.authorize sender.role ⟨"send", recipient.role⟩ ≠ .allowed then
          requireCapability config runId caller ⟨"send", action⟩
        else pure ()

/-- Whose transcript may be read. -/
def authorizeLogs (agent : String) : Request Unit := do
  let agent ← resolveAgent config runId agent
  if caller.agentId ≠ some agent.id then requireCapability config runId caller ⟨"logs", agent.role⟩
  else pure ()

/-- What the handler of a request asks of the caller. -/
def authorizeRequest : PublicRequest → Request Unit
  | .projectList | .whoami | .prime => pure ()
  | .projectAttach canonicalPath => do
      requireCapability config runId caller ⟨"project", "attach"⟩
      Tx.require (.rpc .permissionDenied
          ("canonical project root is outside the trusted allowed_project_roots; " ++
            "the operator can explicitly attach it"))
        fun _ => caller.isOperator || rootAllowed canonicalPath config.allowedProjectRoots
  | .status => requireOperator caller "only the operator can inspect full run status"
  | .assignmentShow | .taskShow | .progress | .taskReady =>
      requireCapability config runId caller ⟨"task", "read"⟩
  | .taskCreate => requireCapability config runId caller ⟨"task", "create"⟩
  | .taskRecover acknowledgeLost => do
      requireCapability config runId caller ⟨"task", "recover"⟩
      Tx.require (.rpc .permissionDenied "acknowledging a lost worker requires the local operator")
        fun _ => !acknowledgeLost || caller.isOperator
  | .taskSubmitRetained holder => do
      requireCapability config runId caller ⟨"task", "submit-retained"⟩
      Tx.require (.rpc .permissionDenied "retained submission requires an independent caller")
        fun _ => caller.agentId != some holder
  | .taskResubmit => requireCapability config runId caller ⟨"task", "resubmit"⟩
  | .taskClose operatorOverride => do
      Tx.when (operatorOverride = true)
        (requireOperator caller
          ("only the operator can override task acceptance; " ++
            "ask the operator to run `coterie task close --override`"))
      requireCapability config runId caller ⟨"task", "close"⟩
  | .spawn role => requireCapability config runId caller ⟨"spawn", role⟩
  | .workspaceIntegrate => requireCapability config runId caller ⟨"workspace", "integrate"⟩
  | .finish => do
      let _ ← requireAgent caller "only an assigned agent can finish its work"
  | .send recipient => authorizeSend config runId caller recipient
  | .inbox | .inboxAcknowledge => do
      let _ ← requireAgent caller "the operator does not have an agent inbox"
  | .logs agent => authorizeLogs config runId caller agent
  | .events => requireOperator caller "only the operator can inspect the full event stream"
  | .shutdown => requireOperator caller "agent credentials do not grant operator authority"

/-- The caller passes the checks of a request. -/
def Accepts (db : Db) (request : PublicRequest) : Prop :=
  (requireCurrentCaller runId caller >>= fun _ => authorizeRequest config runId caller request).run
    db = (.ok (), db)

/-! ## The list -/

/-- What every caller is told. -/
def commonCommands : List PublicCommand :=
  [.whoami, .prime, .projectList]

def operatorCommands : List PublicCommand :=
  [.status, .projectAttach, .taskCreate, .taskReady, .taskShow, .assignmentShow, .taskClose, .spawn,
    .workspaceIntegrate, .taskRecover, .taskSubmitRetained, .send, .logs, .events, .progress, .stop]

def agentCommands : List PublicCommand :=
  [.taskReady, .send, .inbox, .finish]

/-- What an agent is told if its role has the capability. -/
def grantedCommands : List (Capability × PublicCommand) :=
  [(⟨"task", "read"⟩, .progress), (⟨"task", "read"⟩, .taskShow),
    (⟨"task", "read"⟩, .assignmentShow), (⟨"project", "attach"⟩, .projectAttach),
    (⟨"task", "create"⟩, .taskCreate), (⟨"task", "close"⟩, .taskClose),
    (⟨"task", "recover"⟩, .taskRecover), (⟨"task", "submit-retained"⟩, .taskSubmitRetained),
    (⟨"logs", "*"⟩, .logs), (⟨"workspace", "integrate"⟩, .workspaceIntegrate)]

/-- The commands of an agent with a role. -/
def roleCommands (role : String) : List PublicCommand :=
  commonCommands ++ agentCommands ++
    (grantedCommands.filter fun granted =>
      config.archetype.authorize role granted.1 == .allowed).map (·.2)

def availableCommands : Request (List String) :=
  match caller.agentId with
  | none => pure ((commonCommands ++ operatorCommands).map (·.name))
  | some agentId => do
      let agent ← agentRecord runId agentId
      pure ((roleCommands config agent.role).map (·.name))

end Checks

/-! ## The names of tools -/

/-- The tools that the bridge decodes to requests (`agent_tools!`). -/
def requestTools : List String :=
  ["notification_received", "whoami", "prime", "status", "progress", "project_list",
    "project_attach", "task_create", "task_show", "assignment_show", "task_ready", "task_recover",
    "task_submit_retained", "task_resubmit", "task_close", "spawn", "workspace_integrate", "finish",
    "send", "inbox", "inbox_acknowledge", "logs", "events"]

/-- The tools that the bridge serves itself (`call_tool`). -/
def bridgeTools : List String :=
  ["new_operation_id", "poll", "inbox_handled", "retry_mutation"]

/-- What the bridge makes of the commands of a `prime` response. -/
def renameCommands (commands : List String) : List String :=
  commands.map (fun command =>
      .ofList (command.toList.map fun c => if c = ' ' ∨ c = '-' then '_' else c)) ++
    ["inbox_acknowledge", "new_operation_id", "poll", "inbox_handled", "retry_mutation",
      "notification_received"]

/-- The commands of agents are tools. -/
theorem renameCommands_mem {commands : List PublicCommand} (h : .stop ∉ commands) :
    ∀ tool ∈ renameCommands (commands.map (·.name)), tool ∈ requestTools ++ bridgeTools := by
  have hname : ∀ command : PublicCommand, command ≠ .stop →
      String.ofList (command.name.toList.map fun c => if c = ' ' ∨ c = '-' then '_' else c) ∈
        requestTools := by
    intro command hstop
    cases command
    case stop => exact absurd rfl hstop
    all_goals decide
  have hmore : (["inbox_acknowledge", "new_operation_id", "poll", "inbox_handled", "retry_mutation",
      "notification_received"] : List String).all
        (fun tool => decide (tool ∈ requestTools ++ bridgeTools)) = true := by
    decide
  intro tool htool
  rcases List.mem_append.mp htool with hrenamed | hmoreTool
  · obtain ⟨text, htext, rfl⟩ := List.mem_map.mp hrenamed
    obtain ⟨command, hcommand, rfl⟩ := List.mem_map.mp htext
    exact List.mem_append_left _ (hname command fun heq => h (heq ▸ hcommand))
  · exact of_decide_eq_true (List.all_eq_true.mp hmore tool hmoreTool)

/-! ## What the checks accept -/

/-- The capability that sending to a role may use instead of the role's own. -/
def sendAction (config : EffectiveConfig) (sender recipient : String) : String :=
  if recipient = config.archetype.lead then "lead"
  else if recipient = sender then "peer"
  else recipient

/-- A name or an id leads to an agent. -/
def LeadsTo (config : EffectiveConfig) (runId : RunId) (db : Db) (nameOrId : String)
    (agent : AgentSummary) : Prop :=
  (resolveAgent config runId nameOrId).run db = (.ok agent, db)

/-- What the role of an agent must grant for a request. -/
def PublicRequest.GrantedTo (config : EffectiveConfig) (runId : RunId) (db : Db)
    (agent : AgentRecord) : PublicRequest → Prop
  | projectList | whoami | prime | finish | inbox | inboxAcknowledge => True
  | projectAttach canonicalPath =>
      config.Grants agent.role ⟨"project", "attach"⟩ ∧
        rootAllowed canonicalPath config.allowedProjectRoots = true
  | status | events | shutdown => False
  | assignmentShow | taskShow | progress | taskReady => config.Grants agent.role ⟨"task", "read"⟩
  | taskCreate => config.Grants agent.role ⟨"task", "create"⟩
  | taskRecover acknowledgeLost =>
      config.Grants agent.role ⟨"task", "recover"⟩ ∧ acknowledgeLost = false
  | taskSubmitRetained holder =>
      config.Grants agent.role ⟨"task", "submit-retained"⟩ ∧ holder ≠ agent.id
  | taskResubmit => config.Grants agent.role ⟨"task", "resubmit"⟩
  | taskClose operatorOverride =>
      operatorOverride = false ∧ config.Grants agent.role ⟨"task", "close"⟩
  | spawn role => config.Grants agent.role ⟨"spawn", role⟩
  | workspaceIntegrate => config.Grants agent.role ⟨"workspace", "integrate"⟩
  | send recipient =>
      ∃ found, LeadsTo config runId db recipient found ∧ found.id ≠ agent.id ∧
        (config.Grants agent.role ⟨"send", found.role⟩ ∨
          config.Grants agent.role ⟨"send", sendAction config agent.role found.role⟩)
  | logs name =>
      ∃ found, LeadsTo config runId db name found ∧
        (found.id = agent.id ∨ config.Grants agent.role ⟨"logs", found.role⟩)

section Accepted

variable {config : EffectiveConfig} {runId : RunId} {db : Db} {scope : SessionScope}
  {agent : AgentRecord}

/-- Looking an agent up changes nothing. -/
theorem resolveAgent_run (config : EffectiveConfig) (runId : RunId) (db : Db) (nameOrId : String) :
    ∃ found, (resolveAgent config runId nameOrId).run db = (found, db) := by
  unfold resolveAgent
  rw [Tx.run_bind, Tx.run_read]
  dsimp only
  split
  · cases (summarizeAgents (db.agentsOf runId) config.archetype.lead).find? _ with
    | none => exact ⟨_, Tx.run_okOr_none _ _⟩
    | some found => exact ⟨_, Tx.run_okOr_some _ _ _⟩
  · cases (summarizeAgents (db.agentsOf runId) config.archetype.lead).find? _ with
    | none => exact ⟨_, Tx.run_okOr_none _ _⟩
    | some found => exact ⟨_, Tx.run_okOr_some _ _ _⟩

/-- Checks after a capability. -/
theorem requireCapability_bind (hagent : db.agent scope.agentId = some agent)
    (hrun : agent.runId = runId) {capability : Capability} {next : Request Unit} :
    (requireCapability config runId (.agent scope) capability >>= fun _ => next).run db =
        (.ok (), db) ↔
      config.Grants agent.role capability ∧ next.run db = (.ok (), db) := by
  by_cases h : config.Grants agent.role capability
  · rw [Tx.run_bind_of_ok ((requireCapability_eq_ok hagent hrun).mpr h)]
    exact ⟨fun hnext => ⟨h, hnext⟩, fun hnext => hnext.2⟩
  · constructor
    · intro hok
      obtain ⟨_, db', hcapable, -⟩ := Tx.bind_eq_ok.mp hok
      have hsame : db' = db := ((still_requireCapability _ _ _ _).of_ok hcapable).symm
      rw [hsame] at hcapable
      exact absurd ((requireCapability_eq_ok hagent hrun).mp hcapable) h
    · exact fun hboth => absurd hboth.1 h

theorem authorizeSend_eq_ok (hagent : db.agent scope.agentId = some agent)
    (hrun : agent.runId = runId) {recipient : String} :
    (authorizeSend config runId (.agent scope) recipient).run db = (.ok (), db) ↔
      ∃ found, LeadsTo config runId db recipient found ∧ found.id ≠ scope.agentId ∧
        (config.Grants agent.role ⟨"send", found.role⟩ ∨
          config.Grants agent.role ⟨"send", sendAction config agent.role found.role⟩) := by
  obtain ⟨result, hresult⟩ := resolveAgent_run config runId db recipient
  unfold authorizeSend LeadsTo
  rw [hresult]
  cases result with
  | error error =>
      rw [Tx.run_bind_of_error hresult]
      constructor
      · nofun
      · rintro ⟨_, hfound, -⟩
        cases hfound
  | ok found =>
      rw [Tx.run_bind_of_ok hresult]
      show (if scope.agentId = found.id then _ else _ : Request Unit).run db = _ ↔ _
      by_cases hself : scope.agentId = found.id
      · rw [if_pos hself]
        constructor
        · nofun
        · rintro ⟨_, hfound, hother, -⟩
          cases hfound
          exact absurd hself.symm hother
      · rw [if_neg hself, Tx.run_bind_of_ok (agentRecord_run hagent hrun)]
        dsimp only
        have hexists : ∀ P : AgentSummary → Prop,
            (∃ summary, ((Except.ok found : Except RequestError AgentSummary), db) =
              (.ok summary, db) ∧ P summary) ↔ P found := by
          intro P
          constructor
          · rintro ⟨_, hfound, hP⟩
            cases hfound
            exact hP
          · exact fun hP => ⟨found, rfl, hP⟩
        rw [hexists]
        by_cases hrole : config.archetype.authorize agent.role ⟨"send", found.role⟩ = .allowed
        · rw [if_neg (not_not_intro hrole)]
          exact ⟨fun _ => ⟨fun heq => hself heq.symm, .inl hrole⟩, fun _ => rfl⟩
        · rw [if_pos hrole, requireCapability_eq_ok hagent hrun]
          constructor
          · exact fun haction => ⟨fun heq => hself heq.symm, .inr haction⟩
          · rintro ⟨-, hgranted | haction⟩
            · exact absurd hgranted hrole
            · exact haction

theorem authorizeLogs_eq_ok (hagent : db.agent scope.agentId = some agent)
    (hrun : agent.runId = runId) {name : String} :
    (authorizeLogs config runId (.agent scope) name).run db = (.ok (), db) ↔
      ∃ found, LeadsTo config runId db name found ∧
        (found.id = scope.agentId ∨ config.Grants agent.role ⟨"logs", found.role⟩) := by
  obtain ⟨result, hresult⟩ := resolveAgent_run config runId db name
  unfold authorizeLogs LeadsTo
  rw [hresult]
  cases result with
  | error error =>
      rw [Tx.run_bind_of_error hresult]
      constructor
      · nofun
      · rintro ⟨_, hfound, -⟩
        cases hfound
  | ok found =>
      rw [Tx.run_bind_of_ok hresult]
      show (if some scope.agentId ≠ some found.id then _ else _ : Request Unit).run db = _ ↔ _
      by_cases hself : scope.agentId = found.id
      · rw [if_neg (not_not_intro (congrArg some hself))]
        exact ⟨fun _ => ⟨found, rfl, .inl hself.symm⟩, fun _ => rfl⟩
      · rw [if_pos fun heq => hself (Option.some.inj heq), requireCapability_eq_ok hagent hrun]
        constructor
        · exact fun hgranted => ⟨found, rfl, .inr hgranted⟩
        · rintro ⟨_, hfound, hsame | hgranted⟩
          · cases hfound
            exact absurd hsame.symm hself
          · cases hfound
            exact hgranted

theorem require_eq_ok_self {e : RequestError} {p : Db → Bool} :
    (Tx.require e p).run db = (.ok (), db) ↔ p db = true := by
  rw [Tx.run_require]
  cases hp : p db with
  | false => simp
  | true => simp

/-- What is accepted from an agent. -/
theorem authorizeRequest_eq_ok (hagent : db.agent scope.agentId = some agent)
    (hrun : agent.runId = runId) (hid : agent.id = scope.agentId) (request : PublicRequest) :
    (authorizeRequest config runId (.agent scope) request).run db = (.ok (), db) ↔
      request.GrantedTo config runId db agent := by
  cases request
  case projectList | whoami | prime | finish | inbox | inboxAcknowledge =>
    exact ⟨fun _ => trivial, fun _ => rfl⟩
  case status | events | shutdown =>
    constructor
    · nofun
    · exact False.elim
  case projectAttach canonicalPath =>
    refine (requireCapability_bind hagent hrun).trans (and_congr_right fun _ => ?_)
    exact require_eq_ok_self
  case taskRecover acknowledgeLost =>
    refine (requireCapability_bind hagent hrun).trans (and_congr_right fun _ => ?_)
    refine require_eq_ok_self.trans ?_
    cases acknowledgeLost <;> simp [AuthenticatedCaller.isOperator]
  case taskSubmitRetained holder =>
    refine (requireCapability_bind hagent hrun).trans (and_congr_right fun _ => ?_)
    refine require_eq_ok_self.trans ?_
    rw [hid]
    show (some scope.agentId != some holder) = true ↔ _
    rw [bne_iff_ne, Ne, Option.some_inj]
    exact ⟨fun hother heq => hother heq.symm, fun hother heq => hother heq.symm⟩
  case taskClose operatorOverride =>
    cases operatorOverride with
    | false =>
        refine Iff.trans ?_ (and_iff_right rfl).symm
        exact requireCapability_eq_ok hagent hrun
    | true =>
        constructor
        · nofun
        · exact fun h => absurd h.1 (by decide)
  case send recipient =>
    refine (authorizeSend_eq_ok hagent hrun).trans ?_
    rw [← hid]
    rfl
  case logs name =>
    refine (authorizeLogs_eq_ok hagent hrun).trans ?_
    rw [← hid]
    rfl
  all_goals exact requireCapability_eq_ok hagent hrun

theorem accepts_iff {caller : AuthenticatedCaller} {request : PublicRequest} :
    Accepts config runId caller db request ↔ db.callerIsCurrent runId caller = true ∧
      (authorizeRequest config runId caller request).run db = (.ok (), db) := by
  unfold Accepts requireCurrentCaller
  cases hcurrent : db.callerIsCurrent runId caller with
  | false =>
      rw [Tx.run_bind_of_error (by rw [Tx.run_require, hcurrent]; rfl)]
      simp
  | true =>
      rw [Tx.run_bind_of_ok (by rw [Tx.run_require, hcurrent]; rfl)]
      simp

end Accepted

/-! ## What is listed and what is permitted -/

theorem PublicCommand.name_injective : Function.Injective PublicCommand.name := by
  have hnodup : ([.projectList, .projectAttach, .status, .whoami, .prime, .assignmentShow,
      .progress, .taskCreate, .taskReady, .taskShow, .taskRecover, .taskSubmitRetained,
      .taskResubmit, .taskClose, .spawn, .workspaceIntegrate, .finish, .send, .inbox, .logs,
      .events, .stop].map PublicCommand.name).Nodup := by
    decide
  intro a b hname
  refine List.inj_on_of_nodup_map hnodup ?_ ?_ hname
  · cases a <;> decide
  · cases b <;> decide

/-- When a command is in the list of an agent. -/
def PublicCommand.ListedFor (config : EffectiveConfig) (role : String) : PublicCommand → Prop
  | projectList | whoami | prime | taskReady | send | inbox | finish => True
  | progress | taskShow | assignmentShow => config.Grants role ⟨"task", "read"⟩
  | projectAttach => config.Grants role ⟨"project", "attach"⟩
  | taskCreate => config.Grants role ⟨"task", "create"⟩
  | taskClose => config.Grants role ⟨"task", "close"⟩
  | taskRecover => config.Grants role ⟨"task", "recover"⟩
  | taskSubmitRetained => config.Grants role ⟨"task", "submit-retained"⟩
  | logs => config.Grants role ⟨"logs", "*"⟩
  | workspaceIntegrate => config.Grants role ⟨"workspace", "integrate"⟩
  | status | taskResubmit | spawn | events | stop => False

theorem mem_roleCommands {config : EffectiveConfig} {role : String} {command : PublicCommand} :
    command ∈ roleCommands config role ↔ command.ListedFor config role := by
  cases command <;>
    simp [roleCommands, commonCommands, agentCommands, grantedCommands, PublicCommand.ListedFor,
      EffectiveConfig.Grants]

/-- When an agent may make a request of a command. -/
def PublicCommand.PermittedTo (config : EffectiveConfig) (runId : RunId) (db : Db)
    (agent : AgentRecord) : PublicCommand → Prop
  | projectList | whoami | prime | finish | inbox => True
  | progress | taskShow | assignmentShow | taskReady => config.Grants agent.role ⟨"task", "read"⟩
  | projectAttach =>
      config.Grants agent.role ⟨"project", "attach"⟩ ∧ config.allowedProjectRoots ≠ []
  | taskCreate => config.Grants agent.role ⟨"task", "create"⟩
  | taskClose => config.Grants agent.role ⟨"task", "close"⟩
  | taskRecover => config.Grants agent.role ⟨"task", "recover"⟩
  | taskSubmitRetained => config.Grants agent.role ⟨"task", "submit-retained"⟩
  | taskResubmit => config.Grants agent.role ⟨"task", "resubmit"⟩
  | workspaceIntegrate => config.Grants agent.role ⟨"workspace", "integrate"⟩
  | spawn => ∃ role, config.Grants agent.role ⟨"spawn", role⟩
  | send => ∃ recipient, (PublicRequest.send recipient).GrantedTo config runId db agent
  | logs => ∃ name, (PublicRequest.logs name).GrantedTo config runId db agent
  | status | events | stop => False

section Permitted

variable {config : EffectiveConfig} {runId : RunId} {db : Db} {agent : AgentRecord}

/-- A root lies beneath itself. -/
theorem exists_rootAllowed {allowed : List String} :
    (∃ project, rootAllowed project allowed = true) ↔ allowed ≠ [] := by
  constructor
  · rintro ⟨project, hallowed⟩ rfl
    cases hallowed
  · intro hne
    obtain ⟨root, hroot⟩ := List.exists_mem_of_ne_nil allowed hne
    refine ⟨root, List.any_eq_true.mpr ⟨root, hroot, ?_⟩⟩
    exact List.isPrefixOf_iff_prefix.mpr (List.prefix_refl _)

/-- No agent holds every assignment. -/
theorem exists_other_agent (agentId : AgentId) : ∃ holder : AgentId, holder ≠ agentId := by
  refine ⟨⟨agentId.text ++ "x"⟩, fun heq => ?_⟩
  have hlength := congrArg (fun id : AgentId => id.text.length) heq
  rw [String.length_append] at hlength
  have hone : "x".length = 1 := rfl
  omega

theorem permitted_iff {command : PublicCommand} :
    (∃ request : PublicRequest, request.command = command ∧
        request.GrantedTo config runId db agent) ↔
      command.PermittedTo config runId db agent := by
  constructor
  · rintro ⟨request, rfl, hgranted⟩
    cases request
    case projectAttach canonicalPath =>
      exact ⟨hgranted.1, exists_rootAllowed.mp ⟨canonicalPath, hgranted.2⟩⟩
    case taskRecover => exact hgranted.1
    case taskSubmitRetained => exact hgranted.1
    case taskClose => exact hgranted.2
    case spawn role => exact ⟨role, hgranted⟩
    case send recipient => exact ⟨recipient, hgranted⟩
    case logs name => exact ⟨name, hgranted⟩
    all_goals exact hgranted
  · intro hpermitted
    cases command
    case projectList => exact ⟨.projectList, rfl, trivial⟩
    case whoami => exact ⟨.whoami, rfl, trivial⟩
    case prime => exact ⟨.prime, rfl, trivial⟩
    case finish => exact ⟨.finish, rfl, trivial⟩
    case inbox => exact ⟨.inbox, rfl, trivial⟩
    case progress => exact ⟨.progress, rfl, hpermitted⟩
    case taskShow => exact ⟨.taskShow, rfl, hpermitted⟩
    case assignmentShow => exact ⟨.assignmentShow, rfl, hpermitted⟩
    case taskReady => exact ⟨.taskReady, rfl, hpermitted⟩
    case taskCreate => exact ⟨.taskCreate, rfl, hpermitted⟩
    case taskResubmit => exact ⟨.taskResubmit, rfl, hpermitted⟩
    case workspaceIntegrate => exact ⟨.workspaceIntegrate, rfl, hpermitted⟩
    case taskClose => exact ⟨.taskClose false, rfl, rfl, hpermitted⟩
    case taskRecover => exact ⟨.taskRecover false, rfl, hpermitted, rfl⟩
    case taskSubmitRetained =>
      obtain ⟨holder, hother⟩ := exists_other_agent agent.id
      exact ⟨.taskSubmitRetained holder, rfl, hpermitted, hother⟩
    case projectAttach =>
      obtain ⟨project, hallowed⟩ := exists_rootAllowed.mpr hpermitted.2
      exact ⟨.projectAttach project, rfl, hpermitted.1, hallowed⟩
    case spawn =>
      obtain ⟨role, hgranted⟩ := hpermitted
      exact ⟨.spawn role, rfl, hgranted⟩
    case send =>
      obtain ⟨recipient, hgranted⟩ := hpermitted
      exact ⟨.send recipient, rfl, hgranted⟩
    case logs =>
      obtain ⟨name, hgranted⟩ := hpermitted
      exact ⟨.logs name, rfl, hgranted⟩
    all_goals exact hpermitted.elim

theorem exists_summary {leadRole : String} {agents : List AgentRecord} (counts : String → Nat)
    (hmem : agent ∈ agents) :
    ∃ summary ∈ summarizeFrom leadRole counts agents, summary.id = agent.id := by
  induction agents generalizing counts with
  | nil => cases hmem
  | cons first rest ih =>
      rw [summarizeFrom]
      rcases List.mem_cons.mp hmem with rfl | hrest
      · exact ⟨_, List.mem_cons_self, rfl⟩
      · obtain ⟨summary, hsummary, hid⟩ := ih _ hrest
        exact ⟨summary, List.mem_cons_of_mem _ hsummary, hid⟩

/-- The id of an agent of the run leads to it. -/
theorem leadsTo_id (hcanonical : agent.id.Canonical) (hmem : agent ∈ db.agentsOf runId) :
    ∃ found, LeadsTo config runId db agent.id.text found ∧ found.id = agent.id := by
  obtain ⟨summary, hsummary, hid⟩ :=
    @exists_summary agent config.archetype.lead _ (fun _ => 0) hmem
  cases hfind : (summarizeAgents (db.agentsOf runId) config.archetype.lead).find?
      (·.id == agent.id) with
  | none =>
      have hno := List.find?_eq_none.mp hfind summary hsummary
      exact absurd (beq_iff_eq.mpr hid) hno
  | some found =>
      have hfound : (found.id == agent.id) = true :=
        List.find?_some (p := fun summary : AgentSummary => summary.id == agent.id) hfind
      refine ⟨found, ?_, eq_of_beq hfound⟩
      unfold LeadsTo resolveAgent
      rw [Tx.run_bind, Tx.run_read]
      dsimp only
      rw [hcanonical.ofText?]
      dsimp only
      rw [hfind, Tx.run_okOr_some]

end Permitted

/-! ## Advertised commands -/

/-- The caller is told a command exactly when it may make one of its requests; and what an agent is
    told are tools of the bridge. -/
def Advertised (config : EffectiveConfig) (runId : RunId) (caller : AuthenticatedCaller) (db : Db) :
    Prop :=
  ∃ commands, (availableCommands config runId caller).run db = (.ok commands, db) ∧
    (∀ command : PublicCommand, command.name ∈ commands ↔
      ∃ request : PublicRequest, request.command = command ∧
        Accepts config runId caller db request) ∧
    (caller.isOperator = false →
      ∀ tool ∈ renameCommands commands, tool ∈ requestTools ++ bridgeTools)

/-- The grants of a role for which the list of commands is right. -/
structure ListFits (config : EffectiveConfig) (runId : RunId) (db : Db) (agent : AgentRecord) :
    Prop where
  reads : config.Grants agent.role ⟨"task", "read"⟩
  readsLogs : config.Grants agent.role ⟨"logs", "*"⟩
  sends : ∃ recipient found, LeadsTo config runId db recipient found ∧ found.id ≠ agent.id ∧
    (config.Grants agent.role ⟨"send", found.role⟩ ∨
      config.Grants agent.role ⟨"send", sendAction config agent.role found.role⟩)
  noSpawn : ∀ role, ¬ config.Grants agent.role ⟨"spawn", role⟩
  noResubmit : ¬ config.Grants agent.role ⟨"task", "resubmit"⟩
  attaches : config.Grants agent.role ⟨"project", "attach"⟩ → config.allowedProjectRoots ≠ []

section Advertised

variable {config : EffectiveConfig} {runId : RunId} {db : Db} {agent : AgentRecord}

/-- The commands that are listed are those that are permitted, exactly for these grants. -/
theorem listFits_iff (hcanonical : agent.id.Canonical) (hmem : agent ∈ db.agentsOf runId) :
    (∀ command : PublicCommand, command.ListedFor config agent.role ↔
        command.PermittedTo config runId db agent) ↔ ListFits config runId db agent := by
  have hlogs : PublicCommand.PermittedTo config runId db agent .logs := by
    obtain ⟨found, hleads, hid⟩ := @leadsTo_id config _ _ _ hcanonical hmem
    exact ⟨agent.id.text, found, hleads, .inl hid⟩
  constructor
  · intro h
    exact {
      reads := (h .taskReady).mp trivial
      readsLogs := (h .logs).mpr hlogs
      sends := (h .send).mp trivial
      noSpawn := fun role hrole => (h .spawn).mpr ⟨role, hrole⟩
      noResubmit := (h .taskResubmit).mpr
      attaches := fun hattach => ((h .projectAttach).mp hattach).2 }
  · intro h command
    cases command
    case projectAttach => exact ⟨fun hattach => ⟨hattach, h.attaches hattach⟩, fun both => both.1⟩
    case taskReady => exact iff_of_true trivial h.reads
    case send => exact iff_of_true trivial h.sends
    case logs => exact iff_of_true h.readsLogs hlogs
    case spawn => exact iff_of_false id fun hspawn => h.noSpawn _ hspawn.choose_spec
    case taskResubmit => exact iff_of_false id h.noResubmit
    all_goals exact Iff.rfl

/-- The operator may resubmit a task and is not told so. -/
theorem not_advertised_operator : ¬ Advertised config runId .operator db := by
  rintro ⟨commands, hcommands, hiff, -⟩
  have haccepts : Accepts config runId .operator db .taskResubmit := accepts_iff.mpr ⟨rfl, rfl⟩
  have hlisted := (hiff .taskResubmit).mpr ⟨.taskResubmit, rfl, haccepts⟩
  cases hcommands
  rw [List.mem_map_of_injective PublicCommand.name_injective] at hlisted
  revert hlisted
  decide

/-- The list of an agent is that of its role. -/
theorem availableCommands_eq_ok {scope : SessionScope} {commands : List String} :
    (availableCommands config runId (.agent scope)).run db = (.ok commands, db) ↔
      ∃ agent, db.agent scope.agentId = some agent ∧ agent.runId = runId ∧
        commands = (roleCommands config agent.role).map (·.name) := by
  unfold availableCommands
  show (agentRecord runId scope.agentId >>= _).run db = _ ↔ _
  constructor
  · intro h
    obtain ⟨agent, db', hagent, hcommands⟩ := Tx.bind_eq_ok.mp h
    unfold agentRecord at hagent
    obtain ⟨found, db'', hfound, hsome⟩ := Tx.bind_eq_ok.mp hagent
    obtain ⟨rfl, rfl⟩ := Tx.read_eq_ok.mp hfound
    obtain ⟨hsome, -⟩ := Tx.okOr_eq_ok.mp hsome
    obtain ⟨hsome, hrun⟩ := Option.filter_eq_some_iff.mp hsome
    obtain ⟨hlist, -⟩ := Tx.pure_eq_ok.mp hcommands
    exact ⟨agent, hsome, eq_of_beq hrun, hlist.symm⟩
  · rintro ⟨agent, hagent, hrun, rfl⟩
    rw [Tx.run_bind_of_ok (agentRecord_run hagent hrun)]
    rfl

/-- Of an agent of the run whose session is the current one, the list is right exactly for some
    grants of its role. -/
theorem advertised_known_iff {scope : SessionScope} (hcanonical : scope.agentId.Canonical)
    (hagent : db.agent scope.agentId = some agent) (hrun : agent.runId = runId)
    (hcurrent : db.callerIsCurrent runId (.agent scope) = true) :
    Advertised config runId (.agent scope) db ↔ ListFits config runId db agent := by
  have hid : agent.id = scope.agentId := by
    have hfound : (agent.id == scope.agentId) = true :=
      List.find?_some (p := fun agent : AgentRecord => agent.id == scope.agentId) hagent
    exact eq_of_beq hfound
  have hmem : agent ∈ db.agentsOf runId :=
    mem_agentsOf.mpr ⟨List.mem_of_find?_eq_some hagent, hrun⟩
  have hpermitted : ∀ command : PublicCommand,
      (∃ request : PublicRequest, request.command = command ∧
        Accepts config runId (.agent scope) db request) ↔
          command.PermittedTo config runId db agent := by
    intro command
    rw [← permitted_iff]
    refine exists_congr fun request => and_congr_right fun _ => ?_
    rw [accepts_iff, authorizeRequest_eq_ok hagent hrun hid]
    exact and_iff_right hcurrent
  have hlisted : ∀ command : PublicCommand,
      command.name ∈ (roleCommands config agent.role).map (·.name) ↔
        command.ListedFor config agent.role := by
    intro command
    rw [List.mem_map_of_injective PublicCommand.name_injective]
    exact mem_roleCommands
  rw [← listFits_iff (hid ▸ hcanonical) hmem]
  constructor
  · rintro ⟨commands, hcommands, hiff, -⟩ command
    obtain ⟨other, hother, -, rfl⟩ := availableCommands_eq_ok.mp hcommands
    rw [hagent] at hother
    cases hother
    rw [← hlisted, hiff, hpermitted]
  · intro h
    refine ⟨_, availableCommands_eq_ok.mpr ⟨agent, hagent, hrun, rfl⟩, fun command => ?_,
      fun _ => renameCommands_mem ?_⟩
    · rw [hlisted, h, hpermitted]
    · rw [mem_roleCommands]
      exact id

/-- A caller is told the right commands exactly when it is an agent of the run, its session is the
    current one, and its role has the grants for which the list fits. -/
theorem advertised_iff {caller : AuthenticatedCaller}
    (hcanonical : ∀ agentId ∈ caller.agentId, agentId.Canonical) :
    Advertised config runId caller db ↔
      ∃ scope agent, caller = .agent scope ∧ db.callerIsCurrent runId (.agent scope) = true ∧
        db.agent scope.agentId = some agent ∧ agent.runId = runId ∧
          ListFits config runId db agent := by
  cases caller with
  | operator =>
      refine iff_of_false not_advertised_operator ?_
      rintro ⟨scope, agent, hcaller, -⟩
      cases hcaller
  | agent scope =>
      have hid : scope.agentId.Canonical := hcanonical scope.agentId rfl
      constructor
      · intro h
        have ⟨commands, hcommands, hiff, _⟩ := h
        obtain ⟨agent, hagent, hrun, rfl⟩ := availableCommands_eq_ok.mp hcommands
        -- every agent is told that it may list the projects
        have hlisted : PublicCommand.projectList.name ∈
            (roleCommands config agent.role).map (·.name) := by
          rw [List.mem_map_of_injective PublicCommand.name_injective, mem_roleCommands]
          trivial
        obtain ⟨request, -, haccepts⟩ := (hiff .projectList).mp hlisted
        have hcurrent := (accepts_iff.mp haccepts).1
        exact ⟨scope, agent, rfl, hcurrent, hagent, hrun,
          (advertised_known_iff hid hagent hrun hcurrent).mp h⟩
      · rintro ⟨scope', agent, hcaller, hcurrent, hagent, hrun, hfits⟩
        cases hcaller
        exact (advertised_known_iff hid hagent hrun hcurrent).mpr hfits

end Advertised

/-! ## The lead -/

/-- The session of the lead of the run below. -/
def leadScope : SessionScope where
  runId      := namedRun
  agentId    := ⟨"cg-01ARZ3NDEKTSV4RRFFQ69G5FA7"⟩
  sessionId  := ⟨"session-lead"⟩
  generation := 0

/-- A run in which the lead is launched. -/
def leadRun : List SupervisorStep :=
  preparedRun ++
    [{ input := .launchForeground
        { caller := .operator, operationId := ⟨"launch-lead"⟩, agentId := leadScope.agentId,
          sessionId := leadScope.sessionId, tokenVerifier := [], now := 10 }
       power := 1 }]

/-- The list is right for the lead of the run exactly when it fits the grants of the lead role. -/
theorem advertised_iff_lead : ∃ config, resolve {} {} {} = .ok config ∧
    (Advertised config namedRun (.agent leadScope)
        ((supervisorMachine config namedRun).run leadRun).db ↔
      ∃ scope agent, AuthenticatedCaller.agent leadScope = .agent scope ∧
        ((supervisorMachine config namedRun).run leadRun).db.callerIsCurrent namedRun
          (.agent scope) = true ∧
        ((supervisorMachine config namedRun).run leadRun).db.agent scope.agentId = some agent ∧
        agent.runId = namedRun ∧
        ListFits config namedRun ((supervisorMachine config namedRun).run leadRun).db agent) := by
  have hfacts : (resolve {} {} {}).toOption.any (fun _ => true) = true := by
    decide +kernel
  obtain ⟨config, hresolve, -⟩ := Except.exists_ok_of_any hfacts
  refine ⟨config, hresolve, advertised_iff ?_⟩
  rintro agentId hagent
  cases hagent
  decide

/-- The lead may spawn workers and is not told so; the operator may resubmit tasks and is not told
    so. -/
theorem lead_not_advertised : ∃ config, resolve {} {} {} = .ok config ∧
    ¬ Advertised config namedRun (.agent leadScope)
      ((supervisorMachine config namedRun).run leadRun).db ∧
    ¬ Advertised config namedRun .operator
      ((supervisorMachine config namedRun).run leadRun).db := by
  have hfacts : (resolve {} {} {}).toOption.any (fun config =>
      let db := ((supervisorMachine config namedRun).run leadRun).db
      db.callerIsCurrent namedRun (.agent leadScope) &&
        (db.agent leadScope.agentId).any (fun agent => agent.runId == namedRun &&
          config.archetype.authorize agent.role ⟨"spawn", "worker"⟩ == .allowed)) = true := by
    decide +kernel
  obtain ⟨config, hresolve, hlead⟩ := Except.exists_ok_of_any hfacts
  rw [Bool.and_eq_true] at hlead
  obtain ⟨hcurrent, hfound⟩ := hlead
  obtain ⟨agent, hagent, hlead⟩ := (Option.any_eq_true _ _).mp hfound
  rw [Bool.and_eq_true, beq_iff_eq, beq_iff_eq] at hlead
  refine ⟨config, hresolve, fun hadvertised => ?_, not_advertised_operator⟩
  have hfits := (advertised_known_iff (by decide) hagent hlead.1 hcurrent).mp hadvertised
  exact hfits.noSpawn "worker" hlead.2

end Coterie
