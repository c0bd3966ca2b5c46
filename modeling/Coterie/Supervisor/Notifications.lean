/-
  Coterie.Supervisor.Notifications

  The requests about foreground notifications (`supervisor/notifications.rs`: `execute`).  The
  supervisor owns the intent to deliver; the owner of the foreground process performs the effect.

  A request is answered in its kind, and a claim with the operation that asked for it, also when
  the answer is replayed: `execute_answers`.
-/

import Coterie.Model.Ids
import Coterie.State.ExactlyOnce
import Coterie.State.Notifications
import Coterie.Supervisor.Admission
import Coterie.Supervisor.Inbox

namespace Coterie

/-! ## Messages -/

inductive NotificationRequest where
  | enable (operationId : OperationId) (scope : SessionScope)
  | bind (operationId : OperationId) (threadId : String)
  | pending (scope : SessionScope)
  | claim (operationId : OperationId) (scope : SessionScope)
  | observe (operationId : OperationId) (scope : SessionScope) (deliveryId : OperationId)
      (outcome : QueueOutcome)
  | receive (operationId deliveryId : OperationId)
deriving DecidableEq, Repr

inductive NotificationResponse where
  | received (received : Bool)
  | notifications (availability : NotificationAvailability) (pending : Bool)
  | claimed (claim : Option NotificationClaim)
deriving DecidableEq, Repr

def SessionScope.json (scope : SessionScope) : JsonValue :=
  .obj [("agent_id", .str scope.agentId.text), ("generation", .num scope.generation),
    ("run_id", .str scope.runId.text), ("session_id", .str scope.sessionId.text)]

def NotificationRequest.json : NotificationRequest → JsonValue
  | .enable operationId scope =>
      call "enable_foreground_notifications"
        [("operation_id", .str operationId.text), ("scope", scope.json)]
  | .bind operationId threadId =>
      call "bind_foreground_notifications"
        [("operation_id", .str operationId.text), ("thread_id", .str threadId)]
  | .pending scope => call "foreground_notification_pending" [("scope", scope.json)]
  | .claim operationId scope =>
      call "claim_foreground_notification"
        [("operation_id", .str operationId.text), ("scope", scope.json)]
  | .observe operationId scope deliveryId outcome =>
      call "observe_foreground_notification"
        [("delivery_id", .str deliveryId.text), ("operation_id", .str operationId.text),
          ("outcome", .str outcome.asStr), ("scope", scope.json)]
  | .receive operationId deliveryId =>
      call "receive_foreground_notification"
        [("delivery_id", .str deliveryId.text), ("operation_id", .str operationId.text)]
where
  /-- A method and its parameters. -/
  call (method : String) (parameters : List (String × JsonValue)) : JsonValue :=
    .obj [("method", .str method), ("parameters", .obj parameters)]

namespace NotificationResponse

def json : NotificationResponse → JsonValue
  | .received isReceived =>
      .obj [("received", .bool isReceived), ("result", .str "foreground_notification_received")]
  | .notifications availability pending =>
      .obj [("availability", .str availability.asStr), ("pending", .bool pending),
        ("result", .str "foreground_notifications")]
  | .claimed claim =>
      .obj [("claim", .ofOption (fun claim => .obj [("operation_id", .str claim.operationId.text),
        ("thread_id", .str claim.threadId)]) claim),
        ("result", .str "foreground_notification_claimed")]

/-- Read a claim. -/
def claimOfJson? (value : JsonValue) : Option NotificationClaim := do
  let operationId ← value.text? "operation_id"
  let threadId ← value.text? "thread_id"
  pure { operationId := ⟨operationId⟩, threadId }

/-- Read a response. -/
def ofJson? (value : JsonValue) : Option NotificationResponse := do
  match ← value.text? "result" with
  | "foreground_notification_received" => do
      let isReceived ← (value.get? "received").bind JsonValue.asBool?
      pure (.received isReceived)
  | "foreground_notifications" => do
      let availability ← value.named? "availability" NotificationAvailability.ofStr?
      let pending ← (value.get? "pending").bind JsonValue.asBool?
      pure (.notifications availability pending)
  | "foreground_notification_claimed" =>
      match ← value.get? "claim" with
      | .null => pure (.claimed none)
      | claim => do
          let claim ← claimOfJson? claim
          pure (.claimed (some claim))
  | _ => none

theorem ofJson?_json (response : NotificationResponse) : ofJson? response.json = some response := by
  cases response with
  | received isReceived =>
      simp [ofJson?, json, JsonValue.text?, JsonValue.get?, JsonValue.asStr?, JsonValue.asBool?,
        List.lookup_cons]
  | notifications availability pending =>
      cases availability <;>
        simp [ofJson?, json, JsonValue.text?, JsonValue.get?, JsonValue.asStr?, JsonValue.asBool?,
          JsonValue.named?, NotificationAvailability.asStr, NotificationAvailability.ofStr?,
          List.lookup_cons]
  | claimed claim =>
      cases claim <;>
        simp [ofJson?, json, claimOfJson?, JsonValue.text?, JsonValue.get?, JsonValue.asStr?,
          JsonValue.ofOption, List.lookup_cons]

/-- How responses are stored. -/
def codec : Codec NotificationResponse where
  encode response := .ok response.json
  decode value :=
    match ofJson? value with
    | some response => .ok response
    | none => .error (.encodeJson "the stored notification response cannot be decoded")
  decode_encode response value h := by
    cases h
    rw [ofJson?_json]

end NotificationResponse

/-! ## Requests -/

/-- Whom a request is about, and the operation that it is. -/
def notificationTarget (caller : AuthenticatedCaller) (ownsBridge : Bool) :
    NotificationRequest → Except RequestError (SessionScope × Option OperationId)
  | .receive operationId _ =>
      match caller with
      | .agent scope => .ok (scope, some operationId)
      | .operator =>
          .error (.rpc .permissionDenied ("only the authenticated foreground recipient can " ++
            "report a notification receipt"))
  | .bind operationId threadId =>
      match caller with
      | .agent scope =>
          if ¬ validThreadId threadId then
            .error (invalidArgument "the provider thread ID must be a canonical UUID")
          else if ownsBridge = false then
            .error (.rpc .permissionDenied ("notification metadata must originate from this " ++
              "foreground provider's host MCP bridge"))
          else .ok (scope, some operationId)
      | .operator =>
          .error (.rpc .permissionDenied
            "only a provider-launched MCP bridge can bind notifications")
  | .enable operationId scope | .claim operationId scope | .observe operationId scope _ _ =>
      if caller.isOperator then .ok (scope, some operationId) else .error notTheOwner
  | .pending scope => if caller.isOperator then .ok (scope, none) else .error notTheOwner
where
  /-- The refusal of an agent. -/
  notTheOwner : RequestError :=
    .rpc .permissionDenied "notification delivery belongs to the foreground process owner"

/-- The scope is that of a foreground session whose role the run configures. -/
def requireForegroundScope (config : EffectiveConfig) (runId : RunId) (scope : SessionScope) :
    Request Unit := do
  let session ← Tx.okOr (.rpc .notFound "the foreground session does not exist")
    (← Tx.read (·.session scope.sessionId))
  Tx.require (conflict ("the foreground observation does not match its session ownership and " ++
    "generation")) (·.foregroundScopeHolds runId scope)
  Tx.require (conflict ("the foreground observation does not match its configured provider and " ++
    "interactive role")) fun db =>
      ((db.agent scope.agentId).bind fun agent => config.archetype.role agent.role).any fun role =>
        role.mode == .interactive && role.provider == session.provider &&
          config.providers.contains role.provider

/-- Apply a request. -/
def applyNotification (scope : SessionScope) (operationId : OperationId) (progress : Bool)
    (now : Int) : NotificationRequest → Repo NotificationResponse
  | .enable _ _ => do
      enableNotifications scope
      settled
  | .bind _ threadId => do
      Tx.when ((← bindNotifications scope threadId) = false)
        (throw (.corruptAgentState scope.agentId ("notification binding is unavailable or already " ++
          "belongs to another provider thread")))
      settled
  | .claim _ _ => do
      let claim ← claimNotification scope operationId progress now
      pure (.claimed claim)
  | .observe _ _ deliveryId outcome => do
      observeNotification scope deliveryId outcome now
      settled
  | .receive _ deliveryId => do
      let isReceived ← receiveNotification scope deliveryId now
      pure (.received isReceived)
  | .pending _ => throw (.panicked "internal error: entered unreachable code")
where
  /-- The availability after a change. -/
  settled : Repo NotificationResponse := do
    let availability ← Tx.read fun db => db.notificationAvailability scope now
    pure (.notifications availability false)

/-- The operations of this kind. -/
def notificationKind : String := "foreground.notification"

/-- Serve a request.  `ownsBridge` tells whether the process that sent it is the host bridge of the
    foreground provider. -/
def executeNotification (config : EffectiveConfig) (runId : RunId) (caller : AuthenticatedCaller)
    (ownsBridge : Bool) (now : Int) (request : NotificationRequest) :
    Request NotificationResponse := do
  let (scope, operationId) ← Tx.ofExcept (notificationTarget caller ownsBridge request)
  requireForegroundScope config runId scope
  let agent ← agentRecord runId scope.agentId
  let progress := config.archetype.authorize agent.role ⟨"task", "read"⟩ == .allowed
  match operationId with
  | none => do
      let availability ← Tx.read fun db => db.notificationAvailability scope now
      let pending ← Tx.read fun db => (db.pendingNotification scope progress).isSome
      pure (.notifications availability pending)
  | some operationId => do
      let mutation : Mutation :=
        { id := operationId, runId, kind := notificationKind, actorAgentId := caller.agentId,
          request := request.json, createdAt := now }
      let outcome ← committed (mutationBody NotificationResponse.codec mutation none
        (applyNotification scope operationId progress now request))
      pure (mutationValue outcome)

/-! ## Answers -/

theorem SessionScope.json_inj {scope scope' : SessionScope} :
    scope.json = scope'.json ↔ scope = scope' := by
  obtain ⟨runId, agentId, sessionId, generation⟩ := scope
  obtain ⟨runId', agentId', sessionId', generation'⟩ := scope'
  simp only [json, JsonValue.obj.injEq, List.cons.injEq, Prod.mk.injEq, JsonValue.str.injEq,
    JsonValue.num.injEq, Id.text_inj, SessionScope.mk.injEq, true_and, and_true]
  tauto

theorem QueueOutcome.asStr_inj {outcome outcome' : QueueOutcome} :
    outcome.asStr = outcome'.asStr ↔ outcome = outcome' := by
  cases outcome <;> cases outcome' <;> simp [asStr]

/-- The text of a request tells it. -/
theorem NotificationRequest.json_inj {request request' : NotificationRequest} :
    request.json = request'.json ↔ request = request' := by
  cases request <;> cases request' <;>
    simp [json, json.call, SessionScope.json_inj, QueueOutcome.asStr_inj, Id.text_inj]
  · tauto
  · tauto

/-- The operation that a request is. -/
def NotificationRequest.operationId : NotificationRequest → Option OperationId
  | .enable operationId _ | .bind operationId _ | .claim operationId _ | .observe operationId _ _ _
  | .receive operationId _ => some operationId
  | .pending _ => none

/-- A response in the kind of the request; what is claimed is named after the request. -/
def NotificationRequest.Answered : NotificationRequest → NotificationResponse → Prop
  | .claim operationId _, response =>
      ∃ claim, response = .claimed claim ∧
        ∀ granted, claim = some granted → granted.operationId = operationId
  | .receive _ _, response => ∃ isReceived, response = .received isReceived
  | .enable _ _, response | .bind _ _, response | .observe _ _ _ _, response =>
      ∃ availability, response = .notifications availability false
  | .pending _, response => ∃ availability pending, response = .notifications availability pending

/-- Every recorded response is one to its request. -/
def Db.NotificationsRecorded (db : Db) : Prop :=
  ∀ row ∈ db.operations, row.kind = notificationKind →
    ∀ request : NotificationRequest, row.request = request.json →
      ∀ value response, row.result = some value →
        NotificationResponse.codec.decode value = .ok response → request.Answered response

theorem notificationTarget_ok {caller : AuthenticatedCaller} {ownsBridge : Bool}
    {request : NotificationRequest} {scope : SessionScope} {operationId : Option OperationId}
    (h : notificationTarget caller ownsBridge request = .ok (scope, operationId)) :
    operationId = request.operationId := by
  unfold notificationTarget at h
  split at h
  all_goals (repeat' split at h)
  all_goals cases h
  all_goals rfl

/-- A granted delivery has the name of the operation that asked for it. -/
theorem claimNotification_ok {scope : SessionScope} {id : OperationId} {progress : Bool}
    {now : Int} {claim : Option NotificationClaim} {db db' : Db}
    (h : (claimNotification scope id progress now).run db = (.ok claim, db')) :
    ∀ granted, claim = some granted → granted.operationId = id := by
  have hpending : ∀ {claim db db'},
      (claimNotification.claimPending scope id progress now).run db = (.ok claim, db') →
        ∀ granted, claim = some granted → granted.operationId = id := by
    intro claim db db' h
    obtain ⟨found, _, h₁, h⟩ := Tx.bind_eq_ok.mp h
    split at h
    · cases h
      nofun
    · obtain ⟨_, _, -, h⟩ := Tx.bind_eq_ok.mp h
      obtain ⟨_, _, -, h⟩ := Tx.bind_eq_ok.mp h
      obtain ⟨_, _, -, h⟩ := Tx.bind_eq_ok.mp h
      cases h
      rintro _ ⟨⟩
      rfl
  obtain ⟨live, _, h₁, h⟩ := Tx.bind_eq_ok.mp h
  split at h
  · cases h
    nofun
  · obtain ⟨deliveries, _, h₂, h⟩ := Tx.bind_eq_ok.mp h
    split at h
    · obtain ⟨binding, _, h₃, h⟩ := Tx.bind_eq_ok.mp h
      split at h
      · cases h
        rintro _ ⟨⟩
        rfl
      · cases h
      · exact hpending h
    · exact hpending h

theorem applyNotification_answers {scope : SessionScope} {id : OperationId} {progress : Bool}
    {now : Int} {request : NotificationRequest} {response : NotificationResponse} {db db' : Db}
    (hid : request.operationId = some id)
    (h : (applyNotification scope id progress now request).run db = (.ok response, db')) :
    request.Answered response := by
  have hsettled : ∀ {response db db'},
      (applyNotification.settled scope now).run db = (.ok response, db') →
        ∃ availability, response = .notifications availability false := by
    intro response db db' h
    obtain ⟨availability, _, -, h⟩ := Tx.bind_eq_ok.mp h
    cases h
    exact ⟨availability, rfl⟩
  cases request with
  | enable operationId scope' =>
      obtain ⟨_, _, -, h⟩ := Tx.bind_eq_ok.mp h
      exact hsettled h
  | bind operationId threadId =>
      obtain ⟨_, _, -, h⟩ := Tx.bind_eq_ok.mp h
      obtain ⟨_, _, -, h⟩ := Tx.bind_eq_ok.mp h
      exact hsettled h
  | claim operationId scope' =>
      obtain ⟨claim, _, hclaim, h⟩ := Tx.bind_eq_ok.mp h
      cases h
      cases hid
      exact ⟨claim, rfl, claimNotification_ok hclaim⟩
  | observe operationId scope' deliveryId outcome =>
      obtain ⟨_, _, -, h⟩ := Tx.bind_eq_ok.mp h
      exact hsettled h
  | receive operationId deliveryId =>
      obtain ⟨isReceived, _, -, h⟩ := Tx.bind_eq_ok.mp h
      cases h
      exact ⟨isReceived, rfl⟩
  | pending scope' => cases hid

/-- Requests write the notification tables. -/
abbrev notificationTables : List TableName := [.foregroundNotifications, .notificationDeliveries]

theorem written_updateNotification (db : Db) (id : SessionId)
    (f : ForegroundNotification → ForegroundNotification) :
    Written notificationTables db (db.updateNotification id f) :=
  .of_write (.foregroundNotifications _ (by decide))

theorem written_updateDeliveries (db : Db) (p : NotificationDelivery → Bool)
    (f : NotificationDelivery → NotificationDelivery) :
    Written notificationTables db (db.updateDeliveries p f) :=
  .of_write (.notificationDeliveries _ (by decide))

theorem writes_applyNotification (scope : SessionScope) (id : OperationId) (progress : Bool)
    (now : Int) (request : NotificationRequest) :
    Tx.Keeps (Written notificationTables) (applyNotification scope id progress now request) := by
  have hsettled : Tx.Keeps (Written notificationTables) (applyNotification.settled scope now) :=
    .bind (.read _) fun _ => .pure _
  have hpending : Tx.Keeps (Written notificationTables)
      (claimNotification.claimPending scope id progress now) := by
    refine .bind (.read _) fun found => ?_
    split
    · exact .pure _
    · refine .bind (.require _ _) fun _ => .bind (.write fun db => ?_) fun _ =>
        .bind (.write fun db => written_updateNotification db _ _) fun _ => .pure _
      exact .of_write (.notificationDeliveries _ (by decide))
  cases request with
  | enable operationId scope' =>
      refine .bind (.bind (.read _) fun _ => .when (.bind (.read _) fun _ => .when
        (.write fun db => ?_))) fun _ => hsettled
      exact .of_write (.foregroundNotifications _ (by decide))
  | bind operationId threadId =>
      refine .bind ?_ fun _ => .bind (.when (.throw _)) fun _ => hsettled
      refine .bind (.read _) fun _ => .ite (.pure _) (.bind (.read _) fun _ => ?_)
      exact .ite (.bind (.write fun db => written_updateNotification db _ _) fun _ => .pure _)
        (.pure _)
  | claim operationId scope' =>
      refine .bind ?_ fun _ => .pure _
      refine .bind (.read _) fun _ => .ite (.pure _) (.bind (.read _) fun _ => ?_)
      split
      · refine .bind (.read _) fun _ => ?_
        split
        · exact .pure _
        · exact .throw _
        · exact hpending
      · exact hpending
  | observe operationId scope' deliveryId outcome =>
      exact .bind (.bind (.read _) fun _ => .when
        (.write fun db => written_updateDeliveries db _ _)) fun _ => hsettled
  | receive operationId deliveryId =>
      refine .bind ?_ fun _ => .pure _
      refine .bind (.read _) fun _ => .ite (.pure _) (.bind (.read _) fun _ => ?_)
      dsimp only
      split
      · exact .pure _
      · exact .bind (.write fun db => written_updateDeliveries db _ _) fun _ =>
          .bind (.write fun db => written_updateNotification db _ _) fun _ => .pure _
      · exact .pure _
      · exact .pure _
  | pending scope' => exact .throw _

/-- The mutation of a request. -/
def notificationCall (runId : RunId) (caller : AuthenticatedCaller) (scope : SessionScope)
    (operationId : OperationId) (progress : Bool) (now : Int) (request : NotificationRequest) :
    MutationCall NotificationResponse where
  codec := NotificationResponse.codec
  mutation :=
    { id := operationId, runId, kind := notificationKind, actorAgentId := caller.agentId,
      request := request.json, createdAt := now }
  requestFingerprint := none
  apply := applyNotification scope operationId progress now request
  isProgram := .other ((writes_applyNotification scope operationId progress now request).mono
    fun _ _ h => ⟨h.writesOnly.same .operations (by decide),
      h.writesOnly.same .runShutdowns (by decide)⟩)

/-- A replay decodes what was recorded for the same request. -/
theorem replayOperation_ok {α : Type} {codec : Codec α} {mutation : Mutation}
    {existing : OperationRow} {outcome : MutationOutcome α} {db db' : Db}
    (h : (replayOperation codec mutation none existing).run db = (.ok outcome, db')) :
    ∃ value result, existing.kind = mutation.kind ∧ existing.request = mutation.request ∧
      existing.result = some value ∧ codec.decode value = .ok result ∧
      outcome = .replayed result := by
  unfold replayOperation at h
  split at h
  · cases h
  · next hsame =>
      push Not at hsame
      obtain ⟨-, hkind, -, hrequest⟩ := hsame
      split at h
      · cases h
      · cases hresult : existing.result with
        | none =>
            rw [hresult] at h
            cases h
        | some value =>
            rw [hresult] at h
            obtain ⟨result, _, hrun, h⟩ := Tx.bind_eq_ok.mp h
            have hdecode := (Tx.ofExcept_eq_ok.mp hrun).1
            cases h
            refine ⟨value, result, hkind, ?_, rfl, hdecode, rfl⟩
            unfold OperationRow.sameRequest at hrequest
            cases hstored : existing.requestFingerprint with
            | none =>
                rw [hstored] at hrequest
                exact eq_of_beq hrequest
            | some stored =>
                rw [hstored] at hrequest
                cases hrequest

section Execute

variable {runId : RunId} {caller : AuthenticatedCaller} {scope : SessionScope}
  {operationId : OperationId} {progress : Bool} {now : Int} {request : NotificationRequest}
  {db db' : Db}

/-- What is applied is recorded with its response. -/
theorem recorded_of_appliedFrom (hrecorded : db.NotificationsRecorded)
    (hid : request.operationId = some operationId) {response : NotificationResponse}
    {value : JsonValue}
    (h : (notificationCall runId caller scope operationId progress now request).AppliedFrom db db'
      response value) : db'.NotificationsRecorded := by
  obtain ⟨hnew, hencode, db₁, happly, rfl⟩ := h
  have hanswered := applyNotification_answers hid happly
  have hsame : db₁.operations = _ :=
    ((writes_applyNotification scope operationId progress now request).of_ok
      happly).writesOnly.same .operations (by decide)
  intro row hrow hkind request' hrequest value' response' hvalue hdecode
  obtain ⟨row₁, hrow₁, hrow⟩ := Table.mem_updateWhere.mp hrow
  rw [hsame] at hrow₁
  obtain ⟨row₂, hrow₂, hrow₁⟩ := Table.mem_updateWhere.mp hrow₁
  rcases List.mem_append.mp hrow₂ with hold | hopened
  · -- another operation
    have hother : ¬ (row₂.id == (notificationCall runId caller scope operationId progress now
        request).mutation.id) = true := List.find?_eq_none.mp hnew row₂ hold
    rw [if_neg hother] at hrow₁
    subst hrow₁
    rw [if_neg hother] at hrow
    subst hrow
    exact hrecorded row₂ hold hkind request' hrequest value' response' hvalue hdecode
  · rw [List.mem_singleton] at hopened
    subst hopened
    obtain rfl := (if_pos (beq_self_eq_true operationId)).symm.trans hrow₁
    obtain rfl := (if_pos (beq_self_eq_true operationId)).symm.trans hrow
    obtain rfl : request = request' := NotificationRequest.json_inj.mp hrequest
    cases hvalue
    have hresponse := NotificationResponse.codec.decode_encode response value hencode
    rw [hresponse] at hdecode
    cases hdecode
    exact hanswered

theorem outcome_answers (hrecorded : db.NotificationsRecorded)
    (hid : request.operationId = some operationId) {outcome : MutationOutcome NotificationResponse}
    (h : (notificationCall runId caller scope operationId progress now request).outcome db =
      (.ok outcome, db')) :
    db'.NotificationsRecorded ∧ request.Answered (mutationValue outcome) := by
  rcases (notificationCall runId caller scope operationId progress now request).outcome_cases db
    with ⟨response, value, db'', hout, happlied⟩ | ⟨response, hout⟩ | ⟨e, hout⟩
  · rw [hout] at h
    cases h
    refine ⟨recorded_of_appliedFrom hrecorded hid happlied, ?_⟩
    obtain ⟨-, -, db₁, happly, -⟩ := happlied
    exact applyNotification_answers hid happly
  · rw [hout] at h
    cases h
    refine ⟨hrecorded, ?_⟩
    have hrun := Tx.transaction_eq_ok.mp hout
    obtain ⟨found, _, hread, hrun⟩ := Tx.bind_eq_ok.mp hrun
    obtain ⟨hfound, rfl⟩ := Tx.read_eq_ok.mp hread
    cases found with
    | none =>
        obtain ⟨_, _, -, hrun⟩ := Tx.bind_eq_ok.mp hrun
        obtain ⟨_, _, -, hrun⟩ := Tx.bind_eq_ok.mp hrun
        obtain ⟨_, _, -, hrun⟩ := Tx.bind_eq_ok.mp hrun
        obtain ⟨_, _, -, hrun⟩ := Tx.bind_eq_ok.mp hrun
        obtain ⟨_, _, -, hrun⟩ := Tx.bind_eq_ok.mp hrun
        cases hrun
    | some existing =>
        obtain ⟨value, result, hkind, hrequest, hresult, hdecode, hsame⟩ :=
          replayOperation_ok hrun
        cases hsame
        exact hrecorded existing (List.mem_of_find?_eq_some hfound) hkind request hrequest value
          response hresult hdecode
  · rw [hout] at h
    cases h

theorem still_requireForegroundScope (config : EffectiveConfig) (runId : RunId)
    (scope : SessionScope) : Tx.Keeps Eq (requireForegroundScope config runId scope) :=
  .bind (.read _) fun _ => .bind (.okOr _ _) fun _ => .bind (.require _ _) fun _ => .require _ _

theorem still_agentRecord (runId : RunId) (agentId : AgentId) :
    Tx.Keeps Eq (agentRecord runId agentId) :=
  .bind (.read _) fun _ => .okOr _ _

/-- A request is answered in its kind, and so are the later ones. -/
theorem execute_answers {config : EffectiveConfig} {ownsBridge : Bool}
    {result : Except RequestError NotificationResponse} (hrecorded : db.NotificationsRecorded)
    (h : (executeNotification config runId caller ownsBridge now request).run db = (result, db')) :
    db'.NotificationsRecorded ∧
      ∀ response, result = .ok response → request.Answered response := by
  have hfailed : ∀ {e}, result = .error e ∧ db' = db → db'.NotificationsRecorded ∧
      ∀ response, result = .ok response → request.Answered response := by
    rintro e ⟨rfl, rfl⟩
    exact ⟨hrecorded, nofun⟩
  rcases (Tx.Keeps.ofExcept _).bind_run h with ⟨e, herror⟩ | ⟨⟨scope, operationId⟩, htarget, h⟩
  · exact hfailed herror
  have hid := notificationTarget_ok (Tx.ofExcept_eq_ok.mp htarget).1
  rcases (still_requireForegroundScope config runId scope).bind_run h with ⟨e, herror⟩ | ⟨_, -, h⟩
  · exact hfailed herror
  rcases (still_agentRecord runId scope.agentId).bind_run h with ⟨e, herror⟩ | ⟨agent, -, h⟩
  · exact hfailed herror
  cases operationId with
  | none =>
      cases h
      cases request with
      | pending scope' =>
          refine ⟨hrecorded, ?_⟩
          rintro response ⟨⟩
          exact ⟨_, _, rfl⟩
      | _ => cases hid
  | some operationId =>
      rcases committed_cases (mutationBody NotificationResponse.codec
        (notificationCall runId caller scope operationId _ now request).mutation none
        (applyNotification scope operationId _ now request)) db with
        ⟨outcome, db'', hrun, hcommitted⟩ | ⟨e, hcommitted⟩
      · have hok := (Tx.bind_eq_ok.mpr ⟨outcome, db'', hcommitted, rfl⟩).symm.trans h
        cases hok
        obtain ⟨hrecorded', hanswered⟩ := outcome_answers hrecorded hid.symm
          (Tx.transaction_eq_ok.mpr hrun)
        refine ⟨hrecorded', ?_⟩
        rintro response ⟨⟩
        exact hanswered
      · have herror := (Tx.bind_eq_error.mpr (.inl hcommitted)).symm.trans h
        cases herror
        exact hfailed ⟨rfl, rfl⟩

end Execute

end Coterie
