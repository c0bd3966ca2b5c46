/-
  Coterie.Mcp.Dialogue

  What a session of the bridge says and does, line by line.  An `Exchange` is a line of the client
  with the answer to it and the requests that it has sent to the supervisor.  A line does what
  `Exchanged` says; a session is a `Dialogue` of exchanges.

  Every line is answered as it asks for, no request is sent before the client has initialized the
  session and confirmed it, and all requests of a session belong to one thread.  What an exchange
  tells of the session is read off `answerLine`, from the session that the lines before have left.
-/

import Coterie.Mcp.Session

namespace Coterie

namespace Mcp

/-! ## What a call does to the client -/

section Client

variable {σ : Type} {host : Host σ}

/-- Every mutation is saved under the operation ID that its request carries, and its request is
    that of a tool. -/
def Client.Sound (client : Client σ) : Prop :=
  ∀ saved ∈ client.mutations,
    operationId? saved.request.arguments = some saved.id ∧ saved.request.tool ∈ requestTools

/-- Requests of tools were sent. -/
def Sends (before after : Client σ) : Prop :=
  before.Sound → after.Sound ∧
    ∃ sent, after.sent = before.sent ++ sent ∧ ∀ request ∈ sent, request.tool ∈ requestTools

instance : Std.Refl (Sends (σ := σ)) where
  refl _ hsound := ⟨hsound, [], (List.append_nil _).symm, nofun⟩

instance : IsTrans (Client σ) Sends where
  trans := by
    intro a b c hab hbc hsound
    obtain ⟨hsound, first, hfirst, hfirstTools⟩ := hab hsound
    obtain ⟨hsound, second, hsecond, hsecondTools⟩ := hbc hsound
    refine ⟨hsound, first ++ second, by rw [hsecond, hfirst, List.append_assoc], ?_⟩
    intro request hrequest
    rcases List.mem_append.mp hrequest with hrequest | hrequest
    · exact hfirstTools request hrequest
    · exact hsecondTools request hrequest

/-- Requests without an operation ID were sent, and the saved mutations left alone. -/
def Reads (before after : Client σ) : Prop :=
  after.mutations = before.mutations ∧
    ∃ sent, after.sent = before.sent ++ sent ∧
      ∀ request ∈ sent, request.tool ∈ requestTools ∧ operationId? request.arguments = none

instance : Std.Refl (Reads (σ := σ)) where
  refl _ := ⟨rfl, [], (List.append_nil _).symm, nofun⟩

instance : IsTrans (Client σ) Reads where
  trans := by
    rintro a b c ⟨hab, first, hfirst, hfirstReads⟩ ⟨hbc, second, hsecond, hsecondReads⟩
    refine ⟨hbc.trans hab, first ++ second, by rw [hsecond, hfirst, List.append_assoc], ?_⟩
    intro request hrequest
    rcases List.mem_append.mp hrequest with hrequest | hrequest
    · exact hfirstReads request hrequest
    · exact hsecondReads request hrequest

theorem Reads.sends {before after : Client σ} (h : Reads before after) : Sends before after := by
  obtain ⟨hmutations, sent, hsent, hreads⟩ := h
  intro hsound
  refine ⟨?_, sent, hsent, fun request hrequest => (hreads request hrequest).1⟩
  unfold Client.Sound
  rw [hmutations]
  exact hsound

/-- The requests that carry an operation ID are saved under it. -/
def Saves (before after : Client σ) : Prop :=
  ∃ sent, after.sent = before.sent ++ sent ∧ ∀ request ∈ sent, ∀ id,
    operationId? request.arguments = some id →
      ∃ saved ∈ after.mutations, saved.id = id ∧ saved.request = request

theorem Reads.saves {before after : Client σ} (h : Reads before after) : Saves before after := by
  obtain ⟨-, sent, hsent, hreads⟩ := h
  refine ⟨sent, hsent, fun request hrequest id hid => ?_⟩
  rw [(hreads request hrequest).2] at hid
  cases hid

theorem Reads.saves_trans {a b c : Client σ} (hab : Reads a b) (hbc : Saves b c) : Saves a c := by
  obtain ⟨-, first, hfirst, hreads⟩ := hab
  obtain ⟨second, hsecond, hsaves⟩ := hbc
  refine ⟨first ++ second, by rw [hsecond, hfirst, List.append_assoc], ?_⟩
  intro request hrequest id hid
  rcases List.mem_append.mp hrequest with hrequest | hrequest
  · rw [(hreads request hrequest).2] at hid
    cases hid
  · exact hsaves request hrequest id hid

/-! ### Requests -/

theorem reads_transport (request : RpcRequest) : Tx.Keeps Reads (transport host request) := by
  have htransmit : Tx.Keeps Reads (transmit host request.toRequest) := by
    intro client
    refine ⟨rfl, [request.toRequest], rfl, ?_⟩
    intro sent hsent
    obtain rfl : sent = request.toRequest := List.mem_singleton.mp hsent
    cases request with
    | whoami => exact ⟨show "whoami" ∈ requestTools by decide, rfl⟩
    | progress => exact ⟨show "progress" ∈ requestTools by decide, rfl⟩
    | inbox => exact ⟨show "inbox" ∈ requestTools by decide, rfl⟩
  refine .bind htransmit fun response => ?_
  cases response with
  | read response => exact .pure _
  | _ => exact .throw _

/-- What is saved after a request: what was saved before, and the request under its operation
    ID. -/
theorem request_mutations {request : ToolRequest} {operationId : Option OperationId}
    {answer : Answer Response} {mutations left : List (SavedMutation ToolRequest)}
    {result : CallResult ToolRequest Response}
    (h : Mcp.request host.bytes request operationId answer mutations = (result, left)) :
    (∀ saved ∈ left, (∃ old ∈ mutations, old.id = saved.id ∧ old.request = saved.request) ∨
      operationId = some saved.id ∧ saved.request = request) ∧
    ∀ sent answer, result = .dispatched sent answer → sent = request ∧
      ∀ id, operationId = some id → ∃ saved ∈ left, saved.id = id ∧ saved.request = request := by
  have hsettled : ∀ id, ∀ saved ∈ settle id answer mutations, ∃ old ∈ mutations,
      old.id = saved.id ∧ old.request = saved.request := by
    intro id saved hsaved
    obtain ⟨old, hold, rfl⟩ := List.mem_map.mp hsaved
    refine ⟨old, hold, ?_⟩
    split <;> exact ⟨rfl, rfl⟩
  unfold Mcp.request at h
  cases operationId with
  | none =>
      cases h
      refine ⟨fun saved hsaved => .inl ⟨saved, hsaved, rfl, rfl⟩, ?_⟩
      rintro _ _ ⟨⟩
      exact ⟨rfl, nofun⟩
  | some id =>
      dsimp only at h
      cases hfind : mutations.find? (·.id == id) with
      | some old =>
          obtain rfl : old.id = id := by simpa using List.find?_some hfind
          have hold := List.mem_of_find?_eq_some hfind
          by_cases hsame : old.request = request
          · subst hsame
            rw [save_again hfind] at h
            cases h
            refine ⟨fun saved hsaved => .inl (hsettled _ saved hsaved), ?_⟩
            rintro _ _ ⟨⟩
            refine ⟨rfl, fun id hid => ?_⟩
            cases hid
            refine ⟨{ old with succeeded := answer.isOk }, List.mem_map.mpr ⟨old, hold, ?_⟩,
              rfl, rfl⟩
            exact if_pos (beq_self_eq_true old.id)
          · obtain ⟨code, message, hsave⟩ := save_changed host.bytes hfind hsame
            rw [hsave] at h
            cases h
            exact ⟨fun saved hsaved => .inl ⟨saved, hsaved, rfl, rfl⟩, nofun⟩
      | none =>
          have hnew : id ∉ mutations.map (·.id) := by
            intro hmem
            obtain ⟨old, hold, rfl⟩ := List.mem_map.mp hmem
            exact List.find?_eq_none.mp hfind old hold (beq_self_eq_true _)
          obtain ⟨left', hsublist, -, hsave⟩ := save_new host.bytes request hnew
          rcases hsave with ⟨-, hsave⟩ | ⟨-, -, message, hsave⟩
          · have hsettle := settle_append ⟨id, request, host.bytes request, false⟩ answer
              fun hmem => hnew ((hsublist.map (·.id)).mem hmem)
            rw [hsave] at h
            dsimp only at h hsettle
            rw [hsettle] at h
            cases h
            refine ⟨fun saved hsaved => ?_, ?_⟩
            · rcases List.mem_append.mp hsaved with hsaved | hsaved
              · exact .inl ⟨saved, hsublist.mem hsaved, rfl, rfl⟩
              · obtain rfl := List.mem_singleton.mp hsaved
                exact .inr ⟨rfl, rfl⟩
            · rintro _ _ ⟨⟩
              refine ⟨rfl, fun id hid => ?_⟩
              cases hid
              exact ⟨_, List.mem_append_right _ (List.mem_singleton.mpr rfl), rfl, rfl⟩
          · rw [hsave] at h
            cases h
            exact ⟨fun saved hsaved => .inl ⟨saved, hsublist.mem hsaved, rfl, rfl⟩, nofun⟩

/-- A request of a tool under its own operation ID is sent after it was saved. -/
theorem sends_dispatch {request : ToolRequest} {operationId : Option OperationId}
    (htool : request.tool ∈ requestTools)
    (hid : ∀ id, operationId = some id → operationId? request.arguments = some id) :
    Tx.Keeps Sends (dispatch host request operationId) := by
  intro client hsound
  unfold dispatch
  dsimp only
  split
  · next code message left hrequest =>
      obtain ⟨hleft, -⟩ := request_mutations hrequest
      refine ⟨fun saved hsaved => ?_, [], (List.append_nil _).symm, nofun⟩
      rcases hleft saved hsaved with ⟨old, hold, hoid, horequest⟩ | ⟨hsame, hrequest⟩
      · rw [← hoid, ← horequest]
        exact hsound old hold
      · rw [hrequest]
        exact ⟨hid _ hsame, htool⟩
  · next sent answer left hrequest =>
      obtain ⟨hleft, hdispatched⟩ := request_mutations hrequest
      obtain ⟨rfl, -⟩ := hdispatched _ _ rfl
      refine ⟨fun saved hsaved => ?_, [sent], rfl, ?_⟩
      · rcases hleft saved hsaved with ⟨old, hold, hoid, horequest⟩ | ⟨hsame, hrequest⟩
        · rw [← hoid, ← horequest]
          exact hsound old hold
        · rw [hrequest]
          exact ⟨hid _ hsame, htool⟩
      · intro request hrequest
        obtain rfl := List.mem_singleton.mp hrequest
        exact htool

theorem saves_dispatch {request : ToolRequest} {operationId : Option OperationId}
    (hid : operationId? request.arguments = operationId) :
    Tx.Keeps Saves (dispatch host request operationId) := by
  intro client
  unfold dispatch
  dsimp only
  split
  · exact ⟨[], (List.append_nil _).symm, nofun⟩
  · next sent answer left hrequest =>
      obtain ⟨-, hdispatched⟩ := request_mutations hrequest
      obtain ⟨rfl, hsaved⟩ := hdispatched _ _ rfl
      refine ⟨[sent], rfl, fun request hrequest id hsame => ?_⟩
      obtain rfl := List.mem_singleton.mp hrequest
      exact hsaved id (hid.symm.trans hsame)

theorem sends_resend (operationId : OperationId) : Tx.Keeps Sends (resend host operationId) := by
  intro client hsound
  unfold resend
  rw [Tx.run_bind, Tx.run_read]
  dsimp only
  cases hfind : client.mutations.find? (·.id == operationId) with
  | none => exact ⟨hsound, [], (List.append_nil _).symm, nofun⟩
  | some saved =>
      obtain ⟨hid, htool⟩ := hsound saved (List.mem_of_find?_eq_some hfind)
      obtain rfl : saved.id = operationId := by simpa using List.find?_some hfind
      have hkept : ∀ id, some saved.id = some id →
          operationId? saved.request.arguments = some id := fun id hsame => hsame ▸ hid
      exact sends_dispatch htool hkept client hsound

theorem saves_resend (operationId : OperationId) {client : Client σ} (hsound : client.Sound) :
    Saves client ((resend host operationId).run client).2 := by
  unfold resend
  rw [Tx.run_bind, Tx.run_read]
  dsimp only
  cases hfind : client.mutations.find? (·.id == operationId) with
  | none => exact ⟨[], (List.append_nil _).symm, nofun⟩
  | some saved =>
      obtain ⟨hid, -⟩ := hsound saved (List.mem_of_find?_eq_some hfind)
      obtain rfl : saved.id = operationId := by simpa using List.find?_some hfind
      exact saves_dispatch hid client

/-! ### Calls -/

/-- A result of a tool does what its body does. -/
theorem answering_client (operationId : Option OperationId)
    (body : Tx (Client σ) ClientError JsonValue) (client : Client σ) :
    ((answering host operationId body).run client).2 = (body.run client).2 := by
  unfold answering
  dsimp only
  split
  · next hrun => rw [hrun]
  · next hrun => rw [hrun]

theorem keeps_answering {R : Client σ → Client σ → Prop} (operationId : Option OperationId)
    {body : Tx (Client σ) ClientError JsonValue} (h : Tx.Keeps R body) :
    Tx.Keeps R (answering host operationId body) := by
  intro client
  rw [answering_client]
  exact h client

/-- What is made of an outcome leaves the store alone. -/
theorem run_map {α β : Type} (x : Tx (Client σ) ClientError α) (f : α → β) (client : Client σ) :
    ((do let a ← x; pure (f a) : Tx (Client σ) ClientError β).run client).2 =
      (x.run client).2 := by
  rw [Tx.run_bind]
  split
  · next hrun => rw [hrun, Tx.run_pure]
  · next hrun => rw [hrun]

theorem keeps_map {R : Client σ → Client σ → Prop} {α β : Type}
    {x : Tx (Client σ) ClientError α} (f : α → β) (h : Tx.Keeps R x) :
    Tx.Keeps R (do let a ← x; pure (f a)) := by
  intro client
  rw [run_map]
  exact h client

/-- The operation ID of a call that names handled messages is that of the acknowledgement. -/
theorem operationId_acknowledgement {arguments : JsonValue} {call : Handled}
    (h : Handled.ofJson? arguments = some call) (through : Nat) :
    operationId? (acknowledgement call.operationId through).arguments = some call.operationId := by
  obtain ⟨decoded, -, h⟩ := Option.bind_eq_some_iff.mp h
  obtain ⟨id, hid, h⟩ := Option.bind_eq_some_iff.mp h
  cases h
  obtain ⟨text, -, hread⟩ := Option.bind_eq_some_iff.mp hid
  obtain ⟨encoded, -, hulid⟩ := Option.bind_eq_some_iff.mp hread
  dsimp only at hulid
  split at hulid
  · next hcapitals =>
      cases hulid
      exact Id.Canonical.ofText? ⟨_, hcapitals, rfl⟩
  · cases hulid

theorem toolRequest_tool {name : String} {arguments : JsonValue} {request : ToolRequest}
    (h : toolRequest name arguments = .ok request) : request.tool ∈ requestTools := by
  unfold toolRequest at h
  split at h
  · cases h
  · next tool hfind =>
      split at h
      · cases h
      · split at h
        · cases h
        · cases h
          rw [← map_name_agentTools]
          have hname := List.find?_some hfind
          exact List.mem_map.mpr ⟨tool, List.mem_of_find?_eq_some hfind, eq_of_beq hname⟩

/-- A request carries the operation ID that the bridge finds in the call. -/
theorem toolRequest_operationId {name : String} {arguments : JsonValue} {request : ToolRequest}
    (h : toolRequest name arguments = .ok request) {id : OperationId}
    (hid : operationId? arguments = some id) : operationId? request.arguments = some id := by
  cases arguments with
  | obj entries => exact (request_operationId h).trans hid
  | _ => cases hid

theorem sends_callTool (call : ToolCall) : Tx.Keeps Sends (callTool host call) := by
  unfold callTool
  refine .ite ?_ (.ite ?_ (.ite ?_ (.ite ?_ ?_)))
  · refine .bind (.okOr _ _) fun _ client hsound => ?_
    exact ⟨hsound, [], (List.append_nil _).symm, nofun⟩
  · refine .bind (.okOr _ _) fun arguments => keeps_answering _ ?_
    refine .bind ?_ fun _ => .pure _
    exact (keeps_poll reads_transport arguments).mono fun _ _ h => h.sends
  · refine .okOr_bind fun arguments harguments => keeps_answering _ ?_
    refine .bind ?_ fun through => .bind ?_ fun _ => .pure _
    · exact (keeps_decideHandled reads_transport arguments).mono fun _ _ h => h.sends
    · have hid := operationId_acknowledgement harguments through
      have hack : "inbox_acknowledge" ∈ requestTools := by decide
      exact sends_dispatch hack fun id hsame => Option.some.inj hsame ▸ hid
  · refine .bind (.okOr _ _) fun _ => .bind (.okOr _ _) fun _ => keeps_answering _ ?_
    exact .bind (sends_resend _) fun _ => .pure _
  · cases hrequest : toolRequest call.name call.arguments with
    | error message => exact fun client => Std.Refl.refl client
    | ok request =>
        have hkept : ∀ id, operationId? call.arguments = some id →
            operationId? request.arguments = some id :=
          fun id hid => toolRequest_operationId hrequest hid
        have hsends : Tx.Keeps Sends (answering host (operationId? call.arguments) do
            let response ← dispatch host request (operationId? call.arguments)
            pure (responseDocument host response)) :=
          keeps_answering _ (.bind (sends_dispatch (toolRequest_tool hrequest) hkept)
            fun _ => .pure _)
        exact fun client => hsends client

/-- Reading, and then one request under its operation ID. -/
theorem saves_handled {arguments : JsonValue} {handling : Handled}
    (h : Handled.ofJson? arguments = some handling) :
    Tx.Keeps Saves (handled (transport host)
      (fun id through => do
        let response ← dispatch host (acknowledgement id through) (some id)
        pure (responseDocument host response))
      handling) := by
  intro client
  have hreads := keeps_decideHandled (@reads_transport σ host) handling client
  unfold handled
  rw [Tx.run_bind]
  split
  · next through client' hrun =>
      rw [hrun] at hreads
      have hid := operationId_acknowledgement h through
      exact hreads.saves_trans (keeps_map _ (saves_dispatch hid) client')
  · next hrun =>
      rw [hrun] at hreads
      exact hreads.saves

/-- Every mutation that a call with named arguments sends was saved. -/
theorem saves_callTool {call : ToolCall} {entries : List (String × JsonValue)}
    (harguments : call.arguments = .obj entries) {client : Client σ} (hsound : client.Sound) :
    Saves client ((callTool host call).run client).2 := by
  have hrefused : Saves client client := Reads.saves (Std.Refl.refl client)
  unfold callTool
  rw [Tx.run_ite, Tx.run_ite, Tx.run_ite, Tx.run_ite]
  split
  · cases hread : Shape.read (.record true []) call.arguments with
    | none => exact hrefused
    | some => exact ⟨[], (List.append_nil _).symm, nofun⟩
  split
  · cases hread : Poll.ofJson? call.arguments with
    | none => exact hrefused
    | some arguments =>
        have hreads : Tx.Keeps Reads (answering host (operationId? call.arguments) do
            let result ← poll (transport host) arguments
            pure (host.pollDocument result)) :=
          keeps_answering _ (.bind (keeps_poll reads_transport arguments) fun _ => .pure _)
        exact (hreads client).saves
  split
  · cases hread : Handled.ofJson? call.arguments with
    | none => exact hrefused
    | some arguments => exact keeps_answering _ (saves_handled hread) client
  split
  · cases hread : retryShape.read call.arguments with
    | none => exact hrefused
    | some arguments =>
        cases hid : operationId? arguments with
        | none =>
            rw [Tx.run_bind, Tx.run_okOr_some]
            dsimp only
            rw [hid]
            exact hrefused
        | some id =>
            rw [Tx.run_bind, Tx.run_okOr_some]
            dsimp only
            rw [hid, Tx.run_bind, Tx.run_okOr_some]
            dsimp only
            rw [answering_client, run_map]
            exact saves_resend id hsound
  · cases hrequest : toolRequest call.name call.arguments with
    | error message => exact hrefused
    | ok request =>
        have hkept : operationId? request.arguments = operationId? call.arguments := by
          rw [harguments] at hrequest ⊢
          exact request_operationId hrequest
        have hsaves : Tx.Keeps Saves (answering host (operationId? call.arguments) do
            let response ← dispatch host request (operationId? call.arguments)
            pure (responseDocument host response)) :=
          keeps_answering _ (keeps_map _ (saves_dispatch hkept))
        exact hsaves client

end Client

/-! ## Lines -/

section Lines

variable {σ : Type} (host : Host σ)

/-- The call of a tool that a line asks for. -/
def Host.callOf (line : List UInt8) : Option ToolCall :=
  match host.readMessage line with
  | .ok message =>
      if message.id.isSome = true ∧ message.method = "tools/call" then
        ToolCall.ofJson? message.params
      else none
  | .error _ => none

/-- The line is a request that initializes the session. -/
def Host.Opens (line : List UInt8) : Prop :=
  ∃ message, host.readMessage line = .ok message ∧ message.id.isSome = true ∧
    message.method = "initialize" ∧ initializes message.params = true

/-- The line is the notification that confirms the initialization. -/
def Host.Confirms (line : List UInt8) : Prop :=
  ∃ message, host.readMessage line = .ok message ∧ message.id = none ∧
    message.method = "notifications/initialized"

/-- Some line initializes the session, and a later one confirms it. -/
def Host.Handshaken (lines : List (List UInt8)) : Prop :=
  ∃ first opening between confirming later,
    lines = first ++ opening :: (between ++ confirming :: later) ∧ host.Opens opening ∧
      host.Confirms confirming

/-- The answers that a line asks for: one refusal when it is no message, none to a notification,
    and one answer with its ID to a request. -/
def Host.Answers (line : List UInt8) (replies : List JsonValue) : Prop :=
  match host.readMessage line with
  | .error refusal => replies = [refusal]
  | .ok message =>
      match message.id with
      | none => replies = []
      | some id => ∃ result, replies = [replyTo id result]

/-- A line of the client, what it came to, the thread to which the session was bound before it, and
    what is saved after it. -/
structure Exchange where
  line : List UInt8
  replies : List JsonValue
  sent : List ToolRequest
  thread : Option String
  saved : List (SavedMutation ToolRequest)

/-- The line calls a tool from another thread than that of the session. -/
def Host.Foreign (exchange : Exchange) : Prop :=
  ∃ call thread other, host.callOf exchange.line = some call ∧ exchange.thread = some thread ∧
    call.threadId.filter validThreadId = some other ∧ other ≠ thread

/-- What a line does. -/
structure Exchanged (session : Session σ) (exchange : Exchange) (session' : Session σ) : Prop where
  sent : session'.client.sent = session.client.sent ++ exchange.sent
  saved : exchange.saved = session'.client.mutations
  thread : exchange.thread = session.thread
  calls : exchange.sent ≠ [] →
    session.ready = true ∧ (∃ call, host.callOf exchange.line = some call) ∧
      ¬ host.Foreign exchange
  initialized : session'.initialized = true →
    session.initialized = true ∨ host.Opens exchange.line
  ready : session'.ready = true →
    session.ready = true ∨ session.initialized = true ∧ host.Confirms exchange.line
  /-- A session stays bound to its thread, without another request to bind it. -/
  bound : ∀ thread, session.thread = some thread →
    session'.thread = some thread ∧ ∀ request ∈ exchange.sent, request.tool ∈ requestTools
  sound : session'.client.Sound
  mutations : ∀ call entries, host.callOf exchange.line = some call →
    call.arguments = .obj entries → ∀ request ∈ exchange.sent, request.tool ∈ requestTools →
      ∀ id, operationId? request.arguments = some id →
        ∃ saved ∈ exchange.saved, saved.id = id ∧ saved.request = request

/-- The answers of a verdict. -/
def Verdict.replies : Verdict → List JsonValue
  | .reply value => [value]
  | .silent | .rebound => []

variable {host}

/-- What a line does is the same when its answer cannot be written. -/
theorem Exchanged.unanswered {session session' : Session σ} {exchange : Exchange}
    (h : Exchanged host session exchange session') :
    Exchanged host session { exchange with replies := [] } session' where
  sent := h.sent
  saved := h.saved
  thread := h.thread
  calls := h.calls
  initialized := h.initialized
  ready := h.ready
  bound := h.bound
  sound := h.sound
  mutations := h.mutations

/-- A line that only changes what has been said. -/
theorem Exchanged.silent {session session' : Session σ} {line : List UInt8}
    (replies : List JsonValue) (hsound : session.client.Sound)
    (hclient : session'.client = session.client)
    (hthread : session'.thread = session.thread)
    (hinitialized : session'.initialized = true →
      session.initialized = true ∨ host.Opens line)
    (hready : session'.ready = true →
      session.ready = true ∨ session.initialized = true ∧ host.Confirms line) :
    Exchanged host session
      { line, replies, sent := [], thread := session.thread, saved := session'.client.mutations }
      session' where
  sent := by rw [hclient, List.append_nil]
  saved := rfl
  thread := rfl
  calls hsent := absurd rfl hsent
  initialized := hinitialized
  ready := hready
  bound thread hbound := ⟨hthread.trans hbound, nofun⟩
  sound := hclient ▸ hsound
  mutations _ _ _ _ _ := nofun

/-- What a request without an operation ID does. -/
theorem dispatch_none (request : ToolRequest) (client : Client σ) :
    ((dispatch host request none).run client).2 =
      { client with
        world := (host.send request client.world).2, sent := client.sent ++ [request] } := rfl

/-- Binding a thread sends one request at most, and none when the session is bound. -/
theorem registerThread_some {threadId : Option String} {session session' : Session σ}
    (h : registerThread host threadId session = some session') :
    session'.client.mutations = session.client.mutations ∧
      session'.initialized = session.initialized ∧ session'.ready = session.ready ∧
      (∃ sent, session'.client.sent = session.client.sent ++ sent ∧
        ∀ request ∈ sent, request.tool ∉ requestTools) ∧
      ∀ thread, session.thread = some thread → session' = session ∧
        ∀ other, threadId.filter validThreadId = some other → other = thread := by
  have hunsent : ∃ sent, session.client.sent = session.client.sent ++ sent ∧
      ∀ request ∈ sent, request.tool ∉ requestTools := ⟨[], (List.append_nil _).symm, nofun⟩
  unfold registerThread at h
  cases hvalid : threadId.filter validThreadId with
  | none =>
      rw [hvalid] at h
      cases h
      exact ⟨rfl, rfl, rfl, hunsent, fun _ _ => ⟨rfl, nofun⟩⟩
  | some named =>
      rw [hvalid] at h
      dsimp only at h
      cases hthread : session.thread with
      | some registered =>
          simp only [hthread] at h
          split at h
          · cases h
          · next hsame =>
              cases h
              refine ⟨rfl, rfl, rfl, hunsent, ?_⟩
              rintro _ ⟨⟩
              refine ⟨rfl, ?_⟩
              rintro _ ⟨⟩
              exact (not_not.mp hsame).symm
      | none =>
          simp only [hthread] at h
          have hsent := @dispatch_none σ host
            (threadBinding (host.allocate session.client.world).1 named)
            { session.client with world := (host.allocate session.client.world).2 }
          have hbinding : ∀ request ∈ [threadBinding (host.allocate session.client.world).1 named],
              request.tool ∉ requestTools := by
            intro request hrequest
            obtain rfl := List.mem_singleton.mp hrequest
            exact show "bind_foreground_notifications" ∉ requestTools by decide
          split at h
          all_goals
            rename_i hrun
            rw [hrun] at hsent
            cases h
            cases hsent
            exact ⟨rfl, rfl, rfl, ⟨_, rfl, hbinding⟩, nofun⟩

theorem registerThread_none {threadId : Option String} {session : Session σ}
    (h : registerThread host threadId session = none) :
    ∃ thread other, session.thread = some thread ∧
      threadId.filter validThreadId = some other ∧ other ≠ thread := by
  unfold registerThread at h
  cases hvalid : threadId.filter validThreadId with
  | none =>
      rw [hvalid] at h
      cases h
  | some named =>
      rw [hvalid] at h
      dsimp only at h
      cases hthread : session.thread with
      | some registered =>
          simp only [hthread] at h
          split at h
          · next hother => exact ⟨registered, named, rfl, rfl, fun heq => hother heq.symm⟩
          · cases h
      | none =>
          simp only [hthread] at h
          split at h <;> cases h

/-- A call of a tool binds its thread, and then sends what the tool needs. -/
theorem callTool_exchanged {line : List UInt8} {call : ToolCall} {session bound : Session σ}
    (hsound : session.client.Sound) (hcall : host.callOf line = some call)
    (hready : session.ready = true)
    (hbound : registerThread host call.threadId session = some bound) (replies : List JsonValue) :
    ∃ sent, Exchanged host session
      { line, replies, sent, thread := session.thread
        saved := ((callTool host call).run bound.client).2.mutations }
      { bound with client := ((callTool host call).run bound.client).2 } := by
  obtain ⟨hmutations, hinitialized, hstill, ⟨first, hfirst, hbinding⟩, hthread⟩ :=
    registerThread_some hbound
  have hboundSound : bound.client.Sound := by
    unfold Client.Sound
    rw [hmutations]
    exact hsound
  obtain ⟨hafter, second, hsecond, htools⟩ := @sends_callTool σ host call _ hboundSound
  refine ⟨first ++ second, ?_⟩
  exact {
    sent := by rw [hsecond, hfirst, List.append_assoc]
    saved := rfl
    thread := rfl
    calls := by
      refine fun _ => ⟨hready, ⟨call, hcall⟩, ?_⟩
      rintro ⟨other, thread, named, hother, hthread', hnamed, hne⟩
      obtain rfl : call = other := Option.some.inj (hcall.symm.trans hother)
      exact hne ((hthread thread hthread').2 named hnamed)
    initialized := fun h => .inl (hinitialized ▸ h)
    ready := fun h => .inl (hstill ▸ h)
    bound := by
      intro thread hthread'
      obtain ⟨rfl, -⟩ := hthread thread hthread'
      refine ⟨hthread', fun request hrequest => ?_⟩
      rcases List.mem_append.mp hrequest with hrequest | hrequest
      · have hnone : first = [] := List.append_right_eq_self.mp hfirst.symm
        rw [hnone] at hrequest
        cases hrequest
      · exact htools request hrequest
    sound := hafter
    mutations := by
      intro other entries hother hentries request hrequest htool id hid
      obtain rfl : call = other := Option.some.inj (hcall.symm.trans hother)
      obtain ⟨sent, hsent, hsaves⟩ := @saves_callTool σ host _ _ hentries _ hboundSound
      obtain rfl : second = sent := List.append_cancel_left (hsecond.symm.trans hsent)
      rcases List.mem_append.mp hrequest with hrequest | hrequest
      · exact absurd htool (hbinding request hrequest)
      · exact hsaves request hrequest id hid }

/-- What the request of a line does. -/
theorem requestResult_exchanged {line : List UInt8} {message : Message} {id : JsonValue}
    (hread : host.readMessage line = .ok message) (hid : message.id = some id)
    {session : Session σ} (hsound : session.client.Sound) (replies : List JsonValue) :
    match requestResult host message.method message.params session with
    | none => host.Foreign
        { line, replies, sent := [], thread := session.thread, saved := session.client.mutations }
    | some (_, session') => ∃ sent, Exchanged host session
        { line, replies, sent, thread := session.thread, saved := session'.client.mutations }
        session' := by
  have hsilent : ∃ sent, Exchanged host session
      { line, replies, sent, thread := session.thread, saved := session.client.mutations }
      session := ⟨[], .silent replies hsound rfl rfl .inl .inl⟩
  unfold requestResult
  split_ifs with hping hinitialize hparams hready hlist hcalls
  · exact hsilent
  · refine ⟨[], .silent replies hsound rfl rfl (fun _ => .inr ?_) .inl⟩
    exact ⟨message, hread, by rw [hid]; rfl, hinitialize.1, hparams⟩
  · exact hsilent
  · exact hsilent
  · exact hsilent
  · cases hparsed : ToolCall.ofJson? message.params with
    | none => exact hsilent
    | some call =>
        have hcall : host.callOf line = some call := by
          unfold Host.callOf
          rw [hread]
          dsimp only
          rw [if_pos ⟨by rw [hid]; rfl, hcalls⟩, hparsed]
        dsimp only
        cases hbound : registerThread host call.threadId session with
        | none =>
            obtain ⟨thread, other, hthread, hother, hne⟩ := registerThread_none hbound
            exact ⟨call, thread, other, hcall, hthread, hother, hne⟩
        | some bound =>
            exact callTool_exchanged hsound hcall (by simpa using hready) hbound replies
  · exact hsilent

/-- What a line does, and how it is answered. -/
theorem answerLine_exchanged (line : List UInt8) {session : Session σ}
    (hsound : session.client.Sound) :
    ∃ sent, Exchanged host session
        { line, replies := (answerLine host line session).1.replies, sent
          thread := session.thread
          saved := (answerLine host line session).2.client.mutations }
        (answerLine host line session).2 ∧
      ((answerLine host line session).1 ≠ .rebound →
        host.Answers line (answerLine host line session).1.replies) ∧
      ((answerLine host line session).1 = .rebound → sent = [] ∧ host.Foreign
        { line, replies := [], sent, thread := session.thread
          saved := (answerLine host line session).2.client.mutations }) := by
  unfold answerLine Host.Answers
  cases hread : host.readMessage line with
  | error refusal =>
      exact ⟨[], .silent _ hsound rfl rfl .inl .inl, fun _ => rfl, nofun⟩
  | ok message =>
      dsimp only
      cases hid : message.id with
      | none =>
          refine ⟨[], .silent _ hsound rfl rfl .inl fun h => ?_, fun _ => rfl, nofun⟩
          rcases Bool.or_eq_true_iff.mp h with hready | hconfirms
          · exact .inl hready
          · rw [Bool.and_eq_true, beq_iff_eq] at hconfirms
            exact .inr ⟨hconfirms.2, message, hread, hid, hconfirms.1⟩
      | some id =>
          dsimp only
          have hrequest := requestResult_exchanged hread hid hsound
          cases hresult : requestResult host message.method message.params session with
          | none =>
              simp only [hresult] at hrequest
              exact ⟨[], .silent _ hsound rfl rfl .inl .inl, fun h => absurd rfl h,
                fun _ => ⟨rfl, hrequest []⟩⟩
          | some answer =>
              obtain ⟨result, session'⟩ := answer
              simp only [hresult] at hrequest
              obtain ⟨sent, hexchanged⟩ := hrequest [replyTo id result]
              exact ⟨sent, hexchanged, fun _ => ⟨result, rfl⟩, nofun⟩

/-! ## Frames -/

theorem takeLine_lineFeed (limit : Nat) (input : List UInt8) :
    lineFeed ∉ (takeLine limit input).1.dropLast := by
  fun_induction takeLine limit input with
  | case1 => exact List.not_mem_nil
  | case2 => exact List.not_mem_nil
  | case3 => exact List.not_mem_nil
  | case4 limit byte input hbyte ih =>
      cases hline : (takeLine limit input).1 with
      | nil => exact List.not_mem_nil
      | cons next line =>
          rw [List.dropLast_cons_cons, List.mem_cons, not_or, ← hline]
          exact ⟨fun heq => hbyte heq.symm, ih⟩

/-- A line that is shorter than its bound ends with a line feed, or at the end of the input. -/
theorem takeLine_ends (limit : Nat) (input : List UInt8)
    (hshort : (takeLine limit input).1.length < limit) :
    (takeLine limit input).1.getLast? = some lineFeed ∨ (takeLine limit input).2 = [] := by
  fun_induction takeLine limit input with
  | case1 => exact absurd hshort (Nat.not_lt_zero 0)
  | case2 => exact .inr rfl
  | case3 => exact .inl rfl
  | case4 limit byte input hbyte ih =>
      rcases ih (Nat.lt_of_succ_lt_succ hshort) with hfeed | hend
      · refine .inl ?_
        rw [List.getLast?_cons, hfeed]
        rfl
      · exact .inr hend

/-- The lines of an input follow each other, each of them within its bound.  A line without its end
    is the last of the input. -/
theorem frames_spec {input : List UInt8} {lines : List (List UInt8)} {rest : List Frame}
    (h : frames input = lines.map .line ++ rest) :
    (∃ remaining, input = lines.flatten ++ remaining ∧ (rest = [] → remaining = []) ∧
      ∀ before line after, lines = before ++ line :: after →
        line.getLast? = some lineFeed ∨ after = [] ∧ remaining = []) ∧
      ∀ line ∈ lines, line ≠ [] ∧ line.length ≤ maximumMessageBytes ∧
        lineFeed ∉ line.dropLast := by
  induction lines generalizing input with
  | nil =>
      refine ⟨⟨input, rfl, fun hrest => ?_, fun before line after hlines => ?_⟩, nofun⟩
      · rw [hrest, List.map_nil, List.append_nil, frames] at h
        split at h
        · next htake =>
            cases input with
            | nil => rfl
            | cons byte input =>
                rw [takeLine] at htake
                split at htake <;> cases htake
        · split at h <;> cases h
      · exact absurd (List.append_eq_nil_iff.mp hlines.symm).2 (List.cons_ne_nil _ _)
  | cons line lines ih =>
      have hsplit := takeLine_append (maximumMessageBytes + 1) input
      have hfeed := takeLine_lineFeed (maximumMessageBytes + 1) input
      have hends := takeLine_ends (maximumMessageBytes + 1) input
      rw [frames] at h
      split at h
      · cases h
      · next byte taken later htake =>
          rw [htake] at hsplit hfeed hends
          split at h
          · cases h
          · next hlength =>
              rw [List.map_cons, List.cons_append, List.cons.injEq] at h
              obtain ⟨hline, hrest⟩ := h
              cases hline
              obtain ⟨⟨remaining, hremaining, hend, hlast⟩, hlines⟩ := ih hrest
              refine ⟨⟨remaining, ?_, hend, ?_⟩, ?_⟩
              · rw [← hsplit, hremaining, List.flatten_cons, List.append_assoc]
              · intro before other after hsame
                cases before with
                | nil =>
                    obtain ⟨rfl, rfl⟩ := List.cons.inj hsame
                    refine (hends (Nat.lt_succ_of_le (Nat.not_lt.mp hlength))).imp_right ?_
                    -- the input is over behind a line without its end, and so are the lines
                    intro hover
                    rw [show later = [] from hover] at hremaining
                    obtain ⟨hflat, hnone⟩ := List.append_eq_nil_iff.mp hremaining.symm
                    refine ⟨List.eq_nil_iff_forall_not_mem.mpr fun next hnext => ?_, hnone⟩
                    exact (hlines next hnext).1 (List.flatten_eq_nil_iff.mp hflat next hnext)
                | cons first before =>
                    exact hlast before other after (List.cons.inj hsame).2
              · intro other hother
                rcases List.mem_cons.mp hother with rfl | hother
                · exact ⟨List.cons_ne_nil _ _, Nat.not_lt.mp hlength, hfeed⟩
                · exact hlines other hother

/-! ## Sessions -/

variable (host) in
/-- How a session ends behind a line without an answer: the answer was too long, or the line was a
    call from another thread. -/
def Host.Breaks (exchange : Exchange) (ending : Ending) : Prop :=
  exchange.replies = [] ∧
    (ending = .oversizedOutput ∨ ending = .rebound ∧ exchange.sent = [] ∧ host.Foreign exchange)

variable (host) in
/-- A session, exchange by exchange. -/
inductive Dialogue : Session σ → List Exchange → Served σ → Prop where
  | closed (session : Session σ) :
      Dialogue session [] { ending := .closed, replies := [], session }
  | oversized (session : Session σ) :
      Dialogue session [] { ending := .oversizedInput, replies := [], session }
  | answered {session session' : Session σ} {exchange : Exchange} {rest : List Exchange}
      {served : Served σ} (hstep : (answerLine host exchange.line session).2 = session')
      (hexchanged : Exchanged host session exchange session')
      (hanswers : host.Answers exchange.line exchange.replies)
      (hrest : Dialogue session' rest served) :
      Dialogue session (exchange :: rest)
        { served with replies := exchange.replies ++ served.replies }
  | broken {session session' : Session σ} {exchange : Exchange} (ending : Ending)
      (hstep : (answerLine host exchange.line session).2 = session')
      (hexchanged : Exchanged host session exchange session')
      (hbreaks : host.Breaks exchange ending) :
      Dialogue session [exchange] { ending, replies := [], session := session' }

/-- Serving frames is a dialogue about the lines that it reads. -/
theorem serveFrames_dialogue (read : List Frame) {session : Session σ}
    (hsound : session.client.Sound) :
    ∃ exchanges rest, Dialogue host session exchanges (serveFrames host read session) ∧
      read = (exchanges.map (·.line)).map .line ++ rest ∧
      ((serveFrames host read session).ending = .closed → rest = []) := by
  induction read generalizing session with
  | nil => exact ⟨[], [], .closed session, rfl, fun _ => rfl⟩
  | cons frame later ih =>
      cases frame with
      | oversized => exact ⟨[], .oversized :: later, .oversized session, rfl, nofun⟩
      | line bytes =>
          obtain ⟨sent, hexchanged, hanswers, hrebound⟩ :=
            @answerLine_exchanged σ host bytes _ hsound
          unfold serveFrames
          generalize hline : answerLine host bytes session = outcome at *
          obtain ⟨verdict, session'⟩ := outcome
          have hstep : (answerLine host bytes session).2 = session' := congrArg Prod.snd hline
          dsimp only at hexchanged hanswers hrebound ⊢
          obtain ⟨exchanges, rest, hdialogue, hlater, hend⟩ := ih hexchanged.sound
          cases verdict with
          | silent =>
              refine ⟨_ :: exchanges, rest, .answered hstep hexchanged (hanswers nofun) hdialogue,
                ?_, hend⟩
              rw [hlater]
              rfl
          | reply value =>
              dsimp only
              split
              · refine ⟨[_], later,
                  .broken .oversizedOutput hstep hexchanged.unanswered ⟨rfl, .inl rfl⟩,
                  rfl, nofun⟩
              · refine ⟨_ :: exchanges, rest,
                  .answered hstep hexchanged (hanswers nofun) hdialogue, ?_, hend⟩
                rw [hlater]
                rfl
          | rebound =>
              obtain ⟨rfl, hforeign⟩ := hrebound rfl
              exact ⟨[_], later, .broken .rebound hstep hexchanged
                ⟨rfl, .inr ⟨rfl, rfl, hforeign⟩⟩, rfl, nofun⟩

theorem Dialogue.replies {session : Session σ} {exchanges : List Exchange} {served : Served σ}
    (h : Dialogue host session exchanges served) :
    served.replies = exchanges.flatMap (·.replies) := by
  induction h with
  | closed => rfl
  | oversized => rfl
  | answered _ _ _ _ ih => rw [List.flatMap_cons, ← ih]
  | broken _ _ _ hbreaks => rw [List.flatMap_cons, hbreaks.1, List.flatMap_nil, List.append_nil]

theorem Dialogue.sent {session : Session σ} {exchanges : List Exchange} {served : Served σ}
    (h : Dialogue host session exchanges served) :
    served.session.client.sent = session.client.sent ++ exchanges.flatMap (·.sent) := by
  induction h with
  | closed => exact (List.append_nil _).symm
  | oversized => exact (List.append_nil _).symm
  | answered _ hexchanged _ _ ih =>
      rw [List.flatMap_cons, ← List.append_assoc, ← hexchanged.sent]
      exact ih
  | broken _ _ hexchanged _ =>
      rw [List.flatMap_cons, List.flatMap_nil, List.append_nil]
      exact hexchanged.sent

variable (host) in
/-- The session knows of its initialization and its confirmation from the lines read so far. -/
structure Follows (lines : List (List UInt8)) (session : Session σ) : Prop where
  initialized : session.initialized = true → ∃ opening ∈ lines, host.Opens opening
  ready : session.ready = true → host.Handshaken lines

theorem Follows.exchanged {lines : List (List UInt8)} {session session' : Session σ}
    {exchange : Exchange} (h : Follows host lines session)
    (hexchanged : Exchanged host session exchange session') :
    Follows host (lines ++ [exchange.line]) session' where
  initialized hinitialized := by
    rcases hexchanged.initialized hinitialized with hbefore | hopens
    · obtain ⟨opening, hmem, hopens⟩ := h.initialized hbefore
      exact ⟨opening, List.mem_append_left _ hmem, hopens⟩
    · exact ⟨exchange.line, List.mem_append_right _ (List.mem_singleton.mpr rfl), hopens⟩
  ready hready := by
    rcases hexchanged.ready hready with hbefore | ⟨hinitialized, hconfirms⟩
    · obtain ⟨first, opening, between, confirming, later, hlines, hopens, hconfirms⟩ :=
        h.ready hbefore
      refine ⟨first, opening, between, confirming, later ++ [exchange.line], ?_, hopens, hconfirms⟩
      rw [hlines]
      simp only [List.append_assoc, List.cons_append]
    · obtain ⟨opening, hmem, hopens⟩ := h.initialized hinitialized
      obtain ⟨first, between, hlines⟩ := List.append_of_mem hmem
      refine ⟨first, opening, between, exchange.line, [], ?_, hopens, hconfirms⟩
      rw [hlines, List.append_assoc, List.cons_append]

variable (host) in
/-- The session that has read some lines. -/
def Host.reached (session : Session σ) (lines : List (List UInt8)) : Session σ :=
  lines.foldl (fun session line => (answerLine host line session).2) session

/-- A dialogue goes on as one, from what the lines before have made of the session. -/
theorem Dialogue.drop {before rest : List Exchange} {session : Session σ} {served : Served σ}
    (h : Dialogue host session (before ++ rest) served) (hrest : rest ≠ [])
    {lines : List (List UInt8)} (hfollows : Follows host lines session) :
    ∃ served', Dialogue host (host.reached session (before.map (·.line))) rest served' ∧
      served'.ending = served.ending ∧
      Follows host (lines ++ before.map (·.line))
        (host.reached session (before.map (·.line))) := by
  induction before generalizing session served lines with
  | nil =>
      refine ⟨served, h, rfl, ?_⟩
      rw [List.map_nil, List.append_nil]
      exact hfollows
  | cons exchange before ih =>
      rw [List.cons_append] at h
      generalize hall : before ++ rest = all at h
      cases h with
      | answered hstep hexchanged hanswers hdialogue =>
          subst hall hstep
          obtain ⟨served', hreached, hending, hlines⟩ := ih hdialogue (hfollows.exchanged hexchanged)
          refine ⟨served', hreached, hending, ?_⟩
          rw [List.append_assoc] at hlines
          exact hlines
      | broken => exact absurd (List.append_eq_nil_iff.mp hall).2 hrest

/-- The first exchange of a dialogue. -/
theorem Dialogue.head {session : Session σ} {exchange : Exchange} {rest : List Exchange}
    {served : Served σ} (h : Dialogue host session (exchange :: rest) served) :
    Exchanged host session exchange (answerLine host exchange.line session).2 ∧
      (host.Answers exchange.line exchange.replies ∨
        rest = [] ∧ host.Breaks exchange served.ending) := by
  cases h with
  | answered hstep hexchanged hanswers _ =>
      subst hstep
      exact ⟨hexchanged, .inl hanswers⟩
  | broken _ hstep hexchanged hbreaks =>
      subst hstep
      exact ⟨hexchanged, .inr ⟨rfl, hbreaks⟩⟩

/-- A session that is bound stays so. -/
theorem Dialogue.bound {session : Session σ} {exchanges : List Exchange} {served : Served σ}
    (h : Dialogue host session exchanges served) {thread : String}
    (hthread : session.thread = some thread) :
    ∀ exchange ∈ exchanges, exchange.thread = some thread ∧
      ∀ request ∈ exchange.sent, request.tool ∈ requestTools := by
  induction h with
  | closed => nofun
  | oversized => nofun
  | answered _ hexchanged _ _ ih =>
      obtain ⟨hbound, htools⟩ := hexchanged.bound thread hthread
      intro exchange hexchange
      rcases List.mem_cons.mp hexchange with rfl | hexchange
      · exact ⟨hexchanged.thread.trans hthread, htools⟩
      · exact ih hbound exchange hexchange
  | broken _ _ hexchanged _ =>
      intro exchange hexchange
      obtain rfl := List.mem_singleton.mp hexchange
      exact ⟨hexchanged.thread.trans hthread, (hexchanged.bound thread hthread).2⟩

variable (host) in
/-- The exchange tells what its line finds of the session, and what it leaves. -/
structure Tells (session : Session σ) (exchange : Exchange) : Prop where
  thread : exchange.thread = session.thread
  sent : (answerLine host exchange.line session).2.client.sent =
    session.client.sent ++ exchange.sent
  saved : exchange.saved = (answerLine host exchange.line session).2.client.mutations

variable (host) in
/-- What holds of every session: which lines are read, what is answered to them, and when requests
    are sent. -/
structure SessionProtocol (input : List UInt8) (start : Session σ) (served : Served σ)
    (exchanges : List Exchange) : Prop where
  /-- The lines are the input, up to where the session ends; each but the last part of the input
      ends with a line feed. -/
  lines : ∃ remaining, input = (exchanges.map (·.line)).flatten ++ remaining ∧
    (served.ending = .closed → remaining = []) ∧
    ∀ before line after, exchanges.map (·.line) = before ++ line :: after →
      line.getLast? = some lineFeed ∨ after = [] ∧ remaining = []
  bounded : ∀ exchange ∈ exchanges, exchange.line ≠ [] ∧
    exchange.line.length ≤ maximumMessageBytes ∧ lineFeed ∉ exchange.line.dropLast
  replies : served.replies = exchanges.flatMap (·.replies)
  sent : served.session.client.sent = start.client.sent ++ exchanges.flatMap (·.sent)
  /-- An exchange tells of the session that the lines before it have left. -/
  told : ∀ before exchange after, exchanges = before ++ exchange :: after →
    Tells host (host.reached start (before.map (·.line))) exchange
  /-- Every line is answered as it asks for; only the last one may go without. -/
  answers : ∀ before exchange after, exchanges = before ++ exchange :: after →
    host.Answers exchange.line exchange.replies ∨
      after = [] ∧ host.Breaks exchange served.ending
  /-- Requests are sent for calls of tools only, after the handshake. -/
  handshake : ∀ before exchange after, exchanges = before ++ exchange :: after →
    exchange.sent ≠ [] → (∃ call, host.callOf exchange.line = some call) ∧
      host.Handshaken (before.map (·.line))
  /-- A session that is bound to a thread stays so, does not bind another one, and sends nothing
      for it. -/
  thread : ∀ before exchange after, exchanges = before ++ exchange :: after →
    ∀ thread, exchange.thread = some thread →
      (host.Foreign exchange → exchange.sent = []) ∧
      ∀ other ∈ exchange :: after, other.thread = some thread ∧
        ∀ request ∈ other.sent, request.tool ∈ requestTools
  /-- A mutation that is sent for named arguments is saved under its operation ID. -/
  mutations : ∀ exchange ∈ exchanges, ∀ call entries, host.callOf exchange.line = some call →
    call.arguments = .obj entries → ∀ request ∈ exchange.sent, request.tool ∈ requestTools →
      ∀ id, operationId? request.arguments = some id →
        ∃ saved ∈ exchange.saved, saved.id = id ∧ saved.request = request

/-- Every session keeps to the protocol, whatever the client writes and the supervisor answers. -/
theorem session_protocol (host : Host σ) (input : List UInt8) (world : σ) :
    ∃ exchanges, SessionProtocol host input { client := { world } }
      (serveSession host input world) exchanges := by
  have hsound : Client.Sound { world } := nofun
  have hfollows : Follows host [] { client := { world } } := ⟨nofun, nofun⟩
  obtain ⟨exchanges, rest, hserved, hframes, hend⟩ :=
    @serveFrames_dialogue σ host (frames input) { client := { world } } hsound
  obtain ⟨⟨remaining, hremaining, hnone, hlast⟩, hlines⟩ := frames_spec hframes
  have hdialogue : Dialogue host { client := { world } } exchanges
      (serveSession host input world) := hserved
  refine ⟨exchanges, ?_⟩
  exact {
    lines := ⟨remaining, hremaining, fun hclosed => hnone (hend hclosed), hlast⟩
    bounded := fun exchange hexchange => hlines _ (List.mem_map.mpr ⟨exchange, hexchange, rfl⟩)
    replies := hdialogue.replies
    sent := hdialogue.sent
    told := by
      rintro before exchange after rfl
      obtain ⟨served', hreached, -, -⟩ := hdialogue.drop (List.cons_ne_nil _ _) hfollows
      have hexchanged := hreached.head.1
      exact ⟨hexchanged.thread, hexchanged.sent, hexchanged.saved⟩
    answers := by
      rintro before exchange after rfl
      obtain ⟨served', hreached, hending, -⟩ := hdialogue.drop (List.cons_ne_nil _ _) hfollows
      rw [← hending]
      exact hreached.head.2
    handshake := by
      rintro before exchange after rfl hsent
      obtain ⟨served', hreached, -, hlines⟩ := hdialogue.drop (List.cons_ne_nil _ _) hfollows
      obtain ⟨hready, hcall, -⟩ := hreached.head.1.calls hsent
      exact ⟨hcall, hlines.ready hready⟩
    thread := by
      rintro before exchange after rfl thread hthread
      obtain ⟨served', hreached, -, -⟩ := hdialogue.drop (List.cons_ne_nil _ _) hfollows
      have hexchanged := hreached.head.1
      refine ⟨fun hforeign => ?_, hreached.bound (hexchanged.thread.symm.trans hthread)⟩
      by_contra hsent
      exact (hexchanged.calls hsent).2.2 hforeign
    mutations := by
      intro exchange hexchange
      obtain ⟨before, after, rfl⟩ := List.append_of_mem hexchange
      obtain ⟨served', hreached, -, -⟩ := hdialogue.drop (List.cons_ne_nil _ _) hfollows
      exact hreached.head.1.mutations }

end Lines

end Mcp

end Coterie
