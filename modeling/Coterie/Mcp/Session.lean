/-
  Coterie.Mcp.Session

  A session of the agents' bridge (`mcp.rs`: `serve`, `call_tool`).  A client writes lines, each of
  them a JSON-RPC message; the bridge answers a line before it reads the next one.  Tools can be
  called after the client has initialized the session and confirmed it.

  What the bridge gets from outside is a `Host`: the JSON parser, the supervisor behind the socket,
  fresh operation IDs and the texts that other modules render.
-/

import Coterie.Base.JsonText
import Coterie.Mcp.Handled
import Coterie.Mcp.Retry
import Coterie.Mcp.Tools
import Coterie.State.Notifications

namespace Coterie

namespace Mcp

def maximumMessageBytes : Nat := 1024 * 1024
def protocolVersion : String := "2025-06-18"

/-- What the client is told on initialization. -/
def instructions : String :=
    "Use the Coterie MCP tools for all orchestration. Call prime at startup. If tools are " ++
    "deferred, discover them with tool_search using Coterie prime as the query, then search " ++
    "for the exact MCP tool name you need, such as Coterie task_submit_retained. Check " ++
    "prime.commands for your selected role's authorized commands; the common tool catalogue " ++
    "advertises implemented tools and grants no authority. If an authorized tool is absent or" ++
    " inaccessible, report the server name and diagnostic to the operator to audit the " ++
    "deployed supervisor and bridge. Preserve work; an authorized coordinator or operator can" ++
    " use verified-exit task_recover and a fresh worktree continuation when retained " ++
    "submission is unavailable. Unknown exits require operator inspection. Call " ++
    "new_operation_id before each mutation. After uncertainty, call retry_mutation with that " ++
    "ID; if unavailable, repeat the original tool with the same ID and arguments. Tokens and " ++
    "caller identity are supplied by the bridge; never put them in tool arguments. Use poll " ++
    "for progress and pending inbox messages; inbox_handled acknowledges only explicitly " ++
    "handled messages. Shell commands retain their selected sandbox restrictions."

/-! ## Messages -/

/-- A JSON-RPC message.  Without an ID it is a notification. -/
structure Message where
  jsonrpc : String
  id : Option JsonValue
  method : String
  params : JsonValue
deriving DecidableEq, Repr

def messageShape : Shape :=
  .record true
    [needs "jsonrpc" .text, ("id", .optional .any .null, some .null), needs "method" .text,
      ("params", .any, some .null)]

/-- An optional value that is written as `null` when it is missing. -/
def present? : JsonValue → Option JsonValue
  | .null => none
  | value => some value

def Message.ofJson? (value : JsonValue) : Option Message := do
  let decoded ← messageShape.read value
  some {
    jsonrpc := ← decoded.text? "jsonrpc"
    id := (decoded.get? "id").bind present?
    method := ← decoded.text? "method"
    params := ← decoded.get? "params" }

/-- An ID is a text or an integer. -/
def validId : JsonValue → Bool
  | .str _ => true
  | .num number => decide (-2 ^ 63 ≤ number) && decide (number < 2 ^ 64)
  | _ => false

/-- An answer that reports an error. -/
def errorReply (id : JsonValue) (code : Int) (message : String) : JsonValue :=
  .obj [("error", .obj [("code", .num code), ("message", .str message)]), ("id", id),
    ("jsonrpc", .str "2.0")]

def successReply (id result : JsonValue) : JsonValue :=
  .obj [("id", id), ("jsonrpc", .str "2.0"), ("result", result)]

/-- The parameters of an initialization. -/
def initializeShape : Shape :=
  .record false
    [needs "protocolVersion" .text, needs "capabilities" .object,
      needs "clientInfo" (.record false [needs "name" .text, needs "version" .text])]

/-- An initialization names its protocol version and its client. -/
def initializes (params : JsonValue) : Bool :=
  (initializeShape.read params).any fun decoded =>
    [["protocolVersion"], ["clientInfo", "name"], ["clientInfo", "version"]].all fun path =>
      ((decoded.path? path).bind JsonValue.asStr?).any (· != "")

/-- A call of a tool. -/
structure ToolCall where
  name : String
  arguments : JsonValue
  threadId : Option String
deriving DecidableEq, Repr

def callShape : Shape :=
  .record true
    [needs "name" .text, ("arguments", .any, some (.obj [])),
      ("_meta", .optional .any .null, some .null)]

def ToolCall.ofJson? (params : JsonValue) : Option ToolCall := do
  let decoded ← callShape.read params
  some {
    name := ← decoded.text? "name"
    arguments := ← decoded.get? "arguments"
    threadId := (decoded.get? "_meta").bind fun info => info.text? "threadId" }

/-! ## The client of the supervisor -/

/-- What the supervisor answers to the bridge. -/
inductive Response where
  | read (response : RpcResponse)
  | prime (commands : List String) (page : JsonValue)
  | notifications (availability : NotificationAvailability) (pending : Bool)
  | other (document : JsonValue)
deriving DecidableEq, Repr

/-- The outside of a bridge.  The state `σ` is the supervisor's. -/
structure Host (σ : Type) where
  parse : List UInt8 → Option JsonValue
  send : ToolRequest → σ → Except ClientError Response × σ
  /-- The size of a request's text. -/
  bytes : ToolRequest → Nat
  /-- A fresh operation ID. -/
  allocate : σ → OperationId × σ
  redact : String → String
  document : Response → JsonValue
  pollDocument : PollResult → JsonValue
  diagnostic : ClientError → Option OperationId → JsonValue
  catalog : List JsonValue
  version : String

/-- The client behind a session.  `sent` is what has reached the supervisor so far. -/
structure Client (σ : Type) where
  world : σ
  mutations : List (SavedMutation ToolRequest) := []
  sent : List ToolRequest := []

/-- The request that a read of the client stands for. -/
def RpcRequest.toRequest : RpcRequest → ToolRequest
  | .whoami => { tool := "whoami", arguments := .obj [] }
  | .progress after limit waitSeconds =>
      { tool := "progress"
        arguments := .obj [("after", .ofOption .str after), ("limit", .num limit),
          ("wait_seconds", .num waitSeconds)] }
  | .inbox after => { tool := "inbox", arguments := .obj [("after", .num after)] }

/-- How a response settles a saved mutation. -/
def answerOf : Except ClientError Response → Answer Response
  | .ok response => .success response
  | .error (.rejected (.rpc code message)) => .rejection code message
  | .error _ => .lost

section Client

variable {σ : Type} (host : Host σ)

/-- Send a request that is not saved. -/
def transmit (request : ToolRequest) : Tx (Client σ) ClientError Response :=
  ⟨fun client =>
    let (answer, world) := host.send request client.world
    (answer, { client with world, sent := client.sent ++ [request] })⟩

/-- How the reads of the client reach the supervisor. -/
def transport : Transport (Client σ) := fun request => do
  match ← transmit host request.toRequest with
  | .read response => pure response
  | _ => throw unexpected

/-- Send a request, a mutation under its operation ID (`Client::request`). -/
def dispatch (request : ToolRequest) (operationId : Option OperationId) :
    Tx (Client σ) ClientError Response :=
  ⟨fun client =>
    let (answer, world) := host.send request client.world
    match Mcp.request host.bytes request operationId (answerOf answer) client.mutations with
    | (.refused code message, mutations) =>
        (.error (.rejected (.rpc code message)), { client with mutations })
    | (.dispatched sent _, mutations) =>
        (answer, { world, mutations, sent := client.sent ++ [sent] })⟩

/-- Send a saved mutation again (`Client::retry`). -/
def resend (operationId : OperationId) : Tx (Client σ) ClientError Response := do
  let saved ← Tx.read fun client => client.mutations.find? (·.id == operationId)
  let saved ← Tx.okOr
    (.rejected (.rpc .notFound
      "The bridge has no saved request for this operation. Retry the original tool with the same operation ID and identical arguments."))
    saved
  dispatch host saved.request (some operationId)

/-- The request that acknowledges an inbox. -/
def acknowledgement (operationId : OperationId) (through : Nat) : ToolRequest where
  tool := "inbox_acknowledge"
  arguments := .obj [("operation_id", .str operationId.text), ("through", .num through)]

/-- The request that binds the notifications of the foreground session to a thread. -/
def threadBinding (operationId : OperationId) (threadId : String) : ToolRequest where
  tool := "bind_foreground_notifications"
  arguments := .obj [("operation_id", .str operationId.text), ("thread_id", .str threadId)]

end Client

/-! ## Tool calls -/

def pollShape : Shape :=
  .record true
    [needs "cursor" (optionally (.record true
        [needs "run_id" (identifier .run), needs "agent_id" (identifier .agent),
          needs "progress" (optionally .text), needs "inbox" (.natural 64)])),
      needs "wait_seconds" (optionally (.natural 8)),
      needs "include_progress" (optionally .boolean)]

def PollCursor.ofJson? (value : JsonValue) : Option PollCursor := do
  some {
    runId := ← (value.text? "run_id").bind Id.ofText?
    agentId := ← (value.text? "agent_id").bind Id.ofText?
    progress := value.text? "progress"
    inbox := (← (value.get? "inbox").bind JsonValue.asInt?).toNat }

def Poll.ofJson? (arguments : JsonValue) : Option Poll := do
  let decoded ← pollShape.read arguments
  some {
    cursor := (decoded.get? "cursor").bind PollCursor.ofJson?
    waitSeconds := ((decoded.get? "wait_seconds").bind JsonValue.asInt?).map Int.toNat
    includeProgress := (decoded.get? "include_progress").bind JsonValue.asBool? }

def handledShape : Shape :=
  .record true (mutates [needs "message_ids" (.list (identifier .message))])

def Handled.ofJson? (arguments : JsonValue) : Option Handled := do
  let decoded ← handledShape.read arguments
  some {
    operationId := ← operationId? decoded
    messageIds :=
      match decoded.get? "message_ids" with
      | some (.arr items) => items.filterMap fun item => item.asStr?.bind Id.ofText?
      | _ => [] }

def retryShape : Shape :=
  .record true (mutates [])

mutual

/-- Redact the texts of a value. -/
def redactValue (redact : String → String) : JsonValue → JsonValue
  | .str text => .str (redact text)
  | .arr items => .arr (redactItems redact items)
  | .obj fields => .obj (redactFields redact [] fields)
  | value => value

def redactItems (redact : String → String) : List JsonValue → List JsonValue
  | [] => []
  | item :: items => redactValue redact item :: redactItems redact items

def redactFields (redact : String → String) :
    List (String × JsonValue) → List (String × JsonValue) → List (String × JsonValue)
  | collected, [] => collected
  -- of two keys with the same redaction the later one replaces the value
  | collected, (key, value) :: fields =>
      redactFields redact
        (JsonValue.insertField (redact key) (redactValue redact value) collected) fields

end

section Calls

variable {σ : Type} (host : Host σ)

/-- The result of a tool, as a structure and as a text. -/
def toolResult (value : JsonValue) (failed : Bool) : JsonValue :=
  let redacted := redactValue host.redact value
  .obj [("content", .arr [.obj [("text", .str (.ofList redacted.render)), ("type", .str "text")]]),
    ("isError", .bool failed), ("structuredContent", redacted)]

/-- The result of a tool that succeeded. -/
def succeeded (data : JsonValue) : JsonValue :=
  toolResult host (.obj [("data", data), ("schema_version", .num 1)]) false

/-- The result of a tool that failed: a diagnostic for the operation. -/
def failed (operationId : Option OperationId) (error : ClientError) : JsonValue :=
  toolResult host (host.diagnostic error operationId) true

/-- The document of a response, with the commands of `prime` under the names of the tools. -/
def responseDocument : Response → JsonValue
  | .prime commands page => host.document (.prime (renameCommands commands) page)
  | response => host.document response

/-- The refusal of arguments that are not those of the tool. -/
def unknownArguments : Int × String :=
  (-32602, "Arguments do not match this tool's schema.")

/-- Answer with the result of a tool. -/
def answering (operationId : Option OperationId) (body : Tx (Client σ) ClientError JsonValue) :
    Tx (Client σ) (Int × String) JsonValue :=
  ⟨fun client =>
    match body.run client with
    | (.ok data, client) => (.ok (succeeded host data), client)
    | (.error error, client) => (.ok (failed host operationId error), client)⟩

def newOperationId : Tx (Client σ) (Int × String) JsonValue :=
  ⟨fun client =>
    let (operationId, world) := host.allocate client.world
    (.ok (toolResult host (.obj [("operation_id", .str operationId.text)]) false),
      { client with world })⟩

/-- Execute a call of a tool. -/
def callTool (call : ToolCall) : Tx (Client σ) (Int × String) JsonValue :=
  if call.name = "new_operation_id" then do
    let _ ← Tx.okOr (-32602, "This tool accepts no arguments.")
      (Shape.read (.record true []) call.arguments)
    newOperationId host
  else
    let operationId := operationId? call.arguments
    if call.name = "poll" then do
      let arguments ← Tx.okOr unknownArguments (Poll.ofJson? call.arguments)
      answering host operationId do
        let result ← poll (transport host) arguments
        pure (host.pollDocument result)
    else if call.name = "inbox_handled" then do
      let arguments ← Tx.okOr unknownArguments (Handled.ofJson? call.arguments)
      answering host operationId
        (handled (transport host)
          (fun id through => do
            let response ← dispatch host (acknowledgement id through) (some id)
            pure (responseDocument host response))
          arguments)
    else if call.name = "retry_mutation" then do
      let arguments ← Tx.okOr unknownArguments (retryShape.read call.arguments)
      let retried ← Tx.okOr unknownArguments (operationId? arguments)
      answering host operationId do
        let response ← resend host retried
        pure (responseDocument host response)
    else do
      let request ← Tx.ofExcept
        ((toolRequest call.name call.arguments).mapError fun message => (-32602, message))
      answering host operationId do
        let response ← dispatch host request operationId
        pure (responseDocument host response)

end Calls

/-! ## Sessions -/

/-- A session of the bridge.  `thread` is the thread whose notifications are bound to it. -/
structure Session (σ : Type) where
  client : Client σ
  initialized : Bool := false
  ready : Bool := false
  thread : Option String := none

/-- What a line comes to: no answer, an answer, or the end of the session. -/
inductive Verdict where
  | silent
  | reply (value : JsonValue)
  | rebound
deriving DecidableEq, Repr

section Session

variable {σ : Type} (host : Host σ)

/-- The message of a line, or the answer that refuses it. -/
def Host.readMessage (line : List UInt8) : Except JsonValue Message :=
  match host.parse line with
  | none => .error (errorReply .null (-32700) "Invalid JSON.")
  | some value =>
      if (value.get? "id").any (!validId ·) = true then
        .error (errorReply .null (-32600) "Invalid request ID.")
      else
        match Message.ofJson? value with
        | some message =>
            if message.jsonrpc = "2.0" ∧ message.id.all validId = true then .ok message
            else .error (errorReply .null (-32600) "Invalid JSON-RPC request.")
        | none => .error (errorReply .null (-32600) "Invalid JSON-RPC request.")

/-- Bind the notifications to the thread that a call names, unless they are already bound to it.
    `none` stands for a call from another thread. -/
def registerThread (threadId : Option String) (session : Session σ) : Option (Session σ) :=
  match threadId.filter validThreadId with
  | none => some session
  | some threadId =>
      match session.thread with
      | some registered => if registered ≠ threadId then none else some session
      | none =>
          let (operationId, world) := host.allocate session.client.world
          match (dispatch host (threadBinding operationId threadId) none).run
              { session.client with world } with
          | (.ok (.notifications .automatic _), client) =>
              some { session with client, thread := some threadId }
          | (_, client) => some { session with client }

/-- The result of an initialization. -/
def initializeResult : JsonValue :=
  .obj [("capabilities", .obj [("tools", .obj [("listChanged", .bool false)])]),
    ("instructions", .str instructions), ("protocolVersion", .str protocolVersion),
    ("serverInfo", .obj [("name", .str "coterie"), ("version", .str host.version)])]

/-- The list of tools has no pages. -/
def listTools (params : JsonValue) : Except (Int × String) JsonValue :=
  match params with
  | .null | .obj _ =>
      if (params.get? "cursor").any (· != .null) = true then
        .error (-32602, "This catalog has no continuation cursor.")
      else .ok (.obj [("tools", .arr host.catalog)])
  | _ => .error (-32602, "Tool-list parameters must be an object.")

/-- The result of a request; `none` ends the session. -/
def requestResult (method : String) (params : JsonValue) (session : Session σ) :
    Option (Except (Int × String) JsonValue × Session σ) :=
  if method = "ping" then some (.ok (.obj []), session)
  else if method = "initialize" ∧ session.initialized = false then
    if initializes params = true then
      some (.ok (initializeResult host), { session with initialized := true })
    else some (.error (-32602, "Invalid initialization parameters."), session)
  else if session.ready = false then
    some (.error (-32600, "Complete MCP initialization first."), session)
  else if method = "tools/list" then some (listTools host params, session)
  else if method = "tools/call" then
    match ToolCall.ofJson? params with
    | none => some (.error (-32602, "Invalid tool-call parameters."), session)
    | some call =>
        (registerThread host call.threadId session).map fun session =>
          let (result, client) := (callTool host call).run session.client
          (result, { session with client })
  else some (.error (-32601, "Unsupported MCP method."), session)

/-- The answer to a request. -/
def replyTo (id : JsonValue) : Except (Int × String) JsonValue → JsonValue
  | .ok result => successReply id result
  | .error (code, message) => errorReply id code message

/-- Answer a line. -/
def answerLine (line : List UInt8) (session : Session σ) : Verdict × Session σ :=
  match host.readMessage line with
  | .error refusal => (.reply refusal, session)
  | .ok message =>
      match message.id with
      | none =>
          (.silent,
            { session with
              ready := session.ready ||
                (message.method == "notifications/initialized" && session.initialized) })
      | some id =>
          match requestResult host message.method message.params session with
          | none => (.rebound, session)
          | some (result, session) => (.reply (replyTo id result), session)

def lineFeed : UInt8 := 10

/-- What is read from the input: a line with its end, the rest of an input that ends without one,
    or more bytes than a line may have. -/
inductive Frame where
  | line (bytes : List UInt8)
  | oversized
deriving DecidableEq, Repr

/-- The bytes up to the end of the line, at most so many, and the rest. -/
def takeLine : Nat → List UInt8 → List UInt8 × List UInt8
  | 0, input => ([], input)
  | _ + 1, [] => ([], [])
  | limit + 1, byte :: input =>
      if byte = lineFeed then ([byte], input)
      else (byte :: (takeLine limit input).1, (takeLine limit input).2)

theorem takeLine_append (limit : Nat) (input : List UInt8) :
    (takeLine limit input).1 ++ (takeLine limit input).2 = input := by
  fun_induction takeLine limit input with
  | case1 => rfl
  | case2 => rfl
  | case3 => rfl
  | case4 limit byte input hbyte ih => rw [List.cons_append, ih]

theorem takeLine_length_le (limit : Nat) (input : List UInt8) :
    (takeLine limit input).1.length ≤ limit := by
  fun_induction takeLine limit input with
  | case1 => exact Nat.le_refl 0
  | case2 => exact Nat.zero_le _
  | case3 => exact Nat.succ_le_succ (Nat.zero_le _)
  | case4 limit byte input hbyte ih => exact Nat.succ_le_succ ih

/-- The frames of an input. -/
def frames (input : List UInt8) : List Frame :=
  match h : takeLine (maximumMessageBytes + 1) input with
  | ([], _) => []
  | (byte :: line, rest) =>
      if maximumMessageBytes < (byte :: line).length then [.oversized]
      else .line (byte :: line) :: frames rest
termination_by input.length
decreasing_by
  have hsplit := congrArg List.length (takeLine_append (maximumMessageBytes + 1) input)
  rw [h, List.length_append] at hsplit
  simp only [List.length_cons] at hsplit
  omega

/-- How a session ends. -/
inductive Ending where
  | closed
  | oversizedInput
  | oversizedOutput
  /-- A call came from another thread. -/
  | rebound
deriving DecidableEq, Repr

/-- A session that has ended, and what it has written. -/
structure Served (σ : Type) where
  ending : Ending
  replies : List JsonValue
  session : Session σ

/-- Serve the frames of an input. -/
def serveFrames : List Frame → Session σ → Served σ
  | [], session => { ending := .closed, replies := [], session }
  | .oversized :: _, session => { ending := .oversizedInput, replies := [], session }
  | .line bytes :: rest, session =>
      match answerLine host bytes session with
      | (.silent, session) => serveFrames rest session
      | (.reply value, session) =>
          if 4 * maximumMessageBytes < value.size then
            { ending := .oversizedOutput, replies := [], session }
          else
            let served := serveFrames rest session
            { served with replies := value :: served.replies }
      | (.rebound, session) => { ending := .rebound, replies := [], session }

/-- A session of a bridge over all of its input. -/
def serveSession (input : List UInt8) (world : σ) : Served σ :=
  serveFrames host (frames input) { client := { world } }

end Session

end Mcp

end Coterie
