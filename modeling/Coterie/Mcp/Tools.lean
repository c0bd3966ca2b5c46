/-
  Coterie.Mcp.Tools

  The tools that the agents' bridge decodes to requests of the supervisor (`mcp/tools.rs`), with the
  arguments that each of them takes.  A request is kept as its tool and its decoded arguments.

  The bridge saves a mutation under the operation ID that it finds in the call's arguments, before
  they are decoded; `request_operationId` is that the request carries the same one.
-/

import Coterie.Base.Shape
import Coterie.Config.Resolver
import Coterie.Supervisor.Commands

namespace Coterie

namespace Mcp

/-! ## Arguments -/

/-- A field without a default. -/
def needs (name : String) (shape : Shape) : String × Shape × Option JsonValue :=
  (name, shape, none)

/-- The text of an identifier. -/
def identifier (kind : IdKind) : Shape :=
  .named fun text => (@Id.ofText? kind text).map (·.text)

def optionally (shape : Shape) : Shape :=
  .optional shape .null

/-- The arguments of a tool that changes something begin with the operation ID. -/
def mutates (fields : List (String × Shape × Option JsonValue)) :
    List (String × Shape × Option JsonValue) :=
  needs "operation_id" (identifier .operation) :: fields

def reportedEvidence : Shape :=
  .record true [needs "text" .text, needs "source" .text]

def recoveryReport : Shape :=
  .record true
    [needs "validation_evidence" (.list reportedEvidence),
      needs "unfinished_steps" (.list reportedEvidence)]

def retainedSubmission : Shape :=
  .record true
    [needs "assignment_id" (identifier .assignment), needs "result_commit" .text,
      needs "summary" .text, needs "reason" .text, needs "review" reportedEvidence]

def resubmission : Shape :=
  .record true
    [needs "assignment_id" (identifier .assignment), needs "expected_result" .text,
      needs "result_commit" .text, needs "summary" .text, needs "reason" .text]

/-! ## Tools -/

structure Tool where
  name : String
  fields : List (String × Shape × Option JsonValue)

/-- The tools of the macro `agent_tools!`. -/
def agentTools : List Tool :=
  [{ name := "notification_received"
     fields := mutates [needs "delivery_id" (identifier .operation)] },
    { name := "whoami", fields := [] },
    { name := "prime"
      fields := [needs "after_task" (optionally (identifier .task)),
        needs "limit" (.optional (.natural 16) (.num 20))] },
    { name := "status", fields := [] },
    { name := "progress"
      fields := [needs "after" (optionally .text), needs "limit" (.natural 16),
        needs "wait_seconds" (.natural 8)] },
    { name := "project_list", fields := [] },
    { name := "project_attach"
      fields := mutates [needs "path" .text, needs "alias" (optionally .text)] },
    { name := "task_create"
      fields := mutates [needs "title" .text, needs "description" .text, needs "project" .text,
        needs "group" (optionally .text), needs "dependencies" (.list (identifier .task))] },
    { name := "task_show"
      fields := [needs "task_id" (identifier .task),
        needs "after" (.optional (.natural 64) (.num 0)),
        needs "limit" (.optional (.natural 32) (.num 16384)),
        needs "revision" (optionally .text)] },
    { name := "assignment_show"
      fields := [needs "assignment_id" (identifier .assignment),
        needs "after" (.optional (.natural 64) (.num 0)),
        needs "limit" (.optional (.natural 32) (.num 16384)),
        needs "revision" (optionally .text)] },
    { name := "task_ready", fields := [] },
    { name := "task_recover"
      fields := mutates [needs "assignment_id" (identifier .assignment), needs "reason" .text,
        needs "report" (optionally recoveryReport)] },
    { name := "task_submit_retained"
      fields := mutates [needs "submission" retainedSubmission] },
    { name := "task_resubmit", fields := mutates [needs "submission" resubmission] },
    { name := "task_close"
      fields := mutates [needs "task_id" (identifier .task), needs "summary" .text] },
    { name := "spawn"
      fields := mutates [needs "role" .text, needs "task_id" (identifier .task)] },
    { name := "workspace_integrate"
      fields := mutates [needs "assignment_id" (identifier .assignment),
        needs "strategy" (optionally (.variant ["rebase", "merge"]))] },
    { name := "finish"
      fields := mutates [needs "status" (.variant ["completed", "failed"]),
        needs "summary" .text] },
    { name := "send", fields := mutates [needs "recipient" .text, needs "message" .text] },
    { name := "inbox", fields := [needs "after" (.natural 64)] },
    { name := "inbox_acknowledge", fields := mutates [needs "through" (.natural 64)] },
    { name := "logs"
      fields := [needs "agent" .text, needs "after" (.natural 64), needs "limit" (.natural 32),
        needs "session_id" (optionally (identifier .session)),
        needs "tail" (.optional .boolean (.bool false))] },
    { name := "events", fields := [needs "after" (.natural 64), needs "limit" (.natural 16)] }]

/-- These are the tools that the listed commands name. -/
theorem map_name_agentTools : agentTools.map (·.name) = requestTools := rfl

/-! ## Requests -/

/-- A request of the bridge: the tool that it stands for, and its decoded arguments. -/
structure ToolRequest where
  tool : String
  arguments : JsonValue
deriving DecidableEq, Repr

/-- The operation ID among the arguments of a call or a request. -/
def operationId? (arguments : JsonValue) : Option OperationId :=
  (arguments.text? "operation_id").bind Id.ofText?

/-- Decode a call of a tool (`tools::request`). -/
def toolRequest (name : String) (arguments : JsonValue) : Except String ToolRequest :=
  match agentTools.find? (·.name == name) with
  | none => .error "Unknown Coterie agent tool."
  | some tool =>
      match Shape.read (.record true tool.fields) arguments with
      | none => .error "Arguments do not match this tool's schema."
      | some decoded =>
          if name = "project_attach" ∧ (decoded.text? "path").any (!isAbsolute ·) = true then
            .error "Project attachment requires an absolute path."
          else .ok { tool := name, arguments := decoded }

/-- A tool's operation ID is its first argument. -/
theorem fields_agentTools {tool : Tool} (h : tool ∈ agentTools) :
    (∃ fields, tool.fields = mutates fields) ∨ "operation_id" ∉ tool.fields.map (·.1) := by
  simp only [agentTools, List.mem_cons, List.not_mem_nil, or_false] at h
  rcases h with rfl | rfl | rfl | rfl | rfl | rfl | rfl | rfl | rfl | rfl | rfl | rfl | rfl | rfl |
    rfl | rfl | rfl | rfl | rfl | rfl | rfl | rfl | rfl
  all_goals first
    | exact .inl ⟨_, rfl⟩
    | exact .inr (by decide)

/-- A decoded identifier is the one that its text names. -/
theorem read_identifier {kind : IdKind} {value decoded : JsonValue}
    (h : Shape.read (identifier kind) value = some decoded) :
    ∃ id : Id kind, decoded = .str id.text ∧ id.Canonical ∧
      value.asStr?.bind (@Id.ofText? kind) = some id := by
  unfold identifier at h
  rw [Shape.read] at h
  obtain ⟨canonical, hcanonical, rfl⟩ := Option.map_eq_some_iff.mp h
  obtain ⟨text, htext, hcanonical⟩ := Option.bind_eq_some_iff.mp hcanonical
  obtain ⟨id, hid, rfl⟩ := Option.map_eq_some_iff.mp hcanonical
  refine ⟨id, rfl, ?_, ?_⟩
  · obtain ⟨encoded, -, hulid⟩ := Option.bind_eq_some_iff.mp hid
    dsimp only at hulid
    split at hulid
    · next hcapitals =>
        cases hulid
        exact ⟨_, hcapitals, rfl⟩
    · cases hulid
  · rw [htext]
    exact hid

/-- A request that was decoded from an object carries the operation ID that the object has. -/
theorem request_operationId {name : String} {entries : List (String × JsonValue)}
    {request : ToolRequest} (h : toolRequest name (.obj entries) = .ok request) :
    operationId? request.arguments = operationId? (.obj entries) := by
  unfold toolRequest at h
  split at h
  · cases h
  · next tool hfind =>
      split at h
      · cases h
      · next decoded hread =>
          split at h
          · cases h
          · cases h
            obtain ⟨hclosed, found, hfound, rfl⟩ := Shape.mem_of_read_record hread
            unfold operationId? JsonValue.text? JsonValue.get?
            dsimp only
            rcases fields_agentTools (List.mem_of_find?_eq_some hfind) with
              ⟨fields, hmutates⟩ | hreads
            · rw [hmutates] at hfound
              obtain ⟨value, hvalue, hreading⟩ := Shape.lookup_readNamed_cons hfound
              cases hentry : entries.lookup "operation_id" with
              | none =>
                  rw [hentry] at hreading
                  cases hreading
              | some entry =>
                  rw [hentry] at hreading
                  obtain ⟨id, rfl, hcanonical, htext⟩ := read_identifier hreading
                  rw [hvalue]
                  show Id.ofText? id.text = entry.asStr?.bind Id.ofText?
                  rw [htext, hcanonical.ofText?]
            · have hentry : entries.lookup "operation_id" = none := by
                rw [List.lookup_eq_none_iff]
                intro entry hmem
                have hne : entry.1 ≠ "operation_id" := by
                  rintro heq
                  exact hreads (heq ▸ hclosed entry hmem)
                simpa using hne.symm
              rw [Shape.lookup_readNamed_of_notMem hfound hreads, hentry]

end Mcp

end Coterie
