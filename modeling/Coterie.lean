import Coterie.Base.Except
import Coterie.Base.Fields
import Coterie.Base.History
import Coterie.Base.Json
import Coterie.Base.JsonText
import Coterie.Base.Machine
import Coterie.Base.Numbered
import Coterie.Base.Numeral
import Coterie.Base.Paging
import Coterie.Base.Scanner
import Coterie.Base.Shape
import Coterie.Base.Table
import Coterie.Base.Text
import Coterie.Base.Tx
import Coterie.Base.Utf8
import Coterie.Base.Window
import Coterie.Config.Policy
import Coterie.Config.Provenance
import Coterie.Config.Resolver
import Coterie.Config.Trust
import Coterie.Mcp.Client
import Coterie.Mcp.Dialogue
import Coterie.Mcp.Handled
import Coterie.Mcp.Retry
import Coterie.Mcp.Session
import Coterie.Mcp.Tools
import Coterie.Model.Ids
import Coterie.Model.Types
import Coterie.Model.Ulid
import Coterie.Protocol.Context
import Coterie.Protocol.Frames
import Coterie.Providers.Job
import Coterie.Providers.Launch
import Coterie.Providers.Redaction
import Coterie.Providers.Serving
import Coterie.Providers.Stream
import Coterie.Providers.Terminal
import Coterie.Providers.Token
import Coterie.Providers.Transcript
import Coterie.Sessions.CrashLoop
import Coterie.Sessions.Fencing
import Coterie.Sessions.LaunchBound
import Coterie.Sessions.Recording
import Coterie.Sessions.Refinement
import Coterie.Sessions.Roster
import Coterie.State.Events
import Coterie.State.ExactlyOnce
import Coterie.State.Frame
import Coterie.State.Messages
import Coterie.State.Migrations
import Coterie.State.Notices
import Coterie.State.Notifications
import Coterie.State.Operations
import Coterie.State.Progress
import Coterie.State.Recovery
import Coterie.State.RunRecovery
import Coterie.State.Schema
import Coterie.State.Sessions
import Coterie.State.Supervision
import Coterie.State.Tasks
import Coterie.State.Workspaces
import Coterie.Supervisor.Admission
import Coterie.Supervisor.AdmissionView
import Coterie.Supervisor.Authority
import Coterie.Supervisor.Clock
import Coterie.Supervisor.Commands
import Coterie.Supervisor.Controls
import Coterie.Supervisor.Cycles
import Coterie.Supervisor.Delivery
import Coterie.Supervisor.Detail
import Coterie.Supervisor.Following
import Coterie.Supervisor.Frame
import Coterie.Supervisor.Hiring
import Coterie.Supervisor.Idle
import Coterie.Supervisor.Inbox
import Coterie.Supervisor.Issue
import Coterie.Supervisor.Launch
import Coterie.Supervisor.LaunchOnce
import Coterie.Supervisor.Limits
import Coterie.Supervisor.Machine
import Coterie.Supervisor.Mailbox
import Coterie.Supervisor.Names
import Coterie.Supervisor.Notifications
import Coterie.Supervisor.Notified
import Coterie.Supervisor.Progress
import Coterie.Supervisor.Requests
import Coterie.Supervisor.Runtime
import Coterie.Supervisor.Sessions
import Coterie.Supervisor.Shutdown
import Coterie.Supervisor.SpawnRate
import Coterie.Supervisor.Stopping
import Coterie.Supervisor.Supervised
import Coterie.Supervisor.Work
import Coterie.Supervisor.Workspaces
import Coterie.Tasks.Board
import Coterie.Tasks.Closure
import Coterie.Tasks.CreationOrder
import Coterie.Tasks.Dependencies
import Coterie.Tasks.Holders
import Coterie.Tasks.Ownership
import Coterie.Tasks.Readiness
import Coterie.Tasks.Refinement
import Coterie.Workspaces.Commits
import Coterie.Workspaces.Git
import Coterie.Workspaces.Integration
import Coterie.Workspaces.Rebase
import Coterie.Workspaces.Submission
