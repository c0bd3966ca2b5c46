/-
  Coterie.Config.Policy

  The policy values of a configuration and their intersection (`config.rs`, `config/policy.rs`):
  permission profiles, run limits, role definitions with their capability grants, and the sealed
  archetype that declares them.

  The profiles that a configuration can contain are a meet-semilattice under `intersect`, and
  `noMorePermissiveThan` is its order.
-/

import Mathlib
import Coterie.Base.Text
import Coterie.State.Supervision

namespace Coterie

/-! ## Permission profiles -/

/-- Filesystem authority granted to a provider process. -/
inductive FilesystemPolicy where
  | unrestricted
  | projectWrite
  | workspaceWrite
  | readOnly
deriving DecidableEq, Repr

/-- Network authority granted to a provider process. -/
inductive NetworkPolicy where
  | providerDefault
  | deny
deriving DecidableEq, Repr

/-- How a provider process may request operator approval. -/
inductive ApprovalPolicy where
  | interactive
  | never
deriving DecidableEq, Repr

/-- Who evaluates eligible provider approval requests. -/
inductive ApprovalReviewer where
  | user
  | autoReview
deriving DecidableEq, Repr

/-- Provider sandbox policy referenced by a role. -/
structure PermissionProfile where
  filesystem : FilesystemPolicy
  network : NetworkPolicy
  approvals : ApprovalPolicy
  approvalReviewer : ApprovalReviewer
deriving DecidableEq, Repr

namespace PermissionProfile

/-- The approvals that two profiles share. -/
def sharedApprovals (self other : PermissionProfile) : ApprovalPolicy :=
  if self.approvals = other.approvals ∧ self.approvalReviewer = other.approvalReviewer then
    self.approvals
  else .never

/-- The filesystem authority that two profiles share. -/
def sharedFilesystem (self other : PermissionProfile) : FilesystemPolicy :=
  -- the two writable scopes may refer to different roots
  if self.filesystem = other.filesystem ∨ other.filesystem = .unrestricted then self.filesystem
  else if self.filesystem = .unrestricted then other.filesystem
  else .readOnly

/-- What two profiles both allow. -/
def intersect (self other : PermissionProfile) : PermissionProfile where
  filesystem := self.sharedFilesystem other
  network := if self.network = other.network then self.network else .deny
  approvals := self.sharedApprovals other
  approvalReviewer :=
    if self.sharedApprovals other = .interactive then self.approvalReviewer else .user

/-- The profile allows at most what the ceiling allows. -/
def noMorePermissiveThan (self ceiling : PermissionProfile) : Bool :=
  self.intersect ceiling == self

/-- Automatic review requires interactive approvals. -/
def Coherent (profile : PermissionProfile) : Prop :=
  profile.approvals = .never → profile.approvalReviewer = .user

instance : DecidablePred Coherent := fun profile => by
  unfold Coherent
  exact inferInstance

theorem sharedFilesystem_eq_self {self ceiling : PermissionProfile} :
    self.sharedFilesystem ceiling = self.filesystem ↔
      self.filesystem = ceiling.filesystem ∨ ceiling.filesystem = .unrestricted ∨
        self.filesystem = .readOnly := by
  unfold sharedFilesystem
  cases self.filesystem <;> cases ceiling.filesystem <;> decide

/-- What the order means for each part of a profile. -/
theorem noMorePermissiveThan_iff {self ceiling : PermissionProfile} :
    self.noMorePermissiveThan ceiling = true ↔
      (self.filesystem = ceiling.filesystem ∨ ceiling.filesystem = .unrestricted ∨
        self.filesystem = .readOnly) ∧
      (self.network = ceiling.network ∨ self.network = .deny) ∧
      ((self.approvals = .interactive ∧ self.approvals = ceiling.approvals ∧
          self.approvalReviewer = ceiling.approvalReviewer) ∨
        (self.approvals = .never ∧ self.approvalReviewer = .user)) := by
  rw [← sharedFilesystem_eq_self]
  obtain ⟨filesystem, network, approvals, reviewer⟩ := self
  unfold noMorePermissiveThan intersect
  rw [beq_iff_eq, PermissionProfile.mk.injEq]
  refine and_congr_right fun _ => and_congr ?_ ?_
  · cases network <;> cases ceiling.network <;> simp
  · unfold sharedApprovals
    cases approvals <;> cases reviewer <;> cases ceiling.approvals <;>
      cases ceiling.approvalReviewer <;> simp

theorem noMorePermissiveThan_refl {profile : PermissionProfile} (h : profile.Coherent) :
    profile.noMorePermissiveThan profile = true := by
  refine noMorePermissiveThan_iff.mpr ⟨.inl rfl, .inl rfl, ?_⟩
  cases happrovals : profile.approvals with
  | interactive => exact .inl ⟨rfl, rfl, rfl⟩
  | never => exact .inr ⟨rfl, h happrovals⟩

/-- No more permissive filesystem authority than a ceiling without full access has full access. -/
theorem filesystem_of_noMorePermissiveThan {self ceiling : PermissionProfile}
    (h : self.noMorePermissiveThan ceiling = true)
    (hceiling : ceiling.filesystem ≠ .unrestricted) : self.filesystem ≠ .unrestricted := by
  obtain ⟨heq | hfull | hread, -, -⟩ := noMorePermissiveThan_iff.mp h
  · rw [heq]
    exact hceiling
  · exact absurd hfull hceiling
  · rw [hread]
    decide

end PermissionProfile

/-! ## Limits and roles -/

/-- Operator ceilings that apply across archetypes. -/
structure RunLimits where
  maxConcurrentAgents : Nat
  maxAgentsPerRun : Nat
  maxSpawnsPerMinute : Nat
deriving DecidableEq, Repr

namespace RunLimits

/-- The smaller of each two limits. -/
def intersect (self other : RunLimits) : RunLimits where
  maxConcurrentAgents := min self.maxConcurrentAgents other.maxConcurrentAgents
  maxAgentsPerRun := min self.maxAgentsPerRun other.maxAgentsPerRun
  maxSpawnsPerMinute := min self.maxSpawnsPerMinute other.maxSpawnsPerMinute

instance : LE RunLimits where
  le self ceiling := self.maxConcurrentAgents ≤ ceiling.maxConcurrentAgents ∧
    self.maxAgentsPerRun ≤ ceiling.maxAgentsPerRun ∧
    self.maxSpawnsPerMinute ≤ ceiling.maxSpawnsPerMinute

theorem intersect_le (self other : RunLimits) : self.intersect other ≤ other :=
  ⟨min_le_right _ _, min_le_right _ _, min_le_right _ _⟩

end RunLimits

/-- What a configuration lets a role do. -/
structure EffectiveRole where
  enabled : Bool
  maxInstances : Option Nat
  permissionProfile : PermissionProfile
deriving DecidableEq, Repr

/-- The smaller of two capacities; an omitted one is no bound. -/
def sharedCapacity : Option Nat → Option Nat → Option Nat
  | some a, some b => some (min a b)
  | a, b => a.or b

/-- A capacity is at most a ceiling; an omitted ceiling bounds nothing. -/
def CapacityWithin (capacity : Option Nat) : Option Nat → Prop
  | none => True
  | some ceiling => ∃ value, capacity = some value ∧ value ≤ ceiling

theorem capacityWithin_sharedCapacity (capacity ceiling : Option Nat) :
    CapacityWithin (sharedCapacity capacity ceiling) ceiling := by
  cases ceiling with
  | none => trivial
  | some b =>
      cases capacity with
      | none => exact ⟨b, rfl, Nat.le_refl b⟩
      | some a => exact ⟨min a b, rfl, Nat.min_le_right a b⟩

/-- What two roles both allow.  An omitted role ceiling still remains subject to run-wide
    limits. -/
def EffectiveRole.intersect (self other : EffectiveRole) : EffectiveRole where
  enabled := self.enabled && other.enabled
  maxInstances := sharedCapacity self.maxInstances other.maxInstances
  permissionProfile := self.permissionProfile.intersect other.permissionProfile

/-! ## Capabilities -/

/-- One concrete supervisor action to authorize. -/
structure Capability where
  «namespace» : String
  action : String
deriving DecidableEq, Repr

/-- The only two outcomes of role capability authorization. -/
inductive AuthorizationDecision where
  | allowed
  | denied
deriving DecidableEq, Repr

/-- A capability, or all actions of a namespace. -/
structure CapabilityGrant where
  «namespace» : String
  action : String
deriving DecidableEq, Repr

/-- ASCII letters, digits, underscores and hyphens, at least one. -/
def validName (name : String) : Bool :=
  !name.isEmpty &&
    name.toList.all fun c => c.isAlphanum || c == '_' || c == '-'

/-- The namespaces in which capabilities are granted. -/
def capabilityNamespaces : List String :=
  ["spawn", "send", "task", "logs", "project", "workspace"]

namespace CapabilityGrant

/-- Read a grant `namespace:action`. -/
def parse (value : String) : Option CapabilityGrant :=
  (Text.splitOnce? ':' value).bind fun (space, action) =>
    if capabilityNamespaces.contains space = false ∨ (action != "*" && !validName action) = true
    then none
    else some { «namespace» := space, action := action }

/-- The grant covers the capability. -/
def allows (grant : CapabilityGrant) (capability : Capability) : Bool :=
  grant.namespace == capability.namespace &&
    (grant.action == "*" || grant.action == capability.action)

end CapabilityGrant

/-! ## Archetypes -/

/-- The provider interaction style required by a role. -/
inductive RoleMode where
  | interactive
  | job
deriving DecidableEq, Repr

/-- The kind of target workspace assigned to a role. -/
inductive WorkspacePolicy where
  | project
  | worktree
  | readOnly
deriving DecidableEq, Repr

/-- A configured type of agent with no runtime-defined role semantics. -/
structure RoleDefinition where
  provider : String
  mode : RoleMode
  maxInstances : Option Nat
  workspace : WorkspacePolicy
  permissionProfile : String
  instructions : Option String
  capabilities : List CapabilityGrant
deriving DecidableEq, Repr

/-- Some grant of the role covers the capability. -/
def RoleDefinition.authorize (role : RoleDefinition) (capability : Capability) :
    AuthorizationDecision :=
  if role.capabilities.any (·.allows capability) = true then .allowed else .denied

/-- A map from names, in the order of the names. -/
abbrev NameMap (α : Type) : Type := Std.TreeMap String α compare

/-- The map of a list of entries. -/
def NameMap.ofList {α : Type} (entries : List (String × α)) : NameMap α :=
  Std.TreeMap.ofList entries compare

/-- A sealed, versioned declaration of roles and provider policy. -/
structure ArchetypeDefinition where
  reference : String
  lead : String
  permissionProfiles : NameMap PermissionProfile
  roles : NameMap RoleDefinition

namespace ArchetypeDefinition

/-- Looks up a role without assigning semantics to its name. -/
def role (archetype : ArchetypeDefinition) (name : String) : Option RoleDefinition :=
  archetype.roles[name]?

/-- Resolves one role capability to an explicit allow-or-deny decision. -/
def authorize (archetype : ArchetypeDefinition) (role : String) (capability : Capability) :
    AuthorizationDecision :=
  (archetype.role role).elim .denied (·.authorize capability)

end ArchetypeDefinition

/-! ## Compiled defaults -/

/-- A trusted command binding for an out-of-process provider. -/
structure ProviderBinding where
  command : List String
deriving DecidableEq, Repr

/-- Trusted bounds on provider quota and process control, independent of roles: those that
    session supervision reads, and the idle time after which a run ends. -/
structure SupervisionBounds extends SupervisionPolicy where
  idleTimeoutSeconds : Int
deriving DecidableEq, Repr

/-- The compiled operator policy used when no trusted global configuration exists. -/
structure CompiledDefaults where
  archetype : String
  providers : NameMap ProviderBinding
  limits : RunLimits
  supervision : SupervisionBounds

/-- The operator defaults compiled into the program. -/
def compiledDefaults : CompiledDefaults where
  archetype := "builtin:standard@1"
  providers := .ofList [("codex", { command := ["codex"] })]
  limits := { maxConcurrentAgents := 8, maxAgentsPerRun := 16, maxSpawnsPerMinute := 8 }
  supervision :=
    { restartWindowSeconds := 60, maxLaunchAttempts := 3, restartBackoffSeconds := 1,
      startupTimeoutSeconds := 30, jobTimeoutSeconds := 3600, interruptGraceMs := 250,
      shutdownTimeoutMs := 5000, idleTimeoutSeconds := 60 }

/-- The capabilities of the standard lead. -/
def leadCapabilities : List String :=
  ["spawn:worker", "spawn:reviewer", "send:*", "task:*", "logs:*", "project:attach",
    "workspace:integrate"]

/-- The capabilities of a standard worker. -/
def workerCapabilities : List String :=
  ["send:lead", "send:peer", "task:read", "task:claim", "task:comment"]

/-- The capabilities of a standard reviewer. -/
def reviewerCapabilities : List String :=
  ["send:lead", "task:read", "task:comment"]

/-- The grants of compiled capabilities, which are all valid. -/
def compiledCapabilities (values : List String) : List CapabilityGrant :=
  values.filterMap CapabilityGrant.parse

/-- The instructions of the standard lead. -/
def standardLeadInstructions : String :=
  "Coordinate work through Coterie. Delegate independent implementation and\n" ++
    "review tasks when useful, and report consolidated outcomes to the user."

/-- The sealed `builtin:standard@1` archetype. -/
def builtinStandard : ArchetypeDefinition where
  reference := "builtin:standard@1"
  lead := "lead"
  permissionProfiles := .ofList
    [("interactive",
        { filesystem := .projectWrite, network := .providerDefault, approvals := .interactive,
          approvalReviewer := .user }),
      ("worker",
        { filesystem := .workspaceWrite, network := .deny, approvals := .never,
          approvalReviewer := .user }),
      ("review",
        { filesystem := .readOnly, network := .deny, approvals := .never,
          approvalReviewer := .user })]
  roles := .ofList
    [("lead",
        { provider := "codex", mode := .interactive, maxInstances := none, workspace := .project,
          permissionProfile := "interactive", instructions := some standardLeadInstructions,
          capabilities := compiledCapabilities leadCapabilities }),
      ("worker",
        { provider := "codex", mode := .job, maxInstances := some 3, workspace := .worktree,
          permissionProfile := "worker", instructions := none,
          capabilities := compiledCapabilities workerCapabilities }),
      ("reviewer",
        { provider := "codex", mode := .job, maxInstances := some 1, workspace := .readOnly,
          permissionProfile := "review", instructions := none,
          capabilities := compiledCapabilities reviewerCapabilities })]

end Coterie
