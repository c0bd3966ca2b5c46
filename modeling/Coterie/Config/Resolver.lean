/-
  Coterie.Config.Resolver

  Resolution of a configuration (`config/input.rs`, `config/resolver.rs`).  The first half reads
  the trusted global layer alone: providers, project roots, limits, supervision, permission
  profiles and archetypes.  The second half selects an archetype and applies the restrictions of
  the project and of the operator to it.

  Of the origins of the values (`config/provenance.rs`) the ones are kept that admission names: those
  of the limits, and of the activation and the capacity of roles.

  A map is read in the order of its keys, as in the source, so that the error reported first is the
  source's.  An index or an `expect` that the source takes for granted is the error `missing`.
-/

import Coterie.Base.Except
import Coterie.Config.Policy

namespace Coterie

/-! ## Inputs -/

/-- The layers of a configuration. -/
inductive ConfigLayer where
  | compiled
  | builtin
  | global
  | project
  | operator
deriving DecidableEq, Repr

def ConfigLayer.asStr : ConfigLayer → String
  | .compiled => "compiled"
  | .builtin  => "builtin"
  | .global   => "global"
  | .project  => "project"
  | .operator => "operator"

/-- Why a configuration is refused. -/
inductive ConfigError where
  | invalid (layer : ConfigLayer) (field reason : String)
  | missing (what : String)
deriving DecidableEq, Repr

/-- A provider, as far as one file defines it. -/
structure ProviderInput where
  command : Option (List String) := none
deriving DecidableEq, Repr

/-- Limits that a layer sets. -/
structure LimitOverrides where
  maxConcurrentAgents : Option Nat := none
  maxAgentsPerRun : Option Nat := none
  maxSpawnsPerMinute : Option Nat := none
deriving DecidableEq, Repr

/-- Supervision bounds that the global layer sets. -/
structure SupervisionOverrides where
  restartWindowSeconds : Option Int := none
  maxLaunchAttempts : Option Int := none
  restartBackoffSeconds : Option Int := none
  startupTimeoutSeconds : Option Int := none
  jobTimeoutSeconds : Option Int := none
  interruptGraceMs : Option Int := none
  shutdownTimeoutMs : Option Int := none
  idleTimeoutSeconds : Option Int := none
deriving DecidableEq, Repr

/-- A permission profile, as far as the files define it. -/
structure ProfileInput where
  filesystem : Option FilesystemPolicy := none
  network : Option NetworkPolicy := none
  approvals : Option ApprovalPolicy := none
  approvalReviewer : Option ApprovalReviewer := none
deriving DecidableEq, Repr

/-- A role, as far as the files define it. -/
structure RoleInput where
  provider : Option String := none
  mode : Option RoleMode := none
  maxInstances : Option Nat := none
  workspace : Option WorkspacePolicy := none
  permissionProfile : Option String := none
  instructions : Option String := none
  capabilities : Option (List String) := none
deriving DecidableEq, Repr

/-- An archetype, as far as the files define it. -/
structure ArchetypeInput where
  lead : Option String := none
  roles : NameMap RoleInput := ∅

/-- What a layer restricts of a role. -/
structure RoleRestriction where
  enabled : Option Bool := none
  maxInstances : Option Nat := none
  permissionProfile : Option String := none
deriving DecidableEq, Repr

/-- Trusted operator definitions. -/
structure GlobalConfig where
  archetype : Option String := none
  includes : Option (List String) := none
  allowedProjectRoots : Option (List String) := none
  providers : NameMap ProviderInput := ∅
  limits : LimitOverrides := {}
  supervision : SupervisionOverrides := {}
  permissionProfiles : NameMap ProfileInput := ∅
  archetypes : NameMap ArchetypeInput := ∅

/-- Untrusted repository requests can only select definitions and restrict policy. -/
structure ProjectConfig where
  archetype : Option String := none
  limits : LimitOverrides := {}
  roles : NameMap RoleRestriction := ∅

/-- Explicit operator input from CLI flags rather than an untrusted file. -/
structure OperatorOverrides where
  archetype : Option String := none
  limits : LimitOverrides := {}
  roles : NameMap RoleRestriction := ∅

/-- Where a configured value comes from. -/
structure ConfigSource where
  layer : ConfigLayer
  field : String
deriving DecidableEq, Repr

/-- The origins of values by their fields. -/
abbrev Provenance : Type := NameMap ConfigSource

/-- Resolved values are distinct from the unmodified, versioned archetype. -/
structure EffectiveConfig where
  archetype : ArchetypeDefinition
  providers : NameMap ProviderBinding
  allowedProjectRoots : List String
  limits : RunLimits
  supervision : SupervisionBounds
  roles : NameMap EffectiveRole
  provenance : Provenance

/-! ## Checks -/

/-- A refusal of the global layer. -/
def invalidGlobal (field reason : String) : ConfigError :=
  .invalid .global field reason

/-- The value, or the error that there is none. -/
def ConfigError.okOr {α : Type} (error : ConfigError) : Option α → Except ConfigError α
  | some a => .ok a
  | none => .error error

/-- Refuse a name with other characters. -/
def checkName (name field : String) : Except ConfigError Unit :=
  if validName name = true then .ok ()
  else .error (invalidGlobal field
    "names must contain only ASCII letters, digits, underscores, or hyphens")

/-- A version is a positive number of 32 bits in canonical form. -/
def validVersion (version : String) : Bool :=
  (Text.decimal? version).any fun number =>
    decide (0 < number) && decide (number < 2 ^ 32) && number.repr == version

/-- The reference `space:name@version`. -/
def validReference (reference space : String) : Bool :=
  match Text.splitOnce? ':' reference with
  | none => false
  | some (start, rest) =>
      match Text.splitOnce? '@' rest with
      | none => false
      | some (name, version) => start == space && validName name && validVersion version

/-- A field that must be given. -/
def required {α : Type} (value : Option α) (field : String) : Except ConfigError α :=
  (invalidGlobal field "required field is missing after merging trusted configuration").okOr value

/-- The map of what a function returns for each entry, and its first error. -/
def NameMap.mapEntries {α β : Type} (f : String → α → Except ConfigError β) (entries : NameMap α) :
    Except ConfigError (NameMap β) :=
  entries.toList.foldlM (fun mapped entry => do
    let value ← f entry.1 entry.2
    pure (mapped.insert entry.1 value)) ∅

/-! ## The trusted layer -/

/-- A command has an executable, and no argument contains a NUL byte. -/
def validCommand (command : List String) : Bool :=
  command.head?.any (fun program => !program.isEmpty) &&
    command.all fun argument => !argument.toList.contains '\u0000'

/-- Add one provider of the global layer to the providers. -/
def resolveProvider (providers : NameMap ProviderBinding) (entry : String × ProviderInput) :
    Except ConfigError (NameMap ProviderBinding) := do
  let name := entry.1
  checkName name s!"providers.{name}"
  let command ← (invalidGlobal s!"providers.{name}.command"
    "provider requires a command argument array").okOr
      (entry.2.command.or (providers[name]?.map (·.command)))
  Except.refuseIf (validCommand command = false)
    (invalidGlobal s!"providers.{name}.command"
      "command requires a nonempty executable and arguments without NUL bytes")
  pure (providers.insert name { command := command })

/-- A limit that a layer gives must be positive and within the trusted one. -/
def checkLimit (layer : ConfigLayer) (field : String) (input : Option Nat) (bounded : Nat) :
    Except ConfigError Unit :=
  match input with
  | none => .ok ()
  | some value =>
      if value = 0 ∨ value ≠ bounded then
        .error (.invalid layer field
          "limit must be positive and cannot exceed trusted operator policy")
      else .ok ()

/-- The limits that a layer asks for. -/
def LimitOverrides.requested (input : LimitOverrides) (effective : RunLimits) : RunLimits where
  maxConcurrentAgents := input.maxConcurrentAgents.getD effective.maxConcurrentAgents
  maxAgentsPerRun := input.maxAgentsPerRun.getD effective.maxAgentsPerRun
  maxSpawnsPerMinute := input.maxSpawnsPerMinute.getD effective.maxSpawnsPerMinute

/-- The limits after a layer. -/
def applyLimits (effective : RunLimits) (input : LimitOverrides) (ceiling : Option RunLimits)
    (layer : ConfigLayer) : Except ConfigError RunLimits := do
  let requested := input.requested effective
  let bounded := ceiling.elim requested requested.intersect
  checkLimit layer "limits.max_concurrent_agents" input.maxConcurrentAgents
    bounded.maxConcurrentAgents
  checkLimit layer "limits.max_agents_per_run" input.maxAgentsPerRun bounded.maxAgentsPerRun
  checkLimit layer "limits.max_spawns_per_minute" input.maxSpawnsPerMinute
    bounded.maxSpawnsPerMinute
  pure bounded

/-- One bound of the supervision policy. -/
def applyBound (field : String) (input : Option Int) (current : Int) : Except ConfigError Int :=
  match input with
  | none => .ok current
  | some value =>
      if value ≤ 0 ∨ value > i64Max / 1000 then
        .error (invalidGlobal field
          "supervision bounds must be positive and fit millisecond arithmetic")
      else .ok value

/-- The idle timeout, which may be zero. -/
def applyIdleTimeout (input : Option Int) (current : Int) : Except ConfigError Int :=
  match input with
  | none => .ok current
  | some value =>
      if 0 ≤ value ∧ value ≤ i64Max / 1000 then .ok value
      else .error (invalidGlobal "supervision.idle_timeout_seconds"
        "idle timeout must be nonnegative and fit millisecond arithmetic")

/-- The supervision policy of the global layer. -/
def resolveSupervision (policy : SupervisionBounds) (input : SupervisionOverrides) :
    Except ConfigError SupervisionBounds := do
  let restartWindowSeconds ← applyBound "supervision.restart_window_seconds"
    input.restartWindowSeconds policy.restartWindowSeconds
  let maxLaunchAttempts ← applyBound "supervision.max_launch_attempts"
    input.maxLaunchAttempts policy.maxLaunchAttempts
  let restartBackoffSeconds ← applyBound "supervision.restart_backoff_seconds"
    input.restartBackoffSeconds policy.restartBackoffSeconds
  let startupTimeoutSeconds ← applyBound "supervision.startup_timeout_seconds"
    input.startupTimeoutSeconds policy.startupTimeoutSeconds
  let jobTimeoutSeconds ← applyBound "supervision.job_timeout_seconds"
    input.jobTimeoutSeconds policy.jobTimeoutSeconds
  let interruptGraceMs ← applyBound "supervision.interrupt_grace_ms"
    input.interruptGraceMs policy.interruptGraceMs
  let shutdownTimeoutMs ← applyBound "supervision.shutdown_timeout_ms"
    input.shutdownTimeoutMs policy.shutdownTimeoutMs
  let idleTimeoutSeconds ← applyIdleTimeout input.idleTimeoutSeconds policy.idleTimeoutSeconds
  Except.refuseIf (interruptGraceMs ≥ shutdownTimeoutMs)
    (invalidGlobal "supervision.interrupt_grace_ms"
      "interrupt grace must be shorter than the overall shutdown timeout")
  pure
    { restartWindowSeconds := restartWindowSeconds
      maxLaunchAttempts := maxLaunchAttempts
      restartBackoffSeconds := restartBackoffSeconds
      startupTimeoutSeconds := startupTimeoutSeconds
      jobTimeoutSeconds := jobTimeoutSeconds
      interruptGraceMs := interruptGraceMs
      shutdownTimeoutMs := shutdownTimeoutMs
      idleTimeoutSeconds := idleTimeoutSeconds }

/-- One trusted permission profile. -/
def resolveProfile (name : String) (input : ProfileInput) :
    Except ConfigError PermissionProfile := do
  let start := s!"permission_profiles.{name}"
  checkName name start
  Except.refuseIf (input.filesystem = some .unrestricted ∧ input.network = some .deny)
    (invalidGlobal s!"{start}.network"
      ("unrestricted access disables the network sandbox; select provider-default or a " ++
        "sandboxed filesystem policy"))
  Except.refuseIf (input.approvalReviewer = some .autoReview ∧ input.approvals = some .never)
    (invalidGlobal s!"{start}.approval_reviewer"
      "automatic review requires interactive approvals")
  let filesystem ← required input.filesystem s!"{start}.filesystem"
  let network ← required input.network s!"{start}.network"
  let approvals ← required input.approvals s!"{start}.approvals"
  pure
    { filesystem := filesystem
      network := network
      approvals := approvals
      approvalReviewer := input.approvalReviewer.getD .user }

/-- The trusted permission profiles. -/
def resolveProfiles (inputs : NameMap ProfileInput) :
    Except ConfigError (NameMap PermissionProfile) :=
  inputs.mapEntries resolveProfile

/-- The grants of a role. -/
def resolveCapabilities (field : String) (grants : List String) :
    Except ConfigError (List CapabilityGrant) :=
  grants.mapM fun grant =>
    (invalidGlobal field
      "capability requires a supported namespace and an action name or *").okOr
        (CapabilityGrant.parse grant)

/-- The roles of an archetype and the profiles that they use, as far as they were read. -/
structure ArchetypeRoles where
  usedProfiles : NameMap PermissionProfile
  roles : NameMap RoleDefinition

/-- Add one role to those that were read. -/
def resolveRole (start : String) (profiles : NameMap PermissionProfile)
    (providers : NameMap ProviderBinding) (read : ArchetypeRoles) (entry : String × RoleInput) :
    Except ConfigError ArchetypeRoles := do
  let name := entry.1
  let input := entry.2
  let start := s!"{start}.roles.{name}"
  checkName name start
  let provider ← required input.provider s!"{start}.provider"
  Except.refuseIf (providers.contains provider = false)
    (invalidGlobal s!"{start}.provider" "role references a missing provider binding")
  let profile ← required input.permissionProfile s!"{start}.permission_profile"
  let value ← (invalidGlobal s!"{start}.permission_profile"
    "role references a missing trusted permission profile").okOr profiles[profile]?
  let grants ← required input.capabilities s!"{start}.capabilities"
  let capabilities ← resolveCapabilities s!"{start}.capabilities" grants
  let mode ← required input.mode s!"{start}.mode"
  let workspace ← required input.workspace s!"{start}.workspace"
  pure
    { usedProfiles := read.usedProfiles.insert profile value
      roles := read.roles.insert name
        { provider := provider
          mode := mode
          maxInstances := input.maxInstances
          workspace := workspace
          permissionProfile := profile
          instructions := input.instructions
          capabilities := capabilities } }

/-- One archetype of the global layer. -/
def resolveArchetype (reference : String) (input : ArchetypeInput)
    (profiles : NameMap PermissionProfile) (providers : NameMap ProviderBinding) :
    Except ConfigError ArchetypeDefinition := do
  let start := s!"archetypes.{reference}"
  let lead ← required input.lead s!"{start}.lead"
  let read ← input.roles.toList.foldlM (resolveRole start profiles providers) ⟨∅, ∅⟩
  let invalidLead := invalidGlobal s!"{start}.lead"
    "designated foreground role must exist and use interactive mode"
  let role ← invalidLead.okOr read.roles[lead]?
  Except.refuseIf (role.mode ≠ .interactive) invalidLead
  Except.refuseIf (role.workspace = .worktree)
    (invalidGlobal s!"{start}.roles.{lead}.workspace"
      ("the initial foreground agent has no task assignment; use project or read-only, and " ++
        "assign worktree roles to background tasks"))
  pure
    { reference := reference
      lead := lead
      permissionProfiles := read.usedProfiles
      roles := read.roles }

/-- Add one archetype of the global layer to the archetypes. -/
def addArchetype (profiles : NameMap PermissionProfile) (providers : NameMap ProviderBinding)
    (archetypes : NameMap ArchetypeDefinition) (entry : String × ArchetypeInput) :
    Except ConfigError (NameMap ArchetypeDefinition) := do
  let reference := entry.1
  Except.refuseIf (validReference reference "global" = false)
    (invalidGlobal s!"archetypes.{reference}"
      ("global definitions require a versioned global:name@N reference; builtin: is " ++
        "reserved"))
  let archetype ← resolveArchetype reference entry.2 profiles providers
  pure (archetypes.insert reference archetype)

/-- The definitions that the compiled defaults and the global layer make together. -/
structure TrustedConfig where
  allowedProjectRoots : List String
  providers : NameMap ProviderBinding
  limits : RunLimits
  supervision : SupervisionBounds
  profiles : NameMap PermissionProfile
  archetypes : NameMap ArchetypeDefinition

/-- A path is absolute. -/
def isAbsolute (path : String) : Bool :=
  path.toList.head? == some '/'

/-- The first half of `resolve`: what the global layer alone decides. -/
def resolveTrusted (global : GlobalConfig) : Except ConfigError TrustedConfig := do
  Except.refuseIf (global.includes.isSome = true)
    (invalidGlobal "includes"
      "includes must be expanded by the file loader before resolution")
  let allowedProjectRoots := global.allowedProjectRoots.getD []
  Except.refuseIf (allowedProjectRoots.any (fun path => !isAbsolute path) = true)
    (invalidGlobal "allowed_project_roots" "project roots must be absolute paths")
  let providers ← global.providers.toList.foldlM resolveProvider compiledDefaults.providers
  let limits ← applyLimits compiledDefaults.limits global.limits none .global
  let supervision ← resolveSupervision compiledDefaults.supervision global.supervision
  let profiles ← resolveProfiles global.permissionProfiles
  let archetypes ← global.archetypes.toList.foldlM (addArchetype profiles providers)
    (NameMap.ofList [(builtinStandard.reference, builtinStandard)])
  pure
    { allowedProjectRoots := allowedProjectRoots
      providers := providers
      limits := limits
      supervision := supervision
      profiles := profiles
      archetypes := archetypes }

/-! ## The untrusted layers -/

/-- A selected archetype must be defined. -/
def checkSelection (archetypes : NameMap ArchetypeDefinition) (layer : ConfigLayer)
    (selection : Option String) : Except ConfigError Unit :=
  if selection.any (fun reference => !archetypes.contains reference) = true then
    .error (.invalid layer "archetype"
      "unknown archetype; select an available versioned builtin: or global: definition")
  else .ok ()

/-- The role as its archetype declares it. -/
def RoleDefinition.ceiling (role : RoleDefinition) (archetype : ArchetypeDefinition) :
    Except ConfigError EffectiveRole := do
  let profile ← (ConfigError.missing role.permissionProfile).okOr
    archetype.permissionProfiles[role.permissionProfile]?
  pure { enabled := true, maxInstances := role.maxInstances, permissionProfile := profile }

/-- What a layer asks for a role. -/
def RoleRestriction.requested (restriction : RoleRestriction) (role : EffectiveRole)
    (profile : PermissionProfile) : EffectiveRole where
  enabled := restriction.enabled.getD role.enabled
  maxInstances := restriction.maxInstances.or role.maxInstances
  permissionProfile := profile

/-- The profile that a layer asks for. -/
def RoleRestriction.profile (restriction : RoleRestriction) (role : EffectiveRole)
    (profiles : NameMap PermissionProfile) (layer : ConfigLayer) (start : String) :
    Except ConfigError PermissionProfile :=
  match restriction.permissionProfile with
  | none => .ok role.permissionProfile
  | some profile =>
      (ConfigError.invalid layer s!"{start}.permission_profile"
        "restriction must select an existing trusted global permission profile").okOr
          profiles[profile]?

/-- Apply the restriction of one role. -/
def applyRole (profiles : NameMap PermissionProfile) (layer : ConfigLayer)
    (archetype : ArchetypeDefinition) (roles : NameMap EffectiveRole)
    (entry : String × RoleRestriction) : Except ConfigError (NameMap EffectiveRole) := do
  let name := entry.1
  let restriction := entry.2
  let start := s!"roles.{name}"
  let baseline ← (ConfigError.invalid layer start
    "restriction references an undeclared role").okOr (archetype.role name)
  let role ← (ConfigError.missing name).okOr roles[name]?
  Except.refuseIf (restriction.enabled = some false ∧ name = archetype.lead)
    (.invalid layer s!"{start}.enabled" "the designated foreground role cannot be disabled")
  let profile ← restriction.profile role profiles layer start
  let requested := restriction.requested role profile
  -- operator overrides may restore project reductions, but only to the selected trusted
  -- archetype; omitted fields retain project restrictions
  let ceiling ← baseline.ceiling archetype
  let bounded := requested.intersect ceiling
  Except.refuseIf (requested.maxInstances ≠ bounded.maxInstances)
    (.invalid layer s!"{start}.max_instances" "capacity exceeds the trusted archetype")
  Except.refuseIf (requested.permissionProfile ≠ bounded.permissionProfile)
    (.invalid layer s!"{start}.permission_profile"
      "permission profile exceeds or is incomparable with the trusted archetype profile")
  pure (roles.insert name bounded)

/-- Apply the restrictions of a layer. -/
def applyRoles (profiles : NameMap PermissionProfile) (layer : ConfigLayer)
    (archetype : ArchetypeDefinition) (roles : NameMap EffectiveRole)
    (restrictions : NameMap RoleRestriction) : Except ConfigError (NameMap EffectiveRole) :=
  restrictions.toList.foldlM (applyRole profiles layer archetype) roles

/-- An enabled role with a read-only workspace has a read-only filesystem. -/
def checkWorkspace (archetype : ArchetypeDefinition) (roles : NameMap EffectiveRole)
    (entry : String × RoleDefinition) : Except ConfigError Unit := do
  let role ← (ConfigError.missing entry.1).okOr roles[entry.1]?
  Except.refuseIf (role.enabled = true ∧ entry.2.workspace = .readOnly ∧
      role.permissionProfile.filesystem ≠ .readOnly)
    (invalidGlobal s!"archetypes.{archetype.reference}.roles.{entry.1}.workspace"
      "a read-only workspace requires an effective read-only filesystem permission profile")

/-- Some enabled role has full filesystem access. -/
def anyUnrestricted (roles : NameMap EffectiveRole) : Bool :=
  roles.toList.any fun entry =>
    entry.2.enabled && entry.2.permissionProfile.filesystem == .unrestricted

/-! ## Origins -/

/-- A value that a layer sets under its own name. -/
def Provenance.record (provenance : Provenance) (field : String) (layer : ConfigLayer) :
    Provenance :=
  provenance.insert field { layer, field }

/-- Only a value that is set has this origin. -/
def Provenance.recordIf (provenance : Provenance) (supplied : Bool) (field : String)
    (layer : ConfigLayer) : Provenance :=
  if supplied then provenance.record field layer else provenance

/-- The limits that a layer sets. -/
def recordLimits (provenance : Provenance) (limits : LimitOverrides) (layer : ConfigLayer) :
    Provenance :=
  ((provenance.recordIf limits.maxConcurrentAgents.isSome "limits.max_concurrent_agents" layer)
    |>.recordIf limits.maxAgentsPerRun.isSome "limits.max_agents_per_run" layer)
    |>.recordIf limits.maxSpawnsPerMinute.isSome "limits.max_spawns_per_minute" layer

/-- The layer that declares the capacity of a role: an archetype of the files without a capacity
    leaves it to the compiled defaults. -/
def capacityLayer (input : Option ArchetypeInput) (name : String) : ConfigLayer :=
  match input with
  | none => .builtin
  | some input =>
      if (input.roles[name]?).any (·.maxInstances.isNone) = true then .compiled else .global

/-- The roles of the selected archetype. -/
def recordArchetype (provenance : Provenance) (archetype : ArchetypeDefinition)
    (input : Option ArchetypeInput) : Provenance :=
  archetype.roles.toList.foldl (fun provenance entry =>
    (provenance.record s!"roles.{entry.1}.enabled" .compiled).insert
      s!"roles.{entry.1}.max_instances"
      { layer := capacityLayer input entry.1
        field := s!"archetypes.{archetype.reference}.roles.{entry.1}.max_instances" }) provenance

/-- The roles that a layer restricts. -/
def recordRoles (provenance : Provenance) (roles : NameMap RoleRestriction) (layer : ConfigLayer) :
    Provenance :=
  roles.toList.foldl (fun provenance entry =>
    (provenance.recordIf entry.2.enabled.isSome s!"roles.{entry.1}.enabled" layer).recordIf
      entry.2.maxInstances.isSome s!"roles.{entry.1}.max_instances" layer) provenance

/-- A later layer replaces the origins of an earlier one. -/
def resolveProvenance (global : GlobalConfig) (project : ProjectConfig)
    (operator : OperatorOverrides) (archetype : ArchetypeDefinition) : Provenance :=
  let provenance := recordLimits ∅ ⟨some compiledDefaults.limits.maxConcurrentAgents,
    some compiledDefaults.limits.maxAgentsPerRun,
    some compiledDefaults.limits.maxSpawnsPerMinute⟩ .compiled
  let provenance := recordLimits provenance global.limits .global
  let provenance := recordArchetype provenance archetype global.archetypes[archetype.reference]?
  let provenance := recordLimits provenance project.limits .project
  let provenance := recordRoles provenance project.roles .project
  let provenance := recordLimits provenance operator.limits .operator
  recordRoles provenance operator.roles .operator

/-- Resolves all authority before any runtime or provider side effect is possible. -/
def resolve (global : GlobalConfig) (project : ProjectConfig) (operator : OperatorOverrides) :
    Except ConfigError EffectiveConfig := do
  let trusted ← resolveTrusted global
  -- invalid lower-layer selectors must not disappear behind an operator choice
  checkSelection trusted.archetypes .global global.archetype
  checkSelection trusted.archetypes .project project.archetype
  checkSelection trusted.archetypes .operator operator.archetype
  let reference := ((operator.archetype.or project.archetype).or global.archetype).getD
    compiledDefaults.archetype
  let archetype ← (ConfigError.missing reference).okOr trusted.archetypes[reference]?
  let roles ← archetype.roles.mapEntries fun _ role => role.ceiling archetype
  let limits ← applyLimits trusted.limits project.limits (some trusted.limits) .project
  let roles ← applyRoles trusted.profiles .project archetype roles project.roles
  let limits ← applyLimits limits operator.limits (some trusted.limits) .operator
  let roles ← applyRoles trusted.profiles .operator archetype roles operator.roles
  archetype.roles.toList.forM (checkWorkspace archetype roles)
  Except.refuseIf (anyUnrestricted roles = true ∧
      operator.archetype.or global.archetype ≠ some reference)
    (.invalid .project "archetype"
      ("unrestricted access requires selecting this archetype in trusted global " ++
        "configuration or with --archetype"))
  pure
    { archetype := archetype
      providers := trusted.providers
      allowedProjectRoots := trusted.allowedProjectRoots
      limits := limits
      supervision := trusted.supervision
      roles := roles
      provenance := resolveProvenance global project operator archetype }

end Coterie
