/-
  Coterie.Config.Trust

  The project layer never widens trust.  What the trusted global layer defines bounds every
  configuration that `resolve` accepts: an invariant of the definitions (`ArchetypesSound`) is
  established by the first half of the resolver, and the bounds on the roles
  (`RolesWithin`) hold of the archetype's own roles and survive each restriction.
-/

import Coterie.Base.Except
import Coterie.Config.Resolver

namespace Coterie

theorem ConfigError.okOr_eq_ok {α : Type} {error : ConfigError} {value : Option α} {a : α} :
    error.okOr value = .ok a ↔ value = some a := by
  cases value with
  | none =>
      constructor <;> intro h <;> cases h
  | some b =>
      constructor <;> intro h <;> cases h <;> rfl

/-! ## The trusted definitions -/

/-- All profiles of a map are coherent. -/
def ProfilesCoherent (profiles : NameMap PermissionProfile) : Prop :=
  ∀ (name : String) (profile : PermissionProfile),
    profiles[name]? = some profile → profile.Coherent

/-- What holds of the definitions of the global layer. -/
structure ArchetypesSound (archetypes : NameMap ArchetypeDefinition) : Prop where
  /-- An archetype is stored under its own reference. -/
  named : ∀ (reference : String) (archetype : ArchetypeDefinition),
    archetypes[reference]? = some archetype → archetype.reference = reference
  /-- The profiles of an archetype are coherent. -/
  coherent : ∀ (reference : String) (archetype : ArchetypeDefinition),
    archetypes[reference]? = some archetype → ProfilesCoherent archetype.permissionProfiles

/-- A profile that the resolver accepts is coherent. -/
theorem resolveProfile_coherent {name : String} {input : ProfileInput}
    {profile : PermissionProfile} (h : resolveProfile name input = .ok profile) :
    profile.Coherent := by
  obtain ⟨_, -, h⟩ := Except.bind_eq_ok.mp h
  obtain ⟨_, -, h⟩ := Except.bind_eq_ok.mp h
  obtain ⟨_, hreview, h⟩ := Except.bind_eq_ok.mp h
  have hreview := Except.refuseIf_eq_ok.mp hreview
  obtain ⟨_, -, h⟩ := Except.bind_eq_ok.mp h
  obtain ⟨_, -, h⟩ := Except.bind_eq_ok.mp h
  obtain ⟨approvals, happrovals, h⟩ := Except.bind_eq_ok.mp h
  have happrovals := ConfigError.okOr_eq_ok.mp happrovals
  obtain rfl := Except.pure_eq_ok.mp h
  intro hnever
  dsimp only at hnever ⊢
  subst hnever
  -- an absent reviewer is the user, and automatic review was refused
  cases hreviewer : input.approvalReviewer with
  | none => rfl
  | some reviewer =>
      cases reviewer with
      | user => rfl
      | autoReview => exact absurd ⟨hreviewer, happrovals⟩ hreview

/-- Reading a map after one more entry. -/
theorem NameMap.of_insert {α : Type} {P : String → α → Prop} {entries : NameMap α} {key : String}
    {value : α} (hentries : ∀ name found, entries[name]? = some found → P name found)
    (hvalue : P key value) :
    ∀ name found, (entries.insert key value)[name]? = some found → P name found := by
  intro name found hfound
  rw [Std.TreeMap.getElem?_insert] at hfound
  by_cases hname : compare key name = .eq
  · rw [if_pos hname] at hfound
    cases hfound
    obtain rfl := Std.LawfulEqCmp.eq_of_compare hname
    exact hvalue
  · rw [if_neg hname] at hfound
    exact hentries name found hfound

theorem NameMap.of_empty {α : Type} {P : String → α → Prop} :
    ∀ name found, (∅ : NameMap α)[name]? = some found → P name found := by
  intro name found hfound
  simp at hfound

/-- Each value of the map comes from an entry. -/
theorem NameMap.mapEntries_ok {α β : Type} {f : String → α → Except ConfigError β}
    {entries : NameMap α} {mapped : NameMap β} (h : entries.mapEntries f = .ok mapped) :
    ∀ name value, mapped[name]? = some value →
      ∃ entry, entries[name]? = some entry ∧ f name entry = .ok value := by
  refine Except.foldlM_keeps (P := fun read : NameMap β => ∀ name value,
    read[name]? = some value → ∃ entry, entries[name]? = some entry ∧ f name entry = .ok value)
    ?_ NameMap.of_empty h
  intro read entry hentry next hread hnext
  obtain ⟨value, hvalue, hnext⟩ := Except.bind_eq_ok.mp hnext
  obtain rfl := Except.pure_eq_ok.mp hnext
  exact NameMap.of_insert hread ⟨entry.2, Std.TreeMap.mem_toList_iff_getElem?_eq_some.mp hentry,
    hvalue⟩

theorem builtinStandard_coherent : ProfilesCoherent builtinStandard.permissionProfiles := by
  intro name profile h
  have hmem := Std.TreeMap.mem_toList_iff_getElem?_eq_some.mpr h
  have hall : ∀ entry ∈ builtinStandard.permissionProfiles.toList, entry.2.Coherent := by
    decide +kernel
  exact hall _ hmem

/-- The archetypes of the global layer are sound. -/
theorem addArchetype_sound {profiles : NameMap PermissionProfile}
    {providers : NameMap ProviderBinding} {archetypes next : NameMap ArchetypeDefinition}
    {entry : String × ArchetypeInput}
    (hprofiles : ProfilesCoherent profiles) (hsound : ArchetypesSound archetypes)
    (h : addArchetype profiles providers archetypes entry = .ok next) :
    ArchetypesSound next := by
  obtain ⟨_, -, h⟩ := Except.bind_eq_ok.mp h
  obtain ⟨archetype, harchetype, h⟩ := Except.bind_eq_ok.mp h
  obtain rfl := Except.pure_eq_ok.mp h
  obtain ⟨lead, -, harchetype⟩ := Except.bind_eq_ok.mp harchetype
  obtain ⟨read, hread, harchetype⟩ := Except.bind_eq_ok.mp harchetype
  obtain ⟨_, -, harchetype⟩ := Except.bind_eq_ok.mp harchetype
  obtain ⟨_, -, harchetype⟩ := Except.bind_eq_ok.mp harchetype
  obtain ⟨_, -, harchetype⟩ := Except.bind_eq_ok.mp harchetype
  obtain rfl := Except.pure_eq_ok.mp harchetype
  -- the used profiles are among the trusted ones
  have hused : ProfilesCoherent read.usedProfiles := by
    refine Except.foldlM_keeps (P := fun read : ArchetypeRoles =>
      ProfilesCoherent read.usedProfiles) ?_ ?_ hread
    · intro read entry _ next hread hnext
      obtain ⟨_, -, hnext⟩ := Except.bind_eq_ok.mp hnext
      obtain ⟨_, -, hnext⟩ := Except.bind_eq_ok.mp hnext
      obtain ⟨_, -, hnext⟩ := Except.bind_eq_ok.mp hnext
      obtain ⟨profile, -, hnext⟩ := Except.bind_eq_ok.mp hnext
      obtain ⟨value, hvalue, hnext⟩ := Except.bind_eq_ok.mp hnext
      obtain ⟨_, -, hnext⟩ := Except.bind_eq_ok.mp hnext
      obtain ⟨_, -, hnext⟩ := Except.bind_eq_ok.mp hnext
      obtain ⟨_, -, hnext⟩ := Except.bind_eq_ok.mp hnext
      obtain ⟨_, -, hnext⟩ := Except.bind_eq_ok.mp hnext
      obtain rfl := Except.pure_eq_ok.mp hnext
      exact NameMap.of_insert hread (hprofiles profile value (ConfigError.okOr_eq_ok.mp hvalue))
    · exact NameMap.of_empty (P := fun _ (profile : PermissionProfile) => profile.Coherent)
  constructor
  · exact NameMap.of_insert
      (P := fun reference (archetype : ArchetypeDefinition) => archetype.reference = reference)
      hsound.named rfl
  · exact NameMap.of_insert (P := fun _ (archetype : ArchetypeDefinition) =>
      ProfilesCoherent archetype.permissionProfiles) hsound.coherent hused

theorem resolveTrusted_sound {global : GlobalConfig} {trusted : TrustedConfig}
    (h : resolveTrusted global = .ok trusted) : ArchetypesSound trusted.archetypes := by
  obtain ⟨_, -, h⟩ := Except.bind_eq_ok.mp h
  obtain ⟨_, -, h⟩ := Except.bind_eq_ok.mp h
  obtain ⟨providers, -, h⟩ := Except.bind_eq_ok.mp h
  obtain ⟨_, -, h⟩ := Except.bind_eq_ok.mp h
  obtain ⟨_, -, h⟩ := Except.bind_eq_ok.mp h
  obtain ⟨profiles, hprofiles, h⟩ := Except.bind_eq_ok.mp h
  obtain ⟨archetypes, harchetypes, h⟩ := Except.bind_eq_ok.mp h
  obtain rfl := Except.pure_eq_ok.mp h
  have hcoherent : ProfilesCoherent profiles := by
    intro name profile hprofile
    obtain ⟨input, -, hinput⟩ := NameMap.mapEntries_ok hprofiles name profile hprofile
    exact resolveProfile_coherent hinput
  refine Except.foldlM_keeps (P := ArchetypesSound)
    (fun _ _ _ _ hsound => addArchetype_sound hcoherent hsound) ?_ harchetypes
  have hbuiltin : ∀ {P : String → ArchetypeDefinition → Prop},
      P builtinStandard.reference builtinStandard → ∀ reference archetype,
        (NameMap.ofList [(builtinStandard.reference, builtinStandard)])[reference]? =
          some archetype → P reference archetype := by
    intro P hP
    have hempty : ∀ reference archetype,
        (∅ : NameMap ArchetypeDefinition)[reference]? = some archetype → P reference archetype :=
      NameMap.of_empty
    exact NameMap.of_insert hempty hP
  constructor
  · exact hbuiltin (P := fun reference archetype => archetype.reference = reference) rfl
  · exact hbuiltin (P := fun _ archetype => ProfilesCoherent archetype.permissionProfiles)
      builtinStandard_coherent

/-! ## Bounds -/

/-- Every role is bounded by its declaration in the archetype. -/
def RolesWithin (archetype : ArchetypeDefinition) (roles : NameMap EffectiveRole) : Prop :=
  ∀ (name : String) (role : EffectiveRole), roles[name]? = some role →
    ∃ baseline profile, archetype.role name = some baseline ∧
      archetype.permissionProfiles[baseline.permissionProfile]? = some profile ∧
      CapacityWithin role.maxInstances baseline.maxInstances ∧
      role.permissionProfile.noMorePermissiveThan profile = true

theorem ceiling_eq_ok {role : RoleDefinition} {archetype : ArchetypeDefinition}
    {ceiling : EffectiveRole} (h : role.ceiling archetype = .ok ceiling) :
    ∃ profile, archetype.permissionProfiles[role.permissionProfile]? = some profile ∧
      ceiling = ⟨true, role.maxInstances, profile⟩ := by
  obtain ⟨profile, hprofile, h⟩ := Except.bind_eq_ok.mp h
  exact ⟨profile, ConfigError.okOr_eq_ok.mp hprofile, (Except.pure_eq_ok.mp h).symm⟩

/-- A capacity is within itself. -/
theorem capacityWithin_self (capacity : Option Nat) : CapacityWithin capacity capacity := by
  cases capacity with
  | none => trivial
  | some value => exact ⟨value, rfl, Nat.le_refl value⟩

/-- The declared roles are within their declarations. -/
theorem rolesWithin_declared {archetype : ArchetypeDefinition} {roles : NameMap EffectiveRole}
    (hcoherent : ProfilesCoherent archetype.permissionProfiles)
    (h : archetype.roles.mapEntries (fun _ role => role.ceiling archetype) = .ok roles) :
    RolesWithin archetype roles := by
  intro name role hrole
  obtain ⟨baseline, hbaseline, hceiling⟩ := NameMap.mapEntries_ok h name role hrole
  obtain ⟨profile, hprofile, rfl⟩ := ceiling_eq_ok hceiling
  exact ⟨baseline, profile, hbaseline, hprofile, capacityWithin_self _,
    PermissionProfile.noMorePermissiveThan_refl (hcoherent _ _ hprofile)⟩

/-- A restriction that is accepted leaves the role within its declaration. -/
theorem applyRole_within {profiles : NameMap PermissionProfile} {layer : ConfigLayer}
    {archetype : ArchetypeDefinition} {roles next : NameMap EffectiveRole}
    {entry : String × RoleRestriction} (hwithin : RolesWithin archetype roles)
    (h : applyRole profiles layer archetype roles entry = .ok next) :
    RolesWithin archetype next := by
  obtain ⟨baseline, hbaseline, h⟩ := Except.bind_eq_ok.mp h
  obtain ⟨role, -, h⟩ := Except.bind_eq_ok.mp h
  obtain ⟨_, -, h⟩ := Except.bind_eq_ok.mp h
  obtain ⟨requestedProfile, -, h⟩ := Except.bind_eq_ok.mp h
  obtain ⟨ceiling, hceiling, h⟩ := Except.bind_eq_ok.mp h
  obtain ⟨_, -, h⟩ := Except.bind_eq_ok.mp h
  obtain ⟨_, hprofile, h⟩ := Except.bind_eq_ok.mp h
  obtain rfl := Except.pure_eq_ok.mp h
  obtain ⟨profile, hdeclared, rfl⟩ := ceiling_eq_ok hceiling
  -- the requested profile is its own intersection with the declared one
  have hsame : requestedProfile = requestedProfile.intersect profile :=
    not_not.mp (Except.refuseIf_eq_ok.mp hprofile)
  refine NameMap.of_insert hwithin ⟨baseline, profile, ConfigError.okOr_eq_ok.mp hbaseline,
    hdeclared, capacityWithin_sharedCapacity _ _, ?_⟩
  show (requestedProfile.intersect profile).noMorePermissiveThan profile = true
  unfold PermissionProfile.noMorePermissiveThan
  rw [← hsame, ← hsame, beq_iff_eq]

theorem applyRoles_within {profiles : NameMap PermissionProfile} {layer : ConfigLayer}
    {archetype : ArchetypeDefinition} {roles next : NameMap EffectiveRole}
    {restrictions : NameMap RoleRestriction} (hwithin : RolesWithin archetype roles)
    (h : applyRoles profiles layer archetype roles restrictions = .ok next) :
    RolesWithin archetype next :=
  Except.foldlM_keeps (P := RolesWithin archetype)
    (fun _ _ _ _ hread => applyRole_within hread) hwithin h

/-- Limits applied under a ceiling are within it. -/
theorem applyLimits_le {effective limits ceiling : RunLimits} {input : LimitOverrides}
    {layer : ConfigLayer} (h : applyLimits effective input (some ceiling) layer = .ok limits) :
    limits ≤ ceiling := by
  obtain ⟨_, -, h⟩ := Except.bind_eq_ok.mp h
  obtain ⟨_, -, h⟩ := Except.bind_eq_ok.mp h
  obtain ⟨_, -, h⟩ := Except.bind_eq_ok.mp h
  obtain rfl := Except.pure_eq_ok.mp h
  exact RunLimits.intersect_le _ _

/-! ## The resolver -/

/-- The values of a configuration that only the trusted layers may decide, and the bounds on the
    others. -/
structure EffectiveConfig.WithinTrust (effective : EffectiveConfig) (trusted : TrustedConfig) :
    Prop where
  /-- The archetype is the trusted definition of its reference. -/
  definition : trusted.archetypes[effective.archetype.reference]? = some effective.archetype
  providers : effective.providers = trusted.providers
  allowedProjectRoots : effective.allowedProjectRoots = trusted.allowedProjectRoots
  supervision : effective.supervision = trusted.supervision
  limits : effective.limits ≤ trusted.limits
  roles : RolesWithin effective.archetype effective.roles

theorem not_anyUnrestricted {roles : NameMap EffectiveRole} (h : ¬anyUnrestricted roles = true)
    {name : String} {role : EffectiveRole} (hrole : roles[name]? = some role)
    (henabled : role.enabled = true) : role.permissionProfile.filesystem ≠ .unrestricted := by
  intro hfull
  refine h (List.any_eq_true.mpr ⟨(name, role), ?_, ?_⟩)
  · exact Std.TreeMap.mem_toList_iff_getElem?_eq_some.mpr hrole
  · simp [henabled, hfull]

/-- Whatever the project layer says, an accepted configuration is within what the trusted global
    layer defines for the archetype that it selects: a capability is granted to a role exactly
    when the trusted archetype grants it, and unless the operator or the global layer selects that
    archetype no enabled role has full filesystem access. -/
theorem project_never_widens_trust {global : GlobalConfig} {project : ProjectConfig}
    {operator : OperatorOverrides} {effective : EffectiveConfig}
    (h : resolve global project operator = .ok effective) :
    ∃ trusted, resolveTrusted global = .ok trusted ∧ effective.WithinTrust trusted ∧
      (∃ definition, trusted.archetypes[effective.archetype.reference]? = some definition ∧
        ∀ role capability, effective.archetype.authorize role capability =
          definition.authorize role capability) ∧
      (operator.archetype ≠ some effective.archetype.reference →
        global.archetype ≠ some effective.archetype.reference →
        ∀ (name : String) (role : EffectiveRole), effective.roles[name]? = some role →
          role.enabled = true → role.permissionProfile.filesystem ≠ .unrestricted) := by
  obtain ⟨trusted, htrusted, h⟩ := Except.bind_eq_ok.mp h
  obtain ⟨_, -, h⟩ := Except.bind_eq_ok.mp h
  obtain ⟨_, -, h⟩ := Except.bind_eq_ok.mp h
  obtain ⟨_, -, h⟩ := Except.bind_eq_ok.mp h
  obtain ⟨archetype, harchetype, h⟩ := Except.bind_eq_ok.mp h
  have harchetype := ConfigError.okOr_eq_ok.mp harchetype
  obtain ⟨declared, hdeclared, h⟩ := Except.bind_eq_ok.mp h
  obtain ⟨_, -, h⟩ := Except.bind_eq_ok.mp h
  obtain ⟨restricted, hrestricted, h⟩ := Except.bind_eq_ok.mp h
  obtain ⟨limits, hlimits, h⟩ := Except.bind_eq_ok.mp h
  obtain ⟨roles, hroles, h⟩ := Except.bind_eq_ok.mp h
  obtain ⟨_, -, h⟩ := Except.bind_eq_ok.mp h
  obtain ⟨_, hunrestricted, h⟩ := Except.bind_eq_ok.mp h
  have hunrestricted := Except.refuseIf_eq_ok.mp hunrestricted
  obtain rfl := Except.pure_eq_ok.mp h
  have hsound := resolveTrusted_sound htrusted
  have hreference := hsound.named _ _ harchetype
  have hdefinition : trusted.archetypes[archetype.reference]? = some archetype := by
    rw [hreference]
    exact harchetype
  have hwithin : RolesWithin archetype roles :=
    applyRoles_within (applyRoles_within
      (rolesWithin_declared (hsound.coherent _ _ harchetype) hdeclared) hrestricted) hroles
  refine ⟨trusted, htrusted, ⟨hdefinition, rfl, rfl, rfl, applyLimits_le hlimits, hwithin⟩,
    ⟨archetype, hdefinition, fun _ _ => rfl⟩, ?_⟩
  intro hoperator hglobal name role hrole henabled
  dsimp only at hoperator hglobal hrole
  refine not_anyUnrestricted (fun hany => hunrestricted ⟨hany, ?_⟩) hrole henabled
  rw [← hreference]
  cases hchosen : operator.archetype with
  | none => exact hglobal
  | some selected =>
      rw [hchosen] at hoperator
      exact hoperator

/-- A project that asks for one agent at a time under the compiled defaults. -/
theorem project_never_widens_trust_limits : ∃ effective trusted,
    resolve {} { limits := { maxConcurrentAgents := some 1 } } {} = .ok effective ∧
      resolveTrusted {} = .ok trusted ∧ effective.WithinTrust trusted := by
  have haccepted : (resolve {} { limits := { maxConcurrentAgents := some 1 } } {}).toBool =
      true := by
    decide +kernel
  cases hresolve : resolve {} { limits := { maxConcurrentAgents := some 1 } } {} with
  | error e =>
      rw [hresolve] at haccepted
      cases haccepted
  | ok effective =>
      obtain ⟨trusted, htrusted, hwithin, -⟩ := project_never_widens_trust hresolve
      exact ⟨effective, trusted, rfl, htrusted, hwithin⟩

end Coterie
