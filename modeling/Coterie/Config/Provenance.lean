/-
  Coterie.Config.Provenance

  The origins of the values of a resolved configuration (`config/provenance.rs`).  Every value that
  admission names has one: a layer may replace the origin of a value but removes none.
-/

import Coterie.Config.Resolver

namespace Coterie

namespace Provenance

variable {provenance : Provenance} {other : String}

theorem mem_record (h : other ∈ provenance) (field : String) (layer : ConfigLayer) :
    other ∈ provenance.record field layer :=
  Std.TreeMap.mem_insert.mpr (.inr h)

theorem mem_recordIf (h : other ∈ provenance) (supplied : Bool) (field : String)
    (layer : ConfigLayer) : other ∈ provenance.recordIf supplied field layer := by
  unfold recordIf
  split
  · exact mem_record h field layer
  · exact h

/-- Recording one entry after the other keeps what is recorded. -/
theorem mem_foldl {α : Type} {step : Provenance → α → Provenance}
    (hstep : ∀ provenance entry, other ∈ provenance → other ∈ step provenance entry)
    (entries : List α) (h : other ∈ provenance) : other ∈ entries.foldl step provenance := by
  induction entries generalizing provenance with
  | nil => exact h
  | cons entry rest ih => exact ih (hstep provenance entry h)

/-- What one entry records is recorded in the end. -/
theorem mem_foldl_of_mem {α : Type} {step : Provenance → α → Provenance}
    (hstep : ∀ provenance entry, other ∈ provenance → other ∈ step provenance entry)
    {entries : List α} {entry : α} (hentry : entry ∈ entries)
    (hrecords : ∀ provenance, other ∈ step provenance entry) :
    other ∈ entries.foldl step provenance := by
  induction entries generalizing provenance with
  | nil => cases hentry
  | cons first rest ih =>
      rcases List.mem_cons.mp hentry with rfl | hrest
      · exact mem_foldl hstep rest (hrecords provenance)
      · exact ih hrest

end Provenance

section

variable {provenance : Provenance} {other : String}

theorem mem_recordLimits (h : other ∈ provenance) (limits : LimitOverrides) (layer : ConfigLayer) :
    other ∈ recordLimits provenance limits layer :=
  Provenance.mem_recordIf (Provenance.mem_recordIf (Provenance.mem_recordIf h _ _ _) _ _ _) _ _ _

theorem mem_recordRoles (h : other ∈ provenance) (roles : NameMap RoleRestriction)
    (layer : ConfigLayer) : other ∈ recordRoles provenance roles layer :=
  Provenance.mem_foldl (fun _ _ h => Provenance.mem_recordIf (Provenance.mem_recordIf h _ _ _) _ _ _)
    _ h

theorem mem_recordArchetype (h : other ∈ provenance) (archetype : ArchetypeDefinition)
    (input : Option ArchetypeInput) : other ∈ recordArchetype provenance archetype input :=
  Provenance.mem_foldl
    (fun _ _ h => Std.TreeMap.mem_insert.mpr (.inr (Provenance.mem_record h _ _))) _ h

/-- The origins of a role of the archetype. -/
theorem mem_recordArchetype_role {archetype : ArchetypeDefinition} {name : String}
    {role : RoleDefinition} (hrole : archetype.role name = some role)
    (input : Option ArchetypeInput) :
    s!"roles.{name}.enabled" ∈ recordArchetype provenance archetype input ∧
      s!"roles.{name}.max_instances" ∈ recordArchetype provenance archetype input := by
  have hentry : (name, role) ∈ archetype.roles.toList :=
    Std.TreeMap.mem_toList_iff_getElem?_eq_some.mpr hrole
  have hstep : ∀ (other : String) (provenance : Provenance) (entry : String × RoleDefinition),
      other ∈ provenance → other ∈
        (provenance.record s!"roles.{entry.1}.enabled" .compiled).insert
          s!"roles.{entry.1}.max_instances"
          { layer := capacityLayer input entry.1
            field := s!"archetypes.{archetype.reference}.roles.{entry.1}.max_instances" } :=
    fun _ _ _ h => Std.TreeMap.mem_insert.mpr (.inr (Provenance.mem_record h _ _))
  refine ⟨Provenance.mem_foldl_of_mem (hstep _) hentry fun provenance => ?_,
    Provenance.mem_foldl_of_mem (hstep _) hentry fun provenance => ?_⟩
  · exact Std.TreeMap.mem_insert.mpr (.inr Std.TreeMap.mem_insert_self)
  · exact Std.TreeMap.mem_insert_self

end

/-! ## A resolved configuration -/

section

variable {global : GlobalConfig} {project : ProjectConfig} {operator : OperatorOverrides}
  {effective : EffectiveConfig}

theorem resolve_provenance (h : resolve global project operator = .ok effective) :
    effective.provenance = resolveProvenance global project operator effective.archetype := by
  obtain ⟨_, -, h⟩ := Except.bind_eq_ok.mp h
  obtain ⟨_, -, h⟩ := Except.bind_eq_ok.mp h
  obtain ⟨_, -, h⟩ := Except.bind_eq_ok.mp h
  obtain ⟨_, -, h⟩ := Except.bind_eq_ok.mp h
  obtain ⟨archetype, -, h⟩ := Except.bind_eq_ok.mp h
  obtain ⟨_, -, h⟩ := Except.bind_eq_ok.mp h
  obtain ⟨_, -, h⟩ := Except.bind_eq_ok.mp h
  obtain ⟨_, -, h⟩ := Except.bind_eq_ok.mp h
  obtain ⟨_, -, h⟩ := Except.bind_eq_ok.mp h
  obtain ⟨_, -, h⟩ := Except.bind_eq_ok.mp h
  obtain ⟨_, -, h⟩ := Except.bind_eq_ok.mp h
  obtain ⟨_, -, h⟩ := Except.bind_eq_ok.mp h
  obtain rfl := Except.pure_eq_ok.mp h
  rfl

/-- The compiled defaults set every limit. -/
theorem resolve_limit_recorded (h : resolve global project operator = .ok effective)
    {field : String} (hfield : field ∈ ["limits.max_concurrent_agents",
      "limits.max_agents_per_run", "limits.max_spawns_per_minute"]) :
    field ∈ effective.provenance := by
  rw [resolve_provenance h]
  -- the later layers keep what the compiled one records
  refine mem_recordRoles (mem_recordLimits (mem_recordRoles (mem_recordLimits
    (mem_recordArchetype (mem_recordLimits ?_ _ _) _ _) _ _) _ _) _ _) _ _
  revert field
  decide +kernel

/-- The archetype declares every role. -/
theorem resolve_role_recorded (h : resolve global project operator = .ok effective) {name : String}
    {role : RoleDefinition} (hrole : effective.archetype.role name = some role) :
    s!"roles.{name}.enabled" ∈ effective.provenance ∧
      s!"roles.{name}.max_instances" ∈ effective.provenance := by
  rw [resolve_provenance h]
  have hlater : ∀ {other : String} {provenance : Provenance}, other ∈ provenance →
      other ∈ recordRoles (recordLimits (recordRoles (recordLimits provenance project.limits
        .project) project.roles .project) operator.limits .operator) operator.roles .operator :=
    fun h => mem_recordRoles (mem_recordLimits (mem_recordRoles (mem_recordLimits h _ _) _ _) _ _)
      _ _
  obtain ⟨henabled, hcapacity⟩ := mem_recordArchetype_role hrole _
  exact ⟨hlater henabled, hlater hcapacity⟩

end

end Coterie
