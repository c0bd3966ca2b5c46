/-
  Coterie.Supervisor.AdmissionView

  What a caller with spawn authority is told about admission (`supervisor/admission.rs`: `view`,
  `protocol/admission.rs`): the budgets of the run, and an entry for each background role that the
  caller may spawn.  Entries are left out, and counted, where more than sixteen of them or more than
  32 KiB of JSON would be returned.
-/

import Coterie.Supervisor.Admission

namespace Coterie

/-! ## The view -/

structure RoleAdmission where
  role : TextPreview
  enabled : Bool
  enabledSource : Option PolicySource
  activeInstances : AdmissionBudget
deriving DecidableEq, Repr

/-- The budgets of a run with the origins of their limits, and the roles that are listed. -/
structure RoleView where
  observedAt : Int
  concurrentAgents : AdmissionBudget
  agentsPerRun : AdmissionBudget
  spawnsPerMinute : AdmissionBudget
  roles : List RoleAdmission
  omittedRoles : Nat
  warning : Option String
  guidance : String
deriving DecidableEq, Repr

/-! ## JSON -/

def CapacityRelease.snake : CapacityRelease → String
  | .agentTerminal => "agent_terminal"
  | .rollingMinute => "rolling_minute"
  | .never         => "never"

def PolicySource.toJson (source : PolicySource) : JsonValue :=
  .obj [("layer", .str source.layer.asStr), ("field", source.field.toJson)]

def AdmissionBudget.toJson (budget : AdmissionBudget) : JsonValue :=
  .obj [("used", wireCount budget.used),
    ("limit", JsonValue.ofOption wireCount budget.limit),
    ("remaining", JsonValue.ofOption wireCount budget.remaining),
    ("exhausted", .bool budget.exhausted),
    ("released_by", .str budget.releasedBy.snake),
    ("source", JsonValue.ofOption PolicySource.toJson budget.source)]

def RoleAdmission.toJson (entry : RoleAdmission) : JsonValue :=
  .obj [("role", entry.role.toJson), ("enabled", .bool entry.enabled),
    ("enabled_source", JsonValue.ofOption PolicySource.toJson entry.enabledSource),
    ("active_instances", entry.activeInstances.toJson)]

def RoleView.toJson (view : RoleView) : JsonValue :=
  .obj [("observed_at", .num (saturate view.observedAt)),
    ("concurrent_agents", view.concurrentAgents.toJson),
    ("agents_per_run", view.agentsPerRun.toJson),
    ("spawns_per_minute", view.spawnsPerMinute.toJson),
    ("roles", .arr (view.roles.map RoleAdmission.toJson)),
    ("omitted_roles", wireCount view.omittedRoles),
    ("warning", JsonValue.ofOption JsonValue.str view.warning),
    ("guidance", .str view.guidance)]

/-! ## Filling and trimming the view -/

/-- What the view may take. -/
def viewBudget : Nat := 32 * 1024

def fixedMetadataExceeds : RequestError :=
  .rpc .internal "fixed admission metadata exceeds its byte budget"

section View

variable (config : EffectiveConfig) (runId : RunId) (db : Db)

/-- The view without roles. -/
def startView (now : Int) : RoleView :=
  let counters := db.admissionCounters config runId now
  { observedAt := counters.observedAt
    concurrentAgents := counters.concurrentAgents
    agentsPerRun := counters.agentsPerRun
    spawnsPerMinute := counters.spawnsPerMinute
    roles := []
    omittedRoles := 0
    warning := counters.warning
    guidance := counters.guidance }

/-- The entry of a role. -/
def roleAdmission (role : String) (effective : EffectiveRole) : RoleAdmission where
  role := TextPreview.new role
  enabled := effective.enabled
  enabledSource := policySource config s!"roles.{role}.enabled"
  activeInstances := db.roleBudget config runId role

/-- List a role that the caller may spawn, or count it as left out. -/
def listRole (view : RoleView) (entry : String × RoleDefinition) : Except RequestError RoleView :=
  if entry.2.mode ≠ .job then .ok view
  else if view.roles.length = 16 then .ok { view with omittedRoles := view.omittedRoles + 1 }
  else
    match config.roles[entry.1]? with
    | none => .error (.state (.panicked "no entry found for key"))
    | some effective =>
        let longer := { view with
          roles := view.roles ++ [roleAdmission config runId db entry.1 effective] }
        if viewBudget < longer.toJson.size then
          .ok { view with omittedRoles := view.omittedRoles + 1 }
        else .ok longer

/-- Leave out the last roles until the view fits. -/
def trimView (view : RoleView) : Except RequestError RoleView :=
  if view.toJson.size ≤ viewBudget then .ok view
  else if h : view.roles = [] then .error fixedMetadataExceeds
  else trimView { view with
    roles := view.roles.dropLast
    omittedRoles := view.omittedRoles + 1 }
termination_by view.roles.length
decreasing_by
  have hpos := List.length_pos_iff.mpr h
  rw [List.length_dropLast]
  omega

/-- The roles that a caller may spawn, in the order of their names. -/
def allowedRoles (callerRole : Option String) : List (String × RoleDefinition) :=
  config.archetype.roles.toList.filter fun entry =>
    callerRole.all fun callerRole =>
      config.archetype.authorize callerRole ⟨"spawn", entry.1⟩ == .allowed

/-- The view for a caller with a role, or for the operator. -/
def roleView (now : Int) (callerRole : Option String) : Except RequestError (Option RoleView) := do
  let allowed := allowedRoles config callerRole
  let filled ← allowed.foldlM (listRole config runId db)
    (startView config runId db now)
  let view ← trimView filled
  pure (if allowed.isEmpty then none else some view)

end View

/-- The role of an agent; the operator has none. -/
def callerRole (runId : RunId) (caller : AuthenticatedCaller) : Request (Option String) := do
  match caller.agentId with
  | none => pure none
  | some agentId => do
      let agent ← agentRecord runId agentId
      pure (some agent.role)

def admissionView (config : EffectiveConfig) (runId : RunId)
    (caller : AuthenticatedCaller) (now : Int) : Request (Option RoleView) := do
  requireCurrentCaller runId caller
  let db ← Tx.read id
  let role ← callerRole runId caller
  Tx.ofExcept (roleView config runId db now role)

/-! ## Sizes -/

theorem size_policySource_le (config : EffectiveConfig) (field : String) :
    (JsonValue.ofOption PolicySource.toJson (policySource config field)).size ≤ 3200 := by
  unfold policySource
  cases config.provenance[field]? with
  | none =>
      show JsonValue.null.size ≤ 3200
      rw [JsonValue.size_null]
      omega
  | some source =>
      have hkeys : (JsonValue.str "layer").size = 7 ∧ (JsonValue.str "field").size = 7 := by
        decide
      have hlayer : (JsonValue.str source.layer.asStr).size ≤ 10 := by
        cases source.layer <;> decide
      have hfield := TextPreview.size_toJson_le source.field
      refine (JsonValue.size_obj_le _).trans ?_
      simp only [List.map_cons, List.map_nil, List.sum_cons, List.sum_nil, hkeys]
      omega

theorem size_ofOption_wireCount_le (count : Option Nat) :
    (JsonValue.ofOption wireCount count).size ≤ 21 := by
  cases count with
  | none =>
      show JsonValue.null.size ≤ 21
      rw [JsonValue.size_null]
      omega
  | some count => exact size_wireCount_le count

theorem size_admissionBudget_le (config : EffectiveConfig) (field : String) (used : Nat)
    (limit : Option Nat) (releasedBy : CapacityRelease) :
    (admissionBudget config field used limit releasedBy).toJson.size ≤ 3400 := by
  generalize hbudget : admissionBudget config field used limit releasedBy = budget
  have hkeys : (JsonValue.str "used").size = 6 ∧ (JsonValue.str "limit").size = 7 ∧
      (JsonValue.str "remaining").size = 11 ∧ (JsonValue.str "exhausted").size = 11 ∧
      (JsonValue.str "released_by").size = 13 ∧ (JsonValue.str "source").size = 8 := by
    decide
  have hused := size_wireCount_le budget.used
  have hlimit := size_ofOption_wireCount_le budget.limit
  have hremaining := size_ofOption_wireCount_le budget.remaining
  have hexhausted := JsonValue.size_bool_le budget.exhausted
  have hrelease : (JsonValue.str budget.releasedBy.snake).size ≤ 16 := by
    cases budget.releasedBy <;> decide
  have hsource := size_policySource_le config field
  rw [show policySource config field = budget.source from hbudget ▸ rfl] at hsource
  refine (JsonValue.size_obj_le _).trans ?_
  simp only [List.map_cons, List.map_nil, List.sum_cons, List.sum_nil, hkeys]
  omega

set_option maxRecDepth 10000 in
theorem utf8Bytes_admissionGuidance : JsonValue.utf8Bytes admissionGuidance.toList = 649 := by
  -- a literal is a list of characters, which the kernel need not decode
  rw [show admissionGuidance.toList = _ from String.toList_ofList]
  decide +kernel

/-- The warning has at most one digit and the guidance in it. -/
theorem size_admissionWarning_le (budget : AdmissionBudget) :
    (JsonValue.ofOption JsonValue.str (admissionWarning budget)).size ≤ 5500 := by
  unfold admissionWarning
  cases hremaining : budget.remaining.filter fun remaining => remaining ≤ 2 with
  | none =>
      show JsonValue.null.size ≤ 5500
      rw [JsonValue.size_null]
      omega
  | some remaining =>
      have hfew : remaining ≤ 2 := by
        have hfiltered := (Option.filter_eq_some_iff.mp hremaining).2
        exact of_decide_eq_true hfiltered
      have hdigit : JsonValue.utf8Bytes (toString remaining).toList = 1 := by
        have hall : ∀ n : Fin 3, JsonValue.utf8Bytes (toString n.val).toList = 1 := by decide
        exact hall ⟨remaining, by omega⟩
      have hbefore : JsonValue.utf8Bytes "Only ".toList = 5 := by decide
      have hafter : JsonValue.utf8Bytes " lifetime admission(s) remain. Reserve budget for fresh recovery continuations and reviews; worker exit does not restore it. ".toList = 125 := by
        rw [String.toList_ofList]
        decide +kernel
      refine (JsonValue.size_str_le _).trans ?_
      simp only [toString, String.toList_append, JsonValue.utf8Bytes_append] at hdigit ⊢
      rw [hdigit, hbefore, hafter, utf8Bytes_admissionGuidance]
      decide

/-- A view without entries takes less than the budget. -/
theorem size_toJson_le_of_parts {view : RoleView}
    (hconcurrent : view.concurrentAgents.toJson.size ≤ 3400)
    (hrun : view.agentsPerRun.toJson.size ≤ 3400)
    (hspawns : view.spawnsPerMinute.toJson.size ≤ 3400) (hroles : view.roles = [])
    (hwarning : (JsonValue.ofOption JsonValue.str view.warning).size ≤ 5500)
    (hguidance : (JsonValue.str view.guidance).size ≤ 5500) : view.toJson.size ≤ viewBudget := by
  have hkeys : (JsonValue.str "observed_at").size = 13 ∧
      (JsonValue.str "concurrent_agents").size = 19 ∧ (JsonValue.str "agents_per_run").size = 16 ∧
      (JsonValue.str "spawns_per_minute").size = 19 ∧ (JsonValue.str "roles").size = 7 ∧
      (JsonValue.str "omitted_roles").size = 15 ∧ (JsonValue.str "warning").size = 9 ∧
      (JsonValue.str "guidance").size = 10 := by
    decide
  have hobserved : (JsonValue.num (saturate view.observedAt)).size ≤ 21 := by
    refine JsonValue.size_num_le (by omega) ?_
    unfold saturate i64Min i64Max
    omega
  have hnone : (JsonValue.arr []).size = 2 := by decide
  have homitted := size_wireCount_le view.omittedRoles
  rw [RoleView.toJson, hroles]
  refine (JsonValue.size_obj_le _).trans ?_
  simp only [List.map_cons, List.map_nil, List.sum_cons, List.sum_nil, hkeys, hnone, viewBudget]
  omega

/-- What the view says besides its entries takes less than the budget. -/
theorem size_startView_le (config : EffectiveConfig) (runId : RunId)
    (db : Db) (now : Int) (omitted : Nat) :
    ({ startView config runId db now with omittedRoles := omitted } : RoleView).toJson.size
      ≤ viewBudget := by
  have hguidance := JsonValue.size_str_le admissionGuidance
  rw [utf8Bytes_admissionGuidance] at hguidance
  refine size_toJson_le_of_parts (size_admissionBudget_le _ _ _ _ _) (size_admissionBudget_le _ _ _ _ _)
    (size_admissionBudget_le _ _ _ _ _) rfl (size_admissionWarning_le _) ?_
  exact hguidance.trans (by omega)

/-! ## The entries of the view -/

/-- An entry tells what a spawn of the role checks: whether the role is enabled, and whether it has
    room for one more instance. -/
structure RoleAdmission.Describes (entry : RoleAdmission) (config : EffectiveConfig)
    (runId : RunId) (db : Db) (name : String) : Prop where
  role : entry.role = TextPreview.new name
  enabled : ∃ definition effective, config.archetype.role name = some definition ∧
    config.roles[name]? = some effective ∧ entry.enabled = effective.enabled ∧
    (entry.enabled = true ↔ spawnRole config name = .ok (definition, effective))
  counters : entry.activeInstances = db.roleBudget config runId name
  room : (requireRoom s!"roles.{name}.max_instances" (·.roleBudget config runId name)).run db =
    if entry.activeInstances.exhausted = true then
      (.error (exhausted s!"roles.{name}.max_instances" entry.activeInstances), db)
    else (.ok (), db)

/-- A view accounts for some roles: it has entries for at most sixteen of them, in their order and
    none twice, and counts the others. -/
structure RoleView.AccountsFor (view : RoleView) (config : EffectiveConfig) (runId : RunId)
    (db : Db) (jobs : List String) : Prop where
  counted : view.roles.length + view.omittedRoles = jobs.length
  few : view.roles.length ≤ 16
  listed : ∃ names : List String, names.Sublist jobs ∧
    List.Forall₂ (fun entry name => entry.Describes config runId db name) view.roles names

/-- The names of the job roles that a caller may spawn. -/
structure SpawnableJobs (config : EffectiveConfig) (runId : RunId) (caller : AuthenticatedCaller)
    (db : Db) (jobs : List String) : Prop where
  distinct : jobs.Nodup
  mem_iff : ∀ role, role ∈ jobs ↔ ∃ definition, config.archetype.role role = some definition ∧
    definition.mode = .job ∧
    (requireCapability config runId caller ⟨"spawn", role⟩).run db = (.ok (), db)

section Entries

variable {config : EffectiveConfig} {runId : RunId} {db : Db}

theorem requireRoom_run (name : String) (budget : Db → AdmissionBudget) :
    (requireRoom name budget).run db =
      if (budget db).exhausted = true then (.error (exhausted name (budget db)), db)
      else (.ok (), db) := by
  unfold requireRoom
  rw [Tx.run_bind, Tx.run_read]
  dsimp only
  rw [Tx.run_require]
  cases (budget db).exhausted <;> rfl

theorem roleAdmission_describes {name : String} {definition : RoleDefinition}
    {effective : EffectiveRole} (hrole : config.archetype.role name = some definition)
    (hjob : definition.mode = .job) (heffective : config.roles[name]? = some effective) :
    (roleAdmission config runId db name effective).Describes config runId db name where
  role := rfl
  enabled := by
    refine ⟨definition, effective, hrole, heffective, rfl, ?_⟩
    show effective.enabled = true ↔ _
    unfold spawnRole
    rw [hrole, heffective]
    dsimp only
    cases effective.enabled with
    | false => simp
    | true => simp [hjob]
  counters := rfl
  room := requireRoom_run _ _

/-- The names of the jobs among some roles. -/
def jobNames (entries : List (String × RoleDefinition)) : List String :=
  (entries.filter fun entry => entry.2.mode = .job).map (·.1)

/-- What filling and trimming keep: besides its entries the view is the one that they start with,
    and it accounts for the jobs so far. -/
structure Filling (config : EffectiveConfig) (runId : RunId) (db : Db)
    (now : Int) (jobs : List String) (view : RoleView) : Prop
    extends view.AccountsFor config runId db jobs where
  fixed : { view with roles := [] } =
    { startView config runId db now with omittedRoles := view.omittedRoles }

variable {now : Int} {jobs : List String} {view view' : RoleView}

theorem startView_filling :
    Filling config runId db now [] (startView config runId db now) where
  counted := rfl
  few := Nat.zero_le 16
  listed := ⟨[], List.Sublist.refl [], List.Forall₂.nil⟩
  fixed := rfl

/-- A job that is left out is counted. -/
theorem Filling.omit (h : Filling config runId db now jobs view) (name : String) :
    Filling config runId db now (jobs ++ [name])
      { view with omittedRoles := view.omittedRoles + 1 } where
  counted := by
    have hcounted := h.counted
    rw [List.length_append, List.length_singleton]
    dsimp only
    omega
  few := h.few
  listed := by
    obtain ⟨names, hnames, hentries⟩ := h.listed
    exact ⟨names, hnames.trans (List.sublist_append_left _ _), hentries⟩
  fixed := congrArg (fun fixed : RoleView => { fixed with omittedRoles := view.omittedRoles + 1 })
    h.fixed

/-- A job is listed. -/
theorem Filling.list (h : Filling config runId db now jobs view)
    (hroom : view.roles.length ≠ 16) {entry : RoleAdmission} {name : String}
    (hentry : entry.Describes config runId db name) :
    Filling config runId db now (jobs ++ [name])
      { view with roles := view.roles ++ [entry] } where
  counted := by
    have hcounted := h.counted
    dsimp only
    rw [List.length_append, List.length_append, List.length_singleton, List.length_singleton]
    omega
  few := by
    have hfew := h.few
    dsimp only
    rw [List.length_append, List.length_singleton]
    omega
  listed := by
    obtain ⟨names, hnames, hentries⟩ := h.listed
    refine ⟨names ++ [name], hnames.append (List.Sublist.refl _), ?_⟩
    exact List.rel_append hentries (List.Forall₂.cons hentry List.Forall₂.nil)
  fixed := h.fixed

/-- The last entry is left out instead. -/
theorem Filling.dropLast (h : Filling config runId db now jobs view)
    (hsome : view.roles ≠ []) :
    Filling config runId db now jobs
      { view with roles := view.roles.dropLast, omittedRoles := view.omittedRoles + 1 } where
  counted := by
    have hcounted := h.counted
    have hpos := List.length_pos_iff.mpr hsome
    dsimp only
    rw [List.length_dropLast]
    omega
  few := by
    have hfew := h.few
    dsimp only
    rw [List.length_dropLast]
    omega
  listed := by
    obtain ⟨names, hnames, hentries⟩ := h.listed
    refine ⟨names.dropLast, (List.dropLast_sublist names).trans hnames, ?_⟩
    dsimp only
    rw [List.dropLast_eq_take, List.dropLast_eq_take, hentries.length_eq]
    exact List.forall₂_take _ hentries
  fixed := congrArg (fun fixed : RoleView => { fixed with omittedRoles := view.omittedRoles + 1 })
    h.fixed

theorem listRole_filling (h : Filling config runId db now jobs view)
    {entry : String × RoleDefinition} (hrole : config.archetype.role entry.1 = some entry.2)
    (hlist : listRole config runId db view entry = .ok view') :
    Filling config runId db now (jobs ++ jobNames [entry]) view' := by
  unfold listRole at hlist
  by_cases hjob : entry.2.mode = .job
  · have hnames : jobNames [entry] = [entry.1] := by
      rw [jobNames, List.filter_cons, if_pos (decide_eq_true hjob)]
      rfl
    rw [hnames]
    rw [if_neg (not_not_intro hjob)] at hlist
    split_ifs at hlist with hfull
    · cases hlist
      exact h.omit entry.1
    · cases heffective : config.roles[entry.1]? with
      | none =>
          rw [heffective] at hlist
          cases hlist
      | some effective =>
          rw [heffective] at hlist
          dsimp only at hlist
          split_ifs at hlist with hlong
          · cases hlist
            exact h.omit entry.1
          · cases hlist
            exact h.list hfull (roleAdmission_describes hrole hjob heffective)
  · have hnames : jobNames [entry] = [] := by
      rw [jobNames, List.filter_cons, if_neg (by simpa using hjob)]
      rfl
    rw [if_pos hjob] at hlist
    cases hlist
    rw [hnames, List.append_nil]
    exact h

theorem foldlM_listRole_filling {entries : List (String × RoleDefinition)}
    (h : Filling config runId db now jobs view)
    (hroles : ∀ entry ∈ entries, config.archetype.role entry.1 = some entry.2)
    (hfill : entries.foldlM (listRole config runId db) view = .ok view') :
    Filling config runId db now (jobs ++ jobNames entries) view' := by
  induction entries generalizing jobs view with
  | nil =>
      rw [List.foldlM_nil, Except.pure_eq_ok] at hfill
      rw [← hfill, jobNames, List.filter_nil, List.map_nil, List.append_nil]
      exact h
  | cons entry rest ih =>
      rw [List.foldlM_cons] at hfill
      obtain ⟨next, hnext, hrest⟩ := Except.bind_eq_ok.mp hfill
      have hstep := listRole_filling h (hroles entry List.mem_cons_self) hnext
      have hnames : jobNames (entry :: rest) = jobNames [entry] ++ jobNames rest := by
        rw [jobNames, jobNames, jobNames, ← List.map_append, ← List.filter_append]
        rfl
      rw [hnames, ← List.append_assoc]
      exact ih hstep (fun other hother => hroles other (List.mem_cons_of_mem _ hother)) hrest

/-- Trimming ends with a view that fits and accounts for the same jobs.  It does not run out of
    entries, because a view without entries fits. -/
theorem trimView_filling (h : Filling config runId db now jobs view) :
    ∃ trimmed, trimView view = .ok trimmed ∧ trimmed.toJson.size ≤ viewBudget ∧
      Filling config runId db now jobs trimmed := by
  fun_induction trimView view with
  | case1 view hfits => exact ⟨view, rfl, hfits, h⟩
  | case2 view hlong hempty =>
      have hview : view =
          { startView config runId db now with omittedRoles := view.omittedRoles } := by
        rw [← h.fixed, ← hempty]
      rw [hview] at hlong
      exact absurd (size_startView_le config runId db now view.omittedRoles) hlong
  | case3 view hlong hsome ih => exact ih (h.dropLast hsome)

end Entries

/-! ## The roles of the view -/

section Roles

variable {config : EffectiveConfig} {runId : RunId} {db : Db}

theorem allowedRoles_role {callerRole : Option String} {entry : String × RoleDefinition}
    (h : entry ∈ allowedRoles config callerRole) :
    config.archetype.role entry.1 = some entry.2 :=
  Std.TreeMap.mem_toList_iff_getElem?_eq_some.mp (List.mem_of_mem_filter h)

theorem nodup_jobNames_allowedRoles (callerRole : Option String) :
    (jobNames (allowedRoles config callerRole)).Nodup := by
  have hsublist : (jobNames (allowedRoles config callerRole)).Sublist
      (config.archetype.roles.toList.map (·.1)) :=
    (List.filter_sublist.trans List.filter_sublist).map _
  refine List.Nodup.sublist hsublist ?_
  have hkeys : config.archetype.roles.toList.map (·.1) = config.archetype.roles.keys :=
    Std.TreeMap.map_fst_toList_eq_keys
  rw [hkeys]
  exact Std.TreeMap.nodup_keys

theorem mem_jobNames_allowedRoles {callerRole : Option String} {role : String} :
    role ∈ jobNames (allowedRoles config callerRole) ↔
      ∃ definition, config.archetype.role role = some definition ∧ definition.mode = .job ∧
        callerRole.all (fun callerRole =>
          config.archetype.authorize callerRole ⟨"spawn", role⟩ == .allowed) = true := by
  unfold jobNames allowedRoles
  constructor
  · intro h
    obtain ⟨⟨name, definition⟩, hentry, rfl⟩ := List.mem_map.mp h
    obtain ⟨hentry, hjob⟩ := List.mem_filter.mp hentry
    obtain ⟨hentry, hallowed⟩ := List.mem_filter.mp hentry
    exact ⟨definition, Std.TreeMap.mem_toList_iff_getElem?_eq_some.mp hentry,
      of_decide_eq_true hjob, hallowed⟩
  · rintro ⟨definition, hrole, hjob, hallowed⟩
    have hentry : (role, definition) ∈ config.archetype.roles.toList :=
      Std.TreeMap.mem_toList_iff_getElem?_eq_some.mpr hrole
    refine List.mem_map.mpr ⟨(role, definition), ?_, rfl⟩
    exact List.mem_filter.mpr ⟨List.mem_filter.mpr ⟨hentry, hallowed⟩, decide_eq_true hjob⟩

/-- The operator may spawn every job. -/
theorem spawnableJobs_operator :
    SpawnableJobs config runId .operator db (jobNames (allowedRoles config none)) where
  distinct := nodup_jobNames_allowedRoles none
  mem_iff role := by
    rw [mem_jobNames_allowedRoles]
    exact exists_congr fun definition => and_congr_right fun _ => and_congr_right fun _ =>
      iff_of_true rfl rfl

/-- An agent may spawn the jobs that its role grants. -/
theorem spawnableJobs_agent {scope : SessionScope} {agent : AgentRecord}
    (hagent : (agentRecord runId scope.agentId).run db = (.ok agent, db)) :
    SpawnableJobs config runId (.agent scope) db
      (jobNames (allowedRoles config (some agent.role))) where
  distinct := nodup_jobNames_allowedRoles (some agent.role)
  mem_iff role := by
    rw [mem_jobNames_allowedRoles]
    refine exists_congr fun definition => and_congr_right fun _ => and_congr_right fun _ => ?_
    unfold requireCapability
    show _ ↔ (agentRecord runId scope.agentId >>= _).run db = _
    rw [Tx.run_bind_of_ok hagent, Tx.run_require, Option.all_some]
    cases config.archetype.authorize agent.role ⟨"spawn", role⟩ == .allowed <;> simp

end Roles

/-! ## The view as a whole -/

section Whole

variable {config : EffectiveConfig} {runId : RunId} {db : Db} {now : Int}

theorem listRole_error {view : RoleView} {entry : String × RoleDefinition} {error : RequestError}
    (h : listRole config runId db view entry = .error error) :
    error ≠ fixedMetadataExceeds := by
  unfold listRole at h
  split at h
  · cases h
  · split at h
    · cases h
    · split at h
      · cases h
        nofun
      · dsimp only at h
        split at h <;> cases h

theorem foldlM_listRole_error {entries : List (String × RoleDefinition)} {view : RoleView}
    {error : RequestError}
    (h : entries.foldlM (listRole config runId db) view = .error error) :
    error ≠ fixedMetadataExceeds := by
  induction entries generalizing view with
  | nil =>
      rw [List.foldlM_nil] at h
      cases h
  | cons entry rest ih =>
      rw [List.foldlM_cons] at h
      rcases Except.bind_eq_error.mp h with hentry | ⟨next, -, hrest⟩
      · exact listRole_error hentry
      · exact ih hrest

/-- A view that is returned fits and accounts for the jobs. -/
theorem roleView_ok {callerRole : Option String} {view : RoleView}
    (h : roleView config runId db now callerRole = .ok (some view)) :
    view.toJson.size ≤ viewBudget ∧
      view.AccountsFor config runId db (jobNames (allowedRoles config callerRole)) := by
  obtain ⟨filled, hfill, hrest⟩ := Except.bind_eq_ok.mp h
  have hfilled := foldlM_listRole_filling startView_filling (fun _ => allowedRoles_role) hfill
  obtain ⟨trimmed, htrim, hfits, haccounts⟩ := trimView_filling hfilled
  obtain ⟨_, hsame, hview⟩ := Except.bind_eq_ok.mp hrest
  rw [htrim] at hsame
  cases hsame
  rw [Except.pure_eq_ok] at hview
  split at hview
  · cases hview
  · cases hview
    exact ⟨hfits, haccounts.toAccountsFor⟩

theorem roleView_error {callerRole : Option String} {error : RequestError}
    (h : roleView config runId db now callerRole = .error error) :
    error ≠ fixedMetadataExceeds := by
  rcases Except.bind_eq_error.mp h with hfill | ⟨filled, hfill, hrest⟩
  · exact foldlM_listRole_error hfill
  · have hfilled := foldlM_listRole_filling startView_filling (fun _ => allowedRoles_role) hfill
    obtain ⟨trimmed, htrim, -⟩ := trimView_filling hfilled
    rcases Except.bind_eq_error.mp hrest with hnone | ⟨_, -, hview⟩
    · rw [htrim] at hnone
      cases hnone
    · cases hview

/-- The role of the caller decides which jobs it may spawn. -/
theorem callerRole_ok {caller : AuthenticatedCaller} {role : Option String} {db' : Db}
    (h : (callerRole runId caller).run db = (.ok role, db')) :
    db' = db ∧ SpawnableJobs config runId caller db (jobNames (allowedRoles config role)) := by
  cases caller with
  | operator =>
      obtain ⟨rfl, rfl⟩ := Tx.pure_eq_ok.mp h
      exact ⟨rfl, spawnableJobs_operator⟩
  | agent scope =>
      obtain ⟨agent, db₁, hagent, hrole⟩ := Tx.bind_eq_ok.mp h
      obtain ⟨rfl, rfl⟩ := Tx.pure_eq_ok.mp hrole
      have hsame : db₁ = db := by
        unfold agentRecord at hagent
        obtain ⟨_, _, hread, hsome⟩ := Tx.bind_eq_ok.mp hagent
        obtain ⟨-, rfl⟩ := Tx.read_eq_ok.mp hread
        exact (Tx.okOr_eq_ok.mp hsome).2.symm
      rw [hsame] at hagent ⊢
      exact ⟨rfl, spawnableJobs_agent hagent⟩

theorem callerRole_error {caller : AuthenticatedCaller} {error : RequestError} {db' : Db}
    (h : (callerRole runId caller).run db = (.error error, db')) :
    error ≠ fixedMetadataExceeds := by
  cases caller with
  | operator => cases h
  | agent scope =>
      rcases Tx.bind_eq_error.mp h with hagent | ⟨_, _, -, hpure⟩
      · unfold agentRecord at hagent
        rcases Tx.bind_eq_error.mp hagent with hread | ⟨found, db₁, -, hnone⟩
        · cases hread
        · cases hfound : found.filter (·.runId == runId) with
          | none =>
              rw [hfound, Tx.run_okOr_none] at hnone
              cases hnone
              nofun
          | some agent =>
              rw [hfound, Tx.run_okOr_some] at hnone
              cases hnone
      · cases hpure

/-- A view that is returned takes at most 32 KiB, and it accounts for the job roles that the caller
    may spawn.  The error about the view's own part is not returned. -/
theorem admission_view_fits (config : EffectiveConfig) (runId : RunId)
    (caller : AuthenticatedCaller) (now : Int) (db : Db) :
    (∀ view db', (admissionView config runId caller now).run db = (.ok (some view), db') →
      db' = db ∧ view.toJson.size ≤ 32 * 1024 ∧
        ∃ jobs, SpawnableJobs config runId caller db jobs ∧
          view.AccountsFor config runId db jobs) ∧
    ∀ db', (admissionView config runId caller now).run db ≠
      (.error fixedMetadataExceeds, db') := by
  have hcurrent : ∀ result db', (requireCurrentCaller runId caller).run db = (result, db') →
      db' = db ∧ result ≠ .error fixedMetadataExceeds := by
    intro result db' h
    unfold requireCurrentCaller at h
    rw [Tx.run_require] at h
    split at h
    · cases h
      exact ⟨rfl, nofun⟩
    · cases h
      exact ⟨rfl, nofun⟩
  constructor
  · intro view db' h
    obtain ⟨_, db₁, hcaller, hrest⟩ := Tx.bind_eq_ok.mp h
    obtain ⟨rfl, -⟩ := hcurrent _ _ hcaller
    obtain ⟨_, _, hread, hrest⟩ := Tx.bind_eq_ok.mp hrest
    obtain ⟨rfl, rfl⟩ := Tx.read_eq_ok.mp hread
    obtain ⟨role, db₂, hrole, hview⟩ := Tx.bind_eq_ok.mp hrest
    obtain ⟨rfl, hjobs⟩ := @callerRole_ok config _ _ _ _ _ hrole
    obtain ⟨hok, rfl⟩ := Tx.ofExcept_eq_ok.mp hview
    obtain ⟨hfits, haccounts⟩ := roleView_ok hok
    exact ⟨rfl, hfits, _, hjobs, haccounts⟩
  · intro db' h
    rcases Tx.bind_eq_error.mp h with hcaller | ⟨_, db₁, -, hrest⟩
    · exact (hcurrent _ _ hcaller).2 rfl
    · rcases Tx.bind_eq_error.mp hrest with hread | ⟨_, _, -, hrest⟩
      · cases hread
      · rcases Tx.bind_eq_error.mp hrest with hrole | ⟨role, db₂, -, hview⟩
        · exact callerRole_error hrole rfl
        · rw [Tx.run_ofExcept] at hview
          exact roleView_error (congrArg Prod.fst hview) rfl

end Whole

end Coterie
