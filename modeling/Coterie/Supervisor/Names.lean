/-
  Coterie.Supervisor.Names

  The names of agents (`supervisor.rs`: `summarize_agents`, `resolve_agent`).  A name is computed
  anew on each request: the role, and behind it the number of the agent among those of its role,
  oldest first; the first agent of the lead role is called by the role alone.

  `AgentNames` is what names are for: they are different, stay when agents are added, and a name or
  an id leads to its agent.  `agent_names` says for which runs they do.
-/

import Coterie.Model.Ids
import Coterie.Supervisor.Hiring

namespace Coterie

/-! ## Summaries -/

/-- A run-local agent name and its durable identity. -/
structure AgentSummary where
  id : AgentId
  name : String
  role : String
  state : String
deriving DecidableEq, Repr

/-- The name of an agent by its number. -/
def numberedName (role : String) (ordinal : Nat) : String :=
  s!"{role}-{ordinal}"

/-- The name of an agent that is the `ordinal`-th one of its role. -/
def publicName (leadRole role : String) (ordinal : Nat) : String :=
  if role = leadRole ∧ ordinal = 1 then role else numberedName role ordinal

/-- The summaries of agents, after some that were counted by their roles. -/
def summarizeFrom (leadRole : String) (roleCounts : String → Nat) :
    List AgentRecord → List AgentSummary
  | [] => []
  | agent :: rest =>
      let ordinal := roleCounts agent.role + 1
      { id := agent.id
        name := publicName leadRole agent.role ordinal
        role := agent.role
        state := agent.state.asStr } ::
        summarizeFrom leadRole (Function.update roleCounts agent.role ordinal) rest

def summarizeAgents (agents : List AgentRecord) (leadRole : String) : List AgentSummary :=
  summarizeFrom leadRole (fun _ => 0) agents

/-- The refusal of a name or an id that no agent of the run has. -/
def unknownAgent (nameOrId : String) : RequestError :=
  .rpc .notFound s!"agent `{nameOrId}` does not exist"

/-- Find an agent of a run by its id, or by its name. -/
def resolveAgent (config : EffectiveConfig) (runId : RunId) (nameOrId : String) :
    Request AgentSummary := do
  let agents ← Tx.read (·.agentsOf runId)
  let summaries := summarizeAgents agents config.archetype.lead
  match (Id.ofText? nameOrId : Option AgentId) with
  | some agentId => Tx.okOr (unknownAgent nameOrId) (summaries.find? (·.id == agentId))
  | none => Tx.okOr (unknownAgent nameOrId) (summaries.find? (·.name == nameOrId))

/-! ## Texts of names -/

theorem toList_numberedName (role : String) (ordinal : Nat) :
    (numberedName role ordinal).toList = role.toList ++ '-' :: Nat.toDigits 10 ordinal := by
  have htext : numberedName role ordinal = role ++ "-" ++ ordinal.repr := rfl
  rw [htext, String.toList_append, String.toList_append, Nat.toList_repr, List.append_assoc]
  rfl

theorem dash_notMem_toDigits (n : Nat) : '-' ∉ Nat.toDigits 10 n := by
  intro hmem
  have hdigit := Nat.isDigit_of_mem_toDigits (by omega) (by omega) hmem
  revert hdigit
  decide

/-- A name tells the role and the number. -/
theorem numberedName_inj {role role' : String} {ordinal ordinal' : Nat}
    (h : numberedName role ordinal = numberedName role' ordinal') :
    role = role' ∧ ordinal = ordinal' := by
  have hlists := congrArg String.toList h
  rw [toList_numberedName, toList_numberedName] at hlists
  obtain ⟨hrole, hdigits⟩ := Text.splitLast_unique (dash_notMem_toDigits _)
    (dash_notMem_toDigits _) hlists
  refine ⟨String.toList_inj.mp hrole, ?_⟩
  have hnumber := congrArg (Nat.ofDigitChars 10 · 0) hdigits
  rwa [Nat.ofDigitChars_ten_toDigits, Nat.ofDigitChars_ten_toDigits] at hnumber

/-- A number is too short to stand in an id. -/
theorem ofText?_numberedName {kind : IdKind} (role : String) {ordinal : Nat}
    (hfew : ordinal < 2 ^ 64) : (Id.ofText? (numberedName role ordinal) : Option (Id kind)) = none := by
  cases hread : (Id.ofText? (numberedName role ordinal) : Option (Id kind)) with
  | none => rfl
  | some id =>
      exfalso
      obtain ⟨encoded, hstrip, hulid⟩ := Option.bind_eq_some_iff.mp hread
      dsimp only at hulid
      split at hulid
      · next hencoded =>
          have htext := congrArg String.toList (Text.stripPrefix?_eq_some hstrip)
          rw [toList_numberedName, String.toList_append, String.toList_append, List.append_assoc]
            at htext
          -- no letter or digit of an id is a dash
          have hdash : '-' ∉ encoded.toList := by
            intro hmem
            have hupper := Id.mem_alphabet hencoded '-'.toUpper (List.mem_map_of_mem hmem)
            revert hupper
            decide
          obtain ⟨-, hdigits⟩ := Text.splitLast_unique (dash_notMem_toDigits _) hdash htext
          have hlength := Id.length_of_isUlid hencoded
          rw [List.length_map, ← hdigits] at hlength
          have hshort := (Nat.length_toDigits_le_iff (b := 10) (k := 25) (n := ordinal)
            (by omega) (by omega)).mpr (by omega)
          omega
      · cases hulid

theorem numberedName_ne_self (role : String) (ordinal : Nat) : role ≠ numberedName role ordinal := by
  intro h
  have hlengths := congrArg (fun text => text.toList.length) h
  rw [toList_numberedName, List.length_append, List.length_cons] at hlengths
  omega

/-! ## The number of an agent -/

/-- The ids of the agents with a role. -/
def roleMates (agents : List AgentRecord) (role : String) : List AgentId :=
  (agents.filter (·.role == role)).map (·.id)

/-- The summary of an agent among others. -/
def summaryAmong (agents : List AgentRecord) (leadRole : String) (agent : AgentRecord) :
    AgentSummary where
  id := agent.id
  name := publicName leadRole agent.role ((roleMates agents agent.role).idxOf agent.id + 1)
  role := agent.role
  state := agent.state.asStr

theorem roleMates_append (before rest : List AgentRecord) (role : String) :
    roleMates (before ++ rest) role = roleMates before role ++ roleMates rest role := by
  unfold roleMates
  rw [List.filter_append, List.map_append]

theorem summarizeFrom_eq {leadRole : String} {agents before rest : List AgentRecord}
    (hkeyed : Table.Keyed (·.id) agents) (hagents : agents = before ++ rest) :
    summarizeFrom leadRole (fun role => (roleMates before role).length) rest =
      rest.map (summaryAmong agents leadRole) := by
  induction rest generalizing before with
  | nil => rfl
  | cons agent rest ih =>
      -- the agents counted before are the ones of its role before it
      have hnew : agent.id ∉ roleMates before agent.role := by
        intro hmem
        obtain ⟨other, hother, hid⟩ := List.mem_map.mp hmem
        rw [hagents, Table.Keyed, List.map_append, List.nodup_append] at hkeyed
        exact hkeyed.2.2 other.id (List.mem_map_of_mem (List.mem_filter.mp hother).1) agent.id
          List.mem_cons_self hid
      have hordinal : (roleMates agents agent.role).idxOf agent.id =
          (roleMates before agent.role).length := by
        have hself : roleMates (agent :: rest) agent.role =
            agent.id :: roleMates rest agent.role := by
          unfold roleMates
          rw [List.filter_cons, if_pos (by simp), List.map_cons]
        rw [hagents, roleMates_append, List.idxOf_append_of_notMem hnew, hself,
          List.idxOf_cons_self, Nat.add_zero]
      have hcounts : Function.update (fun role => (roleMates before role).length) agent.role
          ((roleMates before agent.role).length + 1) =
            fun role => (roleMates (before ++ [agent]) role).length := by
        funext role
        rw [roleMates_append, List.length_append]
        by_cases hrole : role = agent.role
        · rw [hrole, Function.update_self]
          unfold roleMates
          simp
        · rw [Function.update_of_ne hrole]
          unfold roleMates
          simp [Ne.symm hrole]
      rw [List.map_cons, summarizeFrom]
      rw [hcounts, ih (by rw [hagents, List.append_assoc]; rfl)]
      unfold summaryAmong
      rw [hordinal]

/-- The summaries of different agents, one by one. -/
theorem summarizeAgents_eq {agents : List AgentRecord} (hkeyed : Table.Keyed (·.id) agents)
    (leadRole : String) :
    summarizeAgents agents leadRole = agents.map (summaryAmong agents leadRole) := by
  have hall : agents = [] ++ agents := rfl
  exact summarizeFrom_eq hkeyed hall

/-! ## The agents of a role in the database -/

/-- The agents of a run with a role, in the order in which they were recorded. -/
def instancesOf (identities : List AgentIdentity) (runId : RunId) (role : String) :
    List AgentIdentity :=
  identities.filter fun agent => agent.runId == runId && agent.role == role

/-- What keeps the names of a run apart and in place. -/
structure NamesKept (config : EffectiveConfig) (runId : RunId)
    (identities : List AgentIdentity) : Prop where
  keyed : Table.Keyed (·.id) identities
  canonical : ∀ agent ∈ identities, agent.runId = runId → agent.id.Canonical
  ordered : ∀ role, (instancesOf identities runId role).Pairwise fun a b =>
    a.createdAt ≤ b.createdAt
  apart : ∀ role ordinal, ordinal ≤ (instancesOf identities runId role).length →
    0 < ordinal → config.archetype.lead ≠ numberedName role ordinal
  few : ∀ role, (instancesOf identities runId role).length < 2 ^ 64

section NamesKept

variable {config : EffectiveConfig} {runId : RunId} {db : Db}

/-- Sorting by the time of creation keeps the agents of a role where they are. -/
theorem NamesKept.roleMates_agentsOf (h : NamesKept config runId db.identities) (role : String) :
    roleMates (db.agentsOf runId) role = (instancesOf db.identities runId role).map (·.id) := by
  have hinstances : instancesOf db.identities runId role =
      ((db.agents.filter (·.runId == runId)).filter (·.role == role)).map (·.identity) := by
    unfold instancesOf Db.identities
    rw [List.filter_map, List.filter_filter]
    refine congrArg _ (List.filter_congr fun agent _ => ?_)
    exact Bool.and_comm _ _
  have hsame : (db.agentsOf runId).filter (·.role == role) =
      (db.agents.filter (·.runId == runId)).filter (·.role == role) := by
    have hordered := h.ordered role
    rw [hinstances, List.pairwise_map] at hordered
    have hsorted : ((db.agents.filter (·.runId == runId)).filter (·.role == role)).Pairwise
        fun a b => decide (a.createdAt ≤ b.createdAt) = true :=
      hordered.imp fun hab => decide_eq_true hab
    have hsublist : ((db.agents.filter (·.runId == runId)).filter (·.role == role)).Sublist
        (db.agentsOf runId) := by
      refine List.sublist_mergeSort (fun a b c hab hbc => ?_) (fun a b => ?_) hsorted
        List.filter_sublist
      · exact decide_eq_true ((of_decide_eq_true hab).trans (of_decide_eq_true hbc))
      · simpa using Int.le_total a.createdAt b.createdAt
    have hfiltered := hsublist.filter (·.role == role)
    rw [List.filter_filter, List.filter_congr (q := (·.role == role)) (by simp)] at hfiltered
    refine (hfiltered.eq_of_length ?_).symm
    exact ((List.mergeSort_perm _ _).filter _).length_eq.symm
  unfold roleMates
  rw [hsame, hinstances, List.map_map]
  rfl

theorem NamesKept.keyed_agentsOf (h : NamesKept config runId db.identities) :
    Table.Keyed (·.id) (db.agentsOf runId) := by
  have hkeyed : Table.Keyed (·.id) db.agents := by
    have hids := h.keyed
    unfold Table.Keyed Db.identities at hids
    rwa [List.map_map] at hids
  have hperm := (List.mergeSort_perm (db.agents.filter (·.runId == runId))
    fun a b => decide (a.createdAt ≤ b.createdAt)).map (·.id)
  exact hperm.nodup_iff.mpr (hkeyed.filter _)

/-- The summaries of a run. -/
theorem NamesKept.summaries (h : NamesKept config runId db.identities) :
    summarizeAgents (db.agentsOf runId) config.archetype.lead =
      (db.agentsOf runId).map (summaryAmong (db.agentsOf runId) config.archetype.lead) :=
  summarizeAgents_eq h.keyed_agentsOf _

/-- The place of an agent among those of its role. -/
def ordinalOf (db : Db) (runId : RunId) (agent : AgentRecord) : Nat :=
  ((instancesOf db.identities runId agent.role).map (·.id)).idxOf agent.id + 1

theorem NamesKept.name_eq (h : NamesKept config runId db.identities) (agent : AgentRecord) :
    (summaryAmong (db.agentsOf runId) config.archetype.lead agent).name =
      publicName config.archetype.lead agent.role (ordinalOf db runId agent) := by
  unfold summaryAmong ordinalOf
  rw [h.roleMates_agentsOf]

theorem mem_agentsOf {agent : AgentRecord} :
    agent ∈ db.agentsOf runId ↔ agent ∈ db.agents ∧ agent.runId = runId := by
  unfold Db.agentsOf
  rw [List.mem_mergeSort, List.mem_filter, beq_iff_eq]

theorem mem_instancesOf {agent : AgentRecord} (hagent : agent ∈ db.agentsOf runId) :
    agent.identity ∈ instancesOf db.identities runId agent.role := by
  obtain ⟨hmem, hrun⟩ := mem_agentsOf.mp hagent
  refine List.mem_filter.mpr ⟨List.mem_map_of_mem hmem, ?_⟩
  simp [AgentRecord.identity, hrun]

theorem ordinalOf_le {agent : AgentRecord} (hagent : agent ∈ db.agentsOf runId) :
    ordinalOf db runId agent ≤ (instancesOf db.identities runId agent.role).length := by
  have hid : agent.id ∈ (instancesOf db.identities runId agent.role).map (·.id) :=
    List.mem_map_of_mem (f := fun agent : AgentIdentity => agent.id) (mem_instancesOf hagent)
  have hlt := List.idxOf_lt_length_iff.mpr hid
  rw [List.length_map] at hlt
  exact hlt

/-- Agents of a role with the same number are the same agent. -/
theorem ordinalOf_inj {agent other : AgentRecord} (hagent : agent ∈ db.agentsOf runId)
    (hrole : agent.role = other.role)
    (hordinal : ordinalOf db runId agent = ordinalOf db runId other) : agent.id = other.id := by
  have hid : agent.id ∈ (instancesOf db.identities runId agent.role).map (·.id) :=
    List.mem_map_of_mem (f := fun agent : AgentIdentity => agent.id) (mem_instancesOf hagent)
  unfold ordinalOf at hordinal
  rw [← hrole] at hordinal
  exact (List.idxOf_inj hid).mp (Nat.succ_injective hordinal)

/-- Agents with the same name are the same agent. -/
theorem NamesKept.name_inj (h : NamesKept config runId db.identities) {agent other : AgentRecord}
    (hagent : agent ∈ db.agentsOf runId) (hother : other ∈ db.agentsOf runId)
    (hname : publicName config.archetype.lead agent.role (ordinalOf db runId agent) =
      publicName config.archetype.lead other.role (ordinalOf db runId other)) :
    agent.id = other.id := by
  have hpos : ∀ agent, 0 < ordinalOf db runId agent := fun _ => Nat.succ_pos _
  unfold publicName at hname
  split at hname
  · next hlead =>
      split at hname
      · next hlead' =>
          exact ordinalOf_inj hagent (hlead.1.trans hlead'.1.symm) (hlead.2.trans hlead'.2.symm)
      · -- the lead role is no numbered name
        rw [hlead.1] at hname
        exact absurd hname (h.apart _ _ (ordinalOf_le hother) (hpos other))
  · split at hname
    · next hlead' =>
        rw [hlead'.1] at hname
        exact absurd hname.symm (h.apart _ _ (ordinalOf_le hagent) (hpos agent))
    · obtain ⟨hrole, hordinal⟩ := numberedName_inj hname
      exact ordinalOf_inj hagent hrole hordinal

theorem NamesKept.distinct (h : NamesKept config runId db.identities) :
    Table.Keyed (·.name) (summarizeAgents (db.agentsOf runId) config.archetype.lead) := by
  unfold Table.Keyed
  rw [h.summaries, List.map_map]
  refine List.Nodup.map_on ?_ (List.Nodup.of_map _ h.keyed_agentsOf)
  intro agent hagent other hother hname
  rw [Function.comp_apply, Function.comp_apply, h.name_eq, h.name_eq] at hname
  exact h.keyed_agentsOf.eq_of_key_eq hagent hother (h.name_inj hagent hother hname)

/-- A name that does not read as an id leads to its agent, and so does the id. -/
theorem NamesKept.resolve (h : NamesKept config runId db.identities)
    (hlead : (Id.ofText? config.archetype.lead : Option AgentId) = none) {summary : AgentSummary}
    (hsummary : summary ∈ summarizeAgents (db.agentsOf runId) config.archetype.lead) :
    (resolveAgent config runId summary.name).run db = (.ok summary, db) ∧
      (resolveAgent config runId summary.id.text).run db = (.ok summary, db) := by
  have hfindName := h.distinct.find?_eq_some hsummary
  have hkeyedSummaries : Table.Keyed (·.id)
      (summarizeAgents (db.agentsOf runId) config.archetype.lead) := by
    unfold Table.Keyed
    rw [h.summaries, List.map_map]
    exact h.keyed_agentsOf
  have hfindId := hkeyedSummaries.find?_eq_some hsummary
  have hagents := hsummary
  rw [h.summaries] at hagents
  obtain ⟨agent, hagent, rfl⟩ := List.mem_map.mp hagents
  constructor
  · have hname : (Id.ofText?
        (summaryAmong (db.agentsOf runId) config.archetype.lead agent).name : Option AgentId) =
          none := by
      rw [h.name_eq]
      unfold publicName
      split
      · next hfirst =>
          rw [hfirst.1]
          exact hlead
      · exact ofText?_numberedName _
          (Nat.lt_of_le_of_lt (ordinalOf_le hagent) (h.few agent.role))
    unfold resolveAgent
    rw [Tx.run_bind, Tx.run_read]
    dsimp only
    rw [hname]
    dsimp only
    rw [hfindName]
    rfl
  · have hid : (Id.ofText?
        (summaryAmong (db.agentsOf runId) config.archetype.lead agent).id.text : Option AgentId) =
          some agent.id := by
      obtain ⟨hmem, hrun⟩ := mem_agentsOf.mp hagent
      exact (h.canonical agent.identity (List.mem_map_of_mem hmem) hrun).ofText?
    unfold resolveAgent
    rw [Tx.run_bind, Tx.run_read]
    dsimp only
    rw [hid]
    dsimp only
    have hfind : (summarizeAgents (db.agentsOf runId) config.archetype.lead).find?
        (·.id == agent.id) =
          some (summaryAmong (db.agentsOf runId) config.archetype.lead agent) := hfindId
    rw [hfind]
    rfl

end NamesKept

/-! ## Runs -/

/-- The id of a new agent is well formed, its clock reading is not before the creation of an agent
    of its role, its numbered name is not the lead role, and the count of its role fits. -/
def Hire.NamedApart (config : EffectiveConfig) (runId : RunId) (db : Db) (hire : Hire) : Prop :=
  hire.agentId.Canonical ∧
    (∀ agent ∈ instancesOf db.identities runId hire.role, agent.createdAt ≤ hire.now) ∧
    config.archetype.lead ≠
      numberedName hire.role ((instancesOf db.identities runId hire.role).length + 1) ∧
    (instancesOf db.identities runId hire.role).length + 1 < 2 ^ 64

instance {config : EffectiveConfig} {runId : RunId} {db : Db} {hire : Hire} :
    Decidable (hire.NamedApart config runId db) :=
  inferInstanceAs (Decidable (_ ∧ _ ∧ _ ∧ _))

/-- What an input hires is named apart. -/
def SupervisorStep.NamedApart (config : EffectiveConfig) (runId : RunId) (rt : Runtime)
    (step : SupervisorStep) : Prop :=
  ∀ hire ∈ step.input.hire? config runId rt.db, hire.NamedApart config runId rt.db

instance {config : EffectiveConfig} {runId : RunId} {rt : Runtime} {step : SupervisorStep} :
    Decidable (step.NamedApart config runId rt) :=
  inferInstanceAs
    (Decidable (∀ hire ∈ step.input.hire? config runId rt.db, hire.NamedApart config runId rt.db))

section Runs

variable {config : EffectiveConfig} {runId : RunId}

theorem instancesOf_hired (identities : List AgentIdentity) (hire : Hire) (role : String) :
    instancesOf (identities ++ [hire.identity runId]) runId role =
      if hire.role = role then instancesOf identities runId role ++ [hire.identity runId]
      else instancesOf identities runId role := by
  unfold instancesOf
  rw [List.filter_append, List.filter_singleton]
  by_cases hrole : hire.role = role
  · rw [if_pos hrole]
    simp [Hire.identity, hrole]
  · have hother : (hire.role == role) = false := by simpa using hrole
    rw [if_neg hrole]
    simp [Hire.identity, hother]

/-- A new agent that is named apart keeps the names apart and in place. -/
theorem NamesKept.hired {identities : List AgentIdentity} {hire : Hire} {db : Db}
    (h : NamesKept config runId db.identities) (hnamed : hire.NamedApart config runId db)
    (hnew : ∀ agent ∈ db.identities, agent.id ≠ hire.agentId)
    (hidentities : identities = db.identities ++ [hire.identity runId]) :
    NamesKept config runId identities := by
  obtain ⟨hcanonical, hreading, hnumber, hfew⟩ := hnamed
  subst hidentities
  constructor
  · exact Table.keyed_append h.keyed hnew
  · intro agent hagent hrun
    rcases List.mem_append.mp hagent with hold | hlast
    · exact h.canonical agent hold hrun
    · rw [List.mem_singleton.mp hlast]
      exact hcanonical
  · intro role
    rw [instancesOf_hired]
    split
    · next hrole =>
        subst hrole
        refine List.pairwise_append.mpr ⟨h.ordered _, List.pairwise_singleton _ _, ?_⟩
        intro agent hagent other hother
        rw [List.mem_singleton.mp hother]
        exact hreading agent hagent
    · exact h.ordered role
  · intro role ordinal hle hpos
    rw [instancesOf_hired] at hle
    split at hle
    · next hrole =>
        subst hrole
        rw [List.length_append, List.length_singleton] at hle
        rcases Nat.le_succ_iff.mp hle with hold | hlast
        · exact h.apart _ ordinal hold hpos
        · rw [hlast]
          exact hnumber
    · exact h.apart role ordinal hle hpos
  · intro role
    rw [instancesOf_hired]
    split
    · next hrole =>
        subst hrole
        rw [List.length_append, List.length_singleton]
        exact hfew
    · exact h.few role

/-- A step that is named apart keeps the names, and the agents before it stay first. -/
theorem NamesKept.step {step : SupervisorStep} {rt : Runtime}
    (h : NamesKept config runId rt.db.identities)
    (hnamed : step.NamedApart config runId rt) :
    NamesKept config runId ((supervisorMachine config runId).step step rt).db.identities ∧
      rt.db.identities <+: ((supervisorMachine config runId).step step rt).db.identities := by
  have hhires : Db.Hires runId (step.input.hire? config runId rt.db) rt.db
      ((supervisorMachine config runId).step step rt).db := hires_step step rt
  rcases hhires with hsame | ⟨hire, hhire, hnew, hidentities⟩
  · rw [hsame]
    exact ⟨h, List.prefix_refl _⟩
  · refine ⟨h.hired (hnamed hire hhire) hnew hidentities, ?_⟩
    rw [hidentities]
    exact List.prefix_append _ _

theorem NamesKept.empty : NamesKept config runId Runtime.empty.db.identities where
  keyed := List.nodup_nil
  canonical := nofun
  ordered := fun _ => .nil
  apart := fun _ _ hle hpos => absurd hpos (Nat.not_lt.mpr hle)
  few := fun _ => Nat.two_pow_pos 64

/-- The agents of a role stay first when others are recorded behind them. -/
theorem ordinalOf_kept {db later : Db} (h : db.identities <+: later.identities)
    {agent agent' : AgentRecord} (hagent : agent ∈ db.agentsOf runId)
    (hsame : agent'.identity = agent.identity) :
    ordinalOf later runId agent' = ordinalOf db runId agent := by
  obtain ⟨more, hmore⟩ := h
  have hid : agent'.id = agent.id := congrArg AgentIdentity.id hsame
  have hrole : agent'.role = agent.role := congrArg AgentIdentity.role hsame
  have hin : agent.id ∈ (instancesOf db.identities runId agent.role).map (·.id) :=
    List.mem_map_of_mem (f := fun agent : AgentIdentity => agent.id) (mem_instancesOf hagent)
  unfold ordinalOf
  rw [hid, hrole, ← hmore]
  unfold instancesOf at hin ⊢
  rw [List.filter_append, List.map_append, List.idxOf_append_of_mem hin]

/-- What names are for, in a state of a run and in a later one: they are different, an agent keeps
    its name, and a name or an id leads to its agent. -/
structure AgentNames (config : EffectiveConfig) (runId : RunId) (db later : Db) : Prop where
  distinct : ((summarizeAgents (later.agentsOf runId) config.archetype.lead).map (·.name)).Nodup
  kept : ∀ summary ∈ summarizeAgents (db.agentsOf runId) config.archetype.lead,
    ∃ summary' ∈ summarizeAgents (later.agentsOf runId) config.archetype.lead,
      summary'.id = summary.id ∧ summary'.name = summary.name
  byName : ∀ summary ∈ summarizeAgents (later.agentsOf runId) config.archetype.lead,
    (resolveAgent config runId summary.name).run later = (.ok summary, later)
  byId : ∀ summary ∈ summarizeAgents (later.agentsOf runId) config.archetype.lead,
    (resolveAgent config runId summary.id.text).run later = (.ok summary, later)

theorem NamesKept.agentNames {db later : Db}
    (hlead : (Id.ofText? config.archetype.lead : Option AgentId) = none)
    (h : NamesKept config runId db.identities) (hlater : NamesKept config runId later.identities)
    (hbefore : db.identities <+: later.identities) : AgentNames config runId db later := by
  constructor
  · exact hlater.distinct
  · intro summary hsummary
    rw [h.summaries] at hsummary
    obtain ⟨agent, hagent, rfl⟩ := List.mem_map.mp hsummary
    obtain ⟨hmem, hrun⟩ := mem_agentsOf.mp hagent
    obtain ⟨agent', hmem', hsame⟩ : ∃ agent' ∈ later.agents, agent'.identity = agent.identity :=
      List.mem_map.mp (hbefore.subset (List.mem_map_of_mem hmem))
    have hid : agent'.id = agent.id := congrArg AgentIdentity.id hsame
    have hrole : agent'.role = agent.role := congrArg AgentIdentity.role hsame
    have hrun' : agent'.runId = runId := (congrArg AgentIdentity.runId hsame).trans hrun
    refine ⟨summaryAmong (later.agentsOf runId) config.archetype.lead agent', ?_, hid, ?_⟩
    · rw [hlater.summaries]
      exact List.mem_map_of_mem (mem_agentsOf.mpr ⟨hmem', hrun'⟩)
    · rw [hlater.name_eq, h.name_eq, ordinalOf_kept hbefore hagent hsame, hrole]
  · exact fun summary hsummary => (hlater.resolve hlead hsummary).1
  · exact fun summary hsummary => (hlater.resolve hlead hsummary).2

end Runs

/-- In every run whose launches and spawns are named apart, under a configuration whose lead role
    does not read as an agent id, names do in every state what they are for. -/
theorem agent_names {config : EffectiveConfig} {runId : RunId}
    (hlead : (Id.ofText? config.archetype.lead : Option AgentId) = none)
    {before after : List SupervisorStep}
    (hmeets : (supervisorMachine config runId).Meets
      (fun rt step => step.NamedApart config runId rt) .empty (before ++ after)) :
    AgentNames config runId ((supervisorMachine config runId).run before).db
      ((supervisorMachine config runId).run (before ++ after)).db := by
  obtain ⟨hbefore, hafter⟩ := (Machine.meets_append _ _ _ _).mp hmeets
  have hfirst : NamesKept config runId
      ((supervisorMachine config runId).run before).db.identities :=
    Machine.invariant_runFrom (I := fun rt => NamesKept config runId rt.db.identities)
      (fun _ _ hkept hnamed => (hkept.step hnamed).1) NamesKept.empty hbefore
  have hlater : NamesKept config runId
        ((supervisorMachine config runId).run (before ++ after)).db.identities ∧
      ((supervisorMachine config runId).run before).db.identities <+:
        ((supervisorMachine config runId).run (before ++ after)).db.identities := by
    rw [Machine.run_append]
    refine Machine.invariant_runFrom
      (I := fun rt => NamesKept config runId rt.db.identities ∧
        ((supervisorMachine config runId).run before).db.identities <+: rt.db.identities)
      ?_ ⟨hfirst, List.prefix_refl _⟩ hafter
    rintro rt step ⟨hkept, hsince⟩ hnamed
    obtain ⟨hkept', hnext⟩ := hkept.step hnamed
    exact ⟨hkept', hsince.trans hnext⟩
  exact hfirst.agentNames hlead hlater.1 hlater.2

/-! ## A clock that steps back -/

theorem mergeSort_pair {α : Type} {le : α → α → Bool} {a b : α} (h : le a b = false) :
    [a, b].mergeSort le = [b, a] := by
  rw [List.mergeSort, List.mergeSort.eq_def, List.mergeSort.eq_def]
  simp [List.MergeSort.Internal.splitInTwo, h]

/-- The second agent of a role has another name than the first. -/
theorem publicName_next (leadRole role : String) :
    publicName leadRole role 2 ≠ publicName leadRole role 1 := by
  unfold publicName
  rw [if_neg (by omega)]
  split
  · exact (numberedName_ne_self role 2).symm
  · intro h
    have hnumbers := (numberedName_inj h).2
    omega

/-- When the clock steps back between the first two agents of a role, they change names. -/
theorem not_agentNames_of_stepBack {config : EffectiveConfig} {runId : RunId} {db later : Db}
    {first second : AgentIdentity} (hdb : db.identities = [first])
    (hlater : later.identities = [first, second]) (hfirst : first.runId = runId)
    (hsecond : second.runId = runId) (hrole : second.role = first.role)
    (hids : second.id ≠ first.id) (hback : second.createdAt < first.createdAt) :
    ¬ AgentNames config runId db later := by
  intro h
  obtain ⟨agent, hagents, rfl⟩ : ∃ agent, db.agents = [agent] ∧ agent.identity = first := by
    simpa [Db.identities, List.map_eq_cons_iff] using hdb
  obtain ⟨agent', other, hagents', hsame, rfl⟩ : ∃ agent' other,
      later.agents = [agent', other] ∧ agent'.identity = agent.identity ∧
        other.identity = second := by
    simpa [Db.identities, List.map_eq_cons_iff] using hlater
  have hid : agent'.id = agent.id := congrArg AgentIdentity.id hsame
  have hrole' : agent'.role = agent.role := congrArg AgentIdentity.role hsame
  have hreading : agent'.createdAt = agent.createdAt := congrArg AgentIdentity.createdAt hsame
  have hrun : agent.runId = runId := hfirst
  have hrun' : agent'.runId = runId := (congrArg AgentIdentity.runId hsame).trans hrun
  have hother : other.runId = runId := hsecond
  have hotherRole : other.role = agent'.role := Eq.trans hrole hrole'.symm
  have hbefore : db.agentsOf runId = [agent] := by
    unfold Db.agentsOf
    simp [hagents, hrun]
  have hafter : later.agentsOf runId = [other, agent'] := by
    unfold Db.agentsOf
    rw [hagents', List.filter_eq_self.mpr (by simp [hrun', hother])]
    refine mergeSort_pair (decide_eq_false (Int.not_le.mpr ?_))
    rw [hreading]
    exact hback
  -- the older agent was the first of its role and is now the second
  obtain ⟨summary, hsummary, hsummaryId, hname⟩ := h.kept
    { id := agent.id, name := publicName config.archetype.lead agent.role 1, role := agent.role,
      state := agent.state.asStr } (by rw [hbefore]; exact List.mem_cons_self)
  rw [hafter, summarizeAgents, summarizeFrom, summarizeFrom, summarizeFrom, hotherRole,
    Function.update_self] at hsummary
  rcases List.mem_cons.mp hsummary with rfl | hsummary
  · exact hids hsummaryId
  · rw [List.mem_singleton.mp hsummary] at hname
    dsimp only at hname
    rw [hrole'] at hname
    exact publicName_next _ _ hname

def namedRun : RunId := ⟨"cr-01ARZ3NDEKTSV4RRFFQ69G5FA0"⟩

/-- A provider that is not there. -/
def namingHost : SpawnHost where
  materialized := .error "unavailable"
  probe := .error (.restartLimited ⟨"session"⟩ none)
  compatible := .ok ()
  contract := .null
  tokenVerifier := []
  job :=
    { command := [], resolvedProgram := none, currentExecutable := .ok (), utf8Executable := true,
      processId := .error "unavailable", stdout := true, reader := .ok () }
  events := []
  drained := .ok ()
  failure := fun _ => "unavailable"

/-- A worker for the task with a number, spawned at a reading of the clock. -/
def spawnWorkerAt (number : String) (now : Int) : SupervisorStep where
  input := .spawn
    { caller := .operator, operationId := ⟨"spawn-" ++ number⟩, role := "worker",
      taskId := ⟨"task-" ++ number⟩, agentId := ⟨"cg-01ARZ3NDEKTSV4RRFFQ69G5FA" ++ number⟩,
      sessionId := ⟨"session-" ++ number⟩, assignmentId := ⟨"assignment-" ++ number⟩,
      runStateDirectory := "/state", baseCommit := .ok (some "base"), checkedAt := now, now }
    namingHost
  power := 1

def createTaskStep (number : String) : SupervisorStep where
  input := .other (.createTask
    { operationId := ⟨"create-" ++ number⟩, runId := namedRun, caller := none, now := 0 } none
    { taskId := ⟨"task-" ++ number⟩, title := "title", description := "description",
      projectAlias := "primary", projectId := ⟨"project-1"⟩, group := none,
      dependencies := [] })
  power := 1

/-- A run with two tasks. -/
def preparedRun : List SupervisorStep :=
  [{ input := .other (.startRun namedRun
      { id := ⟨"project-1"⟩, runId := namedRun, projectAlias := "primary",
        originalPath := "/work", canonicalPath := "/work", identity := .null, isPrimary := true,
        attachedAt := 0 } 0)
     power := 1 },
   createTaskStep "1", createTaskStep "2"]

/-- Two workers that are spawned one after the other keep their names. -/
theorem agent_names_spawned : ∃ config, resolve {} {} {} = .ok config ∧
    AgentNames config namedRun
      ((supervisorMachine config namedRun).run (preparedRun ++ [spawnWorkerAt "1" 10])).db
      ((supervisorMachine config namedRun).run
        ((preparedRun ++ [spawnWorkerAt "1" 10]) ++ [spawnWorkerAt "2" 10])).db := by
  have hfacts : (resolve {} {} {}).toOption.any (fun config =>
      (Id.ofText? config.archetype.lead : Option AgentId) == none &&
        decide ((supervisorMachine config namedRun).Meets
          (fun rt step => step.NamedApart config namedRun rt) .empty
          ((preparedRun ++ [spawnWorkerAt "1" 10]) ++ [spawnWorkerAt "2" 10]))) = true := by
    decide +kernel
  obtain ⟨config, hresolve, hnamed⟩ := Except.exists_ok_of_any hfacts
  rw [Bool.and_eq_true, beq_iff_eq, decide_eq_true_iff] at hnamed
  exact ⟨config, hresolve, agent_names hnamed.1 hnamed.2⟩

/-- The workers of the run below. -/
def steppedBack : List AgentIdentity :=
  [⟨⟨"cg-01ARZ3NDEKTSV4RRFFQ69G5FA1"⟩, namedRun, "worker", 10⟩,
    ⟨⟨"cg-01ARZ3NDEKTSV4RRFFQ69G5FA2"⟩, namedRun, "worker", 5⟩]

/-- Two workers at readings that step back exchange their names. -/
theorem agent_names_exchanged : ∃ config, resolve {} {} {} = .ok config ∧
    ¬ AgentNames config namedRun
      ((supervisorMachine config namedRun).run (preparedRun ++ [spawnWorkerAt "1" 10])).db
      ((supervisorMachine config namedRun).run
        (preparedRun ++ [spawnWorkerAt "1" 10, spawnWorkerAt "2" 5])).db := by
  have hfacts : (resolve {} {} {}).toOption.any (fun config =>
      ((supervisorMachine config namedRun).run
          (preparedRun ++ [spawnWorkerAt "1" 10])).db.identities == steppedBack.take 1 &&
      ((supervisorMachine config namedRun).run
          (preparedRun ++ [spawnWorkerAt "1" 10, spawnWorkerAt "2" 5])).db.identities ==
        steppedBack) = true := by
    decide +kernel
  obtain ⟨config, hresolve, hworkers⟩ := Except.exists_ok_of_any hfacts
  rw [Bool.and_eq_true, beq_iff_eq, beq_iff_eq] at hworkers
  refine ⟨config, hresolve, not_agentNames_of_stepBack hworkers.1 hworkers.2 rfl rfl rfl ?_ ?_⟩
  · decide
  · decide
end Coterie
