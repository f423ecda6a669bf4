import StreamAudit.Proofs.CacheTransparency
import StreamAudit.Proofs.Registry.View
import StreamAudit.Proofs.SelectionPolicy

/-!
Privilege only adds. The role of a caller decides about the ids that a selection starts from and
about nothing else. More of them select more, also where the proxy takes the place of the agents,
since that depends on whether an id is selected, not on whether one is missing (`addProxy_mono`).
Labels and series do not see which other ids are selected, so a tenant administrator gets every
report that another caller gets (`reports_within`). It does not matter which of the two asks first,
or what was asked before: queries leave the view of the items as it was (`seesSame_afterQueries`).
-/

set_option autoImplicit false
set_option relaxedAutoImplicit false

namespace StreamAudit

open StreamAudit.Registry StreamAudit.Store

/-! ### Selections from more ids -/

namespace Selection

section Steps

variable {store : ItemStore} {case : Case} {registry : Registry}

/-- The ids of the ends do not depend on what was gathered before. -/
theorem addEnds_eq_map (store : ItemStore) (case : Case) (gathered : List (Option String)) :
    addEnds store case gathered = (gathered ++ ·) <$> addEnds store case [] := by
  unfold addEnds
  cases case.sink <;> simp only [map_bind, map_pure, List.nil_append]

theorem append_mono {gathered more : List (Option String)} (hmore : gathered ⊆ more)
    (added : List (Option String)) : gathered ++ added ⊆ more ++ added :=
  List.append_subset.mpr
    ⟨List.subset_append_of_subset_left added hmore, List.subset_append_right more added⟩

theorem addEnds_mono {gathered more found foundMore : List (Option String)}
    (hmore : gathered ⊆ more) (h : seen registry (addEnds store case gathered) = .ok found)
    (h' : seen registry (addEnds store case more) = .ok foundMore) : found ⊆ foundMore := by
  rw [addEnds_eq_map, seen_map] at h h'
  obtain ⟨ends, hends, rfl⟩ := exists_of_map_eq_ok h
  obtain ⟨ends', hends', rfl⟩ := exists_of_map_eq_ok h'
  obtain rfl := Except.ok.inj (hends.symm.trans hends')
  exact append_mono hmore ends

/-- Where all sources push the proxy is added if the agents are there. -/
theorem seen_addProxy (hpush : case.allPush = true) (gathered : List (Option String)) :
    seen registry (addProxy store case gathered) =
      (seen registry (resolve store (some agentType) .received)).bind fun agent ↦
        if agent ∈ gathered then
          (seen registry (resolve store (some proxyType) .received)).map fun received ↦
            gathered ++ [received]
        else .ok gathered := by
  rw [addProxy, if_pos hpush, seen_bind (.resolve _ _)]
  · refine congrArg (Except.bind _) (funext fun agent ↦ ?_)
    split_ifs
    · rw [bind_pure_comp, seen_map]
    · rfl
  · intro agent
    split_ifs
    · exact .bind (.resolve _ _) fun _ ↦ .pure _
    · exact .pure _

/-- Agents that are reported with few ids are reported with more, and so is then the proxy. -/
theorem addProxy_mono {gathered more found foundMore : List (Option String)}
    (hmore : gathered ⊆ more) (h : seen registry (addProxy store case gathered) = .ok found)
    (h' : seen registry (addProxy store case more) = .ok foundMore) : found ⊆ foundMore := by
  by_cases hpush : case.allPush = true
  · rw [seen_addProxy hpush] at h h'
    obtain ⟨agent, hagent, h⟩ := exists_of_bind_eq_ok h
    obtain ⟨agent', hagent', h'⟩ := exists_of_bind_eq_ok h'
    obtain rfl := Except.ok.inj (hagent.symm.trans hagent')
    by_cases hmem : agent ∈ gathered
    · rw [if_pos hmem] at h
      rw [if_pos (hmore hmem)] at h'
      obtain ⟨received, hreceived, rfl⟩ := exists_of_map_eq_ok h
      obtain ⟨received', hreceived', rfl⟩ := exists_of_map_eq_ok h'
      obtain rfl := Except.ok.inj (hreceived.symm.trans hreceived')
      exact append_mono hmore [received]
    · rw [if_neg hmem] at h
      obtain rfl := Except.ok.inj h
      -- The agents may be among the further ids, and then the proxy comes on top.
      split_ifs at h'
      · obtain ⟨received, -, rfl⟩ := exists_of_map_eq_ok h'
        exact List.subset_append_of_subset_left [received] hmore
      · exact Except.ok.inj h' ▸ hmore
  · rw [addProxy, if_neg hpush] at h h'
    exact Except.ok.inj h ▸ Except.ok.inj h' ▸ hmore

end Steps

section Plans

variable {store : ItemStore} {registry : Registry} {defaults : Defaults} {topology : Topology}

/-- If the ids of users are among those of administrators, so are the ids that are selected for
them. -/
theorem auditIds_mono (hnested : defaults.userIds ⊆ defaults.adminIds) {ids more : List String}
    (h : seen registry (auditIds store defaults (caseOf topology false)) = .ok ids)
    (h' : seen registry (auditIds store defaults (caseOf topology true)) = .ok more) :
    ids ⊆ more := by
  unfold auditIds at h h'
  rw [seen_bind (looksUp_addEnds store _ _) fun _ ↦ (looksUp_addProxy store _ _).map present]
    at h h'
  obtain ⟨gathered, hgathered, h⟩ := exists_of_bind_eq_ok h
  obtain ⟨gatheredMore, hgatheredMore, h'⟩ := exists_of_bind_eq_ok h'
  rw [seen_map] at h h'
  obtain ⟨found, hfound, rfl⟩ := exists_of_map_eq_ok h
  obtain ⟨foundMore, hfoundMore, rfl⟩ := exists_of_map_eq_ok h'
  have hends : gathered ⊆ gatheredMore :=
    addEnds_mono (List.map_subset some hnested) hgathered hgatheredMore
  have hall : found ⊆ foundMore := addProxy_mono hends hfound hfoundMore
  intro auditId hauditId
  obtain ⟨hpresent, hmem⟩ := mem_present.mp hauditId
  exact mem_present.mpr ⟨hpresent, hall hmem⟩

theorem seen_planFor (isPrivileged : Bool) :
    seen registry (planFor store defaults topology isPrivileged) =
      (seen registry (auditIds store defaults (caseOf topology isPrivileged))).bind fun ids ↦
        (seen registry (nodeTypes store topology)).map fun nodeTypes ↦ (ids, nodeTypes) := by
  unfold planFor
  rw [seen_bind (looksUp_auditIds store _ _)]
  · refine congrArg (Except.bind _) (funext fun ids ↦ ?_)
    rw [bind_pure_comp, seen_map]
  · exact fun _ ↦ .bind (looksUp_nodeTypes store topology) fun _ ↦ .pure _

/-- The plan of an administrator has the ids of the plan of a user, and its labels. -/
theorem planFor_mono (hnested : defaults.userIds ⊆ defaults.adminIds)
    {plan more : List String × Dictionary String}
    (h : seen registry (planFor store defaults topology false) = .ok plan)
    (h' : seen registry (planFor store defaults topology true) = .ok more) :
    plan.1 ⊆ more.1 ∧ plan.2 = more.2 := by
  rw [seen_planFor] at h h'
  obtain ⟨ids, hids, h⟩ := exists_of_bind_eq_ok h
  obtain ⟨moreIds, hmoreIds, h'⟩ := exists_of_bind_eq_ok h'
  obtain ⟨labels, hlabels, rfl⟩ := exists_of_map_eq_ok h
  obtain ⟨moreLabels, hmoreLabels, rfl⟩ := exists_of_map_eq_ok h'
  exact ⟨auditIds_mono hnested hids hmoreIds, Except.ok.inj (hlabels.symm.trans hmoreLabels)⟩

end Plans

end Selection

namespace Service

/-! ### Queries one after another -/

/-- Whether a service has become another one that answers alike, since it differs by what is cached
at most, and its items look the same. -/
def SeesSame (service later : Service) : Prop :=
  ∃ registry, later = { service with registry } ∧
    view service.itemStore registry = view service.itemStore service.registry

/-- The service after some queries, be they answered or not. -/
def afterQueries (queries : List (Request × Caller)) (service : Service) : Service :=
  queries.foldl (fun reached asked ↦ ((query asked.1 asked.2).run reached).2) service

theorem keeps_seesSame {service : Service} {α : Type} {read : ItemStore → Reading α}
    (hread : ∀ store, LooksUp store (read store)) : Keeps (SeesSame service) (reading read) := by
  rintro later ⟨registry, rfl, hview⟩
  exact ⟨_, rfl, (view_run (hread service.itemStore) registry).trans hview⟩

theorem seesSame_query {service later : Service} (h : SeesSame service later) (request : Request)
    (caller : Caller) : SeesSame service ((query request caller).run later).2 :=
  keeps_query keeps_seesSame request caller later h

theorem seesSame_afterQueries (queries : List (Request × Caller)) (service : Service) :
    SeesSame service (service.afterQueries queries) := by
  suffices h : ∀ later, SeesSame service later → SeesSame service (later.afterQueries queries) from
    h service ⟨service.registry, rfl, rfl⟩
  induction queries with
  | nil => exact fun later h ↦ h
  | cons asked rest ih => exact fun later h ↦ ih _ (seesSame_query h asked.1 asked.2)

theorem answered_of_seesSame {service later : Service} (h : SeesSame service later)
    (request : Request) (caller : Caller) :
    later.answered request caller = service.answered request caller := by
  obtain ⟨registry, rfl, hview⟩ := h
  have hplanned : planned { service with registry } request caller =
      service.planned request caller := by
    rw [planned_eq, planned_eq]
    refine congrArg (Except.bind (service.topologyOf request)) (funext fun topology ↦ ?_)
    exact seen_congr (Selection.looksUp_planFor service.itemStore _ _ _) hview
  rw [answered_eq, answered_eq, hplanned]
  rfl

/-! ### What a user gets -/

theorem isTenantAdmin_iff (caller : Caller) :
    caller.isTenantAdmin = true ↔ Caller.tenantAdmin ∈ caller.roles := by
  rw [Caller.isTenantAdmin, List.contains_iff_mem]

section Callers

variable {service : Service} (hnested : service.defaults.userIds ⊆ service.defaults.adminIds)
  {user admin : Caller} (huser : Caller.tenantAdmin ∉ user.roles)
  (hadmin : Caller.tenantAdmin ∈ admin.roles) {request : Request}

include hnested huser hadmin

theorem planned_mono {plan more : List String × Dictionary String}
    (h : service.planned request user = .ok plan) (h' : service.planned request admin = .ok more) :
    plan.1 ⊆ more.1 ∧ plan.2 = more.2 := by
  have hunprivileged : user.isTenantAdmin = false :=
    Bool.eq_false_iff.mpr fun hrole ↦ huser ((isTenantAdmin_iff user).mp hrole)
  rw [planned_eq, hunprivileged] at h
  rw [planned_eq, (isTenantAdmin_iff admin).mpr hadmin] at h'
  obtain ⟨topology, htopology, h⟩ := exists_of_bind_eq_ok h
  obtain ⟨topology', htopology', h'⟩ := exists_of_bind_eq_ok h'
  obtain rfl := Except.ok.inj (htopology.symm.trans htopology')
  exact Selection.planFor_mono hnested h h'

/-- On one service a tenant administrator gets what a user gets. -/
theorem answered_mono {userIds adminIds : List String} {userReports adminReports : List Report}
    (h : service.answered request user = .ok (userIds, userReports))
    (h' : service.answered request admin = .ok (adminIds, adminReports)) :
    userIds ⊆ adminIds ∧ userReports ⊆ adminReports := by
  rw [answered_eq] at h h'
  obtain ⟨plan, hplan, h⟩ := exists_of_bind_eq_ok h
  obtain ⟨more, hmore, h'⟩ := exists_of_bind_eq_ok h'
  obtain ⟨found, hfound, h⟩ := exists_of_map_eq_ok h
  obtain ⟨foundMore, hfoundMore, h'⟩ := exists_of_map_eq_ok h'
  cases h
  cases h'
  obtain ⟨hids, hlabels⟩ := planned_mono hnested huser hadmin hplan hmore
  refine ⟨hids, List.map_subset _ fun series hseries ↦ ?_⟩
  obtain ⟨auditId, hauditId, hanswer⟩ := exists_of_mem_mapM hfound series hseries
  obtain ⟨same, hsame, hanswer'⟩ := exists_mem_of_mapM hfoundMore auditId (hids hauditId)
  rw [← hlabels, hanswer] at hanswer'
  exact Except.ok.inj hanswer' ▸ hsame

/-- Every report that a caller without the role of a tenant administrator gets is among those that
one with this role gets for the same request, whatever queries the service was asked before each of
them. -/
theorem reports_within (first second : List (Request × Caller)) {userIds adminIds : List String}
    {userReports adminReports : List Report}
    (h : (service.afterQueries first).answered request user = .ok (userIds, userReports))
    (h' : (service.afterQueries second).answered request admin = .ok (adminIds, adminReports)) :
    userIds ⊆ adminIds ∧ ∀ report ∈ userReports, report ∈ adminReports := by
  rw [answered_of_seesSame (seesSame_afterQueries first service)] at h
  rw [answered_of_seesSame (seesSame_afterQueries second service)] at h'
  obtain ⟨hids, hreports⟩ := answered_mono hnested huser hadmin h h'
  exact ⟨hids, fun report hreport ↦ hreports hreport⟩

end Callers

/-! ### Agents reported to administrators alone -/

namespace Raised

/-- A service on which agents are reported to tenant administrators only, for a stream whose sources
push. -/
def service : Service where
  database :=
    { items := some [⟨1, ⟨Selection.agentReceived, "3"⟩⟩, ⟨2, ⟨Selection.proxyReceived, "5"⟩⟩,
        ⟨3, ⟨⟨"HIVE", .sent⟩, "10"⟩⟩, ⟨4, ⟨⟨"HIVE", .received⟩, "9"⟩⟩]
      groups := some [⟨1, { groupId := "g" }⟩]
      sinks := some [⟨1, ⟨"g", "s", "HIVE"⟩⟩]
      streamSources := some [⟨1, ⟨"g", "s", Topology.pushType⟩⟩] }
  defaults := ⟨["3", "7"], ["7"]⟩
  provider := .custom "probe" false fun query ↦
    .ok [⟨.text (if query.auditId = "9" then "2024-01-01 00:00:00" else "?"), 2, 7⟩]
  warehouse := { url := none, table := "audit_data" }

/-- A request for a day. -/
def request : Request :=
  { groupId := "g", streamId := "s", first := .newYear, last := .newYear, granularity := .hour }

/-- A caller without roles. -/
def user : Caller :=
  { userId := "u" }

/-- A tenant administrator. -/
def admin : Caller :=
  { userId := "a", roles := [Caller.tenantAdmin] }

/-- The reports of the user. -/
def userReports : List Report :=
  [⟨"10", some "HIVE", []⟩, ⟨"7", none, []⟩, ⟨"9", some "HIVE", [⟨"2024-01-01 00", 2, 3⟩]⟩]

/-- The administrator, who asks after the user, gets the agents and the proxy on top. -/
theorem reports_within_raised :
    service.answered request user = .ok (["10", "7", "9"], userReports) ∧
      ∃ adminReports, (service.afterQueries [(request, user)]).answered request admin =
          .ok (["10", "3", "5", "7", "9"], adminReports) ∧
        ∀ report ∈ userReports, report ∈ adminReports := by
  have huser : service.answered request user = .ok (["10", "7", "9"], userReports) := by
    decide +kernel
  have hnested : service.defaults.userIds ⊆ service.defaults.adminIds := by decide
  have hrole : Caller.tenantAdmin ∈ admin.roles := by decide
  exact ⟨huser, _, rfl, (reports_within hnested (by decide) hrole [] [(request, user)] huser rfl).2⟩

end Raised

end Service

end StreamAudit
