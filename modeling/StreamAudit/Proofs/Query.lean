import StreamAudit.Proofs.Calls
import StreamAudit.Service

/-!
A query as a plan and what the backend answers to it. Making the plan touches nothing but the
registry (`touchesRegistry_plan`), so the series of its audit ids are asked of the service as it
was, and a query is answered exactly if each of them is (`answered_eq`). The audit ids of a plan are
in ascending order (`sorted_of_planned`).
-/

set_option autoImplicit false
set_option relaxedAutoImplicit false

namespace StreamAudit

open StreamAudit.Text

/-- The query of a request for one audit id. -/
def Request.queryFor (request : Request) (auditId : String) : Backend.Query :=
  ⟨request.groupId, request.streamId, auditId, request.first, request.last⟩

namespace Service

variable {α β : Type}

/-- Whether a call leaves everything but the registry as it was. -/
def TouchesRegistry (call : Call α) : Prop :=
  ∀ service, ∃ registry, (call.run service).2 = { service with registry }

theorem touchesRegistry_pure (result : α) : TouchesRegistry (pure result : Call α) :=
  fun service ↦ ⟨service.registry, rfl⟩

theorem touchesRegistry_get : TouchesRegistry (get : Call Service) :=
  fun service ↦ ⟨service.registry, rfl⟩

theorem touchesRegistry_lift (result : Except Fault α) :
    TouchesRegistry (liftM result : Call α) := by
  intro service
  cases result <;> exact ⟨service.registry, rfl⟩

theorem touchesRegistry_reading (read : ItemStore → Registry.Reading α) :
    TouchesRegistry (reading read) :=
  fun service ↦ ⟨((read service.itemStore).run service.registry).2, rfl⟩

theorem touchesRegistry_bind {call : Call α} {next : α → Call β} (hcall : TouchesRegistry call)
    (hnext : ∀ result, TouchesRegistry (next result)) : TouchesRegistry (call >>= next) := by
  intro service
  obtain ⟨registry, hregistry⟩ := hcall service
  rw [bind_run]
  rcases hrun : call.run service with ⟨_ | result, later⟩
  · rw [hrun] at hregistry
    exact ⟨registry, hregistry⟩
  · rw [hrun] at hregistry
    obtain ⟨registry', hregistry'⟩ := hnext result later
    refine ⟨registry', ?_⟩
    simp only at hregistry ⊢
    rw [hregistry', hregistry]

/-- A plan leaves everything but the registry as it was. -/
theorem touchesRegistry_plan (request : Request) (caller : Caller) :
    TouchesRegistry (plan request caller) := by
  refine touchesRegistry_bind touchesRegistry_get fun service ↦ ?_
  refine touchesRegistry_bind (touchesRegistry_lift _) fun topology ↦ ?_
  refine touchesRegistry_bind touchesRegistry_get fun service' ↦ ?_
  refine touchesRegistry_bind (touchesRegistry_reading _) fun auditIds ↦ ?_
  refine touchesRegistry_bind (touchesRegistry_reading _) fun nodeTypes ↦ ?_
  exact touchesRegistry_pure _

/-- The audit ids that a request is resolved to on a service, with the types that they stand for. -/
def planned (service : Service) (request : Request) (caller : Caller) :
    Except Fault (List String × Dictionary String) :=
  ((plan request caller).run service).1

/-- What a service answers to a request. -/
def answered (service : Service) (request : Request) (caller : Caller) :
    Except Fault (List String × List Report) :=
  ((query request caller).run service).1

/-- The reports of a request are those of the audit ids of its plan. -/
theorem answered_eq (service : Service) (request : Request) (caller : Caller) :
    service.answered request caller =
      (service.planned request caller).bind fun plan ↦
        (service.allSeries request plan.2 plan.1).map fun found ↦
          (plan.1, found.map (Rollup.report request.granularity.precision)) := by
  obtain ⟨registry, hregistry⟩ := touchesRegistry_plan request caller service
  unfold answered planned query
  rw [bind_run]
  rcases hrun : (plan request caller).run service with ⟨_ | ⟨auditIds, nodeTypes⟩, later⟩
  · rfl
  · rw [hrun] at hregistry
    simp only at hregistry
    subst hregistry
    change ((do
      let found ← liftM (service.allSeries request nodeTypes auditIds)
      pure (auditIds, found.map (Rollup.report request.granularity.precision)) :
        Call (List String × List Report)).run _).1 =
          (service.allSeries request nodeTypes auditIds).map _
    cases service.allSeries request nodeTypes auditIds <;> rfl

theorem returns_reading {read : ItemStore → Registry.Reading α} {holds : α → Prop}
    (h : ∀ store, Returns holds (read store)) : Returns holds (reading read) :=
  fun service result hresult ↦ h service.itemStore service.registry result hresult

/-- Audit ids are selected in ascending order. -/
theorem returns_auditIds (store : ItemStore) (defaults : Defaults) (case : Selection.Case) :
    Returns Ascending.Sorted (Selection.auditIds store defaults case) := by
  refine returns_bind (returns_any _) fun gathered _ ↦ ?_
  rw [map_eq_pure_bind]
  exact returns_bind (returns_any _) fun all _ ↦ returns_pure (Ascending.sorted_ofList _)

/-- The audit ids of a plan are in ascending order. -/
theorem returns_plan (request : Request) (caller : Caller) :
    Returns (fun found ↦ Ascending.Sorted found.1) (plan request caller) := by
  refine returns_bind (returns_any _) fun service _ ↦ ?_
  refine returns_bind (returns_any _) fun topology _ ↦ ?_
  refine returns_bind (returns_any _) fun service' _ ↦ ?_
  refine returns_bind (returns_reading fun store ↦ returns_auditIds store _ _)
    fun auditIds hsorted ↦ ?_
  exact returns_bind (returns_any _) fun nodeTypes _ ↦ returns_pure hsorted

theorem sorted_of_planned {service : Service} {request : Request} {caller : Caller}
    {auditIds : List String} {nodeTypes : Dictionary String}
    (h : service.planned request caller = .ok (auditIds, nodeTypes)) : Ascending.Sorted auditIds :=
  returns_plan request caller service _ h

theorem series_eq (service : Service) (request : Request) (nodeTypes : Dictionary String)
    (auditId : String) : service.series request nodeTypes auditId =
      (service.policy.settle auditId (service.outcome (request.queryFor auditId))).map fun points ↦
        ⟨auditId, nodeTypes.get? auditId, points⟩ :=
  rfl

theorem outcome_relational {service : Service} (h : service.provider = .relational)
    (query : Backend.Query) :
    service.outcome query = Backend.Relational.run service.database.rawRows query := by
  rw [outcome, h]

end Service

end StreamAudit
