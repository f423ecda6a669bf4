import StreamAudit.Proofs.Calls
import StreamAudit.Service

/-!
What a registration of a source leaves behind. It stores the source first and points the warehouse
at it afterwards (`registered`), and pointing reads the address of the source before it changes
anything (`pointWarehouse_of_unreadable`). So a registration that fails leaves the sources and the
address of the warehouse as they were, unless the warehouse follows the source and the address of
the source cannot be read: then the source stays stored, and the sources that it replaced stay
offline (`left_by_failure`, `allOrNothing_iff`).
-/

set_option autoImplicit false
set_option relaxedAutoImplicit false

namespace StreamAudit

open StreamAudit.Store StreamAudit.Text

/-- A text without a colon is no address. -/
theorem Address.parse_of_no_colon {s : List Char} (h : ':' ∉ s) : parse s = .error .unreadable := by
  have hrest : ':' ∉ (frontUntil (fun c ↦ !isDialectChar c) s).2 :=
    fun hmem ↦ h ((List.dropWhile_suffix _).mem hmem)
  unfold parse
  split
  split
  · rename_i hfront
    rw [hfront] at hrest
    simp at hrest
  · rfl

namespace Service

/-- The table of sources that a service can reach. -/
def reachableSources (service : Service) : Except Fault (Table Source) :=
  if service.hasSourceStore then
    match service.database.sources with
    | some table => .ok table
    | none => .error .noTable
  else .error .noSourceStore

/-- The service with another table of sources. -/
def withSources (service : Service) (sources : Table Source) : Service :=
  { service with database := { service.database with sources := some sources } }

/-- The service with the warehouse at the address of a source. -/
def pointedAt (service : Service) (source : Source) (address : Address) : Service :=
  let address := if source.enableAuth then
      address.withCredentials (source.username.map String.toList) (source.token.map String.toList)
    else address
  { service with
    warehouse :=
      { service.warehouse with url := some (String.ofList address.render), rows := none } }

theorem sourceTable_run (service : Service) :
    sourceTable.run service = (service.reachableSources, service) := by
  unfold sourceTable reachableSources
  rw [bind_run_ok (get_run service)]
  cases service.hasSourceStore with
  | false => rfl
  | true => cases service.database.sources <;> rfl

section Pointing

variable (source : Source)

theorem pointWarehouse_of_readable {address : Address}
    (h : Address.parse source.url.toList = .ok address) (service : Service) :
    (pointWarehouse source).run service = (.ok (), service.pointedAt source address) := by
  unfold pointWarehouse
  rw [h]
  exact bind_run_ok (lift_run (.ok address) service) _

/-- An address that cannot be read leaves the warehouse where it is. -/
theorem pointWarehouse_of_unreadable {cause : Address.Fault}
    (h : Address.parse source.url.toList = .error cause) (service : Service) :
    (pointWarehouse source).run service = (.error (.address cause), service) := by
  unfold pointWarehouse
  rw [h]
  exact bind_run_error (lift_run (.error (.address cause)) service) _

end Pointing

/-! ### The ways in which a registration ends -/

/-- Whether the warehouse follows the source of a registration. -/
def IsFollowed (request : SourceRequest) : Prop :=
  spellsCapitals request.type warehouseType = true

section Registration

variable {service : Service} {request : SourceRequest} {operator : String} {stamps : Sources.Stamps}

/-- All that can come of a registration, with the service that it leaves. -/
inductive Registered (request : SourceRequest) (operator : String) (stamps : Sources.Stamps)
    (service : Service) : Except Fault Int × Service → Prop where
  | refused (fault : Fault) (hsources : service.reachableSources = .error fault) :
    Registered request operator stamps service (.error fault, service)
  | stored (table : Table Source) (hsources : service.reachableSources = .ok table)
      (hother : ¬ IsFollowed request) :
    Registered request operator stamps service
      (.ok table.nextId, service.withSources (Sources.register request operator stamps table).2)
  | pointed (table : Table Source) (address : Address)
      (hsources : service.reachableSources = .ok table)
      (hfollowed : IsFollowed request) (haddress : Address.parse request.url.toList = .ok address) :
    Registered request operator stamps service
      (.ok table.nextId,
        (service.withSources (Sources.register request operator stamps table).2).pointedAt
        (Sources.sourceOf request operator stamps) address)
  | stranded (table : Table Source) (cause : Address.Fault)
      (hsources : service.reachableSources = .ok table) (hfollowed : IsFollowed request)
      (haddress : Address.parse request.url.toList = .error cause) :
    Registered request operator stamps service
      (.error (.address cause),
        service.withSources (Sources.register request operator stamps table).2)

theorem registered (request : SourceRequest) (operator : String) (stamps : Sources.Stamps)
    (service : Service) :
    Registered request operator stamps service
      ((registerSource request operator stamps).run service) := by
  have hreach := sourceTable_run service
  unfold registerSource
  cases hsources : service.reachableSources with
  | error fault =>
    rw [hsources] at hreach
    rw [bind_run_error hreach]
    exact .refused fault hsources
  | ok table =>
    rw [hsources] at hreach
    have hstore : (modify fun service : Service ↦ { service with
        database := { service.database with
          sources := some (Sources.register request operator stamps table).2 } } : Call PUnit).run
            service =
        (.ok ⟨⟩, service.withSources (Sources.register request operator stamps table).2) := rfl
    rw [bind_run_ok hreach]
    simp only
    rw [bind_run_ok hstore]
    have hsource : (Sources.register request operator stamps table).1.data =
        Sources.sourceOf request operator stamps := rfl
    rw [hsource]
    by_cases hfollowed : IsFollowed request
    · have htype : spellsCapitals (Sources.sourceOf request operator stamps).type warehouseType =
          true := hfollowed
      rw [if_pos htype]
      cases haddress : Address.parse request.url.toList with
      | ok address =>
        rw [bind_run_ok
          (pointWarehouse_of_readable (Sources.sourceOf request operator stamps) haddress _)]
        exact .pointed table address hsources hfollowed haddress
      | error cause =>
        rw [bind_run_error
          (pointWarehouse_of_unreadable (Sources.sourceOf request operator stamps) haddress _)]
        exact .stranded table cause hsources hfollowed haddress
    · have htype :
          ¬ spellsCapitals (Sources.sourceOf request operator stamps).type warehouseType = true :=
        hfollowed
      rw [if_neg htype]
      exact .stored table hsources hfollowed

/-! ### What a failure leaves -/

/-- Whether the warehouse follows a source whose address cannot be read, and the source can be
stored. -/
def Misdirected (service : Service) (request : SourceRequest) : Prop :=
  IsFollowed request ∧ (∃ table, service.reachableSources = .ok table) ∧
    ∃ cause, Address.parse request.url.toList = .error cause

/-- A registration that fails leaves the whole service as it was, or else the source is misdirected
and stored, and nothing but the sources changed. -/
theorem left_by_failure {fault : Fault} {later : Service}
    (h : (registerSource request operator stamps).run service = (.error fault, later)) :
    later = service ∨ Misdirected service request ∧ ∃ table, service.reachableSources = .ok table ∧
      later = service.withSources (Sources.register request operator stamps table).2 := by
  have hregistered := registered request operator stamps service
  rw [h] at hregistered
  cases hregistered with
  | refused fault hsources => exact Or.inl rfl
  | stranded table cause hsources hfollowed haddress =>
    exact Or.inr ⟨⟨hfollowed, ⟨table, hsources⟩, cause, haddress⟩, table, hsources, rfl⟩

/-- A misdirected source is stored although its registration fails. -/
theorem stored_of_misdirected (h : Misdirected service request) (operator : String)
    (stamps : Sources.Stamps) :
    ∃ fault table, service.reachableSources = .ok table ∧
      (registerSource request operator stamps).run service =
        (.error fault, service.withSources (Sources.register request operator stamps table).2) := by
  obtain ⟨hfollowed, ⟨table, hsources⟩, cause, haddress⟩ := h
  have hregistered := registered request operator stamps service
  generalize (registerSource request operator stamps).run service = outcome at hregistered ⊢
  cases hregistered with
  | refused fault hrefused => rw [hsources] at hrefused; cases hrefused
  | stored other _ hother => exact absurd hfollowed hother
  | pointed other address _ _ hreadable => rw [haddress] at hreadable; cases hreadable
  | stranded other cause hreached _ _ => exact ⟨.address cause, other, hreached, rfl⟩

theorem sources_of_reachable {table : Table Source} (h : service.reachableSources = .ok table) :
    service.database.sources = some table := by
  unfold reachableSources at h
  split at h
  · split at h
    · rename_i hsources
      rw [hsources, Except.ok.inj h]
    · cases h
  · cases h

theorem length_register (request : SourceRequest) (operator : String) (stamps : Sources.Stamps)
    (table : Table Source) :
    (Sources.register request operator stamps table).2.length = table.length + 1 := by
  unfold Sources.register Sources.withOffline
  split
  · split <;> simp
  · simp

/-- Whether a registration that fails leaves the sources and the address of the warehouse as they
were. -/
def AllOrNothing (service : Service) (request : SourceRequest) (operator : String)
    (stamps : Sources.Stamps) : Prop :=
  ∀ fault later, (registerSource request operator stamps).run service = (.error fault, later) →
    later.database.sources = service.database.sources ∧ later.warehouse.url = service.warehouse.url

/-- Just the misdirected sources are not registered all or nothing. -/
theorem allOrNothing_iff (service : Service) (request : SourceRequest) (operator : String)
    (stamps : Sources.Stamps) :
    AllOrNothing service request operator stamps ↔ ¬ Misdirected service request := by
  constructor
  · intro hall hmisdirected
    obtain ⟨fault, table, hsources, hrun⟩ := stored_of_misdirected hmisdirected operator stamps
    have hsame : some (Sources.register request operator stamps table).2 =
      service.database.sources :=
      (hall fault _ hrun).1
    rw [sources_of_reachable hsources] at hsame
    -- The stored table is longer by the new source.
    have hlength := congrArg List.length (Option.some.inj hsame)
    rw [length_register] at hlength
    omega
  · intro hnone fault later hrun
    rcases left_by_failure hrun with rfl | ⟨hmisdirected, -⟩
    · exact ⟨rfl, rfl⟩
    · exact absurd hmisdirected hnone

end Registration

/-! ### A source at an address that cannot be read -/

namespace Stranding

/-- A source that is in use. -/
def old : Source where
  name := "old"
  type := "CLICKHOUSE"
  url := "clickhouse://old/audit"

/-- A service that works with that source. -/
def service : Service where
  database := { sources := some [⟨1, old⟩] }
  defaults := ⟨[], []⟩
  provider := .relational
  warehouse := { url := some "clickhouse://old/audit", table := "audit_data" }

/-- The replacement of that source by one at a text that is no address. -/
def request : SourceRequest where
  name := "new"
  type := "CLICKHOUSE"
  url := "bad"
  offlineUrl := some "clickhouse://old/audit"

/-- The clock while the replacement is registered. -/
def stamps : Sources.Stamps :=
  ⟨.unixStart, .unixStart, .unixStart⟩

theorem misdirected : Misdirected service request :=
  ⟨rfl, ⟨[⟨1, old⟩], rfl⟩, .unreadable, Address.parse_of_no_colon (by decide)⟩

/-- The registration fails, and yet the old source is offline and the unusable one is stored as
online. -/
theorem replaced_by_unreadable : ∃ fault later,
    (registerSource request "op" stamps).run service = (.error fault, later) ∧
      later.database.sources = some [⟨1, { old with status := .offline, modifier := some "op" }⟩,
        ⟨2, Sources.sourceOf request "op" stamps⟩] ∧
      ¬ AllOrNothing service request "op" stamps := by
  obtain ⟨fault, table, hsources, hrun⟩ := stored_of_misdirected misdirected "op" stamps
  obtain rfl : [⟨1, old⟩] = table := Except.ok.inj hsources
  refine ⟨fault, _, hrun, rfl, fun hall ↦ ?_⟩
  have hsame := (hall fault _ hrun).1
  exact absurd hsame (by decide)

end Stranding

end Service

end StreamAudit
