import StreamAudit.Backend.NodeAddress
import StreamAudit.Backend.Policy
import StreamAudit.Backend.Relational
import StreamAudit.Backend.SearchIndex
import StreamAudit.Backend.Warehouse
import StreamAudit.Caller
import StreamAudit.Request
import StreamAudit.Rollup
import StreamAudit.Selection
import StreamAudit.Settings.Basic
import StreamAudit.Store.Sources

/-!
The audit query service. A query looks up the topology of its stream, selects the audit ids to
report, asks the backend for each of them and rolls the series up. Registering a source for the
warehouse also points the warehouse there. A call that fails keeps what was stored and cached before
the failure.
-/

set_option autoImplicit false
set_option relaxedAutoImplicit false

namespace StreamAudit

open StreamAudit.Backend StreamAudit.Store StreamAudit.Text

/-- What serves the queries: one of the three backends, or one that answers by a function. -/
inductive Provider where
  | relational
  | searchIndex (cluster : SearchIndex.Cluster)
  | warehouse
  | custom (name : String) (isStrict : Bool) (answer : Query → Outcome)

namespace Provider

/-- The name of a backend. -/
def name : Provider → String
  | .relational => "mysql"
  | .searchIndex _ => "elasticsearch"
  | .warehouse => "clickhouse"
  | .custom name _ _ => name

/-- Whether failures of a backend always end a query. -/
def isStrict : Provider → Bool
  | .warehouse => true
  | .custom _ isStrict _ => isStrict
  | _ => false

end Provider

/-- The service with the stores that it works on. -/
structure Service where
  database : Database
  registry : Registry := {}
  defaults : Defaults
  topology : Option Topology := none
  provider : Provider
  warehouse : Warehouse.Connection
  isolatesFailures : Bool := true
  hasSourceStore : Bool := true

namespace Service

/-- Calls of the service. -/
abbrev Call :=
  ExceptT Fault (StateM Service)

/-- The backend of some settings. A search index needs the whole address of a node. -/
def providerOf (settings : Settings) (cluster : SearchIndex.Cluster) : Except Fault Provider :=
  match settings.audit.querySource with
  | .relational => .ok .relational
  | .searchIndex =>
    if NodeAddress.isComplete settings.elasticsearch.url then .ok (.searchIndex cluster)
    else .error .badNode
  | .warehouse => .ok .warehouse

/-- The service of some settings over a database. -/
def ofSettings (settings : Settings) (database : Database) (cluster : SearchIndex.Cluster) :
    Except Fault Service := do
  pure {
    database
    defaults := ⟨settings.audit.adminIds, settings.audit.userIds⟩
    provider := ← providerOf settings cluster
    warehouse := { url := settings.clickhouse.url, table := settings.clickhouse.table }
    isolatesFailures := settings.audit.isolateBackendFailures }

/-- The store of the items. -/
def itemStore (service : Service) : ItemStore :=
  .ofTable service.database.items

/-- Runs a reading of the registry; what it cached stays also if it fails. -/
def reading {α : Type} (read : ItemStore → Registry.Reading α) : Call α :=
  ExceptT.mk fun service ↦
    let (result, registry) := (read service.itemStore).run service.registry
    (result, { service with registry })

/-- Reloads the cache of items, and says whether that went well. -/
def refresh : Call Bool := do
  let service ← get
  let (done, registry) := service.registry.refresh service.itemStore
  set { service with registry }
  pure done

/-- Drops the cache of items. -/
def clearCache : Call Unit :=
  modify fun service ↦ { service with registry := service.registry.clear }

/-- The audit id of a type and a direction. -/
def auditId (type? : Option String) (direction : Direction) : Call (Option String) :=
  reading fun store ↦ Registry.resolve store type? direction

/-- What the backend answers for one audit id. -/
def outcome (service : Service) (query : Query) : Outcome :=
  match service.provider with
  | .relational => Relational.run service.database.rawRows query
  | .searchIndex cluster => (SearchIndex.run cluster query).2
  | .warehouse => Warehouse.run service.warehouse query
  | .custom _ _ answer => answer query

/-- The policy on failures. -/
def policy (service : Service) : Policy :=
  ⟨service.provider.isStrict, service.isolatesFailures⟩

/-- The topology of the stream of a request. -/
def topologyOf (service : Service) (request : Request) : Except Fault Topology :=
  match service.topology with
  | some topology => .ok topology
  | none => Topology.lookup service.database request.groupId request.streamId request.sinkId

/-- The series of one audit id. -/
def series (service : Service) (request : Request) (nodeTypes : Dictionary String)
    (auditId : String) : Except Fault Series :=
  let query : Query := ⟨request.groupId, request.streamId, auditId, request.first, request.last⟩
  (service.policy.settle auditId (service.outcome query)).map fun points ↦
    ⟨auditId, nodeTypes.get? auditId, points⟩

/-- The series of some audit ids, or the fault of the first of them that has none. -/
def allSeries (service : Service) (request : Request) (nodeTypes : Dictionary String)
    (auditIds : List String) : Except Fault (List Series) :=
  auditIds.mapM (service.series request nodeTypes)

/-- The audit ids to report for a request, and the types that some of them stand for. -/
def plan (request : Request) (caller : Caller) : Call (List String × Dictionary String) := do
  let topology ← (← get).topologyOf request
  let defaults := (← get).defaults
  let auditIds ← reading fun store ↦
    Selection.auditIds store defaults (Selection.caseOf topology caller.isTenantAdmin)
  let nodeTypes ← reading fun store ↦ Selection.nodeTypes store topology
  pure (auditIds, nodeTypes)

/-- The reports of a request, with the audit ids that it was resolved to. -/
def query (request : Request) (caller : Caller) : Call (List String × List Report) := do
  let (auditIds, nodeTypes) ← plan request caller
  let found ← (← get).allSeries request nodeTypes auditIds
  pure (auditIds, found.map (Rollup.report request.granularity.precision))

/-- Points the warehouse at a source, with the credentials of the source if it asks for them. The
database there starts afresh. -/
def pointWarehouse (source : Source) : Call Unit := do
  let address ← (Address.parse source.url.toList).mapError Fault.address
  let address := if source.enableAuth then
      address.withCredentials (source.username.map String.toList) (source.token.map String.toList)
    else address
  modify fun service ↦
    { service with
      warehouse := { service.warehouse with
        url := some (String.ofList address.render)
        rows := none } }

/-- The table of sources, if the service has a store for them. -/
def sourceTable : Call (Table Source) := do
  let service ← get
  if !service.hasSourceStore then throw .noSourceStore
  let some table := service.database.sources | throw .noTable
  pure table

/-- The type of sources that the warehouse follows. -/
def warehouseType : String :=
  "CLICKHOUSE"

/-- Registers a source and gives its number. -/
def registerSource (request : SourceRequest) (operator : String) (stamps : Sources.Stamps) :
    Call Int := do
  let table ← sourceTable
  let (row, sources) := Sources.register request operator stamps table
  modify fun service ↦
    { service with database := { service.database with sources := some sources } }
  if spellsCapitals row.data.type warehouseType then pointWarehouse row.data
  pure row.id

/-- The online source in use. -/
def onlineSource : Call (Row Source) := do
  match Sources.online? (← sourceTable) with
  | some row => pure row
  | none => throw .noOnlineSource

end Service

end StreamAudit
