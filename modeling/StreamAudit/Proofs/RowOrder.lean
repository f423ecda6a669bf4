import StreamAudit.Proofs.Backend.Totals
import StreamAudit.Proofs.CacheTransparency
import StreamAudit.Proofs.Registration
import StreamAudit.Proofs.Store.Insertion
import StreamAudit.Proofs.StreamIsolation

/-!
The order of rows cannot be seen. Databases that hold the same rows under the same numbers give the
same answers, in whatever order the rows were inserted and in whatever order each table hands them
out (`answers_of_sameRows`). A statement that orders rows by their numbers sorts what it is handed
(`online?_of_perm`, `ofStream_of_perm`); where none asks for an order, an item, a group and a sink
of a number are found by keys that no two rows share (`find?_of_perm`), and rows whose counts and
delays are not negative have the same sums per minute, or overflow alike (`run_of_perm`).
-/

set_option autoImplicit false
set_option relaxedAutoImplicit false

namespace StreamAudit

open StreamAudit.Backend StreamAudit.Calendar StreamAudit.Registry StreamAudit.Sql StreamAudit.Store

/-! ### Rows that are looked for -/

section Search

variable {α : Type} {rows others : List α} {keeps : α → Bool}

/-- A condition that no two rows satisfy leaves the same rows in any order. -/
theorem filter_of_perm (h : rows.Perm others)
    (hone : rows.Pairwise fun first second ↦ ¬ (keeps first = true ∧ keeps second = true)) :
    rows.filter keeps = others.filter keeps := by
  have hperm := h.filter keeps
  have hfiltered := hone.sublist (List.filter_sublist (p := keeps))
  have hkept : ∀ row ∈ rows.filter keeps, keeps row = true :=
    fun row hrow ↦ (List.mem_filter.mp hrow).2
  match hrows : rows.filter keeps with
  | [] => rw [hrows] at hperm; exact hperm.nil_eq
  | [row] => rw [hrows] at hperm; exact (List.perm_singleton.mp hperm.symm).symm
  | first :: second :: rest =>
    rw [hrows] at hfiltered hkept
    have hnot := (List.pairwise_cons.mp hfiltered).1 second List.mem_cons_self
    exact absurd ⟨hkept first (by simp), hkept second (by simp)⟩ hnot

/-- So the first of them is the only one. -/
theorem find?_of_perm (h : rows.Perm others)
    (hone : rows.Pairwise fun first second ↦ ¬ (keeps first = true ∧ keeps second = true)) :
    rows.find? keeps = others.find? keeps := by
  rw [← List.head?_filter, filter_of_perm h hone, List.head?_filter]

end Search

/-! ### Rows that are summed -/

namespace Backend.Relational

/-- Whether all rows of a table count. -/
def Counts (table : Table RawRow) : Prop :=
  ∀ row ∈ table, row.data.count.Counts ∧ row.data.delay.Counts

/-- A query is answered from rows that count in whatever order they are handed out. -/
theorem run_of_perm {table other : Table RawRow} (h : table.Perm other) (hcounts : Counts table)
    (query : Query) : run (some table) query = run (some other) query := by
  unfold run
  cases Window.ofDays? query.first query.last with
  | none => rfl
  | some window =>
    have hperm : (selected query window table).Perm (selected query window other) :=
      (List.mergeSort_perm _ _).trans
        (((h.map Row.data).filter _).trans (List.mergeSort_perm _ _).symm)
    have hselected : ∀ row ∈ selected query window table, row.count.Counts ∧ row.delay.Counts := by
      intro row hrow
      have hmem := List.mem_of_mem_filter (List.mem_mergeSort.mp hrow)
      obtain ⟨stored, hstored, rfl⟩ := List.mem_map.mp hmem
      exact hcounts stored hstored
    simp only [Option.bind_some, totals_of_perm hperm hselected]

end Backend.Relational

/-! ### Rows that are put in order -/

theorem Store.Sources.online?_of_perm {table other : Table Source} (hordered : table.Ordered)
    (h : table.Perm other) : online? table = online? other := by
  have hkept : Table.Ordered (table.filter fun row ↦ row.data.status == .online) :=
    hordered.sublist List.filter_sublist
  rw [online?, online?, Table.byId_of_ordered hkept, Table.byId_of_perm hkept (h.filter _)]

namespace Topology

section Endpoints

variable (groupId streamId : String) {table other : Table Endpoint}

theorem byId_streamRows_of_perm (hordered : table.Ordered) (h : table.Perm other) :
    Table.byId (streamRows groupId streamId table) =
      Table.byId (streamRows groupId streamId other) := by
  have hkept : (streamRows groupId streamId table).Ordered :=
    hordered.sublist List.filter_sublist
  rw [Table.byId_of_ordered hkept]
  exact (Table.byId_of_perm hkept (h.filter _)).symm

/-- The sink of a stream, by its number or the first one, does not depend on how the sinks lie. -/
theorem reportedSink_of_perm (hordered : table.Ordered) (h : table.Perm other)
    (sinkId : Option Int) : reportedSink table groupId streamId sinkId =
      reportedSink other groupId streamId sinkId := by
  cases sinkId with
  | none =>
    rw [reportedSink_none, reportedSink_none, firstSink?, firstSink?,
      byId_streamRows_of_perm groupId streamId hordered h]
  | some number =>
    have hone : table.Pairwise fun first second ↦
        ¬ ((first.id == number) = true ∧ (second.id == number) = true) := by
      refine hordered.imp fun {first second} hlt hboth ↦ ?_
      have hid : first.id = second.id := (eq_of_beq hboth.1).trans (eq_of_beq hboth.2).symm
      omega
    rw [reportedSink, reportedSink, find?_of_perm h hone]

end Endpoints

end Topology

/-! ### Rows that are handed out -/

namespace Store.Database

theorem find_ofTable {database listed : Database} (hkept : database.Kept)
    (h : database.SameRows listed) :
    (ItemStore.ofTable database.items).find = (ItemStore.ofTable listed.items).find := by
  have hitems := h.items
  have hkept := hkept.items
  generalize database.items = items at hitems hkept
  generalize listed.items = others at hitems
  cases hitems with
  | none => rfl
  | @some table other hperm =>
    funext key
    have hapart : (table.map Row.data).Pairwise fun first second ↦
        ¬ ((first.key == key) = true ∧ (second.key == key) = true) := by
      refine List.pairwise_map.mpr
        ((hkept table rfl).apart.imp fun {first second} hclash hboth ↦ ?_)
      have hkey : first.data.key = second.data.key :=
        (eq_of_beq hboth.1).trans (eq_of_beq hboth.2).symm
      exact absurd hclash (by simp [itemKind, itemsClash, hkey])
    exact congrArg Except.ok (find?_of_perm (hperm.map Row.data) hapart)

/-- What does not depend on the order of the rows of a table, if the table is there. -/
theorem map_congr_of_perm {α β : Type} {kind : Kind α} {first second : Option (Table α)}
    {read : Table α → β} (hkept : ∀ table, first = some table → kind.Keeps table)
    (hsame : SameTable first second)
    (hread : ∀ {table other : Table α}, table.Ordered → table.Perm other →
      read table = read other) :
    first.map read = second.map read := by
  cases hsame with
  | none => rfl
  | some hperm => exact congrArg some (hread (hkept _ rfl).ordered hperm)

theorem groupRows_of_sameRows {database listed : Database} (hkept : database.Kept)
    (h : database.SameRows listed) (groupId : String) :
    database.groups.map (Topology.groupRows groupId) =
      listed.groups.map (Topology.groupRows groupId) := by
  have hgroups := h.groups
  have hkept := hkept.groups
  generalize database.groups = groups at hgroups hkept
  generalize listed.groups = others at hgroups
  cases hgroups with
  | none => rfl
  | @some table other hperm =>
    refine congrArg some (filter_of_perm hperm
      ((hkept table rfl).apart.imp fun {first second} hclash hboth ↦ ?_))
    have hid : first.data.groupId = second.data.groupId :=
      (eq_of_beq hboth.1).trans (eq_of_beq hboth.2).symm
    exact absurd hclash (by simp [groupKind, groupsClash, hid])

end Store.Database

/-! ### Answers from rows that are handed out -/

theorem Registry.resolve_congr {store other : ItemStore} (h : store.find = other.find) :
    resolve store = resolve other := by
  have hfetch : fetch store = fetch other := by
    funext key registry
    rw [fetch, fetch, h]
  funext type? direction
  unfold resolve
  rw [hfetch]

/-- A plan asks for items by their keys only. -/
theorem Selection.planFor_congr {store other : ItemStore} (h : store.find = other.find) :
    planFor store = planFor other := by
  have hends : addEnds store = addEnds other := by
    funext case gathered
    simp only [addEnds, resolve_congr h]
  have hproxy : addProxy store = addProxy other := by
    funext case gathered
    simp only [addProxy, resolve_congr h]
  have htypes : nodeTypes store = nodeTypes other := by
    funext topology
    simp only [nodeTypes, resolve_congr h]
  funext defaults topology isPrivileged
  simp only [planFor, auditIds, hends, hproxy, htypes]

namespace Service

/-- Whether two services give the same answers: to every request of every caller, to every question
for an audit id, and to that for the online source. -/
structure AnswersLike (service other : Service) : Prop where
  reports : ∀ request caller, service.answered request caller = other.answered request caller
  auditIds : ∀ type? direction, service.auditIdOf type? direction = other.auditIdOf type? direction
  source : (onlineSource.run service).1 = (onlineSource.run other).1

theorem onlineSource_run (service : Service) : (onlineSource.run service).1 =
    service.reachableSources.bind fun table ↦
      match Sources.online? table with
      | some row => .ok row
      | none => .error .noOnlineSource := by
  unfold onlineSource
  rw [bind_run, sourceTable_run]
  cases service.reachableSources with
  | error fault => rfl
  | ok table =>
    simp only [Except.bind]
    cases Sources.online? table <;> rfl

theorem AnswersLike.symm {service other : Service} (h : service.AnswersLike other) :
    other.AnswersLike service where
  reports request caller := (h.reports request caller).symm
  auditIds type? direction := (h.auditIds type? direction).symm
  source := h.source.symm

theorem AnswersLike.trans {first second third : Service} (h : first.AnswersLike second)
    (h' : second.AnswersLike third) : first.AnswersLike third where
  reports request caller := (h.reports request caller).trans (h'.reports request caller)
  auditIds type? direction := (h.auditIds type? direction).trans (h'.auditIds type? direction)
  source := h.source.trans h'.source

section SameRows

variable {database listed : Database} (hkept : database.Kept) (hsame : database.SameRows listed)
  (service : Service)

include hsame

theorem outcome_of_sameRows
    (hcounts : ∀ table, database.rawRows = some table → Relational.Counts table)
    (query : Backend.Query) : (service.withDatabase database).outcome query =
      (service.withDatabase listed).outcome query := by
  have hrows : Relational.run database.rawRows query = Relational.run listed.rawRows query := by
    have hsame := hsame.rawRows
    generalize database.rawRows = rows at hsame hcounts
    generalize listed.rawRows = others at hsame
    cases hsame with
    | none => rfl
    | some hperm => exact Relational.run_of_perm hperm (hcounts _ rfl) query
  unfold outcome withDatabase
  cases service.provider with
  | relational => exact hrows
  | searchIndex cluster => rfl
  | warehouse => rfl
  | custom name isStrict answer => rfl

include hkept

theorem topologyOf_of_sameRows (request : Request) :
    (service.withDatabase database).topologyOf request =
      (service.withDatabase listed).topologyOf request := by
  unfold topologyOf withDatabase
  cases service.topology with
  | some topology => rfl
  | none =>
    have hsinks := Database.map_congr_of_perm hkept.sinks hsame.sinks fun hordered hperm ↦
      Topology.reportedSink_of_perm request.groupId request.streamId hordered hperm request.sinkId
    have hsources := Database.map_congr_of_perm hkept.streamSources hsame.streamSources
      (Topology.byId_streamRows_of_perm request.groupId request.streamId)
    simp only [Topology.lookup_eq, Option.map_map]
    rw [Database.groupRows_of_sameRows hkept hsame, hsinks]
    exact congrArg _ hsources

theorem onlineSource_of_sameRows : (onlineSource.run (service.withDatabase database)).1 =
    (onlineSource.run (service.withDatabase listed)).1 := by
  have honline := Database.map_congr_of_perm hkept.sources hsame.sources Sources.online?_of_perm
  rw [onlineSource_run, onlineSource_run]
  unfold reachableSources withDatabase
  cases service.hasSourceStore with
  | false => rfl
  | true =>
    have hsame := hsame.sources
    generalize database.sources = sources at honline hsame
    generalize listed.sources = others at honline hsame
    cases hsame with
    | none => rfl
    | some hperm =>
      have hfound := Option.some.inj honline
      simp only [Except.bind, if_true, hfound]

/-- What a database is answered from is answered from its rows in whatever order they are handed
out. -/
theorem answersLike_of_sameRows
    (hcounts : ∀ table, database.rawRows = some table → Relational.Counts table) :
    (service.withDatabase database).AnswersLike (service.withDatabase listed) where
  reports request caller := by
    have hplanned : (service.withDatabase database).planned request caller =
        (service.withDatabase listed).planned request caller := by
      rw [planned_eq, planned_eq, topologyOf_of_sameRows hkept hsame]
      refine congrArg (Except.bind _) (funext fun topology ↦ ?_)
      have hplan := Selection.planFor_congr (Database.find_ofTable hkept hsame)
      exact congrArg (fun plan ↦ ((plan service.defaults topology caller.isTenantAdmin).run
        service.registry).1) hplan
    have hseries : ∀ nodeTypes, (service.withDatabase database).series request nodeTypes =
        (service.withDatabase listed).series request nodeTypes := by
      intro nodeTypes
      funext auditId
      rw [series_eq, series_eq, outcome_of_sameRows hsame service hcounts]
      rfl
    simp only [answered_eq, hplanned, allSeries, hseries]
  auditIds type? direction := by
    have hresolve := resolve_congr (Database.find_ofTable hkept hsame)
    exact congrArg (fun look ↦ ((look type? direction).run service.registry).1) hresolve
  source := onlineSource_of_sameRows hkept hsame service

end SameRows

/-- Databases that were filled with the same rows in different orders give the same answers, also if
each of the tables hands out its rows in any other order, as long as no count and no delay is
negative. -/
theorem answers_of_sameRows {insertions others : List (String × List Json.Members)}
    {first second : Database} (hfirst : Database.empty.filled insertions = .ok first)
    (hsecond : Database.empty.filled others = .ok second) (hsame : first.SameRows second) :
    (∀ service : Service, (service.withDatabase first).AnswersLike (service.withDatabase second)) ∧
      ((∀ table, first.rawRows = some table → Relational.Counts table) →
        ∀ listed relisted, first.SameRows listed → second.SameRows relisted →
          ∀ service : Service,
            (service.withDatabase listed).AnswersLike (service.withDatabase relisted)) := by
  have hkept := Database.kept_filled Database.kept_empty hfirst
  obtain rfl :=
    Database.eq_of_sameRows hkept (Database.kept_filled Database.kept_empty hsecond) hsame
  refine ⟨fun service ↦ ⟨fun _ _ ↦ rfl, fun _ _ ↦ rfl, rfl⟩, ?_⟩
  intro hcounts listed relisted hlisted hrelisted service
  exact (answersLike_of_sameRows hkept hlisted service hcounts).symm.trans
    (answersLike_of_sameRows hkept hrelisted service hcounts)

/-! ### Rows in two orders -/

namespace Shuffled

/-- A raw row of a minute. -/
def rawRow (id : Int) (time : String) (count delay : Int) : Json.Members :=
  [("id", .int id), ("log_ts", .text time), ("inlong_group_id", .text "g"),
    ("inlong_stream_id", .text "s"), ("audit_id", .text "10"), ("count", .int count),
    ("delay", .int delay)]

/-- A sink of the stream. -/
def sinkRow (id : Int) (type : String) : Json.Members :=
  [("id", .int id), ("group_id", .text "g"), ("stream_id", .text "s"), ("sink_type", .text type)]

/-- What the proxy and the sink count. -/
def itemRow (id : Int) (type auditId : String) (isSent : Bool) : Json.Members :=
  [("id", .int id), ("type", .text type), ("is_sent", .bool isSent), ("audit_id", .text auditId)]

/-- Two sinks and two minutes, those with the smaller numbers first. -/
def insertions : List (String × List Json.Members) :=
  [("data_group", [[("id", .int 1), ("group_id", .text "g")]]),
    ("audit_base", [itemRow 1 "HIVE" "10" true, itemRow 2 "HIVE" "9" false]),
    ("stream_sink", [sinkRow 1 "HIVE", sinkRow 2 "KAFKA"]),
    ("audit_data", [rawRow 1 "2024-01-01 10:00:00" 2 6, rawRow 2 "2024-01-01 10:00:30" 1 4]),
    ("stream_source", [[("id", .int 1), ("group_id", .text "g"), ("stream_id", .text "s"),
      ("source_type", .text "FILE")]])]

/-- The same rows one by one, those with the larger numbers first. -/
def reversed : List (String × List Json.Members) :=
  insertions.reverse.flatMap fun insertion ↦ insertion.2.reverse.map fun row ↦ (insertion.1, [row])

/-- A row of the table of raw rows. -/
def stored (id : Int) (seconds : Nat) (count delay : Int) : Row RawRow where
  id := id
  data :=
    { logTime := ⟨.newYear, .ofMicros (seconds * 1000000)⟩
      groupId := "g"
      streamId := "s"
      auditId := "10"
      count := .whole count
      delay := .whole delay }

/-- What is stored either way. -/
def database : Database where
  items := some [⟨1, ⟨⟨"HIVE", .sent⟩, "10"⟩⟩, ⟨2, ⟨⟨"HIVE", .received⟩, "9"⟩⟩]
  rawRows := some [stored 1 36000 2 6, stored 2 36030 1 4]
  sources := some []
  groups := some [⟨1, { groupId := "g" }⟩]
  sinks := some [⟨1, ⟨"g", "s", "HIVE"⟩⟩, ⟨2, ⟨"g", "s", "KAFKA"⟩⟩]
  streamSources := some [⟨1, ⟨"g", "s", "FILE"⟩⟩]

/-- What may be handed out: the rows of every table from the last one to the first. -/
def relisted : Database where
  items := database.items.map List.reverse
  rawRows := database.rawRows.map List.reverse
  sources := database.sources.map List.reverse
  groups := database.groups.map List.reverse
  sinks := database.sinks.map List.reverse
  streamSources := database.streamSources.map List.reverse

/-- A service on the relational backend. -/
def service : Service where
  database := .empty
  defaults := ⟨["9", "10"], ["10"]⟩
  provider := .relational
  warehouse := { url := none, table := "audit_data" }

theorem counts_database : ∀ table, database.rawRows = some table → Relational.Counts table := by
  intro table htable row hrow
  obtain rfl := Option.some.inj htable
  simp only [List.mem_cons, List.not_mem_nil, or_false] at hrow
  rcases hrow with rfl | rfl <;> exact ⟨⟨rfl, by decide⟩, rfl, by decide⟩

/-- Inserted in either order, and handed out from the first row to the last or from the last to the
first, the rows give the same answers. -/
theorem answers_of_reversed :
    Database.empty.filled insertions = .ok database ∧
    Database.empty.filled reversed = .ok database ∧
      database.SameRows relisted ∧
      (service.withDatabase database).AnswersLike (service.withDatabase relisted) := by
  have hfirst : Database.empty.filled insertions = .ok database := rfl
  have hsecond : Database.empty.filled reversed = .ok database := rfl
  have hsame : database.SameRows database := by constructor <;> exact Database.sameTable_refl _
  have hrelisted : database.SameRows relisted := by
    constructor <;> exact .some (List.reverse_perm _).symm
  exact ⟨hfirst, hsecond, hrelisted, (answers_of_sameRows hfirst hsecond hsame).2 counts_database
    database relisted hsame hrelisted service⟩

end Shuffled

end Service

end StreamAudit
