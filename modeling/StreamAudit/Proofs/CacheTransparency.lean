import StreamAudit.Proofs.Calendar.Numbering
import StreamAudit.Proofs.Query
import StreamAudit.Proofs.Registry.Mirror

/-!
The cache of items cannot be seen. Whatever calls a service has served on an unchanging table of
items, some of them without an answer, some of them while the table was out of reach, and however
its other tables changed in between, it answers as it would with an empty cache
(`history_invisible`). The invariant is that the registry mirrors the table: every call keeps it
(`mirrored_after_call`), and so does a whole history (`mirrored_after`).
-/

set_option autoImplicit false
set_option relaxedAutoImplicit false

namespace StreamAudit

open StreamAudit.ItemStore StreamAudit.Registry StreamAudit.Store

/-! ### Readings of a plan -/

namespace Selection

variable (store : ItemStore)

theorem looksUp_addEnds (case : Case) (gathered : List (Option String)) :
    LooksUp store (addEnds store case gathered) := by
  unfold addEnds
  cases case.sink with
  | none => exact .bind (.resolve _ _) fun _ ↦ .pure _
  | some sink => exact .bind (.resolve _ _) fun _ ↦ .bind (.resolve _ _) fun _ ↦ .pure _

theorem looksUp_addProxy (case : Case) (gathered : List (Option String)) :
    LooksUp store (addProxy store case gathered) := by
  unfold addProxy
  split
  · refine .bind (.resolve _ _) fun _ ↦ ?_
    split
    · exact .bind (.resolve _ _) fun _ ↦ .pure _
    · exact .pure _
  · exact .pure _

theorem looksUp_auditIds (defaults : Defaults) (case : Case) :
    LooksUp store (auditIds store defaults case) :=
  .bind (looksUp_addEnds store case _) fun gathered ↦
    (looksUp_addProxy store case gathered).map present

theorem looksUp_nodeTypes (topology : Topology) : LooksUp store (nodeTypes store topology) :=
  .bind (.resolve _ _) fun _ ↦ .bind (.resolve _ _) fun _ ↦ .pure _

/-- The audit ids of a topology, and then the types that they stand for. -/
def planFor (defaults : Defaults) (topology : Topology) (isPrivileged : Bool) :
    Reading (List String × Dictionary String) := do
  let auditIds ← auditIds store defaults (caseOf topology isPrivileged)
  let nodeTypes ← nodeTypes store topology
  pure (auditIds, nodeTypes)

theorem looksUp_planFor (defaults : Defaults) (topology : Topology) (isPrivileged : Bool) :
    LooksUp store (planFor store defaults topology isPrivileged) :=
  .bind (looksUp_auditIds store defaults _) fun _ ↦
    .bind (looksUp_nodeTypes store topology) fun _ ↦ .pure _

end Selection

namespace Service

/-- The service with nothing cached, as it is created. -/
def cold (service : Service) : Service :=
  { service with registry := {} }

/-- The audit id that a service gives for a type and a direction. -/
def auditIdOf (service : Service) (type? : Option String) (direction : Direction) :
    Except Fault (Option String) :=
  ((auditId type? direction).run service).1

/-! ### Answers through a mirror -/

theorem reading_run {α : Type} (read : ItemStore → Reading α) (service : Service) :
    (reading read).run service = (((read service.itemStore).run service.registry).1,
      { service with registry := ((read service.itemStore).run service.registry).2 }) :=
  rfl

/-- Two readings in a row are one. -/
theorem reading_bind {α β : Type} (first : ItemStore → Reading α)
    (second : α → ItemStore → Reading β) :
    (reading first >>= fun result ↦ reading (second result)) =
      reading fun store ↦ first store >>= fun result ↦ second result store := by
  refine ExceptT.ext (funext fun service ↦ ?_)
  rw [bind_run, reading_run, reading_run, bind_run]
  rcases (first service.itemStore).run service.registry with ⟨_ | result, later⟩ <;> rfl

/-- Once the topology is found a plan is one reading of the registry. -/
theorem planned_eq (service : Service) (request : Request) (caller : Caller) :
    service.planned request caller = (service.topologyOf request).bind fun topology ↦
      ((Selection.planFor service.itemStore service.defaults topology caller.isTenantAdmin).run
        service.registry).1 := by
  unfold planned plan
  rw [bind_run_ok (get_run service)]
  cases service.topologyOf request with
  | error fault => rfl
  | ok topology =>
    rw [bind_run_ok (lift_run _ _), bind_run_ok (get_run service)]
    -- The answer of a plan is itself a reading, which makes one reading of all three.
    have hreading : (do
        let auditIds ← reading fun store ↦
          Selection.auditIds store service.defaults (Selection.caseOf topology caller.isTenantAdmin)
        let nodeTypes ← reading fun store ↦ Selection.nodeTypes store topology
        reading fun _ ↦ pure (auditIds, nodeTypes)) =
        reading fun store ↦
          Selection.planFor store service.defaults topology caller.isTenantAdmin := by
      simp only [reading_bind]
      rfl
    exact congrArg (fun call : Call _ ↦ (call.run service).1) hreading

section Mirrored

variable {service : Service} (hstore : service.itemStore.Within service.itemStore)
  (hmirrors : Mirrors service.itemStore service.registry)

include hstore hmirrors

theorem auditIdOf_of_mirrors (type? : Option String) (direction : Direction) :
    service.auditIdOf type? direction = service.cold.auditIdOf type? direction :=
  answer_eq_of_mirrors hstore (.resolve type? direction) hmirrors (mirrors_empty _)

theorem answered_of_mirrors (request : Request) (caller : Caller) :
    service.answered request caller = service.cold.answered request caller := by
  have hplanned : service.planned request caller = service.cold.planned request caller := by
    rw [planned_eq, planned_eq]
    refine congrArg (Except.bind (service.topologyOf request)) (funext fun topology ↦ ?_)
    exact answer_eq_of_mirrors hstore (Selection.looksUp_planFor _ _ _ _) hmirrors (mirrors_empty _)
  rw [answered_eq, answered_eq, hplanned]
  rfl

end Mirrored

/-! ### Calls keep the mirror -/

/-- Whether a service works on a table of items while what it has cached is held by a store. -/
def Mirrored (table : Option (Table Item)) (store : ItemStore) (service : Service) : Prop :=
  service.database.items = table ∧ Mirrors store service.registry

section Plans

variable {holds : Service → Prop}
  (hreading : ∀ {α : Type} {read : ItemStore → Reading α}, (∀ store, LooksUp store (read store)) →
    Keeps holds (reading read))

include hreading

/-- What readings made of look-ups keep is kept by plans. -/
theorem keeps_plan (request : Request) (caller : Caller) : Keeps holds (plan request caller) := by
  refine keeps_bind keeps_get fun service ↦ ?_
  refine keeps_bind (keeps_lift _) fun topology ↦ ?_
  refine keeps_bind keeps_get fun service' ↦ ?_
  refine keeps_bind (hreading fun store ↦ Selection.looksUp_auditIds store _ _) fun auditIds ↦ ?_
  refine keeps_bind (hreading fun store ↦ Selection.looksUp_nodeTypes store _) fun nodeTypes ↦ ?_
  exact keeps_pure _

/-- It is kept by queries, too. -/
theorem keeps_query (request : Request) (caller : Caller) : Keeps holds (query request caller) := by
  refine keeps_bind (keeps_plan hreading request caller) fun planned ↦ ?_
  refine keeps_bind keeps_get fun service ↦ ?_
  refine keeps_bind (keeps_lift _) fun found ↦ ?_
  exact keeps_pure _

end Plans

section Calls

variable {table : Option (Table Item)} {store : ItemStore}

theorem keeps_clearCache : Keeps (Mirrored table store) clearCache := by
  rintro service ⟨rfl, hmirrors⟩
  exact ⟨rfl, mirrors_clear store service.registry⟩

variable (hpart : (ofTable table).Within store)

include hpart

theorem keeps_reading {α : Type} {read : ItemStore → Reading α}
    (hread : ∀ part, LooksUp part (read part)) :
    Keeps (Mirrored table store) (reading read) := by
  rintro service ⟨rfl, hmirrors⟩
  exact ⟨rfl, keeps_mirrors hpart (hread service.itemStore) service.registry hmirrors⟩

theorem keeps_refresh : Keeps (Mirrored table store) refresh := by
  rintro service ⟨rfl, hmirrors⟩
  exact ⟨rfl, mirrors_refresh hpart hmirrors⟩

end Calls

/-! ### Histories -/

/-- A call that fills or reads or drops the cache of items. -/
inductive ItemCall where
  | refresh
  | clear
  | auditId (type? : Option String) (direction : Direction)
  | query (request : Request) (caller : Caller)

/-- The service after a call, be it answered or not. -/
def ItemCall.after : ItemCall → Service → Service
  | .refresh, service => (Service.refresh.run service).2
  | .clear, service => (clearCache.run service).2
  | .auditId type? direction, service => ((Service.auditId type? direction).run service).2
  | .query request caller, service => ((Service.query request caller).run service).2

/-- What can happen to a service whose items stay what they are: a call, a call while the items are
out of reach, and any change to the other tables. -/
inductive Event where
  | served (call : ItemCall)
  | outage (call : ItemCall)
  | change (others : Database)

/-- The service on other tables. -/
def withDatabase (service : Service) (database : Database) : Service :=
  { service with database }

/-- The service with another table of items. -/
def withItems (service : Service) (items : Option (Table Item)) : Service :=
  service.withDatabase { service.database with items }

/-- The service after an event. -/
def Event.after : Event → Service → Service
  | .served call, service => call.after service
  | .outage call, service => (call.after (service.withItems none)).withItems service.database.items
  | .change others, service => service.withDatabase { others with items := service.database.items }

/-- The service after a history. -/
def after (history : List Event) (service : Service) : Service :=
  history.foldl (fun reached event ↦ event.after reached) service

theorem mirrored_after_call {table : Option (Table Item)} {store : ItemStore}
    (hpart : (ofTable table).Within store) (call : ItemCall) {service : Service}
    (h : Mirrored table store service) : Mirrored table store (call.after service) := by
  cases call with
  | refresh => exact keeps_refresh hpart service h
  | clear => exact keeps_clearCache service h
  | auditId type? direction =>
    exact keeps_reading hpart (fun part ↦ .resolve type? direction) service h
  | query request caller => exact keeps_query (keeps_reading hpart) request caller service h

section History

variable {table : Option (Table Item)} (htable : (ofTable table).Within (ofTable table))

include htable

/-- Every event keeps the mirror of the table, also a call that finds the table out of reach. -/
theorem mirrored_after_event (event : Event) {service : Service}
    (h : Mirrored table (ofTable table) service) :
    Mirrored table (ofTable table) (event.after service) := by
  cases event with
  | served call => exact mirrored_after_call htable call h
  | change others => exact ⟨h.1, h.2⟩
  | outage call =>
    have haway : Mirrored none (ofTable table) (service.withItems none) := ⟨rfl, h.2⟩
    exact ⟨h.1, (mirrored_after_call (within_missing _) call haway).2⟩

/-- So does a whole history. -/
theorem mirrored_after (history : List Event) {service : Service}
    (h : Mirrored table (ofTable table) service) :
    Mirrored table (ofTable table) (after history service) := by
  induction history generalizing service with
  | nil => exact h
  | cons event rest ih => exact ih (mirrored_after_event htable event h)

end History

/-- With unique keys no history of a service shows in what it answers: every audit id and every
query come out, also when they fail, as from a service on the same tables that has nothing
cached. -/
theorem history_invisible (service : Service)
    (hunique : ∀ rows, service.database.items = some rows → UniqueKeys (rows.map Row.data))
    (history : List Event) :
    let later := after history service.cold
    (∀ type? direction, later.auditIdOf type? direction = later.cold.auditIdOf type? direction) ∧
      ∀ request caller, later.answered request caller = later.cold.answered request caller := by
  intro later
  have htable := within_ofTable hunique
  have hcold : Mirrored service.database.items (ofTable service.database.items) service.cold :=
    ⟨rfl, mirrors_empty _⟩
  obtain ⟨hitems, hmirrors⟩ := mirrored_after htable history hcold
  -- The mirror is of the table at the start, and the later service still works on that table.
  rw [← hitems] at htable hmirrors
  exact ⟨auditIdOf_of_mirrors htable hmirrors, answered_of_mirrors htable hmirrors⟩

/-! ### A history with failures -/

namespace Warmed

/-- A service on a sink whose type counts only what is sent, with a backend that has no points. -/
def service : Service where
  database :=
    { items := some [⟨1, ⟨⟨"HIVE", .sent⟩, "10"⟩⟩, ⟨2, ⟨⟨Selection.proxyType, .sent⟩, "6"⟩⟩]
      groups := some [⟨1, { groupId := "g" }⟩]
      sinks := some [⟨1, ⟨"g", "s", "HIVE"⟩⟩]
      streamSources := some [] }
  defaults := ⟨[], ["5"]⟩
  provider := .custom "probe" false fun _ ↦ .ok []
  warehouse := { url := none, table := "audit_data" }

/-- A request for a day. -/
def request : Request :=
  { groupId := "g", streamId := "s", first := .newYear, last := .newYear }

/-- A caller without roles. -/
def caller : Caller :=
  { userId := "u" }

/-- The other tables without the sink, and with a source behind an agent. -/
def others : Database :=
  { groups := some [⟨1, { groupId := "g" }⟩]
    sinks := some []
    streamSources := some [⟨1, ⟨"g", "s", "FILE"⟩⟩] }

/-- A query that ends half-way, a refresh while the items are out of reach, and the end of the
sink. -/
def history : List Event :=
  [.served (.query request caller), .outage .refresh, .change others]

/-- The query fails for what the sink received but leaves what it sent in the cache, which later
answers do not show. -/
theorem answers_of_warmed :
    (∀ rows, service.database.items = some rows → UniqueKeys (rows.map Row.data)) ∧
      service.cold.answered request caller = .error (.unsupported ⟨"HIVE", .received⟩) ∧
      (after history service.cold).registry.size = 1 ∧
      (after history service.cold).auditIdOf (some "HIVE") .sent = .ok (some "10") ∧
      (after history service.cold).answered request caller =
        .ok (["5", "6"], [⟨"5", none, []⟩, ⟨"6", none, []⟩]) := by
  have hunique : ∀ rows, service.database.items = some rows → UniqueKeys (rows.map Row.data) := by
    rintro rows hrows
    obtain rfl := Option.some.inj hrows
    decide
  have hhistory := history_invisible service hunique history
  refine ⟨hunique, rfl, rfl, ?_, ?_⟩
  · rw [hhistory.1]
    rfl
  · rw [hhistory.2]
    rfl

end Warmed

end Service

end StreamAudit
