import StreamAudit.Backend.Warehouse
import StreamAudit.Calendar.Iso
import StreamAudit.Fault
import StreamAudit.Json.Spelling
import StreamAudit.Store.Database

/-!
Loading tables from JSON. A row is an object with a member for each column; a missing column and one
that is null take the default. First every row is read as an object of its table, which fails for a
moment that cannot be read and for a column that the table lacks. Then the rows are added one after
another, all of them or none: a row is refused for a flag that is none, for a number beyond 64 bits,
for the lack of a column without a default, and for a clash with another row.
-/

set_option autoImplicit false
set_option relaxedAutoImplicit false

namespace StreamAudit.Store

open StreamAudit.Calendar StreamAudit.Number StreamAudit.Sql StreamAudit.Text

namespace Column

/-- The text that a column of texts holds for a value, none for null. -/
def textOf : Json → Except Fault (Option String)
  | .null => .ok none
  | .text value => .ok (some value)
  | .int value => .ok (some (toString value))
  | .bool value => .ok (some (if value then "1" else "0"))
  | .real .nan => .ok none
  | .real value => .ok (some value.significantText)
  | .list _ | .object _ => .error .badValue

/-- A text that may be null. -/
def text? (row : Json.Members) (name : String) : Except Fault (Option String) :=
  textOf ((row.get? name).getD .null)

/-- A text with a default. -/
def textOr (row : Json.Members) (name absent : String) : Except Fault String :=
  (text? row name).map fun value ↦ value.getD absent

/-- A text that must be there. -/
def text (row : Json.Members) (name : String) : Except Fault String := do
  let some value ← text? row name | throw .clash
  pure value

/-- The measure that a numeric column holds for a value. -/
def measureOf : Json → Except Fault Measure
  | .null => .ok .null
  | .int value => .ok (.whole value)
  | .bool value => .ok (.whole (if value then 1 else 0))
  | .real value => .ok (.ofReal value)
  | .text value =>
    match number? value with
    | some (.whole n) => .ok (.whole n)
    | some (.real x) => .ok (.ofReal x)
    | _ => .ok (.real (.finite false 0))
  | .list _ | .object _ => .error .badValue

/-- A measure, zero where it is missing or null. -/
def measureOr (row : Json.Members) (name : String) : Except Fault Measure :=
  match row.get? name with
  | some .null | none => .ok (.whole 0)
  | some value => measureOf value

/-- An integer with a default. -/
def integerOr (row : Json.Members) (name : String) (absent : Int) : Except Fault Int :=
  match row.get? name with
  | some .null | none => .ok absent
  | some value => do
    let .whole n ← measureOf value | throw .clash
    pure n

/-- A flag with a default. -/
def flagOr (row : Json.Members) (name : String) (absent : Bool) : Except Fault Bool :=
  match row.get? name with
  | some .null | none => .ok absent
  | some (.bool value) => .ok value
  | some (.int 0) => .ok false
  | some (.int 1) => .ok true
  | some (.real x) =>
    match x.integer? with
    | some 0 => .ok false
    | some 1 => .ok true
    | _ => .error .badFlag
  | some _ => .error .badFlag

/-- A moment that may be missing. -/
def moment? (row : Json.Members) (name : String) : Except Fault (Option Moment) :=
  match row.get? name with
  | some (.text value) =>
    match Iso.readExact? value with
    | some reading => .ok (some reading.moment)
    | none => .error .badMoment
  | _ => .ok none

/-- The number of a row, if it has one. -/
def id? (row : Json.Members) : Except Fault (Option Int) :=
  match row.get? "id" with
  | some .null | none => .ok none
  | some value => do
    let .whole n ← measureOf value | throw .clash
    pure (some n)

end Column

open Column

/-- Reads an audit item. -/
def itemOf (row : Json.Members) : Except Fault Item := do
  let direction := Direction.ofSent (← flagOr row "is_sent" false)
  pure ⟨⟨← text row "type", direction⟩, ← text row "audit_id"⟩

/-- Reads a raw audit row. -/
def rawRowOf (row : Json.Members) : Except Fault RawRow := do
  let some logTime ← moment? row "log_ts" | throw .clash
  pure {
    ip := ← textOr row "ip" ""
    dockerId := ← textOr row "docker_id" ""
    threadId := ← textOr row "thread_id" ""
    sdkTime := ← moment? row "sdk_ts"
    packetId := ← measureOr row "packet_id"
    logTime
    groupId := ← text row "inlong_group_id"
    streamId := ← text row "inlong_stream_id"
    auditId := ← text row "audit_id"
    count := ← measureOr row "count"
    size := ← measureOr row "size"
    delay := ← measureOr row "delay" }

/-- Reads an audit source. Its moments are not read: the clock stands while rows are loaded. -/
def sourceOfRow (row : Json.Members) : Except Fault Source := do
  let enableAuth ← flagOr row "enable_auth" false
  pure {
    name := ← text row "name"
    type := ← text row "type"
    url := ← text row "url"
    enableAuth
    username := ← text? row "username"
    token := ← text? row "token"
    status := .ofCode (← integerOr row "status" 1)
    creator := ← text? row "creator"
    modifier := ← text? row "modifier" }

/-- Reads a data group. -/
def groupOf (row : Json.Members) : Except Fault Group := do
  pure ⟨← text row "group_id", ← textOr row "mode" "standard"⟩

/-- Reads a sink or a source of a stream, its type from the given column. -/
def endpointOf (typeColumn : String) (row : Json.Members) : Except Fault Endpoint := do
  pure ⟨← text row "group_id", ← text row "stream_id", ← text row typeColumn⟩

/-- Whether the integers of a row fit 64 bits. -/
def fitsWords (row : Json.Members) : Bool :=
  row.all fun
    | (_, .int value) => fitsWord value
    | _ => true

/-- What rows of a table are made of and how they are kept apart. -/
structure Kind (α : Type) where
  columns : List String
  moments : List String := []
  read : Json.Members → Except Fault α
  clashes : α → α → Bool := fun _ _ ↦ false

/-- Audit items. -/
def itemKind : Kind Item where
  columns := ["id", "name", "type", "is_sent", "audit_id"]
  read := itemOf
  clashes := Database.itemsClash

/-- Raw audit rows. -/
def rawRowKind : Kind RawRow where
  columns :=
    ["id", "ip", "docker_id", "thread_id", "sdk_ts", "packet_id", "log_ts", "inlong_group_id",
    "inlong_stream_id", "audit_id", "count", "size", "delay"]
  moments := ["log_ts", "sdk_ts"]
  read := rawRowOf

/-- Audit sources. -/
def sourceKind : Kind Source where
  columns := ["id", "name", "type", "url", "enable_auth", "username", "token", "status", "creator",
    "modifier", "create_time", "modify_time"]
  read := sourceOfRow

/-- Data groups. -/
def groupKind : Kind Group where
  columns := ["id", "group_id", "mode"]
  read := groupOf
  clashes := Database.groupsClash

/-- Sinks or sources of streams, their type in the given column. -/
def endpointKind (typeColumn : String) : Kind Endpoint where
  columns := ["id", "group_id", "stream_id", typeColumn]
  read := endpointOf typeColumn

namespace Kind

variable {α : Type}

/-- Checks that a row has moments that can be read and no columns but those of its table. -/
def check (kind : Kind α) (row : Json.Members) : Except Fault Unit := do
  discard (kind.moments.mapM (moment? row))
  if row.all fun pair ↦ kind.columns.contains pair.1 then pure () else throw .unknownColumn

/-- Adds a row. A number beyond 64 bits is found before what the row lacks. -/
def addRow (kind : Kind α) (table : Table α) (row : Json.Members) : Except Fault (Table α) :=
  match kind.read row with
  | .error .badFlag => .error .badFlag
  | outcome =>
    if fitsWords row then do
      let data ← outcome
      let some all := table.insert? kind.clashes (← id? row) data | throw .clash
      pure all
    else .error .numberTooLarge

/-- Adds rows to a table, all of them or none. -/
def addRows (kind : Kind α) (table : Option (Table α)) (rows : List Json.Members) :
    Except Fault (Option (Table α)) := do
  discard (rows.mapM kind.check)
  match table with
  | none => if rows.isEmpty then pure none else throw .noTable
  | some known => (rows.foldlM kind.addRow known).map some

end Kind

namespace Database

/-- Adds rows to the table of a name. -/
def insert (database : Database) (table : String) (rows : List Json.Members) :
    Except Fault Database := do
  match table with
  | "audit_base" => pure { database with items := ← itemKind.addRows database.items rows }
  | "audit_data" => pure { database with rawRows := ← rawRowKind.addRows database.rawRows rows }
  | "audit_source" => pure { database with sources := ← sourceKind.addRows database.sources rows }
  | "data_group" => pure { database with groups := ← groupKind.addRows database.groups rows }
  | "stream_sink" =>
    pure { database with sinks := ← (endpointKind "sink_type").addRows database.sinks rows }
  | "stream_source" =>
    pure { database with
      streamSources := ← (endpointKind "source_type").addRows database.streamSources rows }
  | _ => throw .noTable

/-- A table after it was dropped or emptied. -/
def cleared {α : Type} (drop : Bool) : Option (Table α) → Except Fault (Option (Table α))
  | none => .error .noTable
  | some _ => .ok (if drop then none else some [])

/-- Drops the table of a name, or deletes all its rows. -/
def clear (database : Database) (table : String) (drop : Bool) : Except Fault Database := do
  match table with
  | "audit_base" => pure { database with items := ← cleared drop database.items }
  | "audit_data" => pure { database with rawRows := ← cleared drop database.rawRows }
  | "audit_source" => pure { database with sources := ← cleared drop database.sources }
  | "data_group" => pure { database with groups := ← cleared drop database.groups }
  | "stream_sink" => pure { database with sinks := ← cleared drop database.sinks }
  | "stream_source" => pure { database with streamSources := ← cleared drop database.streamSources }
  | _ => throw .noTable

/-- A database with the rows of an object that has a list for each table. -/
def load (tables : Json.Members) (database : Database) : Except Fault Database :=
  tables.foldlM (fun known pair ↦
    match pair.2 with
    | .list rows => known.insert pair.1 (rows.filterMap Json.members?)
    | _ => .ok known) database

end Database

/-- A measure of the warehouse, zero where it is missing. -/
def warehouseMeasure (row : Json.Members) (name : String) : Except Fault Measure :=
  measureOf ((row.get? name).getD (.int 0))

/-- A text of the warehouse, empty where it is missing. -/
def warehouseText (row : Json.Members) (name : String) : Except Fault (Option String) :=
  textOf ((row.get? name).getD (.text ""))

/-- Reads a row of the warehouse. -/
def warehouseRowOf (row : Json.Members) : Except Fault Backend.Warehouse.Row := do
  if !fitsWords row then throw .numberTooLarge
  pure {
    ip := ← warehouseText row "ip"
    dockerId := ← warehouseText row "docker_id"
    threadId := ← warehouseText row "thread_id"
    sdkTime := ← warehouseText row "sdk_ts"
    packetId := ← warehouseMeasure row "packet_id"
    logTime := ← warehouseText row "log_ts"
    groupId := ← warehouseText row "inlong_group_id"
    streamId := ← warehouseText row "inlong_stream_id"
    auditId := ← warehouseText row "audit_id"
    count := ← warehouseMeasure row "count"
    size := ← warehouseMeasure row "size"
    delay := ← warehouseMeasure row "delay" }

/-- Adds rows to a warehouse, all of them or none. The table is there afterwards unless the
warehouse cannot be opened. -/
def addWarehouseRows (connection : Backend.Warehouse.Connection) (rows : List Json.Members) :
    Except Fault Unit × Backend.Warehouse.Connection :=
  match connection.opens connection.url with
  | .error cause => (.error (.unopened cause), connection)
  | .ok _ =>
    let present := connection.rows.getD []
    match rows.mapM warehouseRowOf with
    | .ok added => (.ok (), { connection with rows := some (present ++ added) })
    | .error fault => (.error fault, { connection with rows := some present })

end StreamAudit.Store
