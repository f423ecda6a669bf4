import StreamAudit.Calendar.Moment
import StreamAudit.Item
import StreamAudit.Sql.Measure
import StreamAudit.Store.Table

/-!
The tables of the manager: audit items, raw audit rows, registered audit sources, and the groups,
sinks and sources of streams. A table may be missing. Items are unique by key and groups by their
id.
-/

set_option autoImplicit false
set_option relaxedAutoImplicit false

namespace StreamAudit.Store

open StreamAudit.Calendar StreamAudit.Sql

/-- One report of an agent, a proxy or a sort job. -/
structure RawRow where
  ip : String := ""
  dockerId : String := ""
  threadId : String := ""
  sdkTime : Option Moment := none
  packetId : Measure := .whole 0
  logTime : Moment
  groupId : String
  streamId : String
  auditId : String
  count : Measure := .whole 0
  size : Measure := .whole 0
  delay : Measure := .whole 0
deriving DecidableEq

/-- Whether a registered source is in use. -/
inductive Status where
  | offline
  | online
  | other (code : Int)
deriving DecidableEq, Repr

/-- The number that stands for a status. -/
def Status.code : Status → Int
  | .offline => 0
  | .online => 1
  | .other code => code

/-- The status of a number. -/
def Status.ofCode (code : Int) : Status :=
  if code = 0 then .offline else if code = 1 then .online else .other code

/-- A registered audit source. The clock stamps its row when it is created and whenever it is
modified. -/
structure Source where
  name : String
  type : String
  url : String
  enableAuth : Bool := false
  username : Option String := none
  token : Option String := none
  status : Status := .online
  creator : Option String := none
  modifier : Option String := none
  createTime : Moment := .unixStart
  modifyTime : Moment := .unixStart
deriving DecidableEq

/-- A data group and the way in which it tracks its streams. -/
structure Group where
  groupId : String
  mode : String := "standard"
deriving DecidableEq, Repr

/-- A sink or a source of a stream. -/
structure Endpoint where
  groupId : String
  streamId : String
  type : String
deriving DecidableEq, Repr

/-- All tables; a missing one is none. -/
structure Database where
  items : Option (Table Item) := none
  rawRows : Option (Table RawRow) := none
  sources : Option (Table Source) := none
  groups : Option (Table Group) := none
  sinks : Option (Table Endpoint) := none
  streamSources : Option (Table Endpoint) := none

namespace Database

/-- All tables, with no rows. -/
def empty : Database :=
  ⟨some [], some [], some [], some [], some [], some []⟩

/-- Creates the tables that are missing. -/
def create (database : Database) : Database where
  items := database.items <|> some []
  rawRows := database.rawRows <|> some []
  sources := database.sources <|> some []
  groups := database.groups <|> some []
  sinks := database.sinks <|> some []
  streamSources := database.streamSources <|> some []

/-- Two items clash if they have the same key. -/
def itemsClash (first second : Item) : Bool :=
  first.key == second.key

/-- Two groups clash if they have the same id. -/
def groupsClash (first second : Group) : Bool :=
  first.groupId == second.groupId

end Database

end StreamAudit.Store
