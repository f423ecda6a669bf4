import StreamAudit.Fault
import StreamAudit.Number.Word
import StreamAudit.Store.Database

/-!
The topology of a stream as far as audits need it: how its group tracks it, the type of the reported
sink, and the types of its sources. It is looked up by group and stream; the reported sink is the
first one of the stream unless another is named by its number.
-/

set_option autoImplicit false
set_option relaxedAutoImplicit false

namespace StreamAudit

open StreamAudit.Number StreamAudit.Store

/-- The sinks and sources of a stream. -/
structure Topology where
  mode : String := "standard"
  sinkType : Option String := none
  sourceTypes : List String := []
deriving DecidableEq, Repr

namespace Topology

/-- The mode of groups whose source and sink are tracked as two ends. -/
def pairedMode : String :=
  "datasync"

/-- The type of sources that send to the proxy without an agent. -/
def pushType : String :=
  "AUTO_PUSH"

/-- Whether source and sink are tracked as two ends. -/
def isPaired (topology : Topology) : Bool :=
  topology.mode == pairedMode

/-- The type of the first source. -/
def sourceType? (topology : Topology) : Option String :=
  topology.sourceTypes.head?

/-- Whether no source goes through an agent; so it is where there are no sources. -/
def allPush (topology : Topology) : Bool :=
  topology.sourceTypes.all (· == pushType)

/-- The rows of a table of endpoints that belong to a stream, by their numbers. -/
def ofStream (groupId streamId : String) (table : Table Endpoint) : List Endpoint :=
  (Table.byId (table.filter fun row ↦
    row.data.groupId == groupId && row.data.streamId == streamId)).map Row.data

/-- A table that must be there. -/
def present {α : Type} (table : Option (Table α)) : Except Fault (Table α) :=
  match table with
  | some rows => .ok rows
  | none => .error .noTable

/-- The sink that is reported: the one of a number, whichever stream it belongs to, or else the
first one of the stream. -/
def reportedSink (sinks : Table Endpoint) (groupId streamId : String) :
    Option Int → Except Fault (Option Endpoint)
  | none => .ok (ofStream groupId streamId sinks).head?
  | some number =>
    if fitsWord number then .ok ((sinks.find? fun row ↦ row.id == number).map Row.data)
    else .error .numberTooLarge

/-- The topology of a stream. -/
def lookup (database : Database) (groupId streamId : String) (sinkId : Option Int) :
    Except Fault Topology := do
  let groups ← present database.groups
  let some group := groups.find? fun row ↦ row.data.groupId == groupId
    | throw (.noGroup groupId)
  let sinks ← present database.sinks
  let sink ← reportedSink sinks groupId streamId sinkId
  let sources ← present database.streamSources
  pure ⟨group.data.mode, sink.map Endpoint.type,
    (ofStream groupId streamId sources).map Endpoint.type⟩

end Topology

end StreamAudit
