import StreamAudit.Registry
import StreamAudit.Text.Ascending
import StreamAudit.Topology

/-!
Which audit ids a query reports. They are the configured ids of the caller's role, the ids of the
sink and of the other end of the stream, and, where no source goes through an agent but agents would
be reported, the id of what the proxy received. Blank ids are dropped.
-/

set_option autoImplicit false
set_option relaxedAutoImplicit false

namespace StreamAudit

open StreamAudit.Text

/-- The audit ids that are always reported, by the role of the caller. -/
structure Defaults where
  adminIds : List String
  userIds : List String
deriving DecidableEq, Repr

namespace Selection

/-- The item type of the data proxy. -/
def proxyType : String :=
  "DATAPROXY"

/-- The item type of the agents. -/
def agentType : String :=
  "AGENT"

/-- What decides about the ids of a stream. -/
structure Case where
  source : Option String := none
  sink : Option String := none
  isPrivileged : Bool := false
  isPaired : Bool := false
  allPush : Bool := false
deriving DecidableEq, Repr

/-- The ids of a role. -/
def Case.defaults (case : Case) (defaults : Defaults) : List String :=
  if case.isPrivileged then defaults.adminIds else defaults.userIds

/-- Adds the ids of the two ends of the stream. Without a sink the data can be followed only up to
the proxy. -/
def addEnds (store : ItemStore) (case : Case) (gathered : List (Option String)) :
    Registry.Reading (List (Option String)) :=
  match case.sink with
  | none => do
    let sent ← Registry.resolve store (some proxyType) .sent
    pure (gathered ++ [sent])
  | some sink => do
    let sent ← Registry.resolve store (some sink) .sent
    let received ← Registry.resolve store (if case.isPaired then case.source else some sink)
        .received
    pure (gathered ++ [sent, received])

/-- Adds what the proxy received where agents would be reported although no source uses one. -/
def addProxy (store : ItemStore) (case : Case) (gathered : List (Option String)) :
    Registry.Reading (List (Option String)) :=
  if case.allPush then do
    let agent ← Registry.resolve store (some agentType) .received
    if agent ∈ gathered then
      let received ← Registry.resolve store (some proxyType) .received
      pure (gathered ++ [received])
    else pure gathered
  else pure gathered

/-- The ids that are no blank texts, in ascending order. -/
def present (gathered : List (Option String)) : List String :=
  Ascending.ofList ((gathered.filterMap id).filter fun auditId ↦ !isVoid auditId)

/-- The audit ids to report. -/
def auditIds (store : ItemStore) (defaults : Defaults) (case : Case) :
    Registry.Reading (List String) := do
  let gathered ← addEnds store case ((case.defaults defaults).map some)
  present <$> addProxy store case gathered

/-- What decides about the ids of a stream with the given topology. -/
def caseOf (topology : Topology) (isPrivileged : Bool) : Case where
  source := if topology.isPaired then topology.sourceType? else none
  sink := topology.sinkType
  isPrivileged := isPrivileged
  isPaired := topology.isPaired
  allPush := topology.allPush

/-- Labels an id with a type, unless one of them is missing or empty. -/
def label (auditId? type? : Option String) (labels : Dictionary String) : Dictionary String :=
  match auditId?, type? with
  | some auditId, some type => if auditId = "" ∨ type = "" then labels else labels.set auditId type
  | _, _ => labels

/-- The types that the ids of the two ends stand for. -/
def nodeTypes (store : ItemStore) (topology : Topology) : Registry.Reading (Dictionary String) := do
  let received := if topology.isPaired then topology.sourceType? else topology.sinkType
  let sentId ← Registry.resolve store topology.sinkType .sent
  let receivedId ← Registry.resolve store received .received
  pure (label receivedId received (label sentId topology.sinkType []))

end Selection

end StreamAudit
