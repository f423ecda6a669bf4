import StreamAudit.SourceRequest
import StreamAudit.Store.Database

/-!
The table of audit sources. A registration takes the sources at a url offline, if it names one, and
adds its own source online; the clock stamps all rows that it changes or adds. The online source in
use is the one with the largest number.
-/

set_option autoImplicit false
set_option relaxedAutoImplicit false

namespace StreamAudit.Store.Sources

open StreamAudit.Calendar

/-- What the clock shows during a registration: when the sources at a url go offline, all in one
statement, and when the two moments of the new source are taken. -/
structure Stamps where
  offlined : Moment
  created : Moment
  modified : Moment
deriving DecidableEq

/-- Takes a source offline if it is at the url. -/
def takeOffline (url operator : String) (now : Moment) (source : Source) : Source :=
  if source.url = url then
    { source with status := .offline, modifier := some operator, modifyTime := now }
  else source

/-- The sources after those at the url of a registration went offline. An empty url names none. -/
def withOffline (offlineUrl : Option String) (operator : String) (now : Moment)
    (table : Table Source) : Table Source :=
  match offlineUrl with
  | some url =>
    if url = "" then table
    else table.map fun row ↦ { row with data := takeOffline url operator now row.data }
  | none => table

/-- The source of a registration. -/
def sourceOf (request : SourceRequest) (operator : String) (stamps : Stamps) : Source where
  name := request.name
  type := request.type
  url := request.url
  enableAuth := request.enableAuth
  username := request.username
  token := request.token
  status := .online
  creator := some operator
  modifier := some operator
  createTime := stamps.created
  modifyTime := stamps.modified

/-- Registers a source; the new row comes last. -/
def register (request : SourceRequest) (operator : String) (stamps : Stamps)
    (table : Table Source) : Row Source × Table Source :=
  let row : Row Source := ⟨table.nextId, sourceOf request operator stamps⟩
  (row, withOffline request.offlineUrl operator stamps.offlined table ++ [row])

/-- The online source in use: the last one in the order of the numbers. -/
def online? (table : Table Source) : Option (Row Source) :=
  (Table.byId (table.filter fun row ↦ row.data.status == .online)).getLast?

end StreamAudit.Store.Sources
