/-!
Audit items. An item says which audit id counts the events of a type in a direction; type and
direction together are its key.
-/

set_option autoImplicit false
set_option relaxedAutoImplicit false

namespace StreamAudit

/-- Whether events are counted where they are sent or where they are received. -/
inductive Direction where
  | sent
  | received
deriving DecidableEq, Repr

/-- What an audit id is looked up by. -/
structure ItemKey where
  type : String
  direction : Direction
deriving DecidableEq, Repr

/-- The audit id of a key. -/
structure Item where
  key : ItemKey
  auditId : String
deriving DecidableEq, Repr

/-- The word for a direction. -/
def Direction.name : Direction → String
  | .sent => "sent"
  | .received => "received"

/-- The direction of a flag that says whether events are sent. -/
def Direction.ofSent (isSent : Bool) : Direction :=
  if isSent then .sent else .received

end StreamAudit
