import StreamAudit.Fault

/-!
What a refusal of the backend means for a query. A missing data source leaves the audit id without
points. So does a failure or a timeout that may be isolated; otherwise it ends the query. A
breakdown always does.
-/

set_option autoImplicit false
set_option relaxedAutoImplicit false

namespace StreamAudit.Backend

/-- A strict backend never hides a failure; of the others failures are isolated if so configured. -/
structure Policy where
  isStrict : Bool
  isolates : Bool
deriving DecidableEq, Repr

namespace Policy

/-- The points that stand for an outcome, or the fault that ends the query. -/
def settle (policy : Policy) (auditId : String) : Outcome → Except Fault (List Point)
  | .ok points => .ok points
  | .error .slow => if policy.isStrict then .error (.failed (.timedOut auditId)) else .ok []
  | .error (.absent _) => .ok []
  | .error (.failed cause) =>
    if policy.isStrict || !policy.isolates then .error (.failed cause) else .ok []
  | .error (.broken cause) => .error (.broken cause)

end Policy

end StreamAudit.Backend
