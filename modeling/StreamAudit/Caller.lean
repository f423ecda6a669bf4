import StreamAudit.Form.Checked

/-!
Callers, already authenticated, with their roles. A form of a caller may hold no other members.
-/

set_option autoImplicit false
set_option relaxedAutoImplicit false

namespace StreamAudit

open StreamAudit.Form

/-- An authenticated caller. -/
structure Caller where
  userId : String
  username : Option String := none
  tenant : Option String := none
  roles : List String := []
deriving DecidableEq, Repr

namespace Caller

/-- The role that sees the ids of administrators. -/
def tenantAdmin : String :=
  "TENANT_ADMIN"

/-- Whether the caller administers a tenant. -/
def isTenantAdmin (caller : Caller) : Bool :=
  caller.roles.contains tenantAdmin

/-- The members that a form of a caller knows. -/
def known : List String :=
  ["user_id", "username", "tenant", "roles"]

/-- The known members of a form. -/
def fields (form : Json.Members) : Checked Caller :=
  ((((Checked.ok Caller.mk).also
    (required form "user_id" (text id 0))).also
    (optional form "username" (nullable (text id 0)) none)).also
    (optional form "tenant" (nullable (text id 0)) none)).also
    (optional form "roles" (list (text id 0)) [])

/-- Reads a caller. -/
def ofForm (form : Json.Members) : Checked Caller :=
  match (fields form).complaints ++ unknown form known with
  | [] => fields form
  | all => .wrong all

end Caller

end StreamAudit
