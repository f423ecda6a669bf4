import StreamAudit.Form.Number

/-!
Registrations of audit sources. Sources at another url may be taken offline with the registration.
-/

set_option autoImplicit false
set_option relaxedAutoImplicit false

namespace StreamAudit

open StreamAudit.Form

/-- The registration of a source. -/
structure SourceRequest where
  name : String
  type : String
  url : String
  enableAuth : Bool := false
  username : Option String := none
  token : Option String := none
  offlineUrl : Option String := none
deriving DecidableEq, Repr

/-- Reads a registration. -/
def SourceRequest.ofForm (form : Json.Members) : Checked SourceRequest :=
  (((((((Checked.ok SourceRequest.mk).also
    (required form "name" (text id 1))).also
    (required form "type" (text id 1))).also
    (required form "url" (text id 1))).also
    (optional form "enable_auth" flag false)).also
    (optional form "username" (nullable (text id 0)) none)).also
    (optional form "token" (nullable (text id 0)) none)).also
    (optional form "offline_url" (nullable (text id 0)) none)

end StreamAudit
