import StreamAudit.Settings.Basic
import StreamAudit.Text.Percent

/-!
The address of the manager's database: the configured one, a local file while developing without a
password, or one built from its parts with user and password coded as in a form. The address for
asynchronous use names the driver as well.
-/

set_option autoImplicit false
set_option relaxedAutoImplicit false

namespace StreamAudit.Settings

open StreamAudit.Text

/-- A text coded as in a form. -/
def formCoded (s : String) : String :=
  String.ofList (Percent.encodeForm s.toList)

/-- The local database of a developer. -/
def localUrl : String :=
  "sqlite:///./manager_dev.sqlite"

/-- The address built from its parts. -/
def builtUrl (database : DatabaseSettings) : String :=
  "mysql://" ++ formCoded database.username ++ ":" ++ formCoded database.password ++ "@" ++
    database.host ++ ":" ++ toString database.port ++ "/" ++ database.database

/-- The address of the database. -/
def databaseUrl (settings : Settings) : String :=
  match settings.database.url with
  | some "" | none =>
    if settings.isDevelopment && settings.database.password.isEmpty then localUrl
    else builtUrl settings.database
  | some url => url

/-- The dialects that are given a driver for asynchronous use. -/
def asyncDialects : List (String × String) :=
  [("mysql://", "mysql+aiomysql://"), ("postgresql://", "postgresql+asyncpg://"),
    ("sqlite://", "sqlite+aiosqlite://")]

/-- The address with the driver for asynchronous use. -/
def asyncUrlOf (url : String) : String :=
  match asyncDialects.find? fun pair ↦ pair.1.toList.isPrefixOf url.toList with
  | some (plain, driven) => driven ++ String.ofList (url.toList.drop plain.length)
  | none => url

/-- The address of the database for asynchronous use. -/
def asyncDatabaseUrl (settings : Settings) : String :=
  asyncUrlOf settings.databaseUrl

end StreamAudit.Settings
