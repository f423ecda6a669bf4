import StreamAudit.Form.Number
import StreamAudit.Text.LetterCase
import StreamAudit.Text.Quoted
import StreamAudit.Text.Split

/-!
Settings in sections, every field with a default. Lists of audit ids may be written as one text with
commas, and the environment in any case.
-/

set_option autoImplicit false
set_option relaxedAutoImplicit false

namespace StreamAudit

open StreamAudit.Form StreamAudit.Number StreamAudit.Text

/-- Where the application runs. -/
inductive Environment where
  | development
  | staging
  | production
  | test
deriving DecidableEq, Repr

/-- The word for an environment. -/
def Environment.name : Environment → String
  | .development => "development"
  | .staging => "staging"
  | .production => "production"
  | .test => "test"

/-- The environment of a word. -/
def Environment.ofName? (word : String) : Option Environment :=
  [development, staging, production, test].find? fun environment ↦ environment.name == word

/-- Which backend serves audit queries. -/
inductive QuerySource where
  | relational
  | searchIndex
  | warehouse
deriving DecidableEq, Repr

/-- The word for a query source. -/
def QuerySource.name : QuerySource → String
  | .relational => "MYSQL"
  | .searchIndex => "ELASTICSEARCH"
  | .warehouse => "CLICKHOUSE"

/-- The query source of a word. -/
def QuerySource.ofName? (word : String) : Option QuerySource :=
  [relational, searchIndex, warehouse].find? fun source ↦ source.name == word

/-- How much is logged. -/
inductive LogLevel where
  | debug
  | info
  | warning
  | error
  | critical
deriving DecidableEq, Repr

/-- The word for a log level. -/
def LogLevel.name : LogLevel → String
  | .debug => "DEBUG"
  | .info => "INFO"
  | .warning => "WARNING"
  | .error => "ERROR"
  | .critical => "CRITICAL"

/-- The log level of a word. -/
def LogLevel.ofName? (word : String) : Option LogLevel :=
  [debug, info, warning, error, critical].find? fun level ↦ level.name == word

/-- The store of items, topology and raw rows. -/
structure DatabaseSettings where
  url : Option String := none
  host : String := "localhost"
  port : Int := 3306
  database : String := "manager"
  username : String := "root"
  password : String := ""
  poolSize : Int := 10
  maxOverflow : Int := 20
  poolTimeout : Int := 30
  poolRecycle : Int := 3600
  poolPrePing : Bool := true
  echo : Bool := false
deriving DecidableEq, Repr

/-- The cluster of the search index. -/
structure ClusterSettings where
  url : String := "http://localhost:9200"
  username : Option String := none
  password : Option String := none
  verifyCerts : Bool := true
  requestTimeout : Binary64 := .ofInt 30
deriving DecidableEq, Repr

/-- The warehouse of raw rows. -/
structure WarehouseSettings where
  url : Option String := none
  table : String := "audit_data"
  poolSize : Int := 5
  poolRecycle : Int := 3600
deriving DecidableEq, Repr

/-- The query engine. -/
structure AuditSettings where
  querySource : QuerySource := .relational
  adminIds : List String := ["3", "4", "5", "6"]
  userIds : List String := ["3", "4", "5", "6"]
  backendTimeout : Binary64 := .ofInt 30
  maxConcurrentQueries : Int := 8
  isolateBackendFailures : Bool := true
deriving DecidableEq, Repr

/-- Logging. -/
structure ObservabilitySettings where
  logLevel : LogLevel := .info
  logFormat : String := "json"
  enableCorrelationIds : Bool := true
deriving DecidableEq, Repr

/-- All settings. -/
structure Settings where
  appName : String := "dataflow-manager"
  environment : Environment := .development
  database : DatabaseSettings := {}
  elasticsearch : ClusterSettings := {}
  clickhouse : WarehouseSettings := {}
  audit : AuditSettings := {}
  observability : ObservabilitySettings := {}
deriving DecidableEq, Repr

/-- A text as it is. -/
def plainText : Reader String :=
  text id 0

/-- A text or null. -/
def plainText? : Reader (Option String) :=
  nullable plainText

/-- Reads the section of the database. -/
def DatabaseSettings.ofForm (form : Json.Members) : Checked DatabaseSettings :=
  ((((((((((((Checked.ok DatabaseSettings.mk).also
    (optional form "url" plainText? none)).also
    (optional form "host" plainText "localhost")).also
    (optional form "port" integer 3306)).also
    (optional form "database" plainText "manager")).also
    (optional form "username" plainText "root")).also
    (optional form "password" plainText "")).also
    (optional form "pool_size" integer 10)).also
    (optional form "max_overflow" integer 20)).also
    (optional form "pool_timeout" integer 30)).also
    (optional form "pool_recycle" integer 3600)).also
    (optional form "pool_pre_ping" flag true)).also
    (optional form "echo" flag false)

/-- Reads the section of the cluster. -/
def ClusterSettings.ofForm (form : Json.Members) : Checked ClusterSettings :=
  (((((Checked.ok ClusterSettings.mk).also
    (optional form "url" plainText "http://localhost:9200")).also
    (optional form "username" plainText? none)).also
    (optional form "password" plainText? none)).also
    (optional form "verify_certs" flag true)).also
    (optional form "request_timeout" real (.ofInt 30))

/-- Reads the section of the warehouse. -/
def WarehouseSettings.ofForm (form : Json.Members) : Checked WarehouseSettings :=
  ((((Checked.ok WarehouseSettings.mk).also
    (optional form "url" plainText? none)).also
    (optional form "table" plainText "audit_data")).also
    (optional form "pool_size" integer 5)).also
    (optional form "pool_recycle" integer 3600)

/-- A list of ids, or a text of ids with commas between them. -/
def idList : Reader (List String)
  | .text names => .ok (commaNames names)
  | value => list plainText value

/-- Reads the section of the query engine. -/
def AuditSettings.ofForm (form : Json.Members) : Checked AuditSettings :=
  ((((((Checked.ok AuditSettings.mk).also
    (optional form "query_source" (choice QuerySource.ofName?) .relational)).also
    (optional form "admin_ids" idList ["3", "4", "5", "6"])).also
    (optional form "user_ids" idList ["3", "4", "5", "6"])).also
    (optional form "backend_timeout_seconds" (above Binary64.isPositive real) (.ofInt 30))).also
    (optional form "max_concurrent_queries" (above (0 < ·) integer) 8)).also
    (optional form "isolate_backend_failures" flag true)

/-- Reads the section of logging. -/
def ObservabilitySettings.ofForm (form : Json.Members) : Checked ObservabilitySettings :=
  (((Checked.ok ObservabilitySettings.mk).also
    (optional form "log_level" (choice LogLevel.ofName?) .info)).also
    (optional form "log_format" plainText "json")).also
    (optional form "enable_correlation_ids" flag true)

/-- An environment in any case. -/
def environmentReader : Reader Environment
  | .text word =>
    match Environment.ofName? (lower word) with
    | some environment => .ok environment
    | none => refuse (.rule (quoted (lower word) ++ " is not a valid Environment"))
  | _ => refuse .noChoice

/-- Reads all settings. -/
def Settings.ofForm (form : Json.Members) : Checked Settings :=
  (((((((Checked.ok Settings.mk).also
    (optional form "app_name" plainText "dataflow-manager")).also
    (optional form "environment" environmentReader .development)).also
    (optional form "database" (object DatabaseSettings.ofForm) {})).also
    (optional form "elasticsearch" (object ClusterSettings.ofForm) {})).also
    (optional form "clickhouse" (object WarehouseSettings.ofForm) {})).also
    (optional form "audit" (object AuditSettings.ofForm) {})).also
    (optional form "observability" (object ObservabilitySettings.ofForm) {})

namespace Settings

/-- Whether the application runs in production. -/
def isProduction (settings : Settings) : Bool :=
  settings.environment == .production

/-- Whether the application is under development. -/
def isDevelopment (settings : Settings) : Bool :=
  settings.environment == .development

/-- An event of the log with the name and the environment of the application, unless it has its
own. -/
def addContext (settings : Settings) (event : Json.Members) : Json.Members :=
  let named := if (event.get? "app").isSome then event else event.set "app" (.text settings.appName)
  if (named.get? "environment").isSome then named
  else named.set "environment" (.text settings.environment.name)

end Settings

end StreamAudit
