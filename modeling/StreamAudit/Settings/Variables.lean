import StreamAudit.Json.Reader
import StreamAudit.Settings.Basic

/-!
Settings from environment variables. The names of variables are compared without case. A section is
given as a JSON object in the variable of its name, or field by field in variables that join section
and field by two low lines; a field of its own beats the same field of the object, and arguments
beat variables.
-/

set_option autoImplicit false
set_option relaxedAutoImplicit false

namespace StreamAudit.Settings

open StreamAudit.Form StreamAudit.Text

/-- A section with the names of its fields. -/
structure Section where
  name : String
  fields : List String

/-- The sections of the settings. -/
def sections : List Section :=
  [⟨"database", ["url", "host", "port", "database", "username", "password", "pool_size",
      "max_overflow", "pool_timeout", "pool_recycle", "pool_pre_ping", "echo"]⟩,
    ⟨"elasticsearch", ["url", "username", "password", "verify_certs", "request_timeout"]⟩,
    ⟨"clickhouse", ["url", "table", "pool_size", "pool_recycle"]⟩,
    ⟨"audit", ["query_source", "admin_ids", "user_ids", "backend_timeout_seconds",
      "max_concurrent_queries", "isolate_backend_failures"]⟩,
    ⟨"observability", ["log_level", "log_format", "enable_correlation_ids"]⟩]

/-- The fields that belong to no section. -/
def plainFields : List String :=
  ["app_name", "environment"]

/-- The names of all variables that are read. -/
def variableNames : List String :=
  plainFields ++ sections.flatMap fun part ↦
    part.name :: part.fields.map fun field ↦ part.name ++ "__" ++ field

/-- Sets the value at the end of a path. A text in the way of the path stays. -/
def assign (value : Json) : List String → Json.Members → Json.Members
  | [], members => members
  | [last], members => members.set last value
  | name :: path, members =>
    match members.get? name with
    | none => members.set name (.object (assign value path []))
    | some (.object inner) => members.set name (.object (assign value path inner))
    | some _ => members

/-- The path that a variable names below a section. -/
def pathBelow? (sectionName : String) (variableName : String) : Option (List String) :=
  let front := (sectionName ++ "__").toList
  if front.isPrefixOf variableName.toList then
    some ((splitAtDoubleLine (variableName.toList.drop front.length)).map String.ofList)
  else none

/-- The fields of a section that have variables of their own. -/
def exploded (sectionName : String) (environment : Dictionary String) : Json.Members :=
  environment.foldl (fun members pair ↦
    match pathBelow? sectionName pair.1 with
    | some path => assign (.text pair.2) path members
    | none => members) []

/-- Lays members over others; of two under one name the one laid over counts. -/
def overlay (below above : Json.Members) : Json.Members :=
  above.foldl (fun merged pair ↦ merged.set pair.1 pair.2) below

/-- Lays sections over sections, field by field. -/
def overlaySections (below above : Json.Members) : Json.Members :=
  above.foldl (fun merged pair ↦
    match merged.get? pair.1, pair.2 with
    | some (.object old), .object new => merged.set pair.1 (.object (overlay old new))
    | _, value => merged.set pair.1 value) below

/-- Members under the names of the fields that they match without case. -/
def renamed (fields : List String) (members : Json.Members) : Json.Members :=
  members.foldl (fun named pair ↦
    let field := fields.find? fun field ↦ field == lower pair.1
    named.set (field.getD pair.1) pair.2) []

/-- The value that the variables give a section, none if they give none. The outer result is none if
the variable of the section holds no JSON. -/
def sectionValue? (environment : Dictionary String) (part : Section) : Option (Option Json) :=
  let fields := exploded part.name environment
  match environment.get? part.name with
  | none =>
    some (if fields.isEmpty then none else some (.object (renamed part.fields fields)))
  | some written =>
    (Json.read? written).map fun
      | .null => none
      | .object members => some (.object (renamed part.fields (overlay members fields)))
      | value => some value

/-- Variables under small letters; of two that differ in case only, the later one counts. -/
def lowered (environment : List (String × String)) : Dictionary String :=
  environment.foldl (fun known pair ↦ known.set (lower pair.1) pair.2) []

/-- The form that the variables give, none if the variable of a section holds no JSON. -/
def formOfVariables? (environment : List (String × String)) : Option Json.Members := do
  let known := lowered environment
  let plain := plainFields.filterMap fun name ↦
    (known.get? name).map fun value ↦ (name, Json.text value)
  let values ← sections.mapM fun part ↦ (sectionValue? known part).map (part.name, ·)
  pure (plain ++ values.filterMap fun (name, value?) ↦ value?.map (name, ·))

/-- Reads settings from variables and arguments; none if the variable of a section holds no JSON. -/
def load? (environment : List (String × String)) (arguments : Json.Members) :
    Option (Checked Settings) :=
  (formOfVariables? environment).map fun form ↦ Settings.ofForm (overlaySections form arguments)

end StreamAudit.Settings
