import StreamAudit.CommandLine.Session
import StreamAudit.Settings.Variables
import StreamAudit.Store.Load

/-!
The command line. Settings come from environment variables, in capital or small letters. A variable
names the file with the tables, a JSON object with a list of rows for each; without it the database
is empty and has no tables.
-/

set_option autoImplicit false
set_option relaxedAutoImplicit false

namespace StreamAudit.CommandLine

open StreamAudit.Backend StreamAudit.Store

/-- The variable that names the file with the tables. -/
def tablesVariable : String :=
  "STREAM_AUDIT_TABLES"

/-- The usage of the command line. -/
def usageText : String :=
  "usage: stream-audit init-database | refresh-audit-cache | audit-id TYPE [--sent|--received]\n" ++
  "       stream-audit query-audit --group ID --stream ID --start DAY --end DAY\n" ++
  "         [--granularity MINUTE|HOUR|DAY] [--sink-id NUMBER] [--user ID] [--admin]"

/-- A cluster that no call reaches. -/
def noCluster : SearchIndex.Cluster where
  existence _ := .error .client
  search _ := .error .client

/-- The database of a text that holds tables. -/
def databaseOf? (text : String) : Option Database := do
  let tables ← (← Json.read? text).members?
  (Database.empty.load tables).toOption

/-- The session of some variables and the text of the tables, if there is one. -/
def sessionOf? (environment : List (String × String)) (tables? : Option String) :
    Option Session := do
  let .ok settings ← Settings.load? environment [] | none
  let database ← match tables? with
    | some text => databaseOf? text
    | none => some {}
  some { settings, database, cluster := noCluster }

/-- What a reply says on the error stream. -/
def complaint (reply : Reply) : String :=
  match reply.exitCode, reply.fault with
  | 2, _ => usageText ++ "\n"
  | _, some fault => fault.message ++ "\n"
  | _, none => reply.output

/-- The variables that are set, of those that are read. -/
def setVariables : IO (List (String × String)) := do
  let names := Settings.variableNames.map String.toUpper ++ Settings.variableNames
  names.filterMapM fun name ↦ do
    return (← IO.getEnv name).map (name, ·)

/-- Runs the command of the arguments and gives its exit code. -/
def runArguments (arguments : List String) : IO UInt32 := do
  let tables? ← (← IO.getEnv tablesVariable).mapM fun path ↦ IO.FS.readFile path
  match sessionOf? (← setVariables) tables? with
  | none =>
    IO.eprintln "the settings or the tables cannot be read"
    return 1
  | some session =>
    let (reply, _) := session.runLine arguments
    if reply.exitCode = 0 then IO.print reply.output else IO.eprint (complaint reply)
    return reply.exitCode.toUInt32

end StreamAudit.CommandLine

/-- The entry of the program. -/
def main (arguments : List String) : IO UInt32 :=
  StreamAudit.CommandLine.runArguments arguments
