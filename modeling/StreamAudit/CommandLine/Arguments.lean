import StreamAudit.Calendar.Date
import StreamAudit.Granularity
import StreamAudit.Item
import StreamAudit.Number.IntegerText
import StreamAudit.Text.LetterCase

/-!
Arguments of the command line. An argument that begins with a hyphen is an option, its value
attached with an equals sign or in the next argument, whatever that holds; two hyphens alone end the
options. Of an option given twice the last one counts.
-/

set_option autoImplicit false
set_option relaxedAutoImplicit false

namespace StreamAudit.CommandLine

open StreamAudit.Number StreamAudit.Text

/-- Whether an option takes a value. -/
inductive OptionKind where
  | flag
  | valued
deriving DecidableEq, Repr

/-- The options of a command. -/
abbrev Options :=
  List (String × OptionKind)

/-- The options given, each with its value, and the other arguments. -/
structure Arguments where
  options : List (String × String) := []
  others : List String := []
deriving DecidableEq, Repr

/-- Adds an option in front. -/
def Arguments.withOption (name value : String) (arguments : Arguments) : Arguments :=
  { arguments with options := (name, value) :: arguments.options }

/-- Adds another argument in front. -/
def Arguments.withOther (argument : String) (arguments : Arguments) : Arguments :=
  { arguments with others := argument :: arguments.others }

/-- The value of an option that was given last. -/
def Arguments.value? (arguments : Arguments) (name : String) : Option String :=
  (arguments.options.reverse.find? fun option ↦ option.1 == name).map (·.2)

/-- Splits an argument at its first equals sign. -/
def splitAttached (argument : String) : String × Option String :=
  match argument.toList.dropWhile (· != '=') with
  | [] => (argument, none)
  | _ :: value =>
    (String.ofList (argument.toList.takeWhile (· != '=')), some (String.ofList value))

/-- Whether an argument is written as an option. -/
def isOption (argument : String) : Bool :=
  argument.toList.head? == some '-' && 1 < argument.length

/-- The part that an argument plays. -/
inductive Part where
  | other
  | endOfOptions
  | set (name value : String)
  | setToNext (name : String)
  | misfit
deriving DecidableEq, Repr

/-- The part that an argument plays among some options. -/
def partOf (known : Options) (argument : String) : Part :=
  if argument == "--" then .endOfOptions
  else if !isOption argument then .other
  else
    let (name, value?) := splitAttached argument
    match known.lookup name, value? with
    | some .valued, some value => .set name value
    | some .valued, none => .setToNext name
    | some .flag, none => .set name ""
    | _, _ => .misfit

/-- Reads the arguments of a command; none if they do not fit its options. -/
def scan (known : Options) : List String → Option Arguments
  | [] => some {}
  | argument :: rest =>
    match partOf known argument with
    | .other => (scan known rest).map (.withOther argument)
    | .endOfOptions => some { others := rest }
    | .set name value => (scan known rest).map (.withOption name value)
    | .setToNext name =>
      match rest with
      | value :: more => (scan known more).map (.withOption name value)
      | [] => none
    | .misfit => none

/-- What a query is asked on the command line; days are still texts. -/
structure QueryOptions where
  group : String
  stream : String
  start : String
  stop : String
  granularity : Granularity
  sinkId : Option Int
  user : String
  isAdmin : Bool
deriving DecidableEq, Repr

/-- The commands. -/
inductive Command where
  | initDatabase
  | refreshCache
  | auditId (type : String) (direction : Direction)
  | query (options : QueryOptions)
deriving DecidableEq, Repr

/-- The options of the command for one audit id; the last direction given counts. -/
def auditIdOptions : Options :=
  [("--sent", .flag), ("--received", .flag)]

/-- The options of a query. -/
def queryOptions : Options :=
  [("--group", .valued), ("--stream", .valued), ("--start", .valued), ("--end", .valued),
    ("--granularity", .valued), ("--sink-id", .valued), ("--user", .valued), ("--admin", .flag)]

/-- The bucket size of a word in any case. -/
def granularityOf? (word : String) : Option Granularity :=
  [Granularity.minute, .hour, .day].find? fun granularity ↦
    sameButAsciiCase granularity.name word

/-- Reads an option that may be missing; none if its value cannot be read. -/
def optionOr {α : Type} (arguments : Arguments) (name : String) (read : String → Option α)
    (absent : α) : Option α :=
  match arguments.value? name with
  | some value => read value
  | none => some absent

/-- The query of some arguments. -/
def queryOf? (arguments : Arguments) : Option QueryOptions := do
  let group ← arguments.value? "--group"
  let stream ← arguments.value? "--stream"
  let start ← arguments.value? "--start"
  let stop ← arguments.value? "--end"
  let granularity ← optionOr arguments "--granularity" granularityOf? .minute
  let sinkId ← optionOr arguments "--sink-id" (fun value ↦ (readInteger? value).map some) none
  let user ← optionOr arguments "--user" some "cli"
  if arguments.others.isEmpty then
    some ⟨group, stream, start, stop, granularity, sinkId, user,
      (arguments.value? "--admin").isSome⟩
  else none

/-- The direction that was given last, sent unless there is one. -/
def directionOf (arguments : Arguments) : Direction :=
  match arguments.options.getLast? with
  | some option => .ofSent (option.1 == "--sent")
  | none => .sent

/-- The command of a name and its arguments. -/
def commandOf? (name : String) (rest : List String) : Option Command :=
  match name with
  | "init-database" => do
    let arguments ← scan [] rest
    if arguments.others.isEmpty then some .initDatabase else none
  | "refresh-audit-cache" => do
    let arguments ← scan [] rest
    if arguments.others.isEmpty then some .refreshCache else none
  | "audit-id" => do
    let arguments ← scan auditIdOptions rest
    match arguments.others with
    | [type] => some (.auditId type (directionOf arguments))
    | _ => none
  | "query-audit" => (scan queryOptions rest).bind fun arguments ↦ (queryOf? arguments).map .query
  | _ => none

/-- Reads a command line; two hyphens may stand before the command. -/
def parse? : List String → Option Command
  | "--" :: name :: rest => commandOf? name rest
  | name :: rest => commandOf? name rest
  | [] => none

end StreamAudit.CommandLine
