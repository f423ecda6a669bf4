import StreamAudit.Address
import StreamAudit.Backend.Outcome
import StreamAudit.Number.DecimalText
import StreamAudit.Text.LetterCase

/-!
Opening the database of a warehouse where the only driver is the one for databases in memory. The
address of such a database names no user and no host, and its options, as far as they are known,
have values that can be read.
-/

set_option autoImplicit false
set_option relaxedAutoImplicit false

namespace StreamAudit.Backend.Opening

open StreamAudit.Number StreamAudit.Text

/-- The dialect of a database that is held in memory. -/
def memoryDialect : List Char :=
  "sqlite+aiosqlite".toList

/-- What the value of an option has to be. -/
inductive OptionKind where
  | flag
  | real
  | integer
deriving DecidableEq, Repr

/-- The options that are known, in the order in which they are read. -/
def knownOptions : List (String × OptionKind) :=
  [("uri", .flag), ("timeout", .real), ("detect_types", .integer), ("check_same_thread", .flag),
    ("cached_statements", .integer)]

/-- The words for a flag. -/
def flagWords : List String :=
  ["true", "yes", "on", "y", "t", "1", "false", "no", "off", "n", "f", "0"]

/-- Drops low lines between digits and reads digits of any script. -/
def plainDigits : List Char → List Char
  | [] => []
  | c :: '_' :: d :: rest =>
    if (digit? c).isSome && (digit? d).isSome then
      ((digit? c).map digitChar).getD c :: plainDigits (d :: rest)
    else c :: '_' :: plainDigits (d :: rest)
  | c :: rest => ((digit? c).map digitChar).getD c :: plainDigits rest

/-- Whether a text reads as a double, an infinity or no number. -/
def readsAsReal (s : List Char) : Bool :=
  let trimmed := plainDigits (trimList isBlank s)
  let unsigned := match trimmed with
    | '-' :: rest | '+' :: rest => rest
    | other => other
  ["inf", "infinity", "nan"].contains (String.ofList (unsigned.map lowerAscii)) ||
    (decimalOf? false unsigned).isSome

/-- Whether a text can be the value of an option. -/
def OptionKind.reads (kind : OptionKind) (s : List Char) : Bool :=
  match kind with
  | .flag => flagWords.contains (lower (String.ofList (trimList isBlank s)))
  | .real => readsAsReal s
  | .integer => (readInteger? (String.ofList s)).isSome

/-- What is wrong with the values of an option. A flag that is given more than once holds. -/
def optionFault? (kind : OptionKind) : List (List Char) → Option Unopened
  | [] => none
  | [value] => if kind.reads value then none else some .badOption
  | _ => if kind = .flag then none else some .repeatedOption

/-- What is wrong with the options of an address. -/
def optionsFault? (query : List (List Char × List Char)) : Option Unopened :=
  knownOptions.findSome? fun (name, kind) ↦
    optionFault? kind ((query.filter fun pair ↦ pair.1 = name.toList).map Prod.snd)

/-- Whether a part of an address is there and not empty. -/
def isGiven (part : Option (List Char)) : Bool :=
  part.any fun text ↦ !text.isEmpty

/-- Whether an address names a user or a host. -/
def isRemote (address : Address) : Bool :=
  isGiven address.username || isGiven address.password || isGiven address.host ||
    address.port.any (· != 0)

/-- Opens the database of an address. -/
def attempt (url : Option String) : Except Unopened Unit :=
  match url with
  | none | some "" => .error .unnamed
  | some url =>
    match Address.parse url.toList with
    | .error .unreadable => .error .unreadable
    | .error .badPort => .error .badPort
    | .ok address =>
      if address.dialect ≠ memoryDialect then .error .unknownDialect
      else if isRemote address then .error .remote
      else
        match optionsFault? address.query with
        | some fault => .error fault
        | none => .ok ()

end StreamAudit.Backend.Opening
