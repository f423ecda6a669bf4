import StreamAudit.Sql.Syntax.Basic
import StreamAudit.Sql.Syntax.Word

/-!
Reading expressions. Every operator binds its operands with some strength; an operand on the right
binds more strongly than its operator, and a sign or a denial may begin any operand. The phrases
that stand inside an expression are read by readers that are given.
-/

set_option autoImplicit false
set_option relaxedAutoImplicit false

namespace StreamAudit.Sql

open StreamAudit.Text

/-- Readers of the phrases inside a phrase, for which some number of its parts wait: an expression
that binds at least with some strength, a query, and an origin of rows. -/
structure Phrases where
  expr (waiting least : Nat) : Reading Expr
  query (waiting : Nat) : Reading Query
  origin (waiting : Nat) : Reading Origin

namespace Reading

/-- The strengths with which operators bind, the weakest of all being zero. -/
structure Strength where
  conjunction : Nat := 1
  equality : Nat := 2
  order : Nat := 3
  bits : Nat := 4
  sum : Nat := 5
  product : Nat := 6
  concat : Nat := 7
  collation : Nat := 8
  operand : Nat := 9

/-- The strengths of the operators. -/
def strength : Strength :=
  {}

/-- The operators that are marks, each with its strength and what it makes of its operands. -/
def operators : List (String × Nat × (Expr → Expr → Expr)) :=
  [("=", strength.equality, .compare .equal), ("==", strength.equality, .compare .equal),
    ("<>", strength.equality, .compare .unequal), ("!=", strength.equality, .compare .unequal),
    ("<", strength.order, .compare .less), ("<=", strength.order, .compare .atMost),
    (">", strength.order, .compare .greater), (">=", strength.order, .compare .atLeast),
    ("&", strength.bits, .operation .bitAnd), ("|", strength.bits, .operation .bitOr),
    ("<<", strength.bits, .operation .shiftLeft), (">>", strength.bits, .operation .shiftRight),
    ("+", strength.sum, .operation .add), ("-", strength.sum, .operation .subtract),
    ("*", strength.product, .operation .multiply), ("/", strength.product, .operation .divide),
    ("%", strength.product, .operation .remainder), ("||", strength.concat, .operation .concat)]

/-- The operators that are words for how a text fits a pattern. -/
def patternWords : List String :=
  ["like", "glob", "regexp", "match"]

/-- Takes one of some words if it is next. -/
def takesWordOf : List String → Reading (Option String)
  | [] => pure none
  | first :: rest => do
    if ← takesWord first then pure (some first) else takesWordOf rest

/-- All rows of a table. -/
def wholeTable (path : List String) : Query :=
  .mk [] (.selection false [.all] (some (.table path none)) none [] none []) [] none none

/-- Takes items divided by commas, each told how many parts wait for it: two more for all but the
first. -/
def listWaiting {α : Type} (waiting : Nat) (item : Nat → Reading α) : Reading (List α) := do
  let first ← item waiting
  if ← takesMark "," then (first :: ·) <$> list (item (waiting + 2)) else pure [first]

variable (phrases : Phrases)

/-- Reads expressions divided by commas. -/
def members (waiting : Nat) : Reading (List Expr) :=
  listWaiting waiting fun waiting ↦ phrases.expr waiting 0

/-- Reads what is behind the word for identity. -/
def identity (left : Expr) : Reading Expr := do
  let isDenied ← takesWord "not"
  let isDistinct ← takesWords ["distinct", "from"]
  let same := Expr.same left (← phrases.expr (if isDenied then 3 else 2) strength.order)
  pure (if isDenied = isDistinct then same else .not same)

/-- Reads the bounds of a range. -/
def range (left : Expr) : Reading Expr := do
  let low ← phrases.expr 2 strength.equality
  word "and"
  pure (.between left low (← phrases.expr 4 strength.order))

/-- Reads the values among which one is looked for. -/
def membership (left : Expr) : Reading Expr := do
  if ← seesMark "(" then
    bracketed do
      if ← seesQuery then .within left <$> phrases.query 3
      else if ← seesMark ")" then pure (.among left [])
      else .among left <$> members phrases 3
  else (fun names ↦ .within left (wholeTable names)) <$> path 1

/-- Reads a pattern, and the character that lets the next one stand for itself. -/
def pattern (kind : String) (left : Expr) : Reading Expr := do
  let shape ← phrases.expr 2 strength.order
  let escape ← announced "escape" (phrases.expr 4 strength.order)
  pure (.call kind false ([shape, left] ++ escape.toList) none none)

/-- Reads a test that may be denied, if one is next. -/
def test (left : Expr) : Reading (Option Expr) := do
  if ← takesWord "between" then some <$> range phrases left
  else if ← takesWord "in" then some <$> membership phrases left
  else
    match ← takesWordOf patternWords with
    | some kind => some <$> pattern phrases kind left
    | none => pure none

/-- Reads a test of an operand, if one is next. -/
def predicate (left : Expr) : Reading (Option Expr) := do
  if ← takesWord "isnull" then pure (some (.isNull left))
  else if ← takesWord "notnull" then pure (some (.not (.isNull left)))
  else if ← takesWord "is" then some <$> identity phrases left
  else if ← takesWord "not" then
    if ← takesWord "null" then pure (some (.not (.isNull left)))
    else
      match ← test phrases left with
      | some found => pure (some (.not found))
      | none => failure
  else test phrases left

/-- Reads one operator behind an operand, and its other operand, if it binds with some strength. -/
def step (least : Nat) (left : Expr) : Reading (Option Expr) := do
  match ← takesMarkOf (operators.filter fun operator ↦ least ≤ operator.2.1) with
  | some (found, make) => (fun right ↦ some (make left right)) <$> phrases.expr 2 (found + 1)
  | none =>
    if least ≤ strength.collation then
      if ← takesWord "collate" then
        needs 3
        return some (.collate left (← name))
    if least ≤ strength.equality then
      if let some found ← predicate phrases left then return some found
    if least ≤ strength.conjunction then
      if ← takesWord "and" then
        return some (.and left (← phrases.expr 2 (strength.conjunction + 1)))
    if least = 0 then
      if ← takesWord "or" then return some (.or left (← phrases.expr 2 strength.conjunction))
    return none

/-- Reads all operators behind an operand; the fuel bounds how many there are. -/
def extended (least : Nat) : Nat → Expr → Reading Expr
  | 0, _ => failure
  | fuel + 1, left => do
    match ← step phrases least left with
    | some found => extended least fuel found
    | none => pure left

/-- Reads a condition and a value behind it. -/
def branch (waiting : Nat) : Reading (Expr × Expr) := do
  let condition ← phrases.expr waiting 0
  word "then"
  pure (condition, ← phrases.expr (waiting + 2) 0)

/-- Reads branches; the fuel bounds how many there are. -/
def branches (waiting : Nat) : Nat → Reading (List (Expr × Expr))
  | 0 => failure
  | fuel + 1 => do
    if ← takesWord "when" then
      let first ← branch phrases waiting
      (first :: ·) <$> branches 4 fuel
    else pure []

/-- Reads a choice between branches. -/
def choice : Reading Expr := do
  let base ← if ← seesWord "when" then pure none else some <$> phrases.expr 1 0
  let found ← branches phrases 3 ((← get).length + 1)
  guard !found.isEmpty
  let otherwise ← announced "else" (phrases.expr 4 0)
  word "end"
  needs 5
  pure (.choice base found otherwise)

/-- Reads the words of a type; the fuel bounds how many there are. -/
def typeWords : Nat → Reading (List String)
  | 0 => failure
  | fuel + 1 => do
    match ← takesName with
    | some first => (first :: ·) <$> typeWords fuel
    | none => pure []

/-- Reads a number that may have a sign. -/
def signedNumber : Reading Unit := do
  let _ ← takesMarkOf [("-", ()), ("+", ())]
  match ← get with
  | .integer _ :: rest | .number _ :: rest => set rest
  | _ => failure

/-- Reads a type, whose widths do not count. -/
def type : Reading String := do
  let words ← typeWords ((← get).length + 1)
  if !words.isEmpty then
    if ← seesMark "(" then
      let widths ← bracketed (list signedNumber)
      guard (widths.length ≤ 2)
  pure (" ".intercalate words)

/-- Reads a value that is taken for another type. -/
def cast : Reading Expr :=
  bracketed do
    let value ← phrases.expr 2 0
    word "as"
    needs 6
    pure (.cast value (← type))

/-- Reads an expression to sort by. -/
def term (waiting : Nat) : Reading Term := do
  let value ← phrases.expr waiting 0
  let isDescending ← if ← takesWord "desc" then pure true else
    let _ ← takesWord "asc"
    pure false
  let nullsLast ← if ← takesWord "nulls" then
      if ← takesWord "first" then pure (some false)
      else
        word "last"
        pure (some true)
    else pure none
  pure (.mk value isDescending nullsLast)

/-- Reads items behind two words, if the words are next; for all but the first two more parts
wait. -/
def listBehind {α : Type} (words : List String) (waiting : Nat) (item : Nat → Reading α) :
    Reading (List α) := do
  if ← takesWords words then listWaiting waiting item else pure []

/-- Reads an end of an extent. -/
def extentEnd : Reading ExtentEnd := do
  if ← takesWords ["unbounded", "preceding"] then pure .start
  else if ← takesWords ["unbounded", "following"] then pure .stop
  else if ← takesWords ["current", "row"] then pure .present
  else
    match ← get with
    | .integer n :: rest =>
      set rest
      if ← takesWord "preceding" then pure (.before n)
      else
        word "following"
        pure (.behind n)
    | _ => failure

/-- Reads which rows are left out of an extent. -/
def exclusion : Reading Exclusion := do
  if ← takesWord "exclude" then
    if ← takesWords ["no", "others"] then pure .nothing
    else if ← takesWords ["current", "row"] then pure .present
    else if ← takesWord "group" then pure .group
    else
      word "ties"
      pure .ties
  else pure .nothing

/-- Reads an extent, if one is next. It may not end before the kind of its beginning, and only rows
and groups are counted. -/
def extent : Reading (Option Extent) := do
  let unit ←
    if ← takesWord "rows" then pure (some ExtentUnit.rows)
    else if ← takesWord "range" then pure (some .range)
    else if ← takesWord "groups" then pure (some .groups)
    else pure none
  match unit with
  | none => pure none
  | some unit =>
    let (first, last) ←
      if ← takesWord "between" then
        let first ← extentEnd
        word "and"
        pure (first, ← extentEnd)
      else pure (← extentEnd, .present)
    guard (first ≠ .stop && last ≠ .start && first.rank ≤ last.rank)
    guard (unit ≠ .range || !(first.isCounted || last.isCounted))
    pure (some ⟨unit, first, last, ← exclusion⟩)

/-- The words that can stand first in the brackets of a clause on peers. -/
def clauseWords : List String :=
  ["partition", "order", "rows", "range", "groups"]

/-- Reads the rows that a call looks at beside its own. -/
def peerClause : Reading PeerClause :=
  bracketed do
    let base ← match ← get with
      | .word text :: _ => if isAmong clauseWords text then pure none else takesName
      | _ => takesName
    let partition ← listBehind ["partition", "by"] 9 fun waiting ↦ phrases.expr waiting 0
    let terms ← listBehind ["order", "by"] 9 (term phrases)
    pure (.mk base partition terms (← extent))

/-- Reads a word and the rows that a call looks at, in brackets or by the name of a clause, if the
word and one of them are next. -/
def takesPeers : Reading (Option PeerClause) := do
  match ← get with
  | .word text :: next :: rest =>
    if sameButAsciiCase text "over" then
      match next with
      | .mark "(" =>
        set (next :: rest)
        some <$> peerClause phrases
      | .word given | .name given _ =>
        set rest
        pure (some (.mk (some given) [] [] none))
      | _ => pure none
    else pure none
  | _ => pure none

/-- Reads the condition on the rows that a call takes into account, if one is next. -/
def takesFilter : Reading (Option Expr) := do
  match ← get with
  | .word text :: .mark "(" :: rest =>
    if sameButAsciiCase text "filter" then
      set (Token.mark "(" :: rest)
      some <$> bracketed do
        word "where"
        phrases.expr 8 0
    else pure none
  | _ => pure none

/-- Reads the arguments of a call. -/
def arguments : Reading (List Expr) := do
  if ← takesMark "*" then pure []
  else if ← seesMark ")" then pure []
  else members phrases 3

/-- Reads the call of a function behind its name. -/
def call (function : String) : Reading Expr := do
  let (isDistinct, found) ← bracketed do
    let isDistinct ← if ← takesWord "distinct" then pure true else
      let _ ← takesWord "all"
      pure false
    pure (isDistinct, ← arguments phrases)
  needs 5
  let condition ← takesFilter phrases
  pure (.call function isDistinct found condition (← takesPeers phrases))

/-- Reads what follows an opening bracket: a query, an expression, or a row of expressions. -/
def enclosed : Reading Expr := do
  let inside ←
    if ← seesQuery then .scalar <$> phrases.query 1
    else do
      match ← members phrases 1 with
      | [single] => pure single
      | several => pure (.row several)
  mark ")"
  needs 3
  pure inside

/-- Reads the name that begins with a given one. -/
def names (first : String) (mayBeText isWord : Bool) : Reading Expr := do
  if ← takesMark "." then
    let rest ← path 1
    needs (2 * rest.length + 1)
    pure (.name (first :: rest) false false)
  else pure (.name [first] mayBeText isWord)

/-- Reads an operand that begins with a word. -/
def wordOperand (first : String) : Reading Expr := do
  if sameButAsciiCase first "null" then pure (.literal .null)
  else if sameButAsciiCase first "not" then .not <$> phrases.expr 1 strength.equality
  else if sameButAsciiCase first "case" then choice phrases
  else if sameButAsciiCase first "cast" && (← seesMark "(") then cast phrases
  else if sameButAsciiCase first "exists" then .anyRow <$> bracketed (phrases.query 2)
  else
    guard !(isAmong reservedWords first)
    if !(isAmong joinWords first) && (← seesMark "(") then call phrases first
    else names first false true

/-- Reads an operand. -/
def operand : Reading Expr := do
  match ← get with
  | [] => failure
  | first :: rest =>
    needs 1
    set rest
    match first with
    | .integer n => pure (.integer n)
    | .number value => pure (.literal value)
    | .octets bytes => pure (.literal (.octets bytes))
    | .place index => pure (.place index)
    | .text value =>
      if ← seesMark "." then names value false false else pure (.literal (.text value))
    | .name text mayBeText =>
      if ← seesMark "(" then call phrases text else names text mayBeText false
    | .word text => wordOperand phrases text
    | .mark "(" => enclosed phrases
    | .mark "-" => .negative <$> phrases.expr 1 strength.operand
    | .mark "+" => .positive <$> phrases.expr 1 strength.operand
    | .mark "~" => .complement <$> phrases.expr 1 strength.operand
    | _ => failure

/-- Reads an expression that binds at least with some strength. -/
def expression (least : Nat) : Reading Expr := do
  let first ← operand phrases
  extended phrases least ((← get).length + 1) first

end Reading

end StreamAudit.Sql
