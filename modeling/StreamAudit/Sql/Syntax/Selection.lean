import StreamAudit.Sql.Syntax.Expression

/-!
Reading selections, the origins of their rows, and queries, and with them whole statements. A join
binds what stands before it to one origin. An order and limits belong to a query as a whole, and
only behind a selection.
-/

set_option autoImplicit false
set_option relaxedAutoImplicit false

namespace StreamAudit.Sql

open StreamAudit.Text

namespace Reading

variable (phrases : Phrases)

/-- Takes the name of a table whose columns are all asked for, if that is next. -/
def takesAllOf : Reading (Option String) := do
  match ← get with
  | first :: .mark "." :: .mark "*" :: rest =>
    match first with
    | .word table | .name table _ | .text table =>
      set rest
      pure (some table)
    | _ => pure none
  | _ => pure none

/-- Reads a result. -/
def result : Reading Result := do
  if ← takesMark "*" then pure .all
  else
    match ← takesAllOf with
    | some table => pure (.allOf table)
    | none =>
      let value ← phrases.expr 4 0
      pure (.value value (← givenName))

/-- Reads an origin that is no join. -/
def singleOrigin : Reading Origin := do
  if ← seesMark "(" then
    let found ← bracketed do
      if ← seesQuery then Origin.query <$> phrases.query 2
      else Origin.nested <$> phrases.origin 2
    needs 6
    pure (found (← givenName))
  else
    needs 5
    let names ← path 1
    let given ← givenName
    let _ ← takesWords ["not", "indexed"]
    pure (.table names given)

/-- The kind of a join that some words describe. -/
def joinKind? (words : List String) : Option JoinKind :=
  let has (word : String) : Bool := words.contains word
  let isSided := has "left" || has "right" || has "full"
  let isInner := has "inner" || has "cross"
  if isInner && (isSided || has "outer") || has "outer" && !isSided then none
  else some ⟨has "left" || has "full", has "right" || has "full", has "natural"⟩

/-- Takes the words that describe a join; the fuel bounds how many there are. -/
def takesJoinWords : Nat → Reading (List String)
  | 0 => pure []
  | fuel + 1 => do
    match ← takesWordOf joinWords with
    | some first => (first :: ·) <$> takesJoinWords fuel
    | none => pure []

/-- Takes what joins two origins, if that is next. -/
def takesJoin : Reading (Option JoinKind) := do
  if ← takesMark "," then pure (some {})
  else
    let words ← takesJoinWords 3
    if words.isEmpty then
      if ← takesWord "join" then pure (some {}) else pure none
    else
      word "join"
      match joinKind? words with
      | some kind => pure (some kind)
      | none => failure

/-- Reads the joins behind an origin; the fuel bounds how many there are. -/
def joins : Nat → Origin → Reading Origin
  | 0, _ => failure
  | fuel + 1, left => do
    match ← takesJoin with
    | none => pure left
    | some kind =>
      let right ← singleOrigin phrases
      let condition ← announced "on" (phrases.expr 5 0)
      let common ← if condition.isNone then announced "using" (bracketed (list name)) else pure none
      joins fuel (.join kind left right condition (common.getD []))

/-- The most origins that are joined, and the most selections that are put together. -/
structure Limits where
  origins : Nat := 64
  selections : Nat := 500

/-- Reads an origin. -/
def origin : Reading Origin := do
  let first ← singleOrigin phrases
  joins phrases ({} : Limits).origins first

/-- Reads a clause on peers under a name. -/
def namedClause : Reading (String × PeerClause) := do
  let given ← name
  word "as"
  pure (given, ← peerClause phrases)

/-- Reads a selection behind its first word. -/
def selection : Reading Body := do
  let isDistinct ← if ← takesWord "distinct" then pure true else
    let _ ← takesWord "all"
    pure false
  let results ← list (result phrases)
  let rows ← announced "from" (phrases.origin 4)
  let condition ← announced "where" (phrases.expr 5 0)
  let groups ← listBehind ["group", "by"] 7 fun waiting ↦ phrases.expr waiting 0
  let having ← announced "having" (phrases.expr 7 0)
  let clauses ←
    if beginsClauses (← get) then
      modify (·.drop 1)
      list (namedClause phrases)
    else pure []
  pure (.selection isDistinct results rows condition groups having clauses)

/-- Reads a selection or a list of rows, and says whether it is a selection. -/
def core : Reading (Body × Bool) := do
  if ← takesWord "values" then
    let rows ← listWaiting 2 fun waiting ↦ bracketed (members phrases waiting)
    pure (.rows rows, false)
  else
    word "select"
    pure (← selection phrases, true)

/-- Takes what puts two selections together, if that is next. -/
def takesCompound : Reading (Option Compound) := do
  if ← takesWord "union" then
    if ← takesWord "all" then pure (some .unionAll) else pure (some .union)
  else if ← takesWord "except" then pure (some .except)
  else if ← takesWord "intersect" then pure (some .intersect)
  else pure none

/-- Reads the selections put together with one, and says whether the last of all is a selection; the
fuel bounds how many there are. -/
def compounds : Nat → Body × Bool → Reading (Body × Bool)
  | 0, _ => failure
  | fuel + 1, left => do
    match ← takesCompound with
    | none => pure left
    | some compound =>
      let right ← behind 2 (core phrases)
      compounds fuel (.compound compound left.1 right.1, right.2)

/-- Reads a query under a name. -/
def namedQuery : Reading NamedQuery := do
  let given ← name
  let columns ← if ← seesMark "(" then bracketed (list name) else pure []
  word "as"
  if !(← takesWord "materialized") then
    let _ ← takesWords ["not", "materialized"]
  .mk given columns <$> bracketed (phrases.query 5)

/-- Reads the limit and the offset of a query. -/
def limits : Reading (Option Expr × Option Expr) := do
  if ← takesWord "limit" then
    let first ← phrases.expr 9 0
    if ← takesWord "offset" then pure (some first, some (← phrases.expr 11 0))
    else if ← takesMark "," then pure (some (← phrases.expr 11 0), some first)
    else pure (some first, none)
  else pure (none, none)

/-- Reads a query. -/
def query : Reading Query := do
  let named ← announced "with" do
    let _ ← takesWord "recursive"
    list (namedQuery phrases)
  let first ← core phrases
  let (body, isSelection) ← compounds phrases ({} : Limits).selections first
  if isSelection then
    let terms ← listBehind ["order", "by"] 9 (term phrases)
    let (limit, offset) ← limits phrases
    pure (.mk (named.getD []) body terms limit offset)
  else pure (.mk (named.getD []) body [] none none)

end Reading

/-- The readers of phrases that are nested at most to some depth. -/
def Phrases.ofDepth : Nat → Phrases
  | 0 => ⟨fun _ _ ↦ failure, fun _ ↦ failure, fun _ ↦ failure⟩
  | depth + 1 =>
    let inner := ofDepth depth
    ⟨fun waiting least ↦ Reading.behind waiting (Reading.expression inner least),
      fun waiting ↦ Reading.behind waiting (Reading.query inner),
      fun waiting ↦ Reading.behind waiting (Reading.origin inner)⟩

/-- The query that tokens make up. One semicolon may stand behind it. -/
def Query.ofTokens? (tokens : List Token) : Option Query :=
  let phrases := Phrases.ofDepth (2 * Reading.room)
  match ((phrases.query 0).run Reading.room).run tokens with
  | some (query, []) | some (query, [.mark ";"]) => some query
  | _ => none

end StreamAudit.Sql
