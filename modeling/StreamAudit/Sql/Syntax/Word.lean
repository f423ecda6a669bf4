import StreamAudit.Sql.Token

/-!
Reading words, marks and names from the front of a list of tokens. Some words can never be names,
and some only behind a word that announces a name. While a phrase is read, the parts before it that
belong to larger phrases wait for it, and there is room for so many of them only.
-/

set_option autoImplicit false
set_option relaxedAutoImplicit false

namespace StreamAudit.Sql

open StreamAudit.Text

/-- A step of reading, which takes tokens from the front and knows for how many parts there is
room. -/
abbrev Reading :=
  ReaderT Nat (StateT (List Token) Option)

namespace Reading

/-- The room for parts that wait for others. -/
def room : Nat :=
  99

/-- Fails unless there is room for some number of parts. -/
def needs (parts : Nat) : Reading Unit := do
  guard (parts ≤ (← read))

/-- Reads while some number of parts wait. -/
def behind {α : Type} (parts : Nat) (inside : Reading α) : Reading α := do
  needs parts
  withReader (· - parts) inside

/-- The words that cannot be names. -/
def reservedWords : List String :=
  ["add", "all", "alter", "and", "as", "autoincrement", "between", "case", "check", "collate",
    "commit", "constraint", "create", "default", "deferrable", "delete", "distinct", "drop", "else",
    "escape", "except", "exists", "foreign", "from", "group", "having", "in", "index", "insert",
    "intersect", "into", "is", "isnull", "join", "limit", "not", "nothing", "notnull", "null", "on",
    "or", "order", "primary", "references", "returning", "select", "set", "table", "then", "to",
    "transaction", "union", "unique", "update", "using", "values", "when", "where"]

/-- The words that can be names only behind a word that announces one. -/
def joinWords : List String :=
  ["cross", "full", "inner", "left", "natural", "outer", "right"]

/-- Whether a word is one of some words of small letters. -/
def isAmong (words : List String) (word : String) : Bool :=
  words.any (sameButAsciiCase word)

/-- Whether the next token is a word. -/
def seesWord (word : String) : Reading Bool := do
  match ← get with
  | .word text :: _ => pure (sameButAsciiCase text word)
  | _ => pure false

/-- Takes a word if it is next. -/
def takesWord (word : String) : Reading Bool := do
  let found ← seesWord word
  if found then modify (·.drop 1)
  pure found

/-- Takes some words if they are next. -/
def takesWords : List String → Reading Bool
  | [] => pure true
  | word :: rest => do
    let before ← get
    if ← takesWord word then
      if ← takesWords rest then pure true
      else
        set before
        pure false
    else pure false

/-- Takes a word that must be next. -/
def word (word : String) : Reading Unit := do
  guard (← takesWord word)

/-- Whether the next token is a mark. -/
def seesMark (mark : String) : Reading Bool := do
  match ← get with
  | .mark text :: _ => pure (text == mark)
  | _ => pure false

/-- Takes a mark if it is next. -/
def takesMark (mark : String) : Reading Bool := do
  let found ← seesMark mark
  if found then modify (·.drop 1)
  pure found

/-- Takes a mark that must be next. -/
def mark (mark : String) : Reading Unit := do
  guard (← takesMark mark)

/-- Takes one of some marks if it is next. -/
def takesMarkOf {α : Type} (marks : List (String × α)) : Reading (Option α) := do
  match ← get with
  | .mark text :: rest =>
    match marks.find? fun pair ↦ pair.1 == text with
    | some pair =>
      set rest
      pure (some pair.2)
    | none => pure none
  | _ => pure none

/-- Whether tokens begin with a list of clauses under names. -/
def beginsClauses : List Token → Bool
  | .word first :: .word given :: .word second :: _ =>
    sameButAsciiCase first "window" && sameButAsciiCase second "as" && !isAmong reservedWords given
  | _ => false

/-- Takes a name if one is next that nothing announces. -/
def takesName : Reading (Option String) := do
  if beginsClauses (← get) then return none
  match ← get with
  | .word text :: rest =>
    if isAmong reservedWords text || isAmong ("indexed" :: joinWords) text then pure none
    else
      set rest
      pure (some text)
  | .name text _ :: rest | .text text :: rest =>
    set rest
    pure (some text)
  | _ => pure none

/-- Takes a name that a word or a point announces. -/
def name : Reading String := do
  match ← get with
  | .word text :: rest =>
    guard !(isAmong reservedWords text)
    set rest
    pure text
  | .name text _ :: rest | .text text :: rest =>
    set rest
    pure text
  | _ => failure

/-- Takes the name that something is given, if it is given one. -/
def givenName : Reading (Option String) := do
  if ← takesWord "as" then some <$> name else takesName

/-- Takes items divided by commas; the fuel bounds how many there are. -/
def items {α : Type} (item : Reading α) : Nat → Reading (List α)
  | 0 => failure
  | fuel + 1 => do
    let first ← item
    if ← takesMark "," then
      let others ← items item fuel
      pure (first :: others)
    else pure [first]

/-- Takes items divided by commas. -/
def list {α : Type} (item : Reading α) : Reading (List α) := do
  items item ((← get).length + 1)

/-- Takes what stands in brackets. -/
def bracketed {α : Type} (inside : Reading α) : Reading α := do
  mark "("
  let found ← inside
  mark ")"
  pure found

/-- Takes what a word announces, if the word is next. -/
def announced {α : Type} (first : String) (more : Reading α) : Reading (Option α) := do
  if ← takesWord first then some <$> more else pure none

/-- Whether a query is next. -/
def seesQuery : Reading Bool := do
  match ← get with
  | .word text :: _ => pure (isAmong ["select", "values", "with"] text)
  | _ => pure false

/-- Takes a name and up to some number of names behind points. -/
def path : Nat → Reading (List String)
  | 0 => (fun first ↦ [first]) <$> name
  | more + 1 => do
    let first ← name
    if ← takesMark "." then (first :: ·) <$> path more else pure [first]

end Reading

end StreamAudit.Sql
