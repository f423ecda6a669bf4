import StreamAudit.Sql.Regular.Basic
import StreamAudit.Text.Percent

/-!
Reading regular expressions. Branches are divided by bars, and what stands before a mark of
repetition is repeated; a mark with nothing before it, or behind another one, has no meaning. Behind
a backslash a letter stands for a kind of characters or for a control character, and any other mark
for itself.
-/

set_option autoImplicit false
set_option relaxedAutoImplicit false

namespace StreamAudit.Sql.Regular

open StreamAudit.Text

/-- A character alone. -/
def one (c : Char) : Regular :=
  .char false [.range c c]

/-- The control characters that letters stand for. -/
def controls : List (Char × Nat) :=
  [('a', 7), ('b', 8), ('f', 12), ('n', 10), ('r', 13), ('t', 9), ('v', 11)]

/-- The kinds of characters that letters stand for, and whether they are denied. -/
def kinds : List (Char × CharKind × Bool) :=
  [('d', .digit, false), ('D', .digit, true), ('w', .word, false), ('W', .word, true),
    ('s', .space, false), ('S', .space, true)]

/-- A character by some number of digits to the base sixteen, and what follows. -/
def coded? (width : Nat) (s : List Char) : Option (Char × List Char) := do
  let digits ← (s.take width).mapM Percent.hexValue?
  guard (digits.length = width)
  pure (Char.ofNat (digits.foldl (fun n d ↦ n * 16 + d) 0), s.drop width)

/-- The character or the kind of characters behind a backslash, and what follows. -/
def escaped? (s : List Char) : Option (CharItem × List Char) :=
  match s with
  | [] => none
  | 'x' :: rest => (coded? 2 rest).map fun (c, rest) ↦ (.range c c, rest)
  | 'u' :: rest => (coded? 4 rest).map fun (c, rest) ↦ (.range c c, rest)
  | c :: rest =>
    match List.lookup c kinds, List.lookup c controls with
    | some (kind, isDenied), _ => some (.kind kind isDenied, rest)
    | none, some n => some (.range (Char.ofNat n) (Char.ofNat n), rest)
    | none, none => if c.isAlphanum then none else some (.range c c, rest)

/-- One member of a set, and what follows. -/
def member? : List Char → Option (CharItem × List Char)
  | [] => none
  | '\\' :: rest => escaped? rest
  | c :: rest => some (.range c c, rest)

/-- The members of a set up to its closing bracket, and what follows; the fuel bounds how many there
are. -/
def members? : Nat → List Char → Option (List CharItem × List Char)
  | 0, _ => none
  | _, ']' :: rest => some ([], rest)
  | fuel + 1, s => do
    let (first, rest) ← member? s
    let (item, rest) ← match first, rest with
      | .range low _, '-' :: c :: more =>
        if c = ']' then some (first, rest)
        else do
          let (.range high _, more) ← member? (c :: more) | none
          guard (low ≤ high)
          pure (CharItem.range low high, more)
      | .kind .., '-' :: c :: _ => if c = ']' then some (first, rest) else none
      | _, _ => some (first, rest)
    let (others, rest) ← members? fuel rest
    pure (item :: others, rest)

/-- A set behind its opening bracket, and what follows. A closing bracket in front stands for
itself. -/
def set? (s : List Char) : Option (Regular × List Char) := do
  let (isDenied, s) := match s with
    | '^' :: rest => (true, rest)
    | other => (false, other)
  match s with
  | ']' :: '-' :: _ => none
  | ']' :: rest =>
    let (others, rest) ← members? (rest.length + 1) rest
    pure (.char isDenied (.range ']' ']' :: others), rest)
  | _ =>
    let (items, rest) ← members? (s.length + 1) s
    pure (.char isDenied items, rest)

/-- The bounds of a repetition in braces, behind the opening one, and what follows. -/
def bounds? (s : List Char) : Option ((Nat × Option Nat) × List Char) :=
  let number (digits : List Char) : Nat := readDigits 0 (digits.filterMap asciiDigit?)
  let first := s.takeWhile isAsciiDigit
  match s.dropWhile isAsciiDigit with
  | '}' :: rest => if first.isEmpty then none else some ((number first, some (number first)), rest)
  | ',' :: more =>
    let second := more.takeWhile isAsciiDigit
    match more.dropWhile isAsciiDigit with
    | '}' :: rest =>
      some ((number first, if second.isEmpty then none else some (number second)), rest)
    | _ => none
  | _ => none

/-- The bounds of a repetition in front, and what follows. -/
def repetition? : List Char → Option ((Nat × Option Nat) × List Char)
  | '*' :: rest => some ((0, none), rest)
  | '+' :: rest => some ((1, none), rest)
  | '?' :: rest => some ((0, some 1), rest)
  | '{' :: rest => bounds? rest
  | _ => none

/-- Whether an expression stands for a place only, which is not repeated. -/
def isPlace : Regular → Bool
  | .start _ | .stop _ | .textEnd | .edge _ => true
  | _ => false

/-- An expression with the repetition behind it, and what follows. -/
def repeated? (inside : Regular) (s : List Char) : Option (Regular × List Char) :=
  match repetition? s with
  | none => some (inside, s)
  | some ((least, most), rest) =>
    let rest := match rest with
      | '?' :: more => more
      | other => other
    if isPlace inside || most.any (· < least) || (repetition? rest).isSome then none
    else some (.repeated inside least most, rest)

/-- What stands behind a backslash, and what follows. -/
def escape? : List Char → Option (Regular × List Char)
  | 'b' :: rest => some (.edge false, rest)
  | 'B' :: rest => some (.edge true, rest)
  | 'A' :: rest => some (.start false, rest)
  | 'Z' :: rest => some (.textEnd, rest)
  | s => (escaped? s).map fun (item, rest) ↦ (.char false [item], rest)

/-- What an opening bracket with marks behind it begins: a test of what follows and its denial, or a
part. -/
def opening : List Char → Option (Option Bool × List Char)
  | '?' :: ':' :: rest => some (none, rest)
  | '?' :: '=' :: rest => some (some false, rest)
  | '?' :: '!' :: rest => some (some true, rest)
  | '?' :: 'P' :: '<' :: rest => some (none, (rest.dropWhile (· != '>')).drop 1)
  | '?' :: _ => none
  | rest => some (none, rest)

/-- Readers of the branches in brackets, up to a closing bracket or to the end. -/
abbrev Branches :=
  List Char → Option (Regular × List Char)

/-- One expression without a repetition, and what follows. -/
def atom? (mode : RegularMode) (inside : Branches) : List Char → Option (Regular × List Char)
  | [] => none
  | '.' :: rest => some (.any, rest)
  | '^' :: rest => some (.start mode.marksLines, rest)
  | '$' :: rest => some (.stop mode.marksLines, rest)
  | '[' :: rest => set? rest
  | '\\' :: rest => escape? rest
  | '(' :: rest => do
    let (test, rest) ← opening rest
    let (found, ')' :: after) ← inside rest | none
    pure ((match test with
      | some isDenied => .ahead isDenied found
      | none => .sequence .empty found), after)
  | c :: rest => if c = '*' ∨ c = '+' ∨ c = '?' ∨ c = ')' then none else some (one c, rest)

/-- The expressions of a branch up to a bar, a closing bracket or the end; the fuel bounds how many
there are. -/
def branch? (mode : RegularMode) (inside : Branches) : Nat → Branches
  | 0, _ => none
  | _, [] => some (.empty, [])
  | fuel + 1, c :: rest =>
    if c = '|' ∨ c = ')' then some (.empty, c :: rest)
    else do
      let (found, rest) ← atom? mode inside (c :: rest)
      let (found, rest) ← repeated? found rest
      let (others, rest) ← branch? mode inside fuel rest
      pure (.sequence found others, rest)

/-- Branches divided by bars; the fuel bounds how many there are. -/
def branches? (mode : RegularMode) (inside : Branches) : Nat → Branches
  | 0, _ => none
  | fuel + 1, s => do
    let (first, rest) ← branch? mode inside (s.length + 1) s
    match rest with
    | '|' :: more =>
      let (others, rest) ← branches? mode inside fuel more
      pure (.either first others, rest)
    | _ => pure (first, rest)

/-- Branches with brackets that are nested at most to some depth. -/
def ofDepth? (mode : RegularMode) : Nat → Branches
  | 0, _ => none
  | depth + 1, s => branches? mode (ofDepth? mode depth) (s.length + 1) s

/-- The mode that marks at the front ask for, and what follows. -/
def mode? (s : List Char) : Option (RegularMode × List Char) :=
  match s with
  | '(' :: '?' :: c :: rest =>
    if ['i', 's', 'm', 'u', 'a'].contains c then
      let letters := (c :: rest).takeWhile (· != ')')
      if letters.all ['i', 's', 'm', 'u', 'a'].contains then
        some (⟨letters.contains 'i', letters.contains 's', letters.contains 'm'⟩,
          ((c :: rest).dropWhile (· != ')')).drop 1)
      else none
    else some ({}, s)
  | _ => some ({}, s)

/-- Whether the expression that a text is can be found in another, nothing if it is none. -/
def search? (shape text : String) : Option Bool := do
  let (mode, s) ← mode? shape.toList
  let (expression, []) ← ofDepth? mode (s.length + 1) s | none
  pure (isFound mode expression text)

end StreamAudit.Sql.Regular
