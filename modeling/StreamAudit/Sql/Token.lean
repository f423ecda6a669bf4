import StreamAudit.Sql.Value
import StreamAudit.Text.Percent

/-!
Words, names, texts, numbers, places of parameters and marks of a statement. Blanks and comments
stand between them. A name may be quoted in three ways, a text in one, and a quoting mark inside is
written twice. A text that ends within a quotation has no tokens.
-/

set_option autoImplicit false
set_option relaxedAutoImplicit false

namespace StreamAudit.Sql

open StreamAudit.Number StreamAudit.Text

/-- A token. A parameter has the text behind its mark; a number is whole or not. -/
inductive Token where
  | word (text : String)
  | name (text : String) (mayBeText : Bool)
  | text (value : String)
  | octets (bytes : List Nat)
  | integer (n : Nat)
  | number (value : Value)
  | parameter (name : String)
  | place (index : Nat)
  | mark (text : String)
deriving DecidableEq, Repr

namespace Token

/-- Whether a character may begin a word. -/
def startsWord (c : Char) : Bool :=
  c.isAlpha || c == '_' || 128 ≤ c.toNat

/-- Whether a character may stand in a word. -/
def isInWord (c : Char) : Bool :=
  startsWord c || c.isDigit || c == '$'

/-- Whether a character begins a run of blanks. -/
def startsSpace (c : Char) : Bool :=
  isSpace c && c.toNat != 11 || c.toNat == 0xFEFF

/-- Reads up to a closing mark, which stands for itself where it is written twice. -/
def quoted (close : Char) (read : List Char) : List Char → Option (List Char × List Char)
  | [] => none
  | [c] => if c = close then some (read.reverse, []) else none
  | c :: d :: rest =>
    if c = close then
      if d = close then quoted close (c :: read) rest else some (read.reverse, d :: rest)
    else quoted close (c :: read) (d :: rest)

/-- Reads up to a closing bracket. -/
def bracketed (s : List Char) : Option (List Char × List Char) :=
  match s.dropWhile (· != ']') with
  | _ :: rest => some (s.takeWhile (· != ']'), rest)
  | [] => none

/-- What follows a comment to the end of the line. -/
def afterLine (s : List Char) : List Char :=
  (s.dropWhile (· != '\n')).drop 1

/-- What follows a comment between marks, nothing if it does not end. -/
def afterBlock : List Char → List Char
  | '*' :: '/' :: rest => rest
  | _ :: rest => afterBlock rest
  | [] => []

/-- The exponent in front, and what follows it. -/
def exponentRun : List Char → List Char × List Char
  | 'e' :: '-' :: rest | 'E' :: '-' :: rest =>
    ('e' :: '-' :: rest.takeWhile isAsciiDigit, rest.dropWhile isAsciiDigit)
  | 'e' :: '+' :: rest | 'E' :: '+' :: rest | 'e' :: rest | 'E' :: rest =>
    ('e' :: rest.takeWhile isAsciiDigit, rest.dropWhile isAsciiDigit)
  | s => ([], s)

/-- The point and the digits after it in front, and what follows them. -/
def pointRun : List Char → List Char × List Char
  | '.' :: rest => ('.' :: rest.takeWhile isAsciiDigit, rest.dropWhile isAsciiDigit)
  | s => ([], s)

/-- The number in front, and what follows it. A word may not follow it at once. -/
def number? (s : List Char) : Option (Token × List Char) :=
  let digits := s.takeWhile isAsciiDigit
  let (point, afterPoint) := pointRun (s.dropWhile isAsciiDigit)
  let (power, rest) := exponentRun afterPoint
  if rest.head?.any isInWord then none
  else if point.isEmpty && power.isEmpty then
    (digits.mapM asciiDigit?).map fun ds ↦ (.integer (readDigits 0 ds), rest)
  else (decimalOf? false (digits ++ point ++ power)).map fun x ↦ (.number (.real x), rest)

/-- The number of up to sixteen digits to the base sixteen in front, and what follows it. Its
sixty-four binary digits count with a sign. -/
def hexNumber? (s : List Char) : Option (Token × List Char) :=
  let digits := s.takeWhile fun c ↦ (Percent.hexValue? c).isSome
  let rest := s.drop digits.length
  let value : Nat := (digits.filterMap Percent.hexValue?).foldl (fun n d ↦ n * 16 + d) 0
  let n : Int := value
  if rest.head?.any isInWord || 16 < (digits.dropWhile (· == '0')).length then none
  else some (.number (.whole (if n < wordLimit then n else n - 2 * wordLimit)), rest)

/-- The octets of pairs of digits to the base sixteen. -/
def octets? : List Char → Option (List Nat)
  | [] => some []
  | a :: b :: rest => do
    let high ← Percent.hexValue? a
    let low ← Percent.hexValue? b
    (octets? rest).map fun bytes ↦ (16 * high + low) :: bytes
  | [_] => none

/-- The marks of two characters. -/
def doubleMarks : List (Char × Char) :=
  [('<', '='), ('<', '>'), ('<', '<'), ('>', '='), ('>', '>'), ('!', '='), ('=', '='), ('|', '|')]

/-- The marks of one character. -/
def singleMarks : List Char :=
  ['(', ')', ',', '.', '*', '/', '%', '<', '>', '=', '-', '+', '&', '|', '~', ';']

/-- The grave accent, one of the marks that quote a name. -/
def graveMark : Char :=
  Char.ofNat 0x60

/-- A quoted name and what follows it. -/
def quotedName (mayBeText : Bool) (found : Option (List Char × List Char)) :
    Option (Option Token × List Char) :=
  found.map fun (s, rest) ↦ (some (.name (String.ofList s) mayBeText), rest)

/-- Reads a mark in front. -/
def mark? (c : Char) (rest : List Char) : Option (Option Token × List Char) :=
  match rest with
  | d :: after =>
    if doubleMarks.contains (c, d) then some (some (.mark (String.ofList [c, d])), after)
    else if singleMarks.contains c then some (some (.mark (String.ofList [c])), rest)
    else none
  | [] => if singleMarks.contains c then some (some (.mark (String.ofList [c])), []) else none

/-- Reads the token in front, none for a blank or a comment, and what follows it. -/
def next? (s : List Char) : Option (Option Token × List Char) :=
  match s with
  | [] => none
  | '-' :: '-' :: rest => some (none, afterLine rest)
  | '/' :: '*' :: c :: rest => some (none, afterBlock (c :: rest))
  | '\'' :: rest =>
    (quoted '\'' [] rest).map fun (t, after) ↦ (some (.text (String.ofList t)), after)
  | '"' :: rest => quotedName true (quoted '"' [] rest)
  | '[' :: rest => quotedName false (bracketed rest)
  | 'x' :: '\'' :: rest | 'X' :: '\'' :: rest => do
    let (digits, after) ← quoted '\'' [] rest
    (octets? digits).map fun bytes ↦ (some (.octets bytes), after)
  | '0' :: 'x' :: c :: rest | '0' :: 'X' :: c :: rest =>
    if (Percent.hexValue? c).isSome then
      (hexNumber? (c :: rest)).map fun (token, after) ↦ (some token, after)
    else none
  | '?' :: rest =>
    some (some (.parameter (String.ofList (rest.takeWhile isAsciiDigit))),
      rest.dropWhile isAsciiDigit)
  | c :: rest =>
    if startsSpace c then some (none, rest.dropWhile isSpace)
    else if c == graveMark then quotedName false (quoted graveMark [] rest)
    else if startsWord c then
      some (some (.word (String.ofList (s.takeWhile isInWord))), s.dropWhile isInWord)
    else if isAsciiDigit c || (c == '.' && rest.head?.any isAsciiDigit) then
      (number? s).map fun (token, after) ↦ (some token, after)
    else if [':', '@', '$'].contains c && rest.head?.any isInWord then
      some (some (.parameter (String.ofList (c :: rest.takeWhile isInWord))),
        rest.dropWhile isInWord)
    else mark? c rest

/-- Reads tokens to the end; the fuel bounds how many blanks, comments and tokens there are. -/
def readAll? : Nat → List Char → Option (List Token)
  | _, [] => some []
  | 0, _ => none
  | fuel + 1, s =>
    match next? s with
    | none => none
    | some (none, rest) => readAll? fuel rest
    | some (some token, rest) => (readAll? fuel rest).map (token :: ·)

/-- Numbers the places of parameters, given the names of those before: a bare mark is the next
place, a number is its place, and a name has one place. Says also how many places there are. -/
def numbered? (names : List String) : List Token → Option (List Token × Nat)
  | [] => some ([], names.length)
  | .parameter given :: rest =>
    let next := names.length + 1
    let place : Option (Nat × List String) :=
      if given.isEmpty then some (next, names ++ [""])
      else
        match (given.toList.mapM asciiDigit?).map (readDigits 0) with
        | some n =>
          if n = 0 ∨ 250000 < n then none
          else some (n, names ++ List.replicate (n - names.length) "")
        | none =>
          match names.findIdx? (· == given) with
          | some index => some (index + 1, names)
          | none => some (next, names ++ [given])
    place.bind fun (index, names) ↦ (numbered? names rest).map fun (tokens, count) ↦
      (.place index :: tokens, count)
  | token :: rest => (numbered? names rest).map fun (tokens, count) ↦ (token :: tokens, count)

end Token

/-- The tokens of a text, with the number of places for parameters. -/
def tokens? (s : String) : Option (List Token × Nat) :=
  if s.toList.contains (Char.ofNat 0) then none
  else (Token.readAll? s.length s.toList).bind (Token.numbered? [])

end StreamAudit.Sql
