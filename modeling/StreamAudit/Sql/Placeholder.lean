import StreamAudit.Text.WordCharacter

/-!
Named parameters in the text of a statement. A colon with a name behind it stands for a value, which
takes a question mark in the text, wherever it stands. A word, a colon, a dollar sign or a backslash
before the colon, or a colon behind the name, keep it as it is; the backslash itself is dropped
where it did so.
-/

set_option autoImplicit false
set_option relaxedAutoImplicit false

namespace StreamAudit.Sql.Placeholder

open StreamAudit.Text

/-- Whether a character may stand in the name of a parameter. -/
def isNameChar (c : Char) : Bool :=
  isWordCharacter c || c == '$'

/-- Whether a colon behind a character can be the mark of a parameter. -/
def admits (before : Option Char) : Bool :=
  !before.any fun c ↦ isNameChar c || c == ':' || c == '\\'

/-- The name behind a colon, if it is one of a parameter, and what follows it. -/
def name? (s : List Char) : Option (List Char × List Char) :=
  let name := s.takeWhile isNameChar
  let rest := s.dropWhile isNameChar
  if name.isEmpty || rest.head? == some ':' then none else some (name, rest)

/-- Puts question marks in the places of parameters, and lists their names. The character before the
text is given, and the fuel bounds the length of the text. -/
def replace : Nat → Option Char → List Char → List Char × List String
  | 0, _, s => (s, [])
  | _, _, [] => ([], [])
  | fuel + 1, before, ':' :: rest =>
    match if admits before then name? rest else none with
    | some (name, after) =>
      let (text, names) := replace fuel name.getLast? after
      ('?' :: text, String.ofList name :: names)
    | none =>
      let (text, names) := replace fuel (some ':') rest
      (':' :: text, names)
  | fuel + 1, _, c :: rest =>
    let (text, names) := replace fuel (some c) rest
    (c :: text, names)

/-- Drops the backslashes that kept a colon as it is. -/
def unescape : List Char → List Char
  | '\\' :: ':' :: rest =>
    if (rest.dropWhile isNameChar).head? == some ':' then '\\' :: unescape (':' :: rest)
    else ':' :: unescape rest
  | c :: rest => c :: unescape rest
  | [] => []

/-- The text of a statement with question marks for its parameters, and their names in order. -/
def resolve (s : String) : String × List String :=
  let (text, names) := replace s.length none s.toList
  (String.ofList (unescape text), names)

end StreamAudit.Sql.Placeholder
