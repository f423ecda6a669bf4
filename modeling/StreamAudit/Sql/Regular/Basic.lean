import StreamAudit.Text.Blank
import StreamAudit.Text.Digit
import StreamAudit.Text.LetterCase
import StreamAudit.Text.WordCharacter

/-!
Regular expressions and the texts they are found in. An expression that begins at a place of a text
may end at several; an expression is found in a text if it has an end from some place on.
-/

set_option autoImplicit false
set_option relaxedAutoImplicit false

namespace StreamAudit.Sql

open StreamAudit.Text

/-- Kinds of characters. -/
inductive CharKind where
  | digit
  | word
  | space
deriving DecidableEq, Repr

/-- Whether a character is of a kind. -/
def CharKind.holds (c : Char) : CharKind → Bool
  | .digit => (digit? c).isSome
  | .word => isWordCharacter c
  | .space => isBlank c

/-- A member of a set of characters. -/
inductive CharItem where
  | range (low high : Char)
  | kind (kind : CharKind) (isDenied : Bool)
deriving DecidableEq, Repr

/-- A regular expression. -/
inductive Regular where
  | empty
  | char (isDenied : Bool) (items : List CharItem)
  | any
  | start (isOfLine : Bool)
  | stop (isOfLine : Bool)
  | textEnd
  | edge (isDenied : Bool)
  | sequence (first second : Regular)
  | either (first second : Regular)
  | repeated (inside : Regular) (least : Nat) (most : Option Nat)
  | ahead (isDenied : Bool) (inside : Regular)
deriving Repr

/-- How an expression is taken: whether letters are compared without regard to case, and whether any
character may also be the end of a line. -/
structure RegularMode where
  foldsCase : Bool := false
  crossesLines : Bool := false
  marksLines : Bool := false

namespace Regular

/-- Whether a member of a set holds a character. -/
def holds (c : Char) : CharItem → Bool
  | .range low high => low ≤ c && c ≤ high
  | .kind kind isDenied => kind.holds c != isDenied

/-- A character with the letter of the other case. -/
def cases (mode : RegularMode) (c : Char) : List Char :=
  let capital := if 'a' ≤ c ∧ c ≤ 'z' then Char.ofNat (c.toNat - 32) else c
  if mode.foldsCase then [c, lowerAscii c, capital] else [c]

/-- Whether the character at a place fulfils a condition, and the place behind it. -/
def step (s : Array Char) (place : Nat) (fits : Char → Bool) : List Nat :=
  if (s[place]?).any fits then [place + 1] else []

/-- Whether a place stands between a character of a word and one that is none. -/
def isEdge (s : Array Char) (place : Nat) : Bool :=
  let isWord (at? : Option Char) : Bool := at?.any isWordCharacter
  isWord (if place = 0 then none else s[place - 1]?) != isWord s[place]?

/-- Goes on from places at most so many times, and keeps every place that was reached. -/
def reached (next : Nat → List Nat) : Nat → List Nat → List Nat → List Nat
  | 0, found, _ => found
  | fuel + 1, found, places =>
    let new := ((places.flatMap next).eraseDups).filter fun place ↦ !found.contains place
    if new.isEmpty then found else reached next fuel (found ++ new) new

/-- Goes on from places some number of times. -/
def after (next : Nat → List Nat) : Nat → List Nat → List Nat
  | 0, places => places
  | count + 1, places =>
    if places.isEmpty then [] else after next count (places.flatMap next).eraseDups

/-- The places where an expression that begins at a place can end. -/
def ends (mode : RegularMode) (s : Array Char) : Regular → Nat → List Nat
  | .empty, place => [place]
  | .char isDenied items, place =>
    step s place fun c ↦ ((cases mode c).any fun other ↦ items.any (holds other)) != isDenied
  | .any, place => step s place fun c ↦ mode.crossesLines || c != '\n'
  | .start isOfLine, place =>
    if place = 0 || isOfLine && s[place - 1]? == some '\n' then [place] else []
  | .stop isOfLine, place =>
    let isLast := place = s.size || place + 1 = s.size && s[place]? == some '\n'
    if isLast || isOfLine && s[place]? == some '\n' then [place] else []
  | .textEnd, place => if place = s.size then [place] else []
  | .edge isDenied, place => if isEdge s place != isDenied then [place] else []
  | .sequence first second, place =>
    ((ends mode s first place).flatMap (ends mode s second)).eraseDups
  | .either first second, place => (ends mode s first place ++ ends mode s second place).eraseDups
  | .repeated inside least most, place =>
    let next := ends mode s inside
    let required := after next least [place]
    let limit := match most with
      | some most => min (most - least) (s.size + 1)
      | none => s.size + 1
    reached next limit required required
  | .ahead isDenied inside, place =>
    if (ends mode s inside place).isEmpty == isDenied then [place] else []

/-- Whether an expression is found in a text. -/
def isFound (mode : RegularMode) (expression : Regular) (text : String) : Bool :=
  let s := text.toList.toArray
  (List.range (s.size + 1)).any fun place ↦ !(ends mode s expression place).isEmpty

end Regular

end StreamAudit.Sql
