import StreamAudit.Sql.Value

/-!
Patterns. In one kind a percent sign stands for any characters, a low line for one, and a character
may be chosen that makes the next one stand for itself; ASCII letters are compared without regard to
case. In the other kind an asterisk stands for any characters, a question mark for one, and brackets
for one of the characters in them.
-/

set_option autoImplicit false
set_option relaxedAutoImplicit false

namespace StreamAudit.Sql.Pattern

open StreamAudit.Text

/-- A part of a pattern. -/
inductive Part where
  | anyRun
  | anyOne
  | one (c : Char)
  | oneOf (negated : Bool) (ranges : List (Char × Char))
deriving DecidableEq, Repr

/-- Whether a part that stands for one character stands for this one. -/
def Part.fits (foldsCase : Bool) (c : Char) : Part → Bool
  | .anyRun => false
  | .anyOne => true
  | .one d => c == d || foldsCase && lowerAscii c == lowerAscii d
  | .oneOf negated ranges =>
    (ranges.any fun range ↦ range.1 ≤ c && c ≤ range.2) != negated

/-- Whether a text fits the parts of a pattern. -/
def fits (foldsCase : Bool) : List Part → List Char → Bool
  | [], s => s.isEmpty
  | .anyRun :: parts, [] => fits foldsCase parts []
  | .anyRun :: parts, c :: s => fits foldsCase parts (c :: s) || fits foldsCase (.anyRun :: parts) s
  | _ :: _, [] => false
  | part :: parts, c :: s => part.fits foldsCase c && fits foldsCase parts s
termination_by parts s => parts.length + s.length

/-- The parts of a pattern with percent signs, none if it ends behind the character that lets the
next one stand for itself. -/
def ofPercents? (escape : Option Char) : List Char → Option (List Part)
  | [] => some []
  | [c] => if some c = escape then none else some [plain c]
  | c :: d :: rest =>
    if some c = escape then (ofPercents? escape rest).map (.one d :: ·)
    else (ofPercents? escape (d :: rest)).map (plain c :: ·)
where
  /-- What a character stands for where nothing stands before it. -/
  plain (c : Char) : Part :=
    if c = '%' then .anyRun else if c = '_' then .anyOne else .one c

/-- The ranges in brackets up to the closing one, and what follows it. A hyphen makes a range with
the character before it, unless there is none or that one ends a range itself. -/
def ranges? : Option Char → List Char → Option (List (Char × Char) × List Char)
  | _, [] => none
  | _, ']' :: rest => some ([], rest)
  | _, ['-'] => none
  | before, '-' :: high :: rest =>
    match before with
    | some low =>
      if high = ']' then some ([('-', '-')], rest)
      else (ranges? none rest).map fun found ↦ ((low, high) :: found.1, found.2)
    | none => (ranges? (some '-') (high :: rest)).map fun found ↦ (('-', '-') :: found.1, found.2)
  | _, c :: rest => (ranges? (some c) rest).map fun found ↦ ((c, c) :: found.1, found.2)

/-- A part in brackets, behind the opening one, and what follows it. A closing bracket in front
stands for itself. -/
def bracketed? (s : List Char) : Option (Part × List Char) :=
  let (negated, inside) := match s with
    | '^' :: rest => (true, rest)
    | other => (false, other)
  let (first, others) := match inside with
    | ']' :: rest => ([(']', ']')], rest)
    | other => ([], other)
  (ranges? none others).map fun found ↦ (.oneOf negated (first ++ found.1), found.2)

/-- The parts of a pattern with asterisks, none if a bracket is not closed. The fuel bounds how many
parts there are. -/
def ofAsterisks? : Nat → List Char → Option (List Part)
  | _, [] => some []
  | 0, _ => none
  | fuel + 1, '*' :: rest => (ofAsterisks? fuel rest).map (.anyRun :: ·)
  | fuel + 1, '?' :: rest => (ofAsterisks? fuel rest).map (.anyOne :: ·)
  | fuel + 1, '[' :: rest => do
    let (part, after) ← bracketed? rest
    (ofAsterisks? fuel after).map (part :: ·)
  | fuel + 1, c :: rest => (ofAsterisks? fuel rest).map (.one c :: ·)

/-- Whether a text fits a pattern with percent signs. -/
def likes (escape : Option Char) (pattern s : String) : Bool :=
  (ofPercents? escape pattern.toList).any fun parts ↦ fits true parts s.toList

/-- Whether a text fits a pattern with asterisks. -/
def globs (pattern s : String) : Bool :=
  (ofAsterisks? pattern.length pattern.toList).any fun parts ↦ fits false parts s.toList

end StreamAudit.Sql.Pattern
