import StreamAudit.Sql.Function.Text

/-!
Values written by a pattern. A percent sign begins a directive: marks for the sign, the filling and
the side, a width, a precision, and a letter for the kind. A width or a precision may be taken from
the values, and a value that is missing counts for nothing. An unknown letter ends the text.
-/

set_option autoImplicit false
set_option relaxedAutoImplicit false

namespace StreamAudit.Sql.Format

open StreamAudit.Number StreamAudit.Text

/-- The marks of a directive. -/
structure Marks where
  isLeft : Bool := false
  showsPlus : Bool := false
  showsBlank : Bool := false
  isAlternate : Bool := false
  fillsZeros : Bool := false
  divides : Bool := false
  isExact : Bool := false

/-- A directive without its letter. -/
structure Directive where
  marks : Marks
  width : Nat
  precision : Option Nat

/-- The marks in front, and what follows them. -/
def takeMarks (marks : Marks) : List Char → Marks × List Char
  | '-' :: rest => takeMarks { marks with isLeft := true } rest
  | '+' :: rest => takeMarks { marks with showsPlus := true } rest
  | ' ' :: rest => takeMarks { marks with showsBlank := true } rest
  | '#' :: rest => takeMarks { marks with isAlternate := true } rest
  | '0' :: rest => takeMarks { marks with fillsZeros := true } rest
  | ',' :: rest => takeMarks { marks with divides := true } rest
  | '!' :: rest => takeMarks { marks with isExact := true } rest
  | rest => (marks, rest)

/-- The number in front or the one that an asterisk takes from the values, with what follows and the
values that are left. -/
def takeNumber (s : List Char) (values : List Value) : Option Int × List Char × List Value :=
  match s with
  | '*' :: rest => (some (values.headD .null).toWord, rest, values.drop 1)
  | _ =>
    let digits := s.takeWhile isAsciiDigit
    let n : Int := readDigits 0 (digits.filterMap asciiDigit?)
    (if digits.isEmpty then none else some n, s.dropWhile isAsciiDigit, values)

/-- A directive behind its percent sign, with what follows and the values that are left. -/
def takeDirective (s : List Char) (values : List Value) : Directive × List Char × List Value :=
  let (marks, s) := takeMarks {} s
  let (width, s, values) := takeNumber s values
  let marks := if width.any (· < 0) then { marks with isLeft := true } else marks
  let (precision, s, values) := match s with
    | '.' :: rest =>
      let (found, s, values) := takeNumber rest values
      (some (found.getD 0).natAbs, s, values)
    | _ => (none, s, values)
  (⟨marks, (width.getD 0).natAbs, precision⟩, s.dropWhile (· = 'l'), values)

/-- Characters filled up with blanks to the width of a directive. -/
def Directive.filled (directive : Directive) (s : List Char) : List Char :=
  let blanks := List.replicate (directive.width - s.length) ' '
  if directive.marks.isLeft then s ++ blanks else blanks ++ s

/-- The sign in front of a number. -/
def Directive.sign (directive : Directive) (negative : Bool) : List Char :=
  if negative then ['-']
  else if directive.marks.showsPlus then ['+']
  else if directive.marks.showsBlank then [' ']
  else []

/-- Digits with a comma before every three at the end. -/
def divided (digits : List Char) : List Char :=
  (digits.reverse.zipIdx.flatMap fun (c, place) ↦
    if place ≠ 0 ∧ place % 3 = 0 then [',', c] else [c]).reverse

/-- An integer with a sign in front of its digits. -/
def Directive.integer (directive : Directive) (lead digits : List Char) : List Char :=
  let least :=
    if directive.marks.fillsZeros && !directive.marks.isLeft then
      max (directive.precision.getD 1) (directive.width - lead.length)
    else directive.precision.getD 1
  let digits := List.replicate (least - digits.length) '0' ++ digits
  directive.filled (lead ++ (if directive.marks.divides then divided digits else digits))

/-- The directive without commas between its digits. -/
def Directive.undivided (directive : Directive) : Directive :=
  { directive with marks := { directive.marks with divides := false } }

/-- The digits of a number to some base. -/
def digitsTo (base : Nat) (hasCapitals : Bool) (n : Nat) : List Char :=
  let digits := Nat.toDigits base n
  if hasCapitals then digits.map Function.capital else digits

/-- The number of digits that a double is written with at most; further ones are zeros. -/
def Directive.significant (directive : Directive) : Nat :=
  if directive.marks.isExact then 26 else 16

/-- Digits of which only the significant ones are kept. -/
def Directive.settled (directive : Directive) (digits : List Char) : List Char :=
  let size := directive.significant
  digits.take size ++ List.replicate (digits.length - size) '0'

/-- A run of digits without the zeros at its end. -/
def withoutZeros (digits : List Char) : List Char :=
  (digits.reverse.dropWhile (· = '0')).reverse

/-- The digits of a double before and behind the point, with some number of places. -/
def Directive.fixed (directive : Directive) (units places : Nat) : List Char × List Char :=
  let scale := Nat.pow 10 places
  let n := (2 * units * scale + Binary64.unit) / (2 * Binary64.unit)
  let digits := Nat.toDigits 10 n
  let digits := List.replicate (places + 1 - digits.length) '0' ++ digits
  let kept := directive.settled digits
  (kept.take (kept.length - places), kept.drop (kept.length - places))

/-- The digit before the point, those behind it, and the exponent of a double with some number of
places. -/
def Directive.scientific (directive : Directive) (units places : Nat) :
    List Char × List Char × Int :=
  if units = 0 then (['0'], List.replicate places '0', 0)
  else
    let point := Shortest.magnitude units
    let shift : Int := places + 1 - point
    let top := 2 * units * Nat.pow 10 shift.toNat
    let grid := 2 * Binary64.unit * Nat.pow 10 (-shift).toNat
    let n := (top + grid / 2) / grid
    let (n, point) := if n < Nat.pow 10 (places + 1) then (n, point) else (n / 10, point + 1)
    let digits := directive.settled (Nat.toDigits 10 n)
    (digits.take 1, digits.drop 1, point - 1)

/-- A point with the digits behind it, if there are any or a point is asked for. Zeros at the end
may be dropped, and the point with them unless a digit is asked for. -/
def Directive.decimals (directive : Directive) (dropsZeros : Bool) (digits : List Char) :
    List Char :=
  let kept := if dropsZeros then withoutZeros digits else digits
  if digits.isEmpty && !directive.marks.isAlternate && !directive.marks.isExact then []
  else if dropsZeros && kept.isEmpty then (if directive.marks.isExact then ['.', '0'] else [])
  else '.' :: kept

/-- An exponent behind its letter. -/
def exponent (letter : Char) (n : Int) : List Char :=
  let digits := Nat.toDigits 10 n.natAbs
  letter :: (if n < 0 then '-' else '+') :: (if digits.length < 2 then '0' :: digits else digits)

/-- The text of a finite double without its sign. -/
def Directive.realText (directive : Directive) (letter : Char) (units : Nat) : List Char :=
  let places := directive.precision.getD 6
  let mark := if letter = 'E' ∨ letter = 'G' then 'E' else 'e'
  let fixed (places : Nat) (dropsZeros : Bool) : List Char :=
    let (whole, decimals) := directive.fixed units places
    whole ++ directive.decimals dropsZeros decimals
  let scientific (places : Nat) (dropsZeros : Bool) : List Char :=
    let (whole, decimals, power) := directive.scientific units places
    whole ++ directive.decimals dropsZeros decimals ++ exponent mark power
  if letter = 'f' then fixed places directive.marks.isExact
  else if letter = 'e' ∨ letter = 'E' then scientific places directive.marks.isExact
  else
    let most := places - 1
    let power := (directive.scientific units most).2.2
    let dropsZeros := !directive.marks.isAlternate
    if power < -4 ∨ (most : Int) < power then scientific most dropsZeros
    else fixed ((most : Int) - power).toNat dropsZeros

/-- A double as a directive writes it. -/
def Directive.real (directive : Directive) (letter : Char) : Binary64 → List Char
  | .finite negative units =>
    let lead := directive.sign (negative && units ≠ 0)
    let text := directive.realText letter units
    let zeros :=
      if directive.marks.fillsZeros && !directive.marks.isLeft then
        List.replicate (directive.width - lead.length - text.length) '0'
      else []
    directive.filled (lead ++ zeros ++ text)
  | .infinite negative => directive.filled (directive.sign negative ++ "Inf".toList)
  | .nan => directive.filled "NaN".toList

/-- The text of a value cut to the precision of a directive. -/
def Directive.cut (directive : Directive) (s : List Char) : List Char :=
  match directive.precision with
  | some most => s.take most
  | none => s

/-- A text in which a mark is written twice. -/
def doubled (mark : Char) (s : List Char) : List Char :=
  s.flatMap fun c ↦ if c = mark then [c, c] else [c]

/-- A value as a directive with a letter writes it, nothing for an unknown letter. -/
def Directive.write? (directive : Directive) (letter : Char) (value : Value) : Option (List Char) :=
  let n := value.toWord
  let magnitude := (n % (2 * wordLimit)).toNat
  let s := Function.charactersOf value
  let shown := if value = .null then "(NULL)".toList else s
  match letter with
  | 'd' | 'i' => some (directive.integer (directive.sign (n < 0)) (Nat.toDigits 10 n.natAbs))
  | 'u' => some (directive.integer [] (Nat.toDigits 10 magnitude))
  | 'x' | 'X' =>
    let lead := if directive.marks.isAlternate && magnitude ≠ 0 then ['0', letter] else []
    some (directive.undivided.integer lead (digitsTo 16 (letter = 'X') magnitude))
  | 'o' =>
    let lead := if directive.marks.isAlternate && magnitude ≠ 0 then ['0'] else []
    some (directive.undivided.integer lead (digitsTo 8 false magnitude))
  | 'f' | 'e' | 'E' | 'g' | 'G' => some (directive.real letter value.toReal)
  | 's' | 'z' => some (directive.filled (directive.cut s))
  | 'c' =>
    let count := max 1 (directive.precision.getD 1)
    some (directive.filled (List.replicate count (s.headD (Char.ofNat 0))))
  | 'q' => some (directive.filled (doubled '\'' (directive.cut shown)))
  | 'Q' =>
    some (directive.filled (if value = .null then directive.cut "NULL".toList
      else '\'' :: doubled '\'' (directive.cut s) ++ ['\'']))
  | 'w' => some (directive.filled (doubled '"' (directive.cut shown)))
  | _ => none

/-- Values written by a pattern; the fuel bounds its length. -/
def write : Nat → List Char → List Value → List Char
  | 0, _, _ => []
  | _, [], _ => []
  | fuel + 1, '%' :: rest, values =>
    if rest.isEmpty then ['%']
    else
      let (directive, s, values) := takeDirective rest values
      match s with
      | [] => []
      | '%' :: after => directive.filled ['%'] ++ write fuel after values
      | 'n' :: after => write fuel after values
      | letter :: after =>
        match directive.write? letter (values.headD .null) with
        | some text => text ++ write fuel after (values.drop 1)
        | none => []
  | fuel + 1, c :: rest, values => c :: write fuel rest values

/-- The values behind a pattern written by it. -/
def apply (values : List Value) : Value :=
  match values with
  | [] => .null
  | shape :: rest =>
    Function.onText (fun s ↦ Function.ofCharacters (write (s.length + 1) s rest)) shape

end StreamAudit.Sql.Format
