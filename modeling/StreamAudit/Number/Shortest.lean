import StreamAudit.Number.Binary64

/-!
The shortest decimal text of a double: the fewest digits that read back as the same number, and of
two such the nearer. The digits are found on exact natural numbers, grid by grid.
-/

set_option autoImplicit false
set_option relaxedAutoImplicit false

namespace StreamAudit.Number.Shortest

/-- Digits with the place of their last digit: the value is `digits * 10 ^ place`. -/
structure Decimal where
  digits : Nat
  place : Int
deriving DecidableEq, Repr

/-- The reals that read back as one double, in quarters of the smallest positive number. -/
structure Interval where
  low : Nat
  centre : Nat
  high : Nat
  closed : Bool

/-- Below a power of two the neighbours are twice as dense as above it. -/
def interval (units : Nat) : Interval :=
  let step := Binary64.gridStep units
  let below := if units = Nat.pow 2 (Nat.log2 units) ∧ 1 < step then step else 2 * step
  { low := 4 * units - below
    centre := 4 * units
    high := 4 * units + 2 * step
    closed := units / step % 2 == 0 }

/-- Whether a value on a finer scale lies in the interval. -/
def Interval.holds (i : Interval) (scale value : Nat) : Bool :=
  if i.closed then i.low * scale ≤ value && value ≤ i.high * scale
  else i.low * scale < value && value < i.high * scale

/-- How many digits stand before the point; zero or less for numbers below one. -/
def magnitude (units : Nat) : Int :=
  (Nat.toDigits 10 (units * Nat.pow 10 400 / Binary64.unit)).length - 400

/-- The nearest point of a decimal grid that reads back, if one of the two neighbours does. -/
def onGrid (i : Interval) (place : Int) : Option Decimal :=
  let pointScale := 4 * Binary64.unit * Nat.pow 10 place.toNat
  let scale := Nat.pow 10 (-place).toNat
  let centre := i.centre * scale
  let lower := centre / pointScale
  let below := lower * pointScale
  let above := below + pointScale
  match i.holds scale below && lower != 0, i.holds scale above with
  | true, true =>
    let nearer := if centre - below < above - centre then lower
      else if above - centre < centre - below then lower + 1
      else lower + lower % 2
    some ⟨nearer, place⟩
  | true, false => some ⟨lower, place⟩
  | false, true => some ⟨lower + 1, place⟩
  | false, false => none

/-- Seventeen digits always suffice. -/
def ofUnits (units : Nat) : Decimal :=
  let i := interval units
  let top := magnitude units
  ((List.range 17).findSome? fun (n : Nat) ↦ onGrid i (top - (n + 1))).getD ⟨0, 0⟩

/-- Drops zeros at the end of the digits. -/
def dropZeros (digits : List Char) : List Char :=
  (digits.reverse.dropWhile (· == '0')).reverse

/-- The exponent mark, its sign and at least two digits. -/
def exponentText (e : Int) : List Char :=
  let digits := Nat.toDigits 10 e.natAbs
  'e' :: (if e < 0 then '-' else '+') :: (List.replicate (2 - digits.length) '0' ++ digits)

/-- The text of digits with the point after the first `point` of them: positional from 0.0001 up to
16 digits before the point, else with an exponent. -/
def layout (digits : List Char) (point : Int) : List Char :=
  let width := digits.length
  if -4 < point ∧ point ≤ 16 then
    if point ≤ 0 then '0' :: '.' :: (List.replicate (-point).toNat '0' ++ digits)
    else if (width : Int) ≤ point then
      digits ++ List.replicate (point.toNat - width) '0' ++ ['.', '0']
    else digits.take point.toNat ++ '.' :: digits.drop point.toNat
  else
    match digits with
    | [] => []
    | [d] => d :: exponentText (point - 1)
    | d :: rest => d :: '.' :: (rest ++ exponentText (point - 1))

/-- The text of a magnitude. -/
def magnitudeText (units : Nat) : List Char :=
  if units = 0 then ['0', '.', '0']
  else
    let decimal := ofUnits units
    let digits := Nat.toDigits 10 decimal.digits
    layout (dropZeros digits) (decimal.place + digits.length)

end StreamAudit.Number.Shortest

namespace StreamAudit.Number.Binary64

/-- The shortest text of a double. -/
def text : Binary64 → String
  | .finite negative units =>
    let magnitude := String.ofList (Shortest.magnitudeText units)
    if negative then "-" ++ magnitude else magnitude
  | .infinite negative => if negative then "-inf" else "inf"
  | .nan => "nan"

end StreamAudit.Number.Binary64
