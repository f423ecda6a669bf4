import StreamAudit.Number.Shortest

/-!
The text of a double with fifteen significant digits, without zeros at its end. Numbers from 0.0001
up to fifteen digits before the point are positional and the others have an exponent; every text has
a point.
-/

set_option autoImplicit false
set_option relaxedAutoImplicit false

namespace StreamAudit.Number.Significant

/-- The number of significant digits. -/
def width : Nat :=
  15

/-- The fifteen digits of a positive number as one number, a half rounded up, and how many of them
stand before the point. -/
def digitsOf (units : Nat) : Nat × Int :=
  let point := Shortest.magnitude units
  let places := (width : Int) - point
  let scaled := 2 * units * Nat.pow 10 places.toNat
  let grid := 2 * Binary64.unit * Nat.pow 10 (-places).toNat
  let digits := (scaled + grid / 2) / grid
  if digits < Nat.pow 10 width then (digits, point) else (digits / 10, point + 1)

/-- Digits with a point behind the first `point` of them. -/
def positional (digits : List Char) (point : Int) : List Char :=
  if point ≤ 0 then '0' :: '.' :: (List.replicate (-point).toNat '0' ++ digits)
  else
    let whole := digits.take point.toNat
    let rest := digits.drop point.toNat
    whole ++ List.replicate (point.toNat - whole.length) '0' ++ '.' ::
      (if rest.isEmpty then ['0'] else rest)

/-- Digits with a point behind the first of them and the exponent. -/
def scientific (digits : List Char) (point : Int) : List Char :=
  match digits with
  | [] => []
  | [d] => d :: '.' :: '0' :: Shortest.exponentText (point - 1)
  | d :: rest => d :: '.' :: (rest ++ Shortest.exponentText (point - 1))

/-- The text of a positive number. -/
def ofUnits (units : Nat) : List Char :=
  let (digits, point) := digitsOf units
  let shown := Shortest.dropZeros (Nat.toDigits 10 digits)
  if -4 < point ∧ point ≤ width then positional shown point else scientific shown point

end Significant

/-- The text of a double with fifteen significant digits. A zero has no sign. -/
def Binary64.significantText : Binary64 → String
  | .finite negative units =>
    if units = 0 then "0.0"
    else String.ofList ((if negative then ['-'] else []) ++ Significant.ofUnits units)
  | .infinite negative => if negative then "-Inf" else "Inf"
  | .nan => "NaN"

end StreamAudit.Number
