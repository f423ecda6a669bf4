/-!
Double precision numbers with exact arithmetic. A finite number is a whole multiple of the smallest
positive one, 2^-1074, so sums, products and quotients are computed exactly on natural numbers and
rounded once, to the nearest number of 53 significant bits and to the even one of two.
-/

set_option autoImplicit false
set_option relaxedAutoImplicit false

namespace StreamAudit.Number

/-- A double precision number; a finite one counts multiples of 2^-1074. -/
inductive Binary64 where
  | finite (negative : Bool) (units : Nat)
  | infinite (negative : Bool)
  | nan
deriving DecidableEq, Repr

/-- The whole number nearest to a quotient, the even one of two. -/
def roundEven (num den : Nat) : Nat :=
  let whole := num / den
  let twice := 2 * (num % den)
  if twice < den then whole
  else if den < twice then whole + 1
  else whole + whole % 2

namespace Binary64

/-- The number one in multiples of the smallest positive number. -/
def unit : Nat :=
  Nat.pow 2 1074

/-- The distance between neighbours at and above a magnitude. -/
def gridStep (units : Nat) : Nat :=
  Nat.pow 2 (Nat.log2 units - 52)

/-- The double nearest to `num / den`. -/
def ofRatio (negative : Bool) (num den : Nat) : Binary64 :=
  let scaled := num * unit
  let step := gridStep (scaled / den)
  let units := roundEven scaled (den * step) * step
  if units < Nat.pow 2 2098 then .finite negative units else .infinite negative

/-- The double nearest to `digits * 10 ^ exponent`, where `digits` has the given number of digits.
Magnitudes that no double can hold, or tell from zero, are decided before any power is computed. -/
def ofDecimal (negative : Bool) (digits width : Nat) (exponent : Int) : Binary64 :=
  if digits = 0 then .finite negative 0
  else if 330 < exponent + width then .infinite negative
  else if exponent + width < -330 then .finite negative 0
  else if 0 ≤ exponent then ofRatio negative (digits * Nat.pow 10 exponent.toNat) 1
  else ofRatio negative digits (Nat.pow 10 (-exponent).toNat)

/-- The double nearest to an integer. -/
def ofInt (n : Int) : Binary64 :=
  ofRatio (n < 0) n.natAbs 1

/-- Zero, of either sign. -/
def isZero : Binary64 → Bool
  | .finite _ units => units == 0
  | _ => false

/-- The signed multiple of a finite number, nothing for the others. -/
def units? : Binary64 → Option Int
  | .finite negative units => some (if negative then -(units : Int) else units)
  | _ => none

/-- The number of a signed multiple that is rounded to the grid first. -/
def ofUnits (units : Int) : Binary64 :=
  ofRatio (units < 0) units.natAbs unit

/-- The sum, rounded. Infinities of the two signs have no sum. -/
def add : Binary64 → Binary64 → Binary64
  | .finite n a, .finite m b =>
    if a = 0 ∧ b = 0 then .finite (n && m) 0
    else ofUnits ((if n then -(a : Int) else a) + (if m then -(b : Int) else b))
  | .nan, _ => .nan
  | _, .nan => .nan
  | .infinite n, .infinite m => if n = m then .infinite n else .nan
  | .infinite n, .finite .. => .infinite n
  | .finite .., .infinite m => .infinite m

/-- The product with a whole number, rounded. -/
def scale (factor : Nat) : Binary64 → Binary64
  | .finite negative units => ofRatio negative (units * factor) unit
  | other => other

/-- The quotient by a positive whole number, rounded. -/
def shrink (divisor : Nat) : Binary64 → Binary64
  | .finite negative units => ofRatio negative units (unit * divisor)
  | other => other

/-- The number with the other sign. -/
def negate : Binary64 → Binary64
  | .finite negative units => .finite (!negative) units
  | .infinite negative => .infinite (!negative)
  | .nan => .nan

/-- The product, rounded. An infinity and zero have none. -/
def multiply : Binary64 → Binary64 → Binary64
  | .finite n a, .finite m b => ofRatio (n != m) (a * b) (unit * unit)
  | .nan, _ | _, .nan => .nan
  | .infinite n, .infinite m => .infinite (n != m)
  | .infinite n, .finite m b | .finite n b, .infinite m =>
    if b = 0 then .nan else .infinite (n != m)

/-- The quotient, rounded. Zero by zero and infinity by infinity have none. -/
def divide : Binary64 → Binary64 → Binary64
  | .finite n a, .finite m b =>
    if b = 0 then (if a = 0 then .nan else .infinite (n != m)) else ofRatio (n != m) a b
  | .nan, _ | _, .nan => .nan
  | .infinite _, .infinite _ => .nan
  | .infinite n, .finite m _ => .infinite (n != m)
  | .finite n _, .infinite m => .finite (n != m) 0

/-- The integer part, toward zero. -/
def truncate? : Binary64 → Option Int
  | .finite negative units =>
    let whole : Int := (units / unit : Nat)
    some (if negative then -whole else whole)
  | _ => none

/-- The part after the point, with the sign of the number. -/
def fraction : Binary64 → Binary64
  | .finite negative units => .finite negative (units % unit)
  | other => other

/-- The nearest integer, the even one of two. -/
def round? : Binary64 → Option Int
  | .finite negative units =>
    let whole : Int := roundEven units unit
    some (if negative then -whole else whole)
  | _ => none

/-- The integer that a finite number without fraction stands for. -/
def integer? : Binary64 → Option Int
  | .finite negative units =>
    if units % unit = 0 then truncate? (.finite negative units) else none
  | _ => none

/-- Whether a number is above zero. -/
def isPositive : Binary64 → Bool
  | .finite negative units => !negative && units != 0
  | .infinite negative => !negative
  | .nan => false

end Binary64

end StreamAudit.Number
