/-!
Sums in 64 bits. A sum is taken from the front, and it is refused if it leaves the range on its way.
-/

set_option autoImplicit false
set_option relaxedAutoImplicit false

namespace StreamAudit.Number

/-- The first number too large for 64 bits with a sign, 2^63. -/
def wordLimit : Int :=
  9223372036854775808

/-- Whether a number fits 64 bits with a sign. -/
def fitsWord (n : Int) : Bool :=
  -wordLimit ≤ n && n < wordLimit

/-- The sum of two numbers if it fits. -/
def addWord? (total n : Int) : Option Int :=
  if fitsWord (total + n) then some (total + n) else none

/-- The sum of numbers, none if it leaves 64 bits on its way. -/
def sumWords? (numbers : List Int) : Option Int :=
  numbers.foldlM addWord? 0

end StreamAudit.Number
