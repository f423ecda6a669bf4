import StreamAudit.Number.Binary64
import StreamAudit.Text.Digit

/-!
Decimal texts: ASCII digits with a point among or around them and an exponent, read as the nearest
double.
-/

set_option autoImplicit false
set_option relaxedAutoImplicit false

namespace StreamAudit.Number

open StreamAudit.Text

/-- The digits in front with their values, and what follows. -/
def digitRun (s : List Char) : List Nat × List Char :=
  ((s.takeWhile isAsciiDigit).filterMap asciiDigit?, s.dropWhile isAsciiDigit)

/-- The exponent of a decimal, zero where there is none. -/
def exponentOf? : List Char → Option Int
  | [] => some 0
  | mark :: rest =>
    if mark == 'e' || mark == 'E' then
      let (negative, digits) := match rest with
        | '-' :: more => (true, more)
        | '+' :: more => (false, more)
        | other => (false, other)
      match digitRun digits with
      | ([], _) | (_, _ :: _) => none
      | (ds, []) =>
        let n : Int := readDigits 0 ds
        some (if negative then -n else n)
    else none

/-- The double of an unsigned decimal: digits with a point among or around them, and an exponent. -/
def decimalOf? (negative : Bool) (s : List Char) : Option Binary64 :=
  let (whole, rest) := digitRun s
  let (decimals, after) := match rest with
    | '.' :: more => digitRun more
    | other => ([], other)
  if whole.isEmpty && decimals.isEmpty then none
  else
    (exponentOf? after).map fun power ↦
      let value := readDigits 0 (whole ++ decimals)
      .ofDecimal negative value (Nat.toDigits 10 value).length (power - decimals.length)

end StreamAudit.Number
