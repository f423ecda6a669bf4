import StreamAudit.Number.DecimalText
import StreamAudit.Number.Word

/-!
Numbers at the front of texts. A text may be a number as a whole, with blanks around it, or have one
in front of other characters; a text with no digits in front counts for zero.
-/

set_option autoImplicit false
set_option relaxedAutoImplicit false

namespace StreamAudit.Sql

open StreamAudit.Number StreamAudit.Text

/-- Whether a character is a blank. -/
def isSpace (c : Char) : Bool :=
  c == ' ' || (9 ≤ c.toNat && c.toNat ≤ 13)

/-- An exponent: none, a mark without digits, or a mark with digits. -/
inductive Power where
  | absent
  | bare
  | given (n : Int)
deriving DecidableEq, Repr

/-- The number at the front of a text in its parts. -/
structure Numeral where
  negative : Bool
  whole : List Nat
  hasPoint : Bool
  decimals : List Nat
  power : Power
  rest : List Char

namespace Numeral

/-- A sign, if there is one, and what follows it; a minus sign counts. -/
def sign : List Char → Bool × List Char
  | '-' :: rest => (true, rest)
  | '+' :: rest => (false, rest)
  | other => (false, other)

/-- The exponent in front, and what follows it. -/
def powerOf (s : List Char) : Power × List Char :=
  match s with
  | mark :: rest =>
    if mark == 'e' || mark == 'E' then
      let (negative, digits) := sign rest
      match digitRun digits with
      | ([], after) => (.bare, after)
      | (ds, after) =>
        let n : Int := readDigits 0 ds
        (.given (if negative then -n else n), after)
    else (.absent, s)
  | [] => (.absent, [])

/-- The number at the front of a text, behind blanks. -/
def scan (s : List Char) : Numeral :=
  let (negative, unsigned) := sign (s.dropWhile isSpace)
  let (whole, afterWhole) := digitRun unsigned
  let (hasPoint, decimals, afterPoint) := match afterWhole with
    | '.' :: more =>
      let (ds, after) := digitRun more
      (true, ds, after)
    | other => (false, [], other)
  let (power, rest) := powerOf afterPoint
  ⟨negative, whole, hasPoint, decimals, power, rest.dropWhile isSpace⟩

/-- Whether there are digits. -/
def hasDigits (numeral : Numeral) : Bool :=
  !numeral.whole.isEmpty || !numeral.decimals.isEmpty

/-- Whether the number is the whole text. -/
def isAll (numeral : Numeral) : Bool :=
  numeral.hasDigits && numeral.rest.isEmpty && numeral.power != .bare

/-- Whether the number is written with digits alone. -/
def isPlain (numeral : Numeral) : Bool :=
  !numeral.hasPoint && numeral.power == .absent

/-- Whether the number has a fraction or an exponent that can be told from what follows it. -/
def isFractional (numeral : Numeral) : Bool :=
  numeral.hasDigits && match numeral.power with
    | .absent => numeral.hasPoint
    | .bare => numeral.hasPoint
    | .given _ => true

/-- The digits before the point as an integer. -/
def integer (numeral : Numeral) : Int :=
  let n : Int := readDigits 0 numeral.whole
  if numeral.negative then -n else n

/-- The nearest double. -/
def real (numeral : Numeral) : Binary64 :=
  let digits := readDigits 0 (numeral.whole ++ numeral.decimals)
  let power : Int := match numeral.power with
    | .given n => n
    | _ => 0
  .ofDecimal numeral.negative digits (Nat.toDigits 10 digits).length
    (power - numeral.decimals.length)

end Numeral

/-- The nearest integer of 64 bits. -/
def clampWord (n : Int) : Int :=
  if n < -wordLimit then -wordLimit else if n < wordLimit then n else wordLimit - 1

end StreamAudit.Sql
