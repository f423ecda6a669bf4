import StreamAudit.Number.Significant
import StreamAudit.Sql.Measure
import StreamAudit.Sql.Numeral
import StreamAudit.Text.LetterCase
import StreamAudit.Text.Utf8

/-!
Values of columns: their order, their truth, and how one kind of value is taken for another. In the
order null stands first, then numbers, then texts, then octets. Texts are compared by their
characters, or without regard to the case of ASCII letters, or without regard to blanks at their
ends.
-/

set_option autoImplicit false
set_option relaxedAutoImplicit false

namespace StreamAudit.Sql

open StreamAudit.Number StreamAudit.Text

/-- A value of a column. -/
inductive Value where
  | null
  | whole (n : Int)
  | real (x : Binary64)
  | text (s : String)
  | octets (bytes : List Nat)
deriving DecidableEq, Repr

/-- What a column prefers to hold; what is no column prefers nothing. -/
inductive Affinity where
  | nothing
  | octets
  | texts
  | numbers
deriving DecidableEq, Repr

/-- How texts are compared. -/
inductive Collation where
  | binary
  | noCase
  | rightTrim
deriving DecidableEq, Repr

/-- The collation of a name. -/
def Collation.ofName? (name : String) : Option Collation :=
  if sameButAsciiCase name "binary" then some .binary
  else if sameButAsciiCase name "nocase" then some .noCase
  else if sameButAsciiCase name "rtrim" then some .rightTrim
  else none

/-- What a collation compares of a text. -/
def Collation.key (collation : Collation) (s : String) : String :=
  match collation with
  | .binary => s
  | .noCase => String.ofList (s.toList.map lowerAscii)
  | .rightTrim => String.ofList (s.toList.reverse.dropWhile (· == ' ')).reverse

/-- The number that a text is as a whole, whole unless it has a point, an exponent or too many
digits. -/
def number? (s : String) : Option Value :=
  let numeral := Numeral.scan s.toList
  if !numeral.isAll then none
  else if numeral.isPlain && fitsWord numeral.integer then some (.whole numeral.integer)
  else some (.real numeral.real)

namespace Value

/-- The value of a measure. -/
def ofMeasure : Measure → Value
  | .null => .null
  | .whole n => .whole n
  | .real x => .real x

/-- The value of an optional text. -/
def ofText? (s : Option String) : Value :=
  (s.map Value.text).getD .null

/-- The value of a double; what is no number is null. -/
def ofReal (x : Binary64) : Value :=
  if x = .nan then .null else .real x

/-- The value of an integer, a double beyond 64 bits. -/
def ofInteger (n : Int) : Value :=
  if fitsWord n then .whole n else .real (.ofInt n)

/-- The characters of octets. -/
def characters (bytes : List Nat) : List Char :=
  Utf8.decode bytes

/-- A value as a numeric column holds it. -/
def asNumber : Value → Value
  | .text s => (number? s).getD (.text s)
  | other => other

/-- A number as a column of texts holds it. -/
def asText : Value → Value
  | .whole n => .text (toString n)
  | .real x => .text x.significantText
  | other => other

/-- The text of a value that is not null. -/
def text? : Value → Option String
  | .null => none
  | .whole n => some (toString n)
  | .real x => some x.significantText
  | .text s => some s
  | .octets bytes => some (String.ofList (characters bytes))

/-- The double that a value is taken for. -/
def toReal : Value → Binary64
  | .null => .finite false 0
  | .whole n => .ofInt n
  | .real x => x
  | .text s => (Numeral.scan s.toList).real
  | .octets bytes => (Numeral.scan (characters bytes)).real

/-- The nearest integer of 64 bits toward zero. -/
def wordOfReal : Binary64 → Int
  | .infinite negative => if negative then -wordLimit else wordLimit - 1
  | x => clampWord (x.truncate?.getD 0)

/-- The integer of 64 bits that a value is taken for. -/
def toWord : Value → Int
  | .null => 0
  | .whole n => n
  | .real x => wordOfReal x
  | .text s => clampWord (Numeral.scan s.toList).integer
  | .octets bytes => clampWord (Numeral.scan (characters bytes)).integer

/-- The number that a numeral in front of a text is taken for in arithmetic. -/
def ofNumeral (numeral : Numeral) : Value :=
  if numeral.isFractional then .real numeral.real
  else if fitsWord numeral.integer then .whole numeral.integer
  else .real numeral.real

/-- The number or the null that a value is taken for in arithmetic. -/
def operand : Value → Value
  | .text s => ofNumeral (.scan s.toList)
  | .octets bytes => ofNumeral (.scan (characters bytes))
  | other => other

/-- The measure that a value adds to a sum. A text adds an integer only if it is one as a whole. -/
def measure : Value → Measure
  | .null => .null
  | .whole n => .whole n
  | .real x => .real x
  | .text s =>
    match number? s with
    | some (.whole n) => .whole n
    | _ => .real (Numeral.scan s.toList).real
  | .octets bytes => .real (Numeral.scan (characters bytes)).real

/-- Where a double stands among all numbers, an infinity beyond every finite one. -/
def position : Binary64 → Int
  | .infinite negative => if negative then -(Nat.pow 2 2100 : Nat) else (Nat.pow 2 2100 : Nat)
  | x => x.units?.getD 0

/-- The order of all values. -/
def order (collation : Collation) : Value → Value → Ordering
  | .null, .null => .eq
  | .null, _ => .lt
  | _, .null => .gt
  | .octets a, .octets b => compare a b
  | .octets _, _ => .gt
  | _, .octets _ => .lt
  | .text s, .text t => compare (collation.key s) (collation.key t)
  | .text _, _ => .gt
  | _, .text _ => .lt
  | .whole n, .whole m => compare n m
  | .whole n, .real x => compare (n * (Binary64.unit : Int)) (position x)
  | .real x, .whole n => compare (position x) (n * (Binary64.unit : Int))
  | .real x, .real y => compare (position x) (position y)

/-- The order of two values, none if one of them is null. -/
def order? (collation : Collation) (a b : Value) : Option Ordering :=
  if a = .null ∨ b = .null then none else some (order collation a b)

/-- Whether a value holds as a condition, none for null. -/
def truth? : Value → Option Bool
  | .null => none
  | .whole n => some (n != 0)
  | other => some !other.toReal.isZero

/-- The value of a condition. -/
def ofTruth : Option Bool → Value
  | some true => .whole 1
  | some false => .whole 0
  | none => .null

end Value

/-- Whether one of two values is a text. -/
def eitherIsText : Value → Value → Bool
  | .text _, _ | _, .text _ => true
  | _, _ => false

/-- Brings the two sides of a comparison together by their preferences. Two columns are compared as
numbers if one of them holds numbers; one column decides alone. -/
def align (left right : Affinity × Value) : Value × Value :=
  let bothPrefer := left.1 ≠ .nothing ∧ right.1 ≠ .nothing
  if left.1 = .numbers ∨ right.1 = .numbers then (left.2.asNumber, right.2.asNumber)
  else if ¬bothPrefer ∧ (left.1 = .texts ∨ right.1 = .texts) ∧ eitherIsText left.2 right.2 then
    (left.2.asText, right.2.asText)
  else (left.2, right.2)

end StreamAudit.Sql
