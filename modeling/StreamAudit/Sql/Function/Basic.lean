import StreamAudit.Sql.Function.Clock
import StreamAudit.Sql.Function.Format
import StreamAudit.Sql.Function.Number
import StreamAudit.Sql.Function.Text
import StreamAudit.Sql.Pattern
import StreamAudit.Sql.Regular.Reader

/-!
The functions that expressions may call on values, each under a name and with the numbers of
arguments that it takes. A function that compares texts is told the collation.
-/

set_option autoImplicit false
set_option relaxedAutoImplicit false

namespace StreamAudit.Sql

open StreamAudit.Number StreamAudit.Text

/-- A function on values; nothing comes of a call that fails. -/
structure Function where
  name : String
  least : Nat
  most : Nat
  apply : Collation → List Value → Option Value

namespace Function

/-- The greatest number of arguments that any call takes. -/
def widest : Nat :=
  127

/-- A function of one value. -/
def ofOne (name : String) (f : Value → Value) : Function :=
  ⟨name, 1, 1, fun _ values ↦ some (f (values.headD .null))⟩

/-- A function of two values. -/
def ofTwo (name : String) (f : Value → Value → Value) : Function :=
  ⟨name, 2, 2, fun _ values ↦ some (f (values.getD 0 .null) (values.getD 1 .null))⟩

/-- A function of one value and perhaps another. -/
def ofOneOrTwo (name : String) (f : Value → Option Value → Value) : Function :=
  ⟨name, 1, 2, fun _ values ↦ some (f (values.headD .null) values[1]?)⟩

/-- A function of two values and perhaps another. -/
def ofTwoOrThree (name : String) (f : Value → Value → Option Value → Value) : Function :=
  ⟨name, 2, 3, fun _ values ↦ some (f (values.getD 0 .null) (values.getD 1 .null) values[2]?)⟩

/-- A function of a time with modifiers. -/
def ofTime (name : String) (f : Value → List Value → Value) : Function :=
  ⟨name, 1, widest, fun _ values ↦ some (f (values.headD .null) (values.drop 1))⟩

/-- The first value unless it equals the second. -/
def nullIf (collation : Collation) (values : List Value) : Option Value :=
  let value := values.headD .null
  some (if Value.order collation value (values.getD 1 .null) = .eq then .null else value)

/-- The value among several that stands in front of the others by a relation of their order. -/
def foremost (replaces : Ordering → Bool) (collation : Collation) (values : List Value) :
    Option Value :=
  if values.contains .null then some .null
  else
    some ((values.drop 1).foldl
      (fun best value ↦ if replaces (Value.order collation best value) then value else best)
      (values.headD .null))

/-- Whether a text fits a pattern with percent signs, with a character that lets the next one stand
for itself, if one is given. -/
def like (_ : Collation) (values : List Value) : Option Value :=
  match values.mapM Value.text? with
  | none => some .null
  | some texts => do
    let escape ← match texts[2]?.map String.toList with
      | none => some none
      | some [c] => some (some c)
      | some _ => none
    pure (.ofTruth (some (Pattern.likes escape (texts.getD 0 "") (texts.getD 1 ""))))

/-- Whether a text fits a pattern with asterisks. -/
def glob (shape value : Value) : Value :=
  match shape.text?, value.text? with
  | some shape, some s => .ofTruth (some (Pattern.globs shape s))
  | _, _ => .null

/-- Whether a regular expression is found in a text; both must be texts. -/
def regexp (values : List Value) : Option Value :=
  match values with
  | [_, .null] => some .null
  | [.text shape, .text s] => (Regular.search? shape s).map fun found ↦ .ofTruth (some found)
  | _ => none

/-- Octets that are all zero. -/
def zeros (count : Value) : Value :=
  .octets (List.replicate count.toWord.toNat 0)

/-- A time written by the pattern that is the first value. -/
def strftime (values : List Value) : Value :=
  match (values.headD .null).text? with
  | some shape => Clock.pattern shape (values.getD 1 .null) (values.drop 2)
  | none => .null

/-- All functions on values. -/
def all : List Function :=
  [⟨"abs", 1, 1, fun _ values ↦ abs? (values.headD .null)⟩,
    ofOne "length" length, ofOne "lower" lower, ofOne "upper" upper, ofOne "unicode" unicode,
    ofOne "hex" hex, ofOne "quote" quote, ofOne "typeof" typeName, ofOne "sign" sign,
    ofOne "ceil" (toWhole .above), ofOne "ceiling" (toWhole .above), ofOne "floor" (toWhole .below),
    ofOne "trunc" (toWhole .inside), ofOne "sqrt" (fun x ↦ onReals (fun a _ ↦ squareRoot a) x x),
    ofOne "zeroblob" zeros, ofOne "likely" id, ofOne "unlikely" id,
    ofTwo "instr" instr, ofTwo "glob" glob, ofTwo "mod" (onReals remainder),
    ofTwo "likelihood" (fun value _ ↦ value),
    ofOneOrTwo "round" round,
    ofOneOrTwo "trim" (trimmed ⟨true, true⟩), ofOneOrTwo "ltrim" (trimmed ⟨true, false⟩),
    ofOneOrTwo "rtrim" (trimmed ⟨false, true⟩),
    ofTwoOrThree "substr" substr, ofTwoOrThree "substring" substr,
    ofTime "date" (Clock.pattern "%Y-%m-%d"), ofTime "time" (Clock.pattern "%H:%M:%S"),
    ofTime "datetime" (Clock.pattern "%Y-%m-%d %H:%M:%S"), ofTime "julianday" Clock.julianDay,
    ofTime "unixepoch" Clock.unixSeconds,
    ⟨"strftime", 2, widest, fun _ values ↦ some (strftime values)⟩,
    ⟨"replace", 3, 3, fun _ values ↦
      some (replace (values.getD 0 .null) (values.getD 1 .null) (values.getD 2 .null))⟩,
    ⟨"char", 0, widest, fun _ values ↦ some (char values)⟩,
    ⟨"printf", 0, widest, fun _ values ↦ some (Format.apply values)⟩,
    ⟨"format", 0, widest, fun _ values ↦ some (Format.apply values)⟩,
    ⟨"regexp", 2, 2, fun _ ↦ regexp⟩, ⟨"like", 2, 3, like⟩, ⟨"match", 2, 2, fun _ _ ↦ none⟩,
    ⟨"nullif", 2, 2, nullIf⟩,
    ⟨"min", 2, widest, foremost (· != .lt)⟩, ⟨"max", 2, widest, foremost (· == .lt)⟩]

/-- The function of a name that takes some number of arguments. -/
def find? (name : String) (count : Nat) : Option Function :=
  all.find? fun function ↦
    sameButAsciiCase function.name name && function.least ≤ count && count ≤ function.most

end Function

end StreamAudit.Sql
