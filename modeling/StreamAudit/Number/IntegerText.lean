import StreamAudit.Text.Blank
import StreamAudit.Text.Digit

/-!
Integers written by people: white space around, an optional sign, decimal digits of any script, and
single low lines between digits.
-/

set_option autoImplicit false
set_option relaxedAutoImplicit false

namespace StreamAudit.Number

open StreamAudit.Text

/-- The longest run of digits that is read or written as a number. -/
def digitLimit : Nat :=
  4300

/-- Whether an integer has more digits than are written. -/
def isTooLong (n : Int) : Bool :=
  Nat.pow 10 digitLimit ≤ n.natAbs

/-- The digits of a run in which a low line may stand between two digits. -/
def groupedDigits : List Char → Option (List Nat)
  | [] => none
  | [c] => (digit? c).map ([·])
  | c :: '_' :: rest => do
    let d ← digit? c
    let ds ← groupedDigits rest
    pure (d :: ds)
  | c :: rest => do
    let d ← digit? c
    let ds ← groupedDigits rest
    pure (d :: ds)

/-- Reads the digits of a number, unless there are too many. -/
def readNatural? (s : List Char) : Option Nat := do
  let ds ← groupedDigits s
  if ds.length ≤ digitLimit then some (readDigits 0 ds) else none

/-- Reads an integer. -/
def readInteger? (s : String) : Option Int :=
  match trimList isWhiteSpace s.toList with
  | '-' :: rest => (readNatural? rest).map fun n ↦ -(n : Int)
  | '+' :: rest => (readNatural? rest).map Int.ofNat
  | digits => (readNatural? digits).map Int.ofNat

end StreamAudit.Number
