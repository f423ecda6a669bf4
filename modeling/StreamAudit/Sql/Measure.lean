import StreamAudit.Number.Binary64
import StreamAudit.Number.Word

/-!
Measures, which a numeric column holds, and their sums. A sum of whole numbers must stay within 64
bits on its way; with a fraction among them it is a sum of doubles, added one after another. Nulls
are skipped, and the sum of nothing else is null.
-/

set_option autoImplicit false
set_option relaxedAutoImplicit false

namespace StreamAudit.Sql

open StreamAudit.Number

/-- What a numeric column holds. -/
inductive Measure where
  | null
  | whole (n : Int)
  | real (x : Binary64)
deriving DecidableEq, Repr

/-- The measure of a double; one without fraction is kept as a whole number if it fits 64 bits. -/
def Measure.ofReal (x : Binary64) : Measure :=
  match x.integer? with
  | some n => if -wordLimit < n ∧ n < wordLimit then .whole n else .real x
  | none => .real x

/-- The integer of a measure, its fraction dropped and null counting as zero, none for an
infinity. -/
def Measure.integer? : Measure → Option Int
  | .null => some 0
  | .whole n => some n
  | .real x => x.truncate?

/-- A running sum. The sum of doubles is kept beside the exact one, which counts, and may overflow,
as long as no double was added. -/
structure RunningSum where
  exact : Option Int := some 0
  rounded : Binary64 := .finite false 0
  hasReal : Bool := false
  isEmpty : Bool := true

namespace RunningSum

/-- Adds a measure; nulls are skipped. -/
def add (sum : RunningSum) : Measure → RunningSum
  | .null => sum
  | .whole n =>
    { sum with
      exact := if sum.hasReal then sum.exact else sum.exact.bind (addWord? · n)
      rounded := sum.rounded.add (.ofInt n)
      isEmpty := false }
  | .real x => { sum with rounded := sum.rounded.add x, hasReal := true, isEmpty := false }

/-- What a running sum comes to: null if nothing was added, nothing if it overflowed. -/
def result? (sum : RunningSum) : Option Measure :=
  sum.exact.map fun total ↦
    if sum.isEmpty then .null
    else if sum.hasReal then (if sum.rounded = .nan then .null else .real sum.rounded)
    else .whole total

end RunningSum

/-- The sum of measures. -/
def sum? (measures : List Measure) : Option Measure :=
  (measures.foldl RunningSum.add {}).result?

end StreamAudit.Sql
