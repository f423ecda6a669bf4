import StreamAudit.Backend.Outcome
import StreamAudit.Sql.Measure

/-!
Totals: what a statement with sums answers for one log time, and the point that it makes.
-/

set_option autoImplicit false
set_option relaxedAutoImplicit false

namespace StreamAudit.Backend

open StreamAudit.Sql

/-- The sums of count and delay of the rows of one log time. -/
structure Total where
  key : Json
  count : Measure
  delay : Measure

namespace Total

variable {α : Type}

/-- The total of a group of rows, none if one of its sums overflows. -/
def ofGroup? (count delay : α → Measure) (group : String × List α) : Option Total := do
  pure ⟨.text group.1, ← sum? (group.2.map count), ← sum? (group.2.map delay)⟩

/-- The integer of a sum. -/
def integerOf (sum : Measure) : Except Breakdown Int :=
  match sum.integer? with
  | some n => .ok n
  | none => .error (.malformed .infinite)

/-- The point of a total, under the label of its log time. -/
def point (total : Total) : Except Breakdown Point := do
  let label ← (Stamp.label total.key).mapError Breakdown.badKey
  let count ← integerOf total.count
  let delay ← integerOf total.delay
  pure ⟨.text label, count, delay⟩

end Total

end StreamAudit.Backend
