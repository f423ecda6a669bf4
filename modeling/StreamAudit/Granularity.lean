import StreamAudit.Label

/-!
Bucket sizes of a query. Minute buckets keep their labels at second precision, the finest that a
backend reports.
-/

set_option autoImplicit false
set_option relaxedAutoImplicit false

namespace StreamAudit

/-- The bucket size of a query. -/
inductive Granularity where
  | minute
  | hour
  | day
deriving DecidableEq, Repr

namespace Granularity

/-- The word for a bucket size. -/
def name : Granularity → String
  | .minute => "MINUTE"
  | .hour => "HOUR"
  | .day => "DAY"

/-- The bucket size of a word. -/
def ofName? (word : String) : Option Granularity :=
  [minute, hour, day].find? fun granularity ↦ granularity.name == word

/-- The precision of the labels. -/
def precision : Granularity → Precision
  | .minute => .second
  | .hour => .hour
  | .day => .day

/-- The precision of the labels for a value that is looked up among the words. Lists and objects
cannot be looked up; what is no such word has labels at second precision. -/
def precisionOf? : Json → Option Precision
  | .text word => some (((ofName? word).map precision).getD .second)
  | .list _ | .object _ => none
  | _ => some .second

end Granularity

end StreamAudit
