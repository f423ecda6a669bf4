import StreamAudit.Label
import StreamAudit.Series

/-!
Rolling series up. Points are tallied under the label that their key has at a precision; a point
whose key has none is skipped. The tallies are kept in ascending order of their labels, and each
becomes a bucket whose delay is the average, toward zero.
-/

set_option autoImplicit false
set_option relaxedAutoImplicit false

namespace StreamAudit.Rollup

/-- The totals of the points under one label. -/
structure Tally where
  label : String
  count : Int
  delay : Int
deriving DecidableEq, Repr

/-- The average of a total, toward zero; nothing was delayed where nothing was counted. -/
def averageDelay (total count : Int) : Int :=
  if count ≤ 0 then 0 else total.tdiv count

/-- Adds a count and a delay to the tally of a label. -/
def add (label : String) (count delay : Int) : List Tally → List Tally
  | [] => [⟨label, count, delay⟩]
  | tally :: rest =>
    if label < tally.label then ⟨label, count, delay⟩ :: tally :: rest
    else if label = tally.label then ⟨label, tally.count + count, tally.delay + delay⟩ :: rest
    else tally :: add label count delay rest

/-- Tallies one more point. -/
def step (precision : Precision) (tallies : List Tally) (point : Point) : List Tally :=
  match precision.relabel? point.key with
  | some label => add label point.count point.delay tallies
  | none => tallies

/-- The tallies of some points. -/
def tallies (precision : Precision) (points : List Point) : List Tally :=
  points.foldl (step precision) []

/-- The bucket of a tally. -/
def Tally.bucket (tally : Tally) : Bucket :=
  ⟨tally.label, tally.count, averageDelay tally.delay tally.count⟩

/-- The buckets of a series. -/
def report (precision : Precision) (series : Series) : Report :=
  ⟨series.auditId, series.nodeType, (tallies precision series.points).map Tally.bucket⟩

end StreamAudit.Rollup
