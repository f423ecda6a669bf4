import Mathlib.Algebra.BigOperators.Group.List.Basic
import Mathlib.Algebra.Ring.Int.Defs
import Mathlib.Data.List.Induction
import StreamAudit.Proofs.Text.Ascending
import StreamAudit.Rollup

/-!
What a series is rolled up to. The tallies stand in ascending order of their labels, one for every
label that a point has, and each adds up the points of its label and no other ones (`tallies_eq`).
Adding a point keeps this shape (`add_map`), and so does a run over any number of points.
-/

set_option autoImplicit false
set_option relaxedAutoImplicit false

namespace StreamAudit.Rollup

open StreamAudit.Text

/-- The labels that some points have, in ascending order. -/
def labels (precision : Precision) (points : List Point) : List String :=
  Ascending.ofList (points.filterMap fun point ↦ precision.relabel? point.key)

/-- The points under one label. -/
def pointsAt (precision : Precision) (label : String) (points : List Point) : List Point :=
  points.filter fun point ↦ precision.relabel? point.key = some label

/-- The totals of the points under one label. -/
def tallyAt (precision : Precision) (points : List Point) (label : String) : Tally where
  label := label
  count := ((pointsAt precision label points).map Point.count).sum
  delay := ((pointsAt precision label points).map Point.delay).sum

/-- Adding to the tally of a label leaves the other tallies as they are. -/
theorem add_map {texts : List String} (hsorted : Ascending.Sorted texts) (label : String)
    (count delay : Int) (before after : String → Tally)
    (hlabel : ∀ text, (before text).label = text)
    (hsame : ∀ text ∈ texts, text ≠ label → after text = before text) (hold : label ∈ texts →
      after label = ⟨label, (before label).count + count, (before label).delay + delay⟩)
    (hnew : label ∉ texts → after label = ⟨label, count, delay⟩) :
    add label count delay (texts.map before) = (Ascending.insert label texts).map after := by
  induction texts with
  | nil => simp [add, Ascending.insert, hnew]
  | cons text rest ih =>
    have hparts := List.pairwise_cons.mp hsorted
    have hrest : label ∉ rest → rest.map before = rest.map after := by
      intro habsent
      refine List.map_congr_left fun other hother ↦ (hsame other ?_ ?_).symm
      · exact List.mem_cons_of_mem text hother
      · rintro rfl
        exact habsent hother
    simp only [List.map_cons, add, Ascending.insert, hlabel]
    split
    · rename_i hlt
      have habsent : label ∉ rest := fun hmem ↦
        String.lt_irrefl _ (String.lt_trans hlt (hparts.1 label hmem))
      have hne : label ≠ text := fun heq ↦ String.lt_irrefl _ (heq ▸ hlt)
      have hfirst := hsame text List.mem_cons_self hne.symm
      rw [List.map_cons, List.map_cons, hrest habsent, hfirst, hnew (by simp [hne, habsent])]
    · split
      · rename_i heq
        subst heq
        have habsent : label ∉ rest := fun hmem ↦ String.lt_irrefl _ (hparts.1 label hmem)
        rw [List.map_cons, hrest habsent, hold List.mem_cons_self]
      · rename_i hne
        have hfirst := hsame text List.mem_cons_self (Ne.symm hne)
        rw [List.map_cons, hfirst, ih hparts.2]
        · exact fun other hother ↦ hsame other (List.mem_cons_of_mem text hother)
        · exact fun hmem ↦ hold (List.mem_cons_of_mem text hmem)
        · exact fun habsent ↦ hnew (by simp [hne, habsent])

theorem mem_labels {precision : Precision} {points : List Point} {label : String} :
    label ∈ labels precision points ↔
      ∃ point ∈ points, precision.relabel? point.key = some label := by
  rw [labels, Ascending.mem_ofList, List.mem_filterMap]

theorem pointsAt_concat (precision : Precision) (label : String) (points : List Point)
    (point : Point) :
    pointsAt precision label (points ++ [point]) = pointsAt precision label points ++
      (if precision.relabel? point.key = some label then [point] else []) := by
  rw [pointsAt, List.filter_append, List.filter_singleton]
  simp [pointsAt]

/-- One more point keeps the tallies in shape. -/
theorem step_tallies (precision : Precision) (points : List Point) (point : Point) :
    step precision ((labels precision points).map (tallyAt precision points)) point =
      (labels precision (points ++ [point])).map (tallyAt precision (points ++ [point])) := by
  unfold step
  cases hkey : precision.relabel? point.key with
  | none =>
    have hlabels : labels precision (points ++ [point]) = labels precision points := by
      simp [labels, hkey]
    rw [hlabels]
    refine List.map_congr_left fun label _ ↦ ?_
    simp [tallyAt, pointsAt_concat, hkey]
  | some label =>
    have hlabels : labels precision (points ++ [point]) =
        Ascending.insert label (labels precision points) := by
      simp [labels, List.filterMap_append, hkey, Ascending.ofList_concat]
    rw [hlabels]
    refine add_map (Ascending.sorted_ofList _) label point.count point.delay _ _
      (fun _ ↦ rfl) ?_ ?_ ?_
    · intro other _ hne
      simp [tallyAt, pointsAt_concat, hkey, Ne.symm hne]
    · intro _
      simp [tallyAt, pointsAt_concat, hkey]
    · intro habsent
      have hnone : pointsAt precision label points = [] := by
        refine List.filter_eq_nil_iff.mpr fun other hother heq ↦ habsent ?_
        exact mem_labels.mpr ⟨other, hother, of_decide_eq_true heq⟩
      simp [tallyAt, pointsAt_concat, hkey, hnone]

/-- The tallies of a series, one for each of its labels. -/
theorem tallies_eq (precision : Precision) (points : List Point) :
    tallies precision points = (labels precision points).map (tallyAt precision points) := by
  induction points using List.reverseRecOn with
  | nil => rfl
  | append_singleton points point ih =>
    rw [← step_tallies, ← ih, tallies, tallies, List.foldl_append]
    rfl

end StreamAudit.Rollup
