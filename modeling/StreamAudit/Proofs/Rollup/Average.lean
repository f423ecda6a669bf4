import Mathlib.Algebra.Order.Group.Unbundled.Int
import Mathlib.Algebra.Order.BigOperators.Group.List
import Mathlib.Algebra.Ring.Int.Defs
import Mathlib.Algebra.Order.Ring.Int
import Mathlib.Tactic.Linarith
import Mathlib.Tactic.Ring
import StreamAudit.Rollup

/-!
Averages toward zero. Where something was counted the average is the total divided by the count, cut
off toward zero (`averageDelay_bounds`). It is at least a bound if the total passes a threshold that
is linear in the count (`le_averageDelay_iff`), and thresholds add up (`Reaches.sum`): so the
average of several tallies together lies between the least and the greatest of their own averages
(`exists_averages_around`).
-/

set_option autoImplicit false
set_option relaxedAutoImplicit false

namespace StreamAudit.Rollup

variable {total count bound : Int}

theorem averageDelay_of_pos (h : 0 < count) : averageDelay total count = total.tdiv count :=
  if_neg (not_le.mpr h)

theorem averageDelay_neg (h : 0 < count) :
    averageDelay (-total) count = -averageDelay total count := by
  rw [averageDelay_of_pos h, averageDelay_of_pos h, Int.neg_tdiv]

theorem averageDelay_of_nonneg (h : 0 < count) (htotal : 0 ≤ total) :
    averageDelay total count = total / count := by
  rw [averageDelay_of_pos h, Int.tdiv_eq_ediv_of_nonneg htotal]

/-- Whether a total is so high that its average over a count is not below a bound. -/
def Reaches (bound total count : Int) : Prop :=
  if 0 < bound then bound * count ≤ total else (bound - 1) * count < total

theorem le_averageDelay_iff (h : 0 < count) :
    bound ≤ averageDelay total count ↔ Reaches bound total count := by
  unfold Reaches
  rcases le_or_gt 0 total with htotal | htotal
  · rw [averageDelay_of_nonneg h htotal, Int.le_ediv_iff_mul_le h]
    split_ifs with hbound
    · exact Iff.rfl
    · have hlow : bound * count ≤ 0 := mul_nonpos_of_nonpos_of_nonneg (not_lt.mp hbound) h.le
      have hlower : (bound - 1) * count = bound * count - count := by ring
      constructor
      · intro _
        linarith
      · intro _
        linarith
  · have hopposite : averageDelay total count = -(-total / count) := by
      rw [← averageDelay_of_nonneg h (neg_nonneg.mpr htotal.le), averageDelay_neg h, neg_neg]
    have hquotient : 0 ≤ -total / count := Int.ediv_nonneg (neg_nonneg.mpr htotal.le) h.le
    rw [hopposite]
    split_ifs with hbound
    · have hhigh : 0 < bound * count := mul_pos hbound h
      constructor
      · intro hle
        linarith
      · intro hle
        linarith
    · have hlower : (1 - bound) * count = -((bound - 1) * count) := by ring
      have hdiv : -total / count < 1 - bound ↔ -total < (1 - bound) * count :=
        Int.ediv_lt_iff_lt_mul h
      constructor
      · intro hle
        have hlt := hdiv.mp (by linarith)
        linarith
      · intro hlt
        have hlt := hdiv.mpr (by linarith)
        linarith

theorem Reaches.add {otherTotal otherCount : Int} (h : Reaches bound total count)
    (hother : Reaches bound otherTotal otherCount) :
    Reaches bound (total + otherTotal) (count + otherCount) := by
  unfold Reaches at *
  split_ifs at * with hbound
  · rw [mul_add]
    exact add_le_add h hother
  · rw [mul_add]
    exact add_lt_add h hother

/-- Totals that all reach a bound reach it together. -/
theorem Reaches.sum {tallies : List Tally} (hne : tallies ≠ [])
    (h : ∀ tally ∈ tallies, Reaches bound tally.delay tally.count) :
    Reaches bound (tallies.map Tally.delay).sum (tallies.map Tally.count).sum := by
  induction tallies with
  | nil => exact absurd rfl hne
  | cons tally rest ih =>
    obtain ⟨hfirst, hrest⟩ := List.forall_mem_cons.mp h
    rw [List.map_cons, List.map_cons, List.sum_cons, List.sum_cons]
    by_cases hlast : rest = []
    · subst hlast
      simpa using hfirst
    · exact hfirst.add (ih hlast hrest)

section Tallies

variable {tallies : List Tally}

theorem sum_count_pos (hne : tallies ≠ []) (hcounts : ∀ tally ∈ tallies, 0 < tally.count) :
    0 < (tallies.map Tally.count).sum :=
  List.sum_pos _ (List.forall_mem_map.mpr hcounts) (mt List.map_eq_nil_iff.mp hne)

/-- The average over some tallies, each of which counts something, is not below all of their
averages. -/
theorem exists_averageDelay_le (hne : tallies ≠ []) (hcounts : ∀ tally ∈ tallies, 0 < tally.count) :
    ∃ tally ∈ tallies, averageDelay tally.delay tally.count ≤
      averageDelay (tallies.map Tally.delay).sum (tallies.map Tally.count).sum := by
  have hcount : 0 < (tallies.map Tally.count).sum :=
    sum_count_pos hne hcounts
  by_contra hnone
  push Not at hnone
  have hreaches : ∀ tally ∈ tallies, Reaches
      (averageDelay (tallies.map Tally.delay).sum (tallies.map Tally.count).sum + 1)
        tally.delay tally.count :=
    fun tally htally ↦ (le_averageDelay_iff (hcounts tally htally)).mp (hnone tally htally)
  have hle := (le_averageDelay_iff hcount).mpr (Reaches.sum hne hreaches)
  omega

/-- The average over some tallies, each of which counts something, lies between two of their
averages. -/
theorem exists_averages_around (hne : tallies ≠ []) (hcounts : ∀ tally ∈ tallies, 0 < tally.count) :
    ∃ low ∈ tallies, ∃ high ∈ tallies,
      averageDelay low.delay low.count ≤
        averageDelay (tallies.map Tally.delay).sum (tallies.map Tally.count).sum ∧
      averageDelay (tallies.map Tally.delay).sum (tallies.map Tally.count).sum ≤
        averageDelay high.delay high.count := by
  have hcount : 0 < (tallies.map Tally.count).sum :=
    sum_count_pos hne hcounts
  obtain ⟨low, hlow, hle⟩ := exists_averageDelay_le hne hcounts
  -- The upper bound is the lower one of the tallies with opposite delays.
  let opposite (tally : Tally) : Tally := { tally with delay := -tally.delay }
  have hdelays : ((tallies.map opposite).map Tally.delay).sum = -(tallies.map Tally.delay).sum := by
    rw [List.map_map, List.sum_neg, List.map_map]
    rfl
  have hsame : ((tallies.map opposite).map Tally.count).sum = (tallies.map Tally.count).sum := by
    rw [List.map_map]
    rfl
  have hopposite : ∀ tally ∈ tallies.map opposite, 0 < tally.count :=
    List.forall_mem_map.mpr hcounts
  obtain ⟨_, hmem, hge⟩ := exists_averageDelay_le (mt List.map_eq_nil_iff.mp hne) hopposite
  obtain ⟨high, hhigh, rfl⟩ := List.mem_map.mp hmem
  rw [hdelays, hsame, averageDelay_neg hcount, averageDelay_neg (hcounts high hhigh),
    neg_le_neg_iff] at hge
  exact ⟨low, hlow, high, hhigh, hle, hge⟩

end Tallies

end StreamAudit.Rollup
