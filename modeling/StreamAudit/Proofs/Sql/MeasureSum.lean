import Mathlib.Algebra.BigOperators.Group.List.Basic
import Mathlib.Algebra.Ring.Int.Defs
import StreamAudit.Number.WordSum
import StreamAudit.Sql.Measure

/-!
Sums of measures that are no doubles. Such a sum is the sum of the whole numbers in 64 bits, with
nulls counting for nothing (`integer?_sum?`), and where none of the numbers is negative it does not
depend on their order (`sum?_perm`).
-/

set_option autoImplicit false
set_option relaxedAutoImplicit false

namespace StreamAudit.Sql

open StreamAudit.Number

namespace Measure

/-- Whether a measure is a whole number or null. -/
def isInteger : Measure → Bool
  | .real _ => false
  | _ => true

/-- The whole number that a measure is. -/
def whole? : Measure → Option Int
  | .whole n => some n
  | _ => none

/-- What a measure without fraction adds to a sum. -/
def wholeValue (measure : Measure) : Int :=
  measure.whole?.getD 0

end Measure

theorem sum_filterMap_whole? (measures : List Measure) :
    (measures.filterMap Measure.whole?).sum = (measures.map Measure.wholeValue).sum := by
  induction measures with
  | nil => rfl
  | cons measure rest ih =>
    rw [List.map_cons, List.sum_cons, ← ih, Measure.wholeValue]
    cases hwhole : measure.whole? with
    | none => simp [hwhole]
    | some n => simp [hwhole]

/-- Adding measures without fraction adds their whole numbers, as long as no double was added
before. -/
theorem RunningSum.foldl_add {measures : List Measure}
    (h : ∀ measure ∈ measures, measure.isInteger = true) {sum : RunningSum}
    (hreal : sum.hasReal = false) :
    (measures.foldl add sum).hasReal = false ∧
      (measures.foldl add sum).isEmpty =
        (sum.isEmpty && (measures.filterMap Measure.whole?).isEmpty) ∧
      (measures.foldl add sum).exact =
        sum.exact.bind fun start ↦ (measures.filterMap Measure.whole?).foldlM addWord? start := by
  induction measures generalizing sum with
  | nil => simp [hreal]
  | cons measure rest ih =>
    have hrest : ∀ other ∈ rest, other.isInteger = true :=
      fun other hother ↦ h other (List.mem_cons_of_mem measure hother)
    rw [List.foldl_cons]
    cases measure with
    | null => exact ih hrest hreal
    | whole n =>
      have hadded : (sum.add (.whole n)).hasReal = false := hreal
      obtain ⟨hnoReal, hempty, hexact⟩ := ih hrest hadded
      refine ⟨hnoReal, ?_, ?_⟩
      · rw [hempty]
        simp [add, Measure.whole?]
      · rw [hexact]
        simp [add, hreal, Measure.whole?, Option.bind_assoc]
    | real x => exact absurd (h (.real x) List.mem_cons_self) (by simp [Measure.isInteger])

theorem sum?_eq_sumWords? {measures : List Measure}
    (h : ∀ measure ∈ measures, measure.isInteger = true) :
    sum? measures = (sumWords? (measures.filterMap Measure.whole?)).map fun total ↦
      if (measures.filterMap Measure.whole?).isEmpty then .null else .whole total := by
  have hnoReal : ({} : RunningSum).hasReal = false := rfl
  obtain ⟨hreal, hempty, hexact⟩ := RunningSum.foldl_add h hnoReal
  rw [sum?, RunningSum.result?, hexact, hempty, hreal, sumWords?, Option.bind_some]
  rfl

/-- The sum of measures without fraction is the sum of their whole numbers in 64 bits. -/
theorem integer?_sum? {measures : List Measure}
    (h : ∀ measure ∈ measures, measure.isInteger = true) :
    (sum? measures).bind Measure.integer? = sumWords? (measures.filterMap Measure.whole?) := by
  rw [sum?_eq_sumWords? h]
  generalize measures.filterMap Measure.whole? = numbers
  cases numbers with
  | nil => rfl
  | cons n rest => cases sumWords? (n :: rest) <;> rfl

/-- Where measures without fraction have a sum, it is exact. -/
theorem integer_of_sum? {measures : List Measure} {sum : Measure} {n : Int}
    (h : ∀ measure ∈ measures, measure.isInteger = true) (hsum : sum? measures = some sum)
    (hn : sum.integer? = some n) : n = (measures.map Measure.wholeValue).sum := by
  have hwords := integer?_sum? h
  rw [hsum, Option.bind_some, hn] at hwords
  rw [sumWords?_eq_some hwords.symm, sum_filterMap_whole?]

/-- Whether a measure is null or a whole number that is not negative. -/
def Measure.Counts (measure : Measure) : Prop :=
  measure.isInteger = true ∧ 0 ≤ measure.wholeValue

theorem nonneg_of_counts {measures : List Measure}
    (hcounts : ∀ measure ∈ measures, measure.Counts) :
    ∀ n ∈ measures.filterMap Measure.whole?, 0 ≤ n := by
  intro n hn
  obtain ⟨measure, hmeasure, hvalue⟩ := List.mem_filterMap.mp hn
  have hcount := (hcounts measure hmeasure).2
  rwa [Measure.wholeValue, hvalue] at hcount

/-- The order of measures that count leaves no trace in their sum, nor in whether they have one. -/
theorem sum?_perm {measures others : List Measure} (h : measures.Perm others)
    (hcounts : ∀ measure ∈ measures, measure.Counts) : sum? measures = sum? others := by
  have hwhole : (measures.filterMap Measure.whole?).Perm (others.filterMap Measure.whole?) :=
    h.filterMap Measure.whole?
  rw [sum?_eq_sumWords? fun measure hmeasure ↦ (hcounts measure hmeasure).1,
    sum?_eq_sumWords? fun measure hmeasure ↦ (hcounts measure (h.mem_iff.mpr hmeasure)).1,
    sumWords?_perm hwhole (nonneg_of_counts hcounts), hwhole.isEmpty_eq]

end StreamAudit.Sql
