import Mathlib.Algebra.BigOperators.Group.List.Basic
import Mathlib.Algebra.Order.BigOperators.Group.List
import Mathlib.Algebra.Order.Ring.Int
import Mathlib.Algebra.Ring.Int.Defs
import StreamAudit.Number.Word

/-!
A sum in 64 bits that is not refused is the sum of the numbers. What it passes on its way decides
whether it is refused, so a refusal says nothing about the sum itself; only a sum that never falls
is refused for what it comes to (`sumWords?_of_nonneg`).
-/

set_option autoImplicit false
set_option relaxedAutoImplicit false

namespace StreamAudit.Number

theorem addWord?_eq_some {total n sum : Int} (h : addWord? total n = some sum) :
    sum = total + n := by
  unfold addWord? at h
  split at h
  · exact (Option.some.inj h).symm
  · simp at h

theorem foldlM_addWord?_eq_some {numbers : List Int} {total sum : Int}
    (h : numbers.foldlM addWord? total = some sum) : sum = total + numbers.sum := by
  induction numbers generalizing total with
  | nil =>
    have := Option.some.inj h
    simp_all
  | cons n rest ih =>
    rw [List.foldlM_cons] at h
    obtain ⟨next, hnext, hrest⟩ := Option.bind_eq_some_iff.mp h
    rw [ih hrest, addWord?_eq_some hnext, List.sum_cons]
    omega

/-- A sum that only grows stays within 64 bits if it ends there. -/
theorem foldlM_addWord?_of_nonneg {numbers : List Int} {total : Int} (htotal : 0 ≤ total)
    (hnonneg : ∀ n ∈ numbers, 0 ≤ n) (hlimit : total + numbers.sum < wordLimit) :
    numbers.foldlM addWord? total = some (total + numbers.sum) := by
  induction numbers generalizing total with
  | nil => simp
  | cons n rest ih =>
    have hn := hnonneg n List.mem_cons_self
    have hrest : ∀ m ∈ rest, 0 ≤ m := fun m hm ↦ hnonneg m (List.mem_cons_of_mem n hm)
    have hsum : 0 ≤ rest.sum := List.sum_nonneg hrest
    rw [List.sum_cons] at hlimit ⊢
    have hfits : fitsWord (total + n) = true := by
      unfold fitsWord
      have hpos : (0 : Int) < wordLimit := by decide
      simp only [Bool.and_eq_true, decide_eq_true_eq]
      omega
    have hstep : addWord? total n = some (total + n) := by rw [addWord?, if_pos hfits]
    rw [List.foldlM_cons, hstep, Option.bind_eq_bind, Option.bind_some,
      ih (by omega) hrest (by omega), Int.add_assoc]

theorem sumWords?_of_nonneg {numbers : List Int} (hnonneg : ∀ n ∈ numbers, 0 ≤ n)
    (hlimit : numbers.sum < wordLimit) : sumWords? numbers = some numbers.sum := by
  have h := foldlM_addWord?_of_nonneg le_rfl hnonneg (by rwa [Int.zero_add])
  rwa [Int.zero_add] at h

theorem sumWords?_eq_some {numbers : List Int} {sum : Int} (h : sumWords? numbers = some sum) :
    sum = numbers.sum := by
  simpa using foldlM_addWord?_eq_some h

theorem fitsWord_of_foldlM {numbers : List Int} {total sum : Int} (htotal : fitsWord total = true)
    (h : numbers.foldlM addWord? total = some sum) : fitsWord sum = true := by
  induction numbers generalizing total with
  | nil => exact Option.some.inj h ▸ htotal
  | cons n rest ih =>
    rw [List.foldlM_cons] at h
    obtain ⟨next, hnext, hrest⟩ := Option.bind_eq_some_iff.mp h
    unfold addWord? at hnext
    split at hnext
    · rename_i hfits
      exact ih (Option.some.inj hnext ▸ hfits) hrest
    · cases hnext

/-- A sum that comes to 2^63 or more is refused. -/
theorem sumWords?_eq_none {numbers : List Int} (hlimit : wordLimit ≤ numbers.sum) :
    sumWords? numbers = none := by
  cases hsum : sumWords? numbers with
  | none => rfl
  | some sum =>
    have hfits := fitsWord_of_foldlM (by decide) hsum
    rw [sumWords?_eq_some hsum, fitsWord, Bool.and_eq_true, decide_eq_true_eq,
      decide_eq_true_eq] at hfits
    omega

/-- The order of numbers that are not negative decides neither about their sum nor about its
refusal. -/
theorem sumWords?_perm {numbers others : List Int} (h : numbers.Perm others)
    (hnonneg : ∀ n ∈ numbers, 0 ≤ n) : sumWords? numbers = sumWords? others := by
  have hothers : ∀ n ∈ others, 0 ≤ n := fun n hn ↦ hnonneg n (h.mem_iff.mpr hn)
  have hsum : numbers.sum = others.sum := h.sum_eq
  by_cases hlimit : numbers.sum < wordLimit
  · rw [sumWords?_of_nonneg hnonneg hlimit, sumWords?_of_nonneg hothers (hsum ▸ hlimit), hsum]
  · have hlimit : wordLimit ≤ numbers.sum := not_lt.mp hlimit
    rw [sumWords?_eq_none hlimit, sumWords?_eq_none (hsum ▸ hlimit)]

end StreamAudit.Number
