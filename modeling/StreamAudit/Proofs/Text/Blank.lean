import Mathlib.Data.List.TakeWhile
import Mathlib.Tactic.SplitIfs
import StreamAudit.Text.Blank

/-!
What trimming leaves. A text is void exactly if nothing is left of it between its blanks, and what
stands between blanks is left if it neither begins nor ends with one.
-/

set_option autoImplicit false
set_option relaxedAutoImplicit false

namespace StreamAudit.Text

theorem trimList_eq_nil_iff {drops : Char → Bool} {s : List Char} :
    trimList drops s = [] ↔ ∀ c ∈ s, drops c = true := by
  constructor
  · intro h
    rw [trimList, List.reverse_eq_nil_iff, List.dropWhile_eq_nil_iff] at h
    have hnil : s.dropWhile drops = [] := by
      cases hdrop : s.dropWhile drops with
      | nil => rfl
      | cons c rest =>
        have hkept := head?_dropWhile drops s c (by rw [hdrop]; rfl)
        rw [h c (by rw [hdrop]; simp)] at hkept
        cases hkept
    exact List.dropWhile_eq_nil_iff.mp hnil
  · intro h
    rw [trimList, List.dropWhile_eq_nil_iff.mpr h]
    rfl

/-- Trimming drops nothing but characters of its class. -/
theorem exists_eq_append_trimList (drops : Char → Bool) (s : List Char) : ∃ before after,
    (∀ c ∈ before, drops c = true) ∧ (∀ c ∈ after, drops c = true) ∧
      s = before ++ trimList drops s ++ after := by
  refine ⟨s.takeWhile drops, ((s.dropWhile drops).reverse.takeWhile drops).reverse,
    fun c hc ↦ List.mem_takeWhile_imp hc, fun c hc ↦
      List.mem_takeWhile_imp (List.mem_reverse.mp hc), ?_⟩
  rw [trimList, List.append_assoc, ← List.reverse_append, List.takeWhile_append_dropWhile,
    List.reverse_reverse, List.takeWhile_append_dropWhile]

/-- Trimming leaves what stands between the characters of its class. -/
theorem trimList_surrounded {drops : Char → Bool} {before core after : List Char}
    (hbefore : ∀ c ∈ before, drops c = true) (hafter : ∀ c ∈ after, drops c = true)
    (hcore : Trimmed drops core) (hne : core ≠ []) :
    trimList drops (before ++ core ++ after) = core := by
  have hfirst : (core ++ after).dropWhile drops = core ++ after := by
    obtain ⟨first, rest, rfl⟩ := List.exists_cons_of_ne_nil hne
    exact dropWhile_eq_self drops hcore.1
  have hlast : core.reverse.dropWhile drops = core.reverse := by
    refine dropWhile_eq_self drops ?_
    rw [List.head?_reverse]
    exact hcore.2
  rw [trimList, List.append_assoc, List.dropWhile_append_of_pos hbefore, hfirst,
    List.reverse_append, List.dropWhile_append_of_pos (by simpa using hafter), hlast,
    List.reverse_reverse]

/-- Trimming leaves a first character outside of its class. -/
theorem exists_trimList_cons {drops : Char → Bool} {first : Char} (h : drops first = false)
    (rest : List Char) :
    ∃ left, trimList drops (first :: rest) = first :: left := by
  rw [trimList, List.dropWhile_cons_of_neg (by simp [h]), List.reverse_cons, List.dropWhile_append]
  split_ifs
  · exact ⟨[], by simp [h]⟩
  · exact ⟨(rest.reverse.dropWhile drops).reverse, by simp⟩

theorem strip_eq_empty_iff {s : String} : strip s = "" ↔ isVoid s = true := by
  rw [strip, String.ofList_eq_empty_iff, trimList_eq_nil_iff, isVoid, List.all_eq_true]

end StreamAudit.Text
