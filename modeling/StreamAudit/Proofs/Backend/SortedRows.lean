import Mathlib.Data.List.Sort
import Mathlib.Data.String.Basic
import StreamAudit.Backend.Grouped
import StreamAudit.Proofs.Backend.Grouping
import StreamAudit.Proofs.Text.Ascending
import StreamAudit.Sql.Relation

/-!
What the sorting of a statement makes of rows. The first of all rows that agree are the distinct
rows, if rows that agree are the same (`firsts_map`). Rows that are sorted by a text, which keeps
those of one text in their order, stand in groups of one text each: the groups of the rows
(`groups_sorted`).
-/

set_option autoImplicit false
set_option relaxedAutoImplicit false

namespace StreamAudit.Sql.SortKey

open StreamAudit.Backend StreamAudit.Text

variable {α β : Type}

/-! ### The first rows of all that agree -/

section Firsts

variable [DecidableEq α] {keys : List SortKey} {row : α → Row} {rest : α → β}

/-- Things that are found already do not count again. -/
theorem filter_distinct_cons (known : List α) (thing : α) (things : List α) :
    (distinct (thing :: things)).filter (· ∉ known) =
      if thing ∈ known then (distinct things).filter (· ∉ known)
      else thing :: (distinct things).filter (· ∉ known ++ [thing]) := by
  rw [distinct, List.filter_cons, List.filter_filter]
  by_cases hknown : thing ∈ known
  · rw [if_pos hknown, if_neg (by simpa using hknown)]
    refine List.filter_congr fun other _ ↦ ?_
    rw [← Bool.decide_and]
    exact decide_eq_decide.mpr ⟨And.left, fun h ↦ ⟨h, fun heq ↦ h (heq ▸ hknown)⟩⟩
  · simp [hknown, not_or]

/-- A search for the first of all things that agree goes on from those that are found. -/
theorem foldl_firsts_map (rest : α → β) (known things : List α)
    (hagree : ∀ a ∈ known ++ things, ∀ b ∈ known ++ things,
      rowOrder keys (row a) (row b) = .eq ↔ a = b) :
    (things.map fun thing ↦ (row thing, rest thing)).foldl
        (fun found thing ↦ if found.any fun other ↦ rowOrder keys other.1 thing.1 == .eq then found
          else found ++ [thing])
        (known.map fun thing ↦ (row thing, rest thing)) =
      (known ++ (distinct things).filter (· ∉ known)).map fun thing ↦ (row thing, rest thing) := by
  induction things generalizing known with
  | nil => simp [distinct]
  | cons thing things ih =>
    have hfound : ((known.map fun thing ↦ (row thing, rest thing)).any fun other ↦
        rowOrder keys other.1 (row thing) == .eq) = decide (thing ∈ known) := by
      rw [Bool.eq_iff_iff, List.any_eq_true, decide_eq_true_eq]
      constructor
      · rintro ⟨_, hother, horder⟩
        obtain ⟨other, hknown, rfl⟩ := List.mem_map.mp hother
        have hsame := (hagree other (by simp [hknown]) thing (by simp)).mp (beq_iff_eq.mp horder)
        exact hsame ▸ hknown
      · intro hknown
        exact ⟨_, List.mem_map_of_mem hknown,
          beq_iff_eq.mpr ((hagree thing (by simp) thing (by simp)).mpr rfl)⟩
    simp only [List.map_cons, List.foldl_cons, hfound, decide_eq_true_eq, filter_distinct_cons]
    by_cases hknown : thing ∈ known
    · rw [if_pos hknown, if_pos hknown]
      have hsub : known ++ things ⊆ known ++ thing :: things :=
        List.append_subset.mpr ⟨List.subset_append_left .., fun other hother ↦ by simp [hother]⟩
      exact ih known fun a ha b hb ↦ hagree a (hsub ha) b (hsub hb)
    · rw [if_neg hknown, if_neg hknown]
      have hnext := ih (known ++ [thing]) (by simpa using hagree)
      simpa using hnext

/-- The first of all things that agree are the distinct ones, if things that agree are the same. -/
theorem firsts_map {things : List α}
    (hagree : ∀ a ∈ things, ∀ b ∈ things, rowOrder keys (row a) (row b) = .eq ↔ a = b) :
    firsts keys (things.map fun thing ↦ (row thing, rest thing)) =
      (distinct things).map fun thing ↦ (row thing, rest thing) := by
  have hall := foldl_firsts_map rest [] things (by simpa using hagree)
  simpa [firsts] using hall

end Firsts

/-! ### Groups of rows with one text -/

section Groups

variable {key : α → String} {rest : α → β}

/-- How rows are sorted by a column that is compared character by character. -/
def plain : SortKey where
  collation := .binary

theorem rowOrder_text (s t : String) : rowOrder [plain] [.text s] [.text t] = compare s t := by
  simp [rowOrder, order, plain, Value.order, Collation.key]

/-- Sorting by a text is sorting by the order of texts. -/
theorem sorted_map (things : List α) :
    sorted [plain] (things.map fun thing ↦ ([.text (key thing)], rest thing)) =
      (things.mergeSort fun a b ↦ key a ≤ key b).map
        fun thing ↦ ([.text (key thing)], rest thing) := by
  rw [sorted, List.map_mergeSort]
  intro a _ b _
  rw [rowOrder_text, Bool.eq_iff_iff, decide_eq_true_eq, bne_iff_ne, Ne, compare_gt_iff_gt, not_lt]

/-- What is sorted already stays as it is. -/
theorem sorted_of_pairwise {keys : List SortKey} {things : List (Row × α)}
    (h : things.Pairwise fun a b ↦ rowOrder keys a.1 b.1 ≠ .gt) : sorted keys things = things := by
  refine List.mergeSort_of_pairwise (h.imp fun hne ↦ ?_)
  rwa [bne_iff_ne]

theorem pairwise_mergeSort_key (things : List α) :
    (things.mergeSort fun a b ↦ key a ≤ key b).Pairwise fun a b ↦ key a ≤ key b := by
  have hsorted : (things.mergeSort fun a b ↦ key a ≤ key b).Pairwise
      fun a b ↦ decide (key a ≤ key b) = true :=
    List.pairwise_mergeSort (fun a b c ↦ by simpa using le_trans)
      (fun a b ↦ by simpa using le_total _ _) things
  simpa using hsorted

/-- Sorting keeps the order of the rows of one text. -/
theorem filter_mergeSort_key (things : List α) (text : String) :
    (things.mergeSort fun a b ↦ key a ≤ key b).filter (fun thing ↦ key thing = text) =
      things.filter fun thing ↦ key thing = text := by
  have hsub : (things.filter fun thing ↦ key thing = text).Sublist
      (things.mergeSort fun a b ↦ key a ≤ key b) := by
    refine List.sublist_mergeSort (fun a b c ↦ by simpa using le_trans)
      (fun a b ↦ by simpa using le_total _ _) ?_ List.filter_sublist
    refine List.pairwise_of_forall_mem_list fun a ha b hb ↦ ?_
    rw [decide_eq_true_eq, of_decide_eq_true (List.mem_filter.mp ha).2,
      of_decide_eq_true (List.mem_filter.mp hb).2]
  have hagain := hsub.filter fun thing ↦ key thing = text
  rw [List.filter_filter] at hagain
  simp only [Bool.and_self] at hagain
  exact (hagain.eq_of_length ((List.mergeSort_perm things _).filter _).length_eq.symm).symm

/-- A row whose text is the least comes in front of its group, and its group in front of the
others. -/
theorem grouped_cons_of_le {thing : α} {things : List α}
    (hle : ∀ other ∈ things, key thing ≤ key other) :
    grouped key (thing :: things) =
      (key thing, thing :: things.filter fun other ↦ key other = key thing) ::
        (grouped key things).filter fun group ↦ group.1 ≠ key thing := by
  have hkeys : Ascending.ofList ((thing :: things).map key) =
      key thing :: (Ascending.ofList (things.map key)).filter (· ≠ key thing) := by
    refine Ascending.ascending_ext (Ascending.sorted_ofList _) ?_ fun text ↦ ?_
    · refine List.pairwise_cons.mpr ⟨fun text htext ↦ ?_, (Ascending.sorted_ofList _).filter _⟩
      obtain ⟨htext, hne⟩ := List.mem_filter.mp htext
      obtain ⟨other, hother, rfl⟩ := List.mem_map.mp (Ascending.mem_ofList.mp htext)
      exact lt_of_le_of_ne (hle other hother) (Ne.symm (of_decide_eq_true hne))
    · rw [Ascending.mem_ofList, List.map_cons, List.mem_cons, List.mem_cons, List.mem_filter,
        Ascending.mem_ofList, decide_eq_true_eq]
      by_cases htext : text = key thing <;> simp [htext]
  have hothers : ∀ text ∈ (Ascending.ofList (things.map key)).filter (· ≠ key thing),
      (text, (thing :: things).filter fun row ↦ key row = text) =
        (text, things.filter fun row ↦ key row = text) := by
    intro text htext
    have hne : key thing ≠ text := Ne.symm (of_decide_eq_true (List.mem_filter.mp htext).2)
    rw [List.filter_cons_of_neg (by simpa using hne)]
  rw [grouped, hkeys, List.map_cons, List.map_congr_left hothers, grouped, List.filter_map,
    List.filter_cons_of_pos (by simp)]
  rfl

/-- Rows that ascend by a text stand in groups of one text each. -/
theorem groups_map_of_pairwise {things : List α}
    (hsorted : things.Pairwise fun a b ↦ key a ≤ key b) :
    groups [plain] (things.map fun thing ↦ ([.text (key thing)], rest thing)) =
      (grouped key things).map fun group ↦
        group.2.map fun thing ↦ ([.text (key thing)], rest thing) := by
  induction things with
  | nil => rfl
  | cons thing things ih =>
    obtain ⟨hle, hsorted⟩ := List.pairwise_cons.mp hsorted
    rw [List.map_cons, groups, ih hsorted, grouped_cons_of_le hle, List.map_cons, List.map_cons]
    cases things with
    | nil => rfl
    | cons next more =>
      have hnext := grouped_cons_of_le (List.pairwise_cons.mp hsorted).1
      rw [hnext, List.map_cons, List.map_cons]
      simp only [rowOrder_text, beq_iff_eq, Std.compare_eq_iff_eq]
      by_cases hsame : key thing = key next
      · have hmine : (next :: more).filter (fun other ↦ key other = key thing) =
            next :: more.filter fun other ↦ key other = key next := by
          rw [hsame]
          exact List.filter_cons_of_pos (by simp)
        have hothers : ((key next, next :: more.filter fun other ↦ key other = key next) ::
            (grouped key more).filter fun group ↦ group.1 ≠ key next).filter
              (fun group ↦ group.1 ≠ key thing) =
            (grouped key more).filter fun group ↦ group.1 ≠ key next := by
          rw [hsame, List.filter_cons_of_neg (by simp), List.filter_filter]
          simp only [Bool.and_self]
        rw [if_pos hsame, hmine, hothers]
        rfl
      · have hbehind : ∀ other ∈ next :: more, key other ≠ key thing := by
          intro other hother heq
          refine hsame (le_antisymm (hle next List.mem_cons_self) ?_)
          rcases List.mem_cons.mp hother with rfl | hmore
          · exact heq.le
          · exact heq ▸ (List.pairwise_cons.mp hsorted).1 other hmore
        have hothers : (grouped key (next :: more)).filter (fun group ↦ group.1 ≠ key thing) =
            grouped key (next :: more) := by
          refine List.filter_eq_self.mpr fun group hgroup ↦ ?_
          obtain ⟨⟨other, hother, hkey⟩, -⟩ := mem_grouped.mp hgroup
          simpa [← hkey] using hbehind other hother
        have hnone : (next :: more).filter (fun other ↦ key other = key thing) = [] := by
          simpa [List.filter_eq_nil_iff] using hbehind
        rw [if_neg hsame, hnone, ← hnext, hothers, hnext]
        rfl

/-- Rows that are sorted by a text stand in the groups of the rows. -/
theorem groups_sorted (things : List α) :
    groups [plain] (sorted [plain] (things.map fun thing ↦ ([.text (key thing)], rest thing))) =
      (grouped key things).map fun group ↦
        group.2.map fun thing ↦ ([.text (key thing)], rest thing) := by
  have hkeys : Ascending.ofList ((things.mergeSort fun a b ↦ key a ≤ key b).map key) =
      Ascending.ofList (things.map key) :=
    Ascending.ofList_congr fun text ↦ ((List.mergeSort_perm things _).map key).mem_iff
  rw [sorted_map, groups_map_of_pairwise (pairwise_mergeSort_key things), grouped, hkeys]
  simp only [filter_mergeSort_key, grouped]

end Groups

end StreamAudit.Sql.SortKey
