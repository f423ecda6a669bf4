import StreamAudit.Text.Ascending

/-!
Grouping rows by a text: one group for each text that occurs, in ascending order, and in each group
its rows in their order.
-/

set_option autoImplicit false
set_option relaxedAutoImplicit false

namespace StreamAudit.Backend

open StreamAudit.Text

variable {α : Type}

/-- The groups of rows by their text. -/
def grouped (key : α → String) (rows : List α) : List (String × List α) :=
  (Ascending.ofList (rows.map key)).map fun text ↦ (text, rows.filter fun row ↦ key row = text)

/-- The first occurrence of every row. -/
def distinct [DecidableEq α] : List α → List α
  | [] => []
  | row :: rest => row :: (distinct rest).filter (· ≠ row)

theorem mem_distinct [DecidableEq α] {row : α} {rows : List α} :
    row ∈ distinct rows ↔ row ∈ rows := by
  induction rows with
  | nil => simp [distinct]
  | cons first rest ih =>
    by_cases h : row = first <;> simp [distinct, ih, h]

theorem nodup_distinct [DecidableEq α] (rows : List α) : (distinct rows).Nodup := by
  induction rows with
  | nil => simp [distinct]
  | cons first rest ih =>
    exact List.nodup_cons.mpr ⟨by simp, ih.sublist List.filter_sublist⟩

theorem distinct_of_nodup [DecidableEq α] {rows : List α} (h : rows.Nodup) :
    distinct rows = rows := by
  induction rows with
  | nil => rfl
  | cons row rest ih =>
    have hparts := List.nodup_cons.mp h
    rw [distinct, ih hparts.2, List.filter_eq_self.mpr]
    intro other hother
    rw [decide_eq_true_eq]
    rintro rfl
    exact hparts.1 hother

end StreamAudit.Backend
