/-!
Tables of rows with a number of their own. Rows are kept in ascending order of their numbers
(`ordered_insert?`), in which a statement that orders them by number hands them out
(`byId_of_ordered`); a row that is added without a number takes the one after the largest, and a row
that clashes with another, by number or by content, is refused.
-/

set_option autoImplicit false
set_option relaxedAutoImplicit false

namespace StreamAudit.Store

/-- A row with its number. -/
structure Row (α : Type) where
  id : Int
  data : α
deriving DecidableEq, Repr

/-- Rows in ascending order of their numbers. -/
abbrev Table (α : Type) :=
  List (Row α)

namespace Table

variable {α : Type}

/-- The number of the next row. -/
def nextId (table : Table α) : Int :=
  (table.getLast?.map fun row ↦ row.id + 1).getD 1

/-- Puts a row before the first one with a larger number. -/
def place (row : Row α) : Table α → Table α
  | [] => [row]
  | other :: rest => if row.id < other.id then row :: other :: rest else other :: place row rest

/-- The rows as a statement hands them out that orders them by their numbers. -/
def byId (table : Table α) : Table α :=
  table.foldr place []

/-- Adds a row unless it clashes with one of the table. -/
def insert? (clashes : α → α → Bool) (table : Table α) (id? : Option Int) (data : α) :
    Option (Table α) :=
  let id := id?.getD (nextId table)
  if table.any fun row ↦ row.id == id || clashes row.data data then none
  else some (place ⟨id, data⟩ table)

theorem perm_place (row : Row α) (table : Table α) : (place row table).Perm (row :: table) := by
  induction table with
  | nil => exact List.Perm.refl _
  | cons first rest ih =>
    unfold place
    split
    · exact List.Perm.refl _
    · exact (ih.cons first).trans (List.Perm.swap row first rest)

theorem mem_place {row other : Row α} {table : Table α} :
    other ∈ place row table ↔ other = row ∨ other ∈ table :=
  (perm_place row table).mem_iff.trans List.mem_cons

theorem perm_byId (table : Table α) : (byId table).Perm table := by
  induction table with
  | nil => exact List.Perm.refl _
  | cons first rest ih => exact (perm_place first (byId rest)).trans (ih.cons first)

/-- A row that a condition leaves out can be put anywhere. -/
theorem filter_place {keeps : Row α → Bool} {row : Row α} (h : keeps row = false)
    (table : Table α) :
    (place row table).filter keeps = table.filter keeps := by
  induction table with
  | nil => simp [place, h]
  | cons first rest ih =>
    unfold place
    split
    · simp [h]
    · simp only [List.filter_cons, ih]

/-- Ascending by number, so that no two rows have the same one. -/
def Ordered (table : Table α) : Prop :=
  table.Pairwise fun first second ↦ first.id < second.id

theorem ordered_place {row : Row α} {table : Table α} (hordered : Ordered table)
    (hfresh : ∀ other ∈ table, other.id ≠ row.id) : Ordered (place row table) := by
  induction table with
  | nil => simp [place, Ordered]
  | cons first rest ih =>
    have hparts := List.pairwise_cons.mp hordered
    have hfirst := hfresh first List.mem_cons_self
    have hrest : ∀ other ∈ rest, other.id ≠ row.id :=
      fun other hother ↦ hfresh other (List.mem_cons_of_mem first hother)
    unfold place
    split
    · rename_i hlt
      refine List.pairwise_cons.mpr ⟨?_, hordered⟩
      intro other hother
      rcases List.mem_cons.mp hother with rfl | hmem
      · exact hlt
      · exact Int.lt_trans hlt (hparts.1 other hmem)
    · rename_i hnlt
      refine List.pairwise_cons.mpr ⟨?_, ih hparts.2 hrest⟩
      intro other hother
      rcases mem_place.mp hother with rfl | hmem
      · omega
      · exact hparts.1 other hmem

/-- Rows that all have numbers of their own are handed out in ascending order. -/
theorem ordered_byId {table : Table α}
    (hapart : table.Pairwise fun first second ↦ first.id ≠ second.id) : Ordered (byId table) := by
  induction table with
  | nil => exact List.Pairwise.nil
  | cons first rest ih =>
    have hparts := List.pairwise_cons.mp hapart
    refine ordered_place (ih hparts.2) fun other hother ↦ ?_
    exact (hparts.1 other ((perm_byId rest).mem_iff.mp hother)).symm

/-- Rows in ascending order are handed out as they stand. -/
theorem byId_of_ordered {table : Table α} (hordered : Ordered table) : byId table = table := by
  induction table with
  | nil => rfl
  | cons first rest ih =>
    have hparts := List.pairwise_cons.mp hordered
    have hrest : byId rest = rest := ih hparts.2
    rw [byId, List.foldr_cons, ← byId, hrest]
    cases rest with
    | nil => rfl
    | cons second others => exact if_pos (hparts.1 second List.mem_cons_self)

/-- Adding a row keeps the rows in order. -/
theorem ordered_insert? {clashes : α → α → Bool} {table later : Table α} {id? : Option Int}
    {data : α} (hordered : Ordered table) (h : insert? clashes table id? data = some later) :
    Ordered later := by
  unfold insert? at h
  simp only at h
  split at h
  · cases h
  · rename_i hany
    cases h
    refine ordered_place hordered fun other hother heq ↦ hany ?_
    exact List.any_eq_true.mpr ⟨other, hother, by simp [heq]⟩

/-- The row of a number is found wherever it stands. -/
theorem find?_of_mem {table : Table α} (hordered : Ordered table) {row : Row α}
    (hrow : row ∈ table) :
    (table.find? fun other ↦ other.id == row.id) = some row := by
  induction table with
  | nil => simp at hrow
  | cons first rest ih =>
    have hparts := List.pairwise_cons.mp hordered
    rcases List.mem_cons.mp hrow with rfl | hmem
    · simp
    · have hlt := hparts.1 row hmem
      have hne : (first.id == row.id) = false := by
        rw [beq_eq_false_iff_ne]
        omega
      rw [List.find?_cons, hne]
      exact ih hparts.2 hmem

end Table

end StreamAudit.Store
