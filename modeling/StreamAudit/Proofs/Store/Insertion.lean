import Mathlib.Data.List.Perm.Basic
import StreamAudit.Proofs.Calls
import StreamAudit.Store.Load

/-!
What every insertion keeps. Rows stand in ascending order of their numbers and apart from each
other, whatever rows were added and in whatever order (`keeps_addRows`, `kept_filled`). So nothing
is left of the order in which a database was filled: one with the same rows is the same database
(`eq_of_sameRows`).
-/

set_option autoImplicit false
set_option relaxedAutoImplicit false

namespace StreamAudit.Store

/-! ### One table -/

namespace Table

variable {α : Type} {clashes : α → α → Bool} {table later : Table α}

/-- Whether no two rows of a table clash. -/
def Apart (clashes : α → α → Bool) (table : Table α) : Prop :=
  table.Pairwise fun first second ↦ clashes first.data second.data = false

theorem apart_place (hsymm : ∀ first second, clashes first second = clashes second first)
    {row : Row α} (hapart : Apart clashes table)
    (hfresh : ∀ other ∈ table, clashes other.data row.data = false) :
    Apart clashes (place row table) := by
  induction table with
  | nil => simp [place, Apart]
  | cons first rest ih =>
    have hparts := List.pairwise_cons.mp hapart
    have hrest := ih hparts.2 fun other hother ↦ hfresh other (List.mem_cons_of_mem first hother)
    unfold place
    split
    · refine List.pairwise_cons.mpr ⟨fun other hother ↦ ?_, hapart⟩
      rw [hsymm]
      exact hfresh other hother
    · refine List.pairwise_cons.mpr ⟨fun other hother ↦ ?_, hrest⟩
      rcases mem_place.mp hother with rfl | hmem
      · exact hfresh first List.mem_cons_self
      · exact hparts.1 other hmem

theorem apart_insert? (hsymm : ∀ first second, clashes first second = clashes second first)
    (hapart : Apart clashes table) {id? : Option Int} {data : α}
    (h : insert? clashes table id? data = some later) : Apart clashes later := by
  unfold insert? at h
  simp only at h
  split at h
  · cases h
  · rename_i hany
    cases h
    refine apart_place hsymm hapart fun other hother ↦ Bool.eq_false_iff.mpr fun hclash ↦ hany ?_
    exact List.any_eq_true.mpr ⟨other, hother, by simp [hclash]⟩

/-- Rows in ascending order of their numbers are known as soon as they are known in any order. -/
theorem eq_of_perm {first second : Table α} (hfirst : Ordered first) (hsecond : Ordered second)
    (h : first.Perm second) : first = second := by
  refine h.eq_of_pairwise (fun row other _ _ hle hge ↦ ?_) hfirst hsecond
  exact absurd hle (by omega)

/-- A statement that orders rows by their numbers hands them out in ascending order, however they
lie. -/
theorem byId_of_perm {first second : Table α} (hfirst : Ordered first) (h : first.Perm second) :
    byId second = first := by
  have hdistinct : first.Pairwise fun row other ↦ row.id ≠ other.id :=
    hfirst.imp fun {row other} hlt ↦ Int.ne_of_lt hlt
  have hsecond := ordered_byId (h.pairwise hdistinct fun {row other} hne ↦ hne.symm)
  exact (eq_of_perm hfirst hsecond (h.trans (perm_byId second).symm)).symm

end Table

/-! ### Rows of a kind -/

namespace Kind

variable {α : Type} {kind : Kind α}

/-- Whether a table has its rows in order and apart from each other. -/
structure Keeps (kind : Kind α) (table : Table α) : Prop where
  ordered : table.Ordered
  apart : table.Apart kind.clashes

theorem keeps_empty (kind : Kind α) : kind.Keeps [] :=
  ⟨.nil, .nil⟩

/-- A row that is added is inserted with the number and the data that were read. -/
theorem exists_insert?_of_addRow {table later : Table α} {row : Json.Members}
    (h : kind.addRow table row = .ok later) :
    ∃ id? data, table.insert? kind.clashes id? data = some later := by
  unfold addRow at h
  split at h
  · cases h
  · split at h
    · obtain ⟨data, -, h⟩ := exists_of_bind_eq_ok h
      obtain ⟨id?, -, h⟩ := exists_of_bind_eq_ok h
      cases hinsert : table.insert? kind.clashes id? data with
      | none =>
        rw [hinsert] at h
        cases h
      | some all =>
        rw [hinsert] at h
        exact ⟨id?, data, Except.ok.inj h ▸ hinsert⟩
    · cases h

section Symmetric

variable (hsymm : ∀ first second, kind.clashes first second = kind.clashes second first)

include hsymm

theorem keeps_addRow {table later : Table α} {row : Json.Members} (hkeeps : kind.Keeps table)
    (h : kind.addRow table row = .ok later) : kind.Keeps later := by
  obtain ⟨id?, data, hinsert⟩ := exists_insert?_of_addRow h
  exact ⟨Table.ordered_insert? hkeeps.ordered hinsert,
    Table.apart_insert? hsymm hkeeps.apart hinsert⟩

theorem keeps_addRows {table later : Option (Table α)} {rows : List Json.Members}
    (hkeeps : ∀ known, table = some known → kind.Keeps known)
    (h : kind.addRows table rows = .ok later) :
    ∀ known, later = some known → kind.Keeps known := by
  unfold addRows at h
  obtain ⟨-, -, h⟩ := exists_of_bind_eq_ok h
  cases table with
  | none =>
    simp only at h
    split at h <;> cases h
    exact hkeeps
  | some known =>
    obtain ⟨all, hall, rfl⟩ := exists_of_map_eq_ok h
    have hlater : kind.Keeps all :=
      holds_of_foldlM (fun _ _ _ ↦ keeps_addRow hsymm) (hkeeps known rfl) hall
    exact fun _ heq ↦ Option.some.inj heq ▸ hlater

end Symmetric

end Kind

/-! ### All tables -/

namespace Database

/-- Whether all tables that are there have their rows in order and apart from each other. -/
structure Kept (database : Database) : Prop where
  items : ∀ table, database.items = some table → itemKind.Keeps table
  rawRows : ∀ table, database.rawRows = some table → rawRowKind.Keeps table
  sources : ∀ table, database.sources = some table → sourceKind.Keeps table
  groups : ∀ table, database.groups = some table → groupKind.Keeps table
  sinks : ∀ table, database.sinks = some table → (endpointKind "sink_type").Keeps table
  streamSources : ∀ table, database.streamSources = some table →
    (endpointKind "source_type").Keeps table

/-- The database after some insertions, each of rows into the table of a name. -/
def filled (database : Database) (insertions : List (String × List Json.Members)) :
    Except Fault Database :=
  insertions.foldlM (fun known insertion ↦ known.insert insertion.1 insertion.2) database

theorem kept_empty : empty.Kept := by
  constructor <;> exact fun table htable ↦ Option.some.inj htable ▸ Kind.keeps_empty _

theorem kept_insert {database later : Database} {name : String} {rows : List Json.Members}
    (hkept : database.Kept) (h : database.insert name rows = .ok later) : later.Kept := by
  unfold insert at h
  split at h
  · obtain ⟨items, hitems, h⟩ := exists_of_bind_eq_ok h
    cases h
    have hclash : ∀ first second, itemsClash first second = itemsClash second first :=
      fun _ _ ↦ BEq.comm
    exact { hkept with items := Kind.keeps_addRows hclash hkept.items hitems }
  · obtain ⟨rawRows, hrows, h⟩ := exists_of_bind_eq_ok h
    cases h
    exact { hkept with rawRows := Kind.keeps_addRows (fun _ _ ↦ rfl) hkept.rawRows hrows }
  · obtain ⟨sources, hsources, h⟩ := exists_of_bind_eq_ok h
    cases h
    exact { hkept with sources := Kind.keeps_addRows (fun _ _ ↦ rfl) hkept.sources hsources }
  · obtain ⟨groups, hgroups, h⟩ := exists_of_bind_eq_ok h
    cases h
    have hclash : ∀ first second, groupsClash first second = groupsClash second first :=
      fun _ _ ↦ BEq.comm
    exact { hkept with groups := Kind.keeps_addRows hclash hkept.groups hgroups }
  · obtain ⟨sinks, hsinks, h⟩ := exists_of_bind_eq_ok h
    cases h
    exact { hkept with sinks := Kind.keeps_addRows (fun _ _ ↦ rfl) hkept.sinks hsinks }
  · obtain ⟨streamSources, hsources, h⟩ := exists_of_bind_eq_ok h
    cases h
    exact { hkept with
      streamSources := Kind.keeps_addRows (fun _ _ ↦ rfl) hkept.streamSources hsources }
  · cases h

/-- Whatever was inserted, all tables are in order. -/
theorem kept_filled {database later : Database} {insertions : List (String × List Json.Members)}
    (hkept : database.Kept) (h : database.filled insertions = .ok later) : later.Kept :=
  holds_of_foldlM (fun _ _ _ ↦ kept_insert) hkept h

/-- Whether two tables are both missing or have the same rows. -/
abbrev SameTable {α : Type} : Option (Table α) → Option (Table α) → Prop :=
  Option.Rel List.Perm

theorem sameTable_refl {α : Type} (table : Option (Table α)) : SameTable table table := by
  cases table with
  | none => exact .none
  | some rows => exact .some (List.Perm.refl rows)

/-- Whether two databases hold the same rows under the same numbers. -/
structure SameRows (first second : Database) : Prop where
  items : SameTable first.items second.items
  rawRows : SameTable first.rawRows second.rawRows
  sources : SameTable first.sources second.sources
  groups : SameTable first.groups second.groups
  sinks : SameTable first.sinks second.sinks
  streamSources : SameTable first.streamSources second.streamSources

theorem eq_of_sameTable {α : Type} {kind : Kind α} {first second : Option (Table α)}
    (hfirst : ∀ table, first = some table → kind.Keeps table)
    (hsecond : ∀ table, second = some table → kind.Keeps table) (h : SameTable first second) :
    first = second := by
  cases h with
  | none => rfl
  | some hperm =>
    exact congrArg some (Table.eq_of_perm (hfirst _ rfl).ordered (hsecond _ rfl).ordered hperm)

/-- Databases in order that hold the same rows are the same. -/
theorem eq_of_sameRows {first second : Database} (hfirst : first.Kept) (hsecond : second.Kept)
    (h : first.SameRows second) : first = second := by
  cases first
  cases second
  obtain rfl := eq_of_sameTable hfirst.items hsecond.items h.items
  obtain rfl := eq_of_sameTable hfirst.rawRows hsecond.rawRows h.rawRows
  obtain rfl := eq_of_sameTable hfirst.sources hsecond.sources h.sources
  obtain rfl := eq_of_sameTable hfirst.groups hsecond.groups h.groups
  obtain rfl := eq_of_sameTable hfirst.sinks hsecond.sinks h.sinks
  obtain rfl := eq_of_sameTable hfirst.streamSources hsecond.streamSources h.streamSources
  rfl

end Database

end StreamAudit.Store
