import Mathlib.Algebra.BigOperators.Group.List.Basic
import Mathlib.Algebra.Ring.Int.Defs
import StreamAudit.Backend.Grouped
import StreamAudit.Proofs.Rollup

/-!
Grouping loses nothing and books nothing twice. The groups that satisfy a condition on their text
are the groups of the rows that do (`grouped_filter`), and sums over the groups add up to the sum
over the rows (`sum_grouped`). Rolling up points of groups therefore sums under every label the
groups of the rows that have the label (`tallies_grouped`).
-/

set_option autoImplicit false
set_option relaxedAutoImplicit false

namespace StreamAudit.Backend

open StreamAudit.Text

variable {α : Type}

theorem mem_grouped {key : α → String} {rows : List α} {group : String × List α} :
    group ∈ grouped key rows ↔
      (∃ row ∈ rows, key row = group.1) ∧ group.2 = rows.filter fun row ↦ key row = group.1 := by
  simp only [grouped, List.mem_map, Ascending.mem_ofList]
  constructor
  · rintro ⟨text, hrow, rfl⟩
    exact ⟨hrow, rfl⟩
  · rintro ⟨hrow, hgroup⟩
    exact ⟨group.1, hrow, by rw [← hgroup]⟩

theorem grouped_filter (key : α → String) (rows : List α) (keeps : String → Bool) :
    (grouped key rows).filter (fun group ↦ keeps group.1) =
      grouped key (rows.filter fun row ↦ keeps (key row)) := by
  have hkeys : (rows.filter fun row ↦ keeps (key row)).map key = (rows.map key).filter keeps := by
    rw [List.filter_map]
    rfl
  rw [grouped, grouped, hkeys, Ascending.ofList_filter, List.filter_map]
  refine List.map_congr_left fun text htext ↦ ?_
  have hkeeps : keeps text = true := (List.mem_filter.mp htext).2
  rw [List.filter_filter, Prod.mk.injEq]
  refine ⟨rfl, List.filter_congr fun row _ ↦ ?_⟩
  by_cases hkey : key row = text
  · simp [hkey, hkeeps]
  · simp [hkey]

/-- Sums over the rows of each of some texts add up to the sum over the rows, as long as every row
has one of the texts. -/
theorem sum_map_filter (key : α → String) (value : α → Int) {texts : List String}
    (hnodup : texts.Nodup) {rows : List α} (hrows : ∀ row ∈ rows, key row ∈ texts) :
    (texts.map fun text ↦ ((rows.filter fun row ↦ key row = text).map value).sum).sum =
      (rows.map value).sum := by
  induction rows with
  | nil => simp
  | cons row rest ih =>
    have hstep : ∀ text, (((row :: rest).filter fun other ↦ key other = text).map value).sum =
        (if text = key row then value row else 0) +
          ((rest.filter fun other ↦ key other = text).map value).sum := by
      intro text
      by_cases hkey : key row = text
      · simp [hkey]
      · simp [hkey, Ne.symm hkey]
    have hcount : texts.count (key row) = 1 :=
      List.count_eq_one_of_mem hnodup (hrows row List.mem_cons_self)
    simp only [hstep, List.sum_map_add, List.sum_map_ite_eq, hcount,
      ih fun other hother ↦ hrows other (List.mem_cons_of_mem row hother)]
    simp

/-- What the groups sum up to is what the rows sum up to. -/
theorem sum_grouped (key : α → String) (value : α → Int) (rows : List α) :
    ((grouped key rows).map fun group ↦ (group.2.map value).sum).sum = (rows.map value).sum := by
  rw [grouped, List.map_map]
  refine sum_map_filter key value (Ascending.nodup_ofList _) fun row hrow ↦ ?_
  exact Ascending.mem_ofList.mpr (List.mem_map_of_mem hrow)

/-! ### Points of groups -/

/-- The points of groups, each under the text of its group. -/
def pointsOf (count delay : List α → Int) (groups : List (String × List α)) : List Point :=
  groups.map fun group ↦ ⟨.text group.1, count group.2, delay group.2⟩

/-- The tally of the rows that have a label, each of its groups summed apart. -/
def tallyOf (key : α → String) (count delay : List α → Int) (labelOf : α → String) (rows : List α)
    (label : String) : Rollup.Tally where
  label := label
  count :=
    ((grouped key (rows.filter fun row ↦ labelOf row = label)).map fun group ↦ count group.2).sum
  delay :=
    ((grouped key (rows.filter fun row ↦ labelOf row = label)).map fun group ↦ delay group.2).sum

section Labelled

variable {precision : Precision} {key : α → String} {labelOf : α → String} {rows : List α}

theorem labels_pointsOf
    (hlabel : ∀ row ∈ rows, precision.relabel? (.text (key row)) = some (labelOf row))
    (count delay : List α → Int) :
    Rollup.labels precision (pointsOf count delay (grouped key rows)) =
      Ascending.ofList (rows.map labelOf) := by
  refine Ascending.ascending_ext (Ascending.sorted_ofList _) (Ascending.sorted_ofList _)
    fun label ↦ ?_
  rw [Rollup.mem_labels, Ascending.mem_ofList, List.mem_map]
  constructor
  · rintro ⟨point, hpoint, hkey⟩
    obtain ⟨group, hgroup, rfl⟩ := List.mem_map.mp hpoint
    obtain ⟨⟨row, hrow, htext⟩, _⟩ := mem_grouped.mp hgroup
    rw [← htext, hlabel row hrow, Option.some.injEq] at hkey
    exact ⟨row, hrow, hkey⟩
  · rintro ⟨row, hrow, rfl⟩
    have hgroup : (key row, rows.filter fun other ↦ key other = key row) ∈ grouped key rows :=
      mem_grouped.mpr ⟨⟨row, hrow, rfl⟩, rfl⟩
    exact ⟨_, List.mem_map.mpr ⟨_, hgroup, rfl⟩, hlabel row hrow⟩

/-- The groups of the rows under a label are the groups whose text has the label. -/
theorem grouped_labelled
    (hlabel : ∀ row ∈ rows, precision.relabel? (.text (key row)) = some (labelOf row))
    (label : String) :
    grouped key (rows.filter fun row ↦ labelOf row = label) =
      (grouped key rows).filter fun group ↦ precision.relabel? (.text group.1) = some label := by
  have hrows : (rows.filter fun row ↦ labelOf row = label) =
      rows.filter fun row ↦ decide (precision.relabel? (.text (key row)) = some label) := by
    refine List.filter_congr fun row hrow ↦ ?_
    simp only [hlabel row hrow, Option.some.injEq]
  rw [hrows, ← grouped_filter key rows fun text ↦
    decide (precision.relabel? (.text text) = some label)]

/-- The points under a label are those of the groups of the rows under the label. -/
theorem pointsAt_pointsOf
    (hlabel : ∀ row ∈ rows, precision.relabel? (.text (key row)) = some (labelOf row))
    (count delay : List α → Int) (label : String) :
    Rollup.pointsAt precision label (pointsOf count delay (grouped key rows)) =
      pointsOf count delay (grouped key (rows.filter fun row ↦ labelOf row = label)) := by
  rw [grouped_labelled hlabel, Rollup.pointsAt, pointsOf, pointsOf, List.filter_map,
    Function.comp_def]

/-- The points of groups whose texts have labels are tallied under the labels of their rows. -/
theorem tallies_grouped
    (hlabel : ∀ row ∈ rows, precision.relabel? (.text (key row)) = some (labelOf row))
    (count delay : List α → Int) :
    Rollup.tallies precision (pointsOf count delay (grouped key rows)) =
      (Ascending.ofList (rows.map labelOf)).map (tallyOf key count delay labelOf rows) := by
  rw [Rollup.tallies_eq, labels_pointsOf hlabel]
  refine List.map_congr_left fun label _ ↦ ?_
  rw [Rollup.tallyAt, pointsAt_pointsOf hlabel, tallyOf, pointsOf, List.map_map, List.map_map,
    Function.comp_def, Function.comp_def]

/-- The tallies of rows under their labels, each sum taken at once. -/
def tallied (labelOf : α → String) (count delay : α → Int) (rows : List α) : List Rollup.Tally :=
  (Ascending.ofList (rows.map labelOf)).map fun label ↦
    ⟨label, ((rows.filter fun row ↦ labelOf row = label).map count).sum,
      ((rows.filter fun row ↦ labelOf row = label).map delay).sum⟩

/-- Where the groups are summed exactly it does not matter how the rows were grouped. -/
theorem tallies_grouped_exact
    (hlabel : ∀ row ∈ rows, precision.relabel? (.text (key row)) = some (labelOf row))
    {count delay : α → Int} {counts delays : List α → Int}
    (hcounts : ∀ group ∈ grouped key rows, counts group.2 = (group.2.map count).sum)
    (hdelays : ∀ group ∈ grouped key rows, delays group.2 = (group.2.map delay).sum) :
    Rollup.tallies precision (pointsOf counts delays (grouped key rows)) =
      tallied labelOf count delay rows := by
  have hpoints : pointsOf counts delays (grouped key rows) =
      pointsOf (fun group ↦ (group.map count).sum) (fun group ↦ (group.map delay).sum)
        (grouped key rows) := by
    refine List.map_congr_left fun group hgroup ↦ ?_
    rw [hcounts group hgroup, hdelays group hgroup]
  rw [hpoints, tallies_grouped hlabel, tallied]
  refine List.map_congr_left fun label _ ↦ ?_
  rw [tallyOf, sum_grouped, sum_grouped]

end Labelled

section Tallied

variable {labelOf : α → String} {count delay : α → Int}

/-- The order of the rows leaves no trace in their tallies. -/
theorem tallied_perm {rows others : List α} (h : rows.Perm others) :
    tallied labelOf count delay rows = tallied labelOf count delay others := by
  have hlabels : Ascending.ofList (rows.map labelOf) = Ascending.ofList (others.map labelOf) :=
    Ascending.ofList_congr fun label ↦ (h.map labelOf).mem_iff
  rw [tallied, tallied, hlabels]
  refine List.map_congr_left fun label _ ↦ ?_
  have hfilter := h.filter fun row ↦ decide (labelOf row = label)
  rw [(hfilter.map count).sum_eq, (hfilter.map delay).sum_eq]

theorem tallied_map {β : Type} (f : β → α) (rows : List β) :
    tallied labelOf count delay (rows.map f) =
      tallied (fun row ↦ labelOf (f row)) (fun row ↦ count (f row)) (fun row ↦ delay (f row))
        rows := by
  simp only [tallied, List.map_map, List.filter_map, Function.comp_def]

end Tallied

end StreamAudit.Backend
