import Mathlib.Data.List.Forall2
import StreamAudit.Backend.Total
import StreamAudit.Proofs.Backend.Grouping
import StreamAudit.Proofs.Calls
import StreamAudit.Proofs.Relabel
import StreamAudit.Proofs.Sql.MeasureSum

/-!
The points of totals. Groups are answered exactly if each of them can be (`exists_answers_iff`), and
one after another (`answers_append_iff`). Under texts that are their own labels every point carries
the text of its group and the two totals (`answers_iff`). Whole numbers that are not negative have a
total unless they add up to 2^63 or more (`hasTotal_of_counts`), whatever their order
(`totals_of_perm`), and the total of whole numbers is their sum (`columnTotal_eq_sum`).
-/

set_option autoImplicit false
set_option relaxedAutoImplicit false

namespace StreamAudit.Backend

open StreamAudit.Calendar StreamAudit.Number StreamAudit.Sql

variable {α : Type}

/-- Whether a column has a sum over some rows, and the sum an integer part. -/
def HasTotal (column : α → Measure) (rows : List α) : Prop :=
  ((sum? (rows.map column)).bind Measure.integer?).isSome = true

/-- The integer part of the sum of a column over some rows, zero where there is none. -/
def columnTotal (column : α → Measure) (rows : List α) : Int :=
  ((sum? (rows.map column)).bind Measure.integer?).getD 0

theorem sum?_and_integerOf_iff {column : α → Measure} {rows : List α} {total : Int} :
    (∃ sum, sum? (rows.map column) = some sum ∧ Total.integerOf sum = .ok total) ↔
      HasTotal column rows ∧ total = columnTotal column rows := by
  unfold HasTotal columnTotal Total.integerOf
  cases sum? (rows.map column) with
  | none => simp
  | some sum =>
    simp only [Option.some.injEq, exists_eq_left', Option.bind_some]
    cases sum.integer? with
    | none => simp
    | some n => simp [eq_comm]

section WholeNumbers

variable {column : α → Measure} {rows : List α}

/-- The total of whole numbers and nulls is exact. -/
theorem columnTotal_eq_sum (hwhole : ∀ row ∈ rows, (column row).isInteger = true)
    (htotal : HasTotal column rows) :
    columnTotal column rows = (rows.map fun row ↦ (column row).wholeValue).sum := by
  have hmeasures : ∀ measure ∈ rows.map column, measure.isInteger = true := by
    simpa using hwhole
  obtain ⟨total, hsome⟩ := Option.isSome_iff_exists.mp htotal
  obtain ⟨sum, hsum, hinteger⟩ := Option.bind_eq_some_iff.mp hsome
  rw [columnTotal, hsome, Option.getD_some, integer_of_sum? hmeasures hsum hinteger, List.map_map]
  rfl

/-- Whole numbers and nulls that only grow on the way to a total within 64 bits have one. -/
theorem hasTotal_of_counts (hcounts : ∀ row ∈ rows, (column row).Counts)
    (hlimit : (rows.map fun row ↦ (column row).wholeValue).sum < wordLimit) :
    HasTotal column rows := by
  have hmeasures : ∀ measure ∈ rows.map column, measure.Counts :=
    List.forall_mem_map.mpr hcounts
  have hsum : ((rows.map column).filterMap Measure.whole?).sum < wordLimit := by
    rw [sum_filterMap_whole?, List.map_map]
    exact hlimit
  rw [HasTotal, integer?_sum? fun measure hmeasure ↦ (hmeasures measure hmeasure).1,
    sumWords?_of_nonneg (nonneg_of_counts hmeasures) hsum]
  rfl

/-- Whole numbers that are not negative are enough. -/
theorem hasTotal_of_nonneg (hwhole : ∀ row ∈ rows, ∃ n, column row = .whole n ∧ 0 ≤ n)
    (hlimit : (rows.map fun row ↦ (column row).wholeValue).sum < wordLimit) :
    HasTotal column rows := by
  refine hasTotal_of_counts (fun row hrow ↦ ?_) hlimit
  obtain ⟨n, hn, hnonneg⟩ := hwhole row hrow
  rw [hn]
  exact ⟨rfl, hnonneg⟩

/-- Rows that hold whole numbers with a total within 64 bits have a total in every part. -/
theorem hasTotal_of_subperm {part : List α} (hpart : part.Subperm rows)
    (hwhole : ∀ row ∈ rows, ∃ n, column row = .whole n ∧ 0 ≤ n)
    (hlimit : (rows.map fun row ↦ (column row).wholeValue).sum < wordLimit) :
    HasTotal column part := by
  obtain ⟨ordered, hperm, hsublist⟩ := hpart
  have hnonneg : ∀ value ∈ rows.map fun row ↦ (column row).wholeValue, 0 ≤ value := by
    simp only [List.mem_map]
    rintro _ ⟨row, hrow, rfl⟩
    obtain ⟨n, hn, hpos⟩ := hwhole row hrow
    rw [hn]
    exact hpos
  have hle := (hsublist.map fun row ↦ (column row).wholeValue).sum_le_sum hnonneg
  rw [(hperm.map fun row ↦ (column row).wholeValue).sum_eq] at hle
  refine hasTotal_of_nonneg (fun row hrow ↦ hwhole row ?_) (hle.trans_lt hlimit)
  exact hsublist.subset (hperm.mem_iff.mpr hrow)

end WholeNumbers

/-! ### From groups to points -/

section Points

variable {count delay : α → Measure}

/-- Whether a group can be answered: its text has a label, and both of its columns have a total. -/
def Answerable (count delay : α → Measure) (group : String × List α) : Prop :=
  (∃ label, Stamp.label (.text group.1) = .ok label) ∧ HasTotal count group.2 ∧
    HasTotal delay group.2

/-- A group that can be answered is answered by its label and the totals of its columns. -/
theorem point_ofGroup_iff {group : String × List α} {point : Point} :
    (∃ total, Total.ofGroup? count delay group = some total ∧ total.point = .ok point) ↔
      ∃ label, Stamp.label (.text group.1) = .ok label ∧
        (HasTotal count group.2 ∧ HasTotal delay group.2) ∧
          point = ⟨.text label, columnTotal count group.2, columnTotal delay group.2⟩ := by
  have hpoint : ∀ counts delays, (⟨.text group.1, counts, delays⟩ : Total).point =
      ((Stamp.label (.text group.1)).mapError Breakdown.badKey).bind fun label ↦
        (Total.integerOf counts).bind fun n ↦ (Total.integerOf delays).bind fun m ↦
          .ok ⟨.text label, n, m⟩ :=
    fun _ _ ↦ rfl
  constructor
  · rintro ⟨total, htotal, hok⟩
    simp only [Total.ofGroup?, Option.bind_eq_bind, Option.bind_eq_some_iff, Option.pure_def,
      Option.some.injEq] at htotal
    obtain ⟨counts, hcounts, delays, hdelays, rfl⟩ := htotal
    rw [hpoint] at hok
    obtain ⟨label, hlabel, hok⟩ := exists_of_bind_eq_ok hok
    obtain ⟨n, hcount, hok⟩ := exists_of_bind_eq_ok hok
    obtain ⟨m, hdelay, hok⟩ := exists_of_bind_eq_ok hok
    obtain ⟨hcountTotal, rfl⟩ := sum?_and_integerOf_iff.mp ⟨counts, hcounts, hcount⟩
    obtain ⟨hdelayTotal, rfl⟩ := sum?_and_integerOf_iff.mp ⟨delays, hdelays, hdelay⟩
    refine ⟨label, ?_, ⟨hcountTotal, hdelayTotal⟩, (Except.ok.inj hok).symm⟩
    cases hstamp : Stamp.label (.text group.1) with
    | error fault =>
      rw [hstamp] at hlabel
      cases hlabel
    | ok found =>
      rw [hstamp] at hlabel
      exact congrArg Except.ok (Except.ok.inj hlabel)
  · rintro ⟨label, hlabel, ⟨hcountTotal, hdelayTotal⟩, rfl⟩
    obtain ⟨counts, hcounts, hcount⟩ := sum?_and_integerOf_iff.mpr ⟨hcountTotal, rfl⟩
    obtain ⟨delays, hdelays, hdelay⟩ := sum?_and_integerOf_iff.mpr ⟨hdelayTotal, rfl⟩
    refine ⟨⟨.text group.1, counts, delays⟩, ?_, ?_⟩
    · simp [Total.ofGroup?, hcounts, hdelays]
    · rw [hpoint, hlabel, hcount, hdelay]
      rfl

/-- Two passes over a list, each of which may stop, go well if they do for the first element and for
the others. -/
theorem exists_mapM_cons_iff {β γ ε ι : Type} {f : ι → Option β} {g : β → Except ε γ} {first : ι}
    {rest : List ι} {results : List γ} :
    (∃ between, (first :: rest).mapM f = some between ∧ between.mapM g = .ok results) ↔
      ∃ result others, results = result :: others ∧
        (∃ b, f first = some b ∧ g b = .ok result) ∧
          ∃ between, rest.mapM f = some between ∧ between.mapM g = .ok others := by
  constructor
  · rintro ⟨between, hbetween, hresults⟩
    simp only [List.mapM_cons, Option.bind_eq_bind, Option.bind_eq_some_iff, Option.pure_def,
      Option.some.injEq] at hbetween
    obtain ⟨b, hb, bs, hbs, rfl⟩ := hbetween
    rw [List.mapM_cons] at hresults
    obtain ⟨result, hg, hresults⟩ := exists_of_bind_eq_ok hresults
    obtain ⟨others, hgs, hresults⟩ := exists_of_bind_eq_ok hresults
    exact ⟨result, others, (Except.ok.inj hresults).symm, ⟨b, hb, hg⟩, bs, hbs, hgs⟩
  · rintro ⟨result, others, rfl, ⟨b, hb, hg⟩, bs, hbs, hgs⟩
    refine ⟨b :: bs, ?_, ?_⟩
    · simp [List.mapM_cons, hb, hbs]
    · simp [List.mapM_cons, hg, hgs, bind, Except.bind, pure, Except.pure]

/-- Whether some points are what is answered for some groups. -/
def Answers (count delay : α → Measure) (groups : List (String × List α)) (points : List Point) :
    Prop :=
  ∃ sums, groups.mapM (Total.ofGroup? count delay) = some sums ∧ sums.mapM Total.point = .ok points

theorem answers_nil_iff {points : List Point} : Answers count delay [] points ↔ points = [] := by
  simp [Answers, pure, Except.pure, eq_comm]

theorem answers_cons_iff {group : String × List α} {rest : List (String × List α)}
    {points : List Point} :
    Answers count delay (group :: rest) points ↔ ∃ point others, points = point :: others ∧
      (∃ label, Stamp.label (.text group.1) = .ok label ∧
        (HasTotal count group.2 ∧ HasTotal delay group.2) ∧
          point = ⟨.text label, columnTotal count group.2, columnTotal delay group.2⟩) ∧
        Answers count delay rest others := by
  simp only [Answers, exists_mapM_cons_iff, point_ofGroup_iff]

/-- Groups are answered one by one. -/
theorem answers_iff_forall₂ {groups : List (String × List α)} {points : List Point} :
    Answers count delay groups points ↔ List.Forall₂ (fun group point ↦
      ∃ label, Stamp.label (.text group.1) = .ok label ∧
        (HasTotal count group.2 ∧ HasTotal delay group.2) ∧
          point = ⟨.text label, columnTotal count group.2, columnTotal delay group.2⟩) groups
            points := by
  induction groups generalizing points with
  | nil => rw [answers_nil_iff, List.forall₂_nil_left_iff]
  | cons group rest ih =>
    simp only [answers_cons_iff, List.forall₂_cons_left_iff, ih]
    constructor
    · rintro ⟨point, others, rfl, hpoint, hothers⟩
      exact ⟨point, others, hpoint, hothers, rfl⟩
    · rintro ⟨point, others, hpoint, hothers, rfl⟩
      exact ⟨point, others, rfl, hpoint, hothers⟩

/-- Groups are answered if each of them can be. -/
theorem exists_answers_iff {groups : List (String × List α)} :
    (∃ points, Answers count delay groups points) ↔
      ∀ group ∈ groups, Answerable count delay group := by
  induction groups with
  | nil => simp [answers_nil_iff]
  | cons group rest ih =>
    rw [List.forall_mem_cons, ← ih]
    simp only [answers_cons_iff]
    constructor
    · rintro ⟨_, point, others, -, ⟨label, hlabel, htotals, -⟩, hrest⟩
      exact ⟨⟨⟨label, hlabel⟩, htotals⟩, others, hrest⟩
    · rintro ⟨⟨⟨label, hlabel⟩, htotals⟩, others, hrest⟩
      exact ⟨_, _, others, rfl, ⟨label, hlabel, htotals, rfl⟩, hrest⟩

/-- What is answered for groups and more groups is what is answered for the first, followed by what
is answered for the others. -/
theorem answers_append_iff {first second : List (String × List α)} {points : List Point} :
    Answers count delay (first ++ second) points ↔ ∃ front back, points = front ++ back ∧
      Answers count delay first front ∧ Answers count delay second back := by
  induction first generalizing points with
  | nil => simp [answers_nil_iff]
  | cons group rest ih =>
    simp only [List.cons_append, answers_cons_iff, ih]
    constructor
    · rintro ⟨point, _, rfl, hpoint, front, back, rfl, hfront, hback⟩
      exact ⟨point :: front, back, rfl, ⟨point, front, rfl, hpoint, hfront⟩, hback⟩
    · rintro ⟨_, back, rfl, ⟨point, front, rfl, hpoint, hfront⟩, hback⟩
      exact ⟨point, front ++ back, rfl, hpoint, front, back, rfl, hfront, hback⟩

/-- Groups under texts that are their own labels are answered if both columns of every group have a
total. -/
theorem answers_iff {groups : List (String × List α)}
    (hlabel : ∀ group ∈ groups, Stamp.label (.text group.1) = .ok group.1) {points : List Point} :
    Answers count delay groups points ↔
      (∀ group ∈ groups, HasTotal count group.2 ∧ HasTotal delay group.2) ∧
        points = pointsOf (columnTotal count) (columnTotal delay) groups := by
  induction groups generalizing points with
  | nil => simp [answers_nil_iff, pointsOf]
  | cons group rest ih =>
    have hrest := fun others ↦
      @ih (fun other hother ↦ hlabel other (List.mem_cons_of_mem group hother)) others
    simp only [answers_cons_iff, hlabel group List.mem_cons_self, hrest, List.forall_mem_cons,
      Except.ok.injEq, exists_eq_left']
    constructor
    · rintro ⟨point, others, rfl, ⟨hgroup, rfl⟩, hgroups, rfl⟩
      exact ⟨⟨hgroup, hgroups⟩, rfl⟩
    · rintro ⟨⟨hgroup, hgroups⟩, rfl⟩
      exact ⟨_, _, rfl, ⟨hgroup, rfl⟩, hgroups, rfl⟩

/-- Groups of rows in another order have the same totals, or overflow alike. -/
theorem totals_of_perm {key : α → String} {rows others : List α}
    (h : rows.Perm others) (hcounts : ∀ row ∈ rows, (count row).Counts ∧ (delay row).Counts) :
    (grouped key rows).mapM (Total.ofGroup? count delay) =
      (grouped key others).mapM (Total.ofGroup? count delay) := by
  have htexts : Text.Ascending.ofList (rows.map key) = Text.Ascending.ofList (others.map key) :=
    Text.Ascending.ofList_congr fun text ↦ (h.map key).mem_iff
  rw [grouped, grouped, List.mapM_map, List.mapM_map, htexts]
  refine congrArg (List.mapM · _) (funext fun text ↦ ?_)
  have hperm := h.filter fun row ↦ decide (key row = text)
  have hcolumn : ∀ column : α → Measure, (∀ row ∈ rows, (column row).Counts) →
      sum? ((rows.filter fun row ↦ key row = text).map column) =
        sum? ((others.filter fun row ↦ key row = text).map column) := by
    intro column hcolumn
    refine sum?_perm (hperm.map column) fun measure hmeasure ↦ ?_
    obtain ⟨row, hrow, rfl⟩ := List.mem_map.mp hmeasure
    exact hcolumn row (List.mem_of_mem_filter hrow)
  simp only [Function.comp_apply, Total.ofGroup?, hcolumn count fun row hrow ↦ (hcounts row hrow).1,
    hcolumn delay fun row hrow ↦ (hcounts row hrow).2]

end Points

end StreamAudit.Backend
