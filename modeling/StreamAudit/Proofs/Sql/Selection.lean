import Mathlib.Data.List.Zip
import StreamAudit.Proofs.Backend.SortedRows
import StreamAudit.Proofs.Traversal
import StreamAudit.Sql.Interpretation.Selection

/-!
The rows of selections whose phrases have their meanings. A selection without groups has a row for
every row that it keeps (`rows?_of_plain`); one that groups by a text, and is sorted by it, has a
row for every group in the order of the texts, unless a result fails for one (`rows?_of_grouped`).
-/

set_option autoImplicit false
set_option relaxedAutoImplicit false

namespace StreamAudit.Sql.Selected

open StreamAudit.Backend StreamAudit.Text SortKey

variable {selected : Selected} {outer : List Frame}

theorem filterM_keeps_none (frames : List Frame) :
    frames.filterM (keeps none outer) = some frames :=
  filterM_eq_self fun _ _ ↦ rfl

section Plain

variable {α : Type} {things : List α} {row result : α → Row} {keepsThing : α → Bool}

/-- A selection without groups and without an order has a result for every row that it keeps. -/
theorem rows?_of_plain (hsource : selected.source.rows outer = some (things.map row))
    (hgrouped : selected.isGrouped = false) (hhaving : selected.having = none)
    (hterms : selected.terms = [])
    (hcondition : ∀ thing ∈ things,
      keeps selected.condition outer ⟨row thing, []⟩ = some (keepsThing thing))
    (hresult : ∀ thing ∈ things, ∀ around : Surroundings,
      around.frames = ⟨row thing, []⟩ :: outer →
        Meaning.row selected.meanings around = some (result thing)) :
    selected.rows? outer =
      some (selected.arranged ((things.filter keepsThing).map fun thing ↦ (result thing, []))) := by
  have hkept : (things.map row).filterM (fun row ↦ keeps selected.condition outer ⟨row, []⟩) =
      some ((things.filter keepsThing).map row) :=
    filterM_map_eq_some hcondition
  have hframes : selected.frames? outer ((things.filter keepsThing).map row) =
      some ((things.filter keepsThing).map fun thing ↦ ⟨row thing, []⟩) := by
    rw [frames?, hgrouped, List.map_map]
    rfl
  have hdescribed :
      selected.described? outer ((things.filter keepsThing).map fun thing ↦ ⟨row thing, []⟩) =
        some ((things.filter keepsThing).map fun thing ↦ (result thing, [])) := by
    rw [described?, List.zipIdx_map, List.mapM_map,
      mapM_zipIdx (g := fun thing ↦ some (result thing, [])), mapM_eq_some fun _ _ ↦ rfl]
    intro thing hthing place
    have hfound := hresult thing (List.mem_filter.mp hthing).1
      ⟨⟨row thing, []⟩ :: outer, (things.filter keepsThing).map fun thing ↦ ⟨row thing, []⟩, place⟩
      rfl
    simp only [Function.comp, Prod.map_apply, id_eq, hfound, hterms]
    rfl
  rw [rows?, hsource]
  simp only [Option.bind_eq_bind, Option.bind_some, hkept, hframes, hhaving, filterM_keeps_none,
    hdescribed]
  rfl

end Plain

theorem arranged_of_distinct (hdistinct : selected.isDistinct = true) (hterms : selected.terms = [])
    (described : List (Row × Row)) : selected.arranged described =
      (firsts (selected.headings.map Heading.sortKey) described).map Prod.fst := by
  rw [arranged, hdistinct, hterms, sorted_of_pairwise, List.map_map]
  · rfl
  · exact List.pairwise_of_forall fun _ _ ↦ by simp [rowOrder]

/-- Results that are sorted by texts which ascend already stay in their order. -/
theorem arranged_zip (hdistinct : selected.isDistinct = false)
    (hterms : selected.terms.map Prod.snd = [plain]) {results : List Row} {texts : List String}
    (hlength : results.length = texts.length) (hsorted : texts.Pairwise (· < ·)) :
    selected.arranged (results.zip (texts.map fun text ↦ [.text text])) = results := by
  have hswapped : (results.zip (texts.map fun text ↦ [Value.text text])).map Prod.swap =
      (texts.map fun text ↦ [Value.text text]).zip results := by
    rw [List.zip_swap]
  have hkeys : ((texts.map fun text ↦ [Value.text text]).zip results).map Prod.fst =
      texts.map fun text ↦ [Value.text text] :=
    List.map_fst_zip (by rw [List.length_map, hlength])
  rw [arranged, hdistinct, hterms, if_neg Bool.false_ne_true, hswapped, sorted_of_pairwise,
    List.map_snd_zip (by rw [List.length_map, hlength])]
  rw [← List.pairwise_map (f := Prod.fst) (R := fun a b ↦ rowOrder [plain] a b ≠ .gt), hkeys,
    List.pairwise_map]
  exact hsorted.imp fun hlt ↦ by
    rw [rowOrder_text, Ne, compare_gt_iff_gt]
    exact not_lt_of_gt hlt

/-! ### Groups of one text -/

variable {α : Type} {things : List α} {row : α → Row} {key : α → String}

/-- A selection that puts the rows of things together by a text, is sorted by it, and keeps them
all. -/
structure GroupsByText (selected : Selected) (outer : List Frame) (things : List α) (row : α → Row)
    (key : α → String) : Prop where
  source_rows : selected.source.rows outer = some (things.map row)
  isGrouped_eq : selected.isGrouped = true
  isDistinct_eq : selected.isDistinct = false
  condition_eq : selected.condition = none
  having_eq : selected.having = none
  lead_eq : selected.lead = none
  keys_isEmpty : selected.keys.isEmpty = false
  order_eq : groupOrder selected.keys (selected.terms.map Prod.snd) = [plain]
  terms_order : selected.terms.map Prod.snd = [plain]
  row_keys : ∀ thing ∈ things,
    Meaning.row selected.keys { frames := ⟨row thing, []⟩ :: outer } = some [.text (key thing)]

/-- The frame of a group; its first row stands for it. -/
def frameOf (width : Nat) (row : α → Row) (group : String × List α) : Frame :=
  ⟨((group.2.map row).head?).getD (List.replicate width .null), group.2.map row⟩

/-- In a group that is not empty a row of a thing stands for it. -/
theorem exists_frameOf_eq {group : String × List α} (hgroup : group ∈ grouped key things)
    (width : Nat) (row : α → Row) :
    ∃ thing ∈ group.2, frameOf width row group = ⟨row thing, group.2.map row⟩ := by
  obtain ⟨⟨member, hmember, hkey⟩, hrows⟩ := mem_grouped.mp hgroup
  have hin : member ∈ group.2 := by
    rw [hrows]
    exact List.mem_filter.mpr ⟨hmember, by simpa using hkey⟩
  cases hfirst : group.2 with
  | nil =>
    rw [hfirst] at hin
    exact absurd hin List.not_mem_nil
  | cons thing more =>
    refine ⟨thing, List.mem_cons_self, ?_⟩
    rw [frameOf, hfirst]
    rfl

/-- What a selection gives out for every group, whose text it is sorted by. -/
def HasResults (selected : Selected) (outer : List Frame) (things : List α) (row : α → Row)
    (key : α → String) (result : String × List α → Option Row) : Prop :=
  ∀ group ∈ grouped key things, ∀ thing ∈ group.2, ∀ around : Surroundings,
    around.frames = ⟨row thing, group.2.map row⟩ :: outer →
      Meaning.row selected.meanings around = result group ∧
        Meaning.row (selected.terms.map Prod.fst) around = some [.text group.1]

variable {result : String × List α → Option Row}

/-- Every group has its result, and is sorted by its text. -/
theorem HasResults.described?_eq (hresult : HasResults selected outer things row key result) :
    selected.described? outer
        ((grouped key things).map (frameOf selected.source.columns.length row)) =
      (grouped key things).mapM fun group ↦ (result group).map (·, [.text group.1]) := by
  rw [described?, List.zipIdx_map, List.mapM_map]
  refine mapM_zipIdx fun group hgroup place ↦ ?_
  obtain ⟨thing, hthing, hframe⟩ :=
    exists_frameOf_eq hgroup selected.source.columns.length row
  obtain ⟨hmeanings, hterms⟩ := hresult group hgroup thing hthing
    ⟨frameOf selected.source.columns.length row group :: outer,
      (grouped key things).map (frameOf selected.source.columns.length row), place⟩ (by rw [hframe])
  simp only [Function.comp, Prod.map_apply, id_eq, hmeanings, hterms]
  cases result group <;> rfl

namespace GroupsByText

variable (h : GroupsByText selected outer things row key)
include h

theorem groupRows_eq : groupRows selected.keys
    (groupOrder selected.keys (selected.terms.map Prod.snd)) outer (things.map row) =
      some ((grouped key things).map fun group ↦ group.2.map row) := by
  have hdescribed : (things.map row).mapM (fun row ↦ do
      pure (← Meaning.row selected.keys { frames := ⟨row, []⟩ :: outer }, row)) =
        some (things.map fun thing ↦ ([.text (key thing)], row thing)) := by
    rw [List.mapM_map]
    exact mapM_eq_some fun thing hthing ↦ by simp only [Function.comp, h.row_keys thing hthing]; rfl
  rw [groupRows, h.keys_isEmpty, h.order_eq, if_neg Bool.false_ne_true, hdescribed]
  simp only [Option.bind_eq_bind, Option.bind_some, groups_sorted, List.map_map, Option.pure_def]
  congr 1
  refine List.map_congr_left fun group _ ↦ ?_
  rw [Function.comp, List.map_map]
  rfl

theorem frames?_eq : selected.frames? outer (things.map row) =
    some ((grouped key things).map (frameOf selected.source.columns.length row)) := by
  rw [frames?, h.isGrouped_eq, if_pos rfl, h.groupRows_eq, h.lead_eq]
  simp only [Option.bind_eq_bind, Option.bind_some, List.mapM_map]
  exact mapM_eq_some fun _ _ ↦ rfl

/-- The selection has a result for every group, in the order of the texts. -/
theorem rows?_eq (hresult : HasResults selected outer things row key result) :
    selected.rows? outer = (grouped key things).mapM result := by
  have hkept : (things.map row).filterM (fun row ↦ keeps selected.condition outer ⟨row, []⟩) =
      some (things.map row) := by
    rw [h.condition_eq]
    exact filterM_eq_self fun _ _ ↦ rfl
  have hbeside := mapM_beside result (fun group : String × List α ↦ [Value.text group.1])
    (grouped key things)
  rw [rows?, h.source_rows]
  simp only [Option.bind_eq_bind, Option.bind_some, hkept, h.frames?_eq, h.having_eq,
    filterM_keeps_none, hresult.described?_eq, hbeside]
  cases hresults : (grouped key things).mapM result with
  | none => rfl
  | some results =>
    have htexts : (grouped key things).map (fun group ↦ [Value.text group.1]) =
        (Ascending.ofList (things.map key)).map fun text ↦ [Value.text text] := by
      rw [grouped, List.map_map]
      rfl
    have hlength : results.length = (Ascending.ofList (things.map key)).length := by
      rw [length_of_mapM hresults, grouped, List.length_map]
    rw [Option.map_some, Option.bind_some, htexts,
      arranged_zip h.isDistinct_eq h.terms_order hlength (Ascending.sorted_ofList _)]
    rfl

end GroupsByText

end StreamAudit.Sql.Selected
