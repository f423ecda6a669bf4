import Mathlib.Data.List.Nodup
import StreamAudit.Sql.Interpretation.Origin

/-!
Names whose spellings differ in more than the case of letters. In a scope whose columns have such
names each of them means its own column (`column?_of_named`), and a query under a name gives them to
its columns unchanged (`freshNames_map_some`).
-/

set_option autoImplicit false
set_option relaxedAutoImplicit false

namespace StreamAudit.Sql

open StreamAudit.Text

/-- What counts of a name: its letters without their case. -/
def folded (name : String) : List Char :=
  name.toList.map lowerAscii

theorem sameButAsciiCase_iff {first second : String} :
    sameButAsciiCase first second = true ↔ folded first = folded second :=
  beq_iff_eq

/-- Names that differ in more than the case of letters. -/
def Distinct (names : List String) : Prop :=
  (names.map folded).Nodup

theorem Distinct.place_eq {names : List String} (h : Distinct names) {place other : Nat}
    {first second : String} (hfirst : names[place]? = some first)
    (hsecond : names[other]? = some second) (hsame : folded first = folded second) :
    place = other := by
  have hmapped : (names.map folded)[place]? = (names.map folded)[other]? := by
    rw [List.getElem?_map, List.getElem?_map, hfirst, hsecond, Option.map_some,
      Option.map_some, hsame]
  have hplace : place < (names.map folded).length := by
    rw [List.length_map]
    exact (List.getElem?_eq_some_iff.mp hfirst).1
  exact (List.getElem?_inj hplace h).mp hmapped

/-- If one element alone fits, it is what is left of a list. -/
theorem filter_zipIdx_eq_singleton {α : Type} {fits : α → Bool} {xs : List α} {x : α} {place : Nat}
    (hat : xs[place]? = some x) (hfits : fits x = true)
    (honly : ∀ other y, xs[other]? = some y → fits y = true → other = place) :
    (xs.zipIdx.filter fun pair ↦ fits pair.1) = [(x, place)] := by
  have hmem : ∀ pair, pair ∈ (xs.zipIdx.filter fun pair ↦ fits pair.1) ↔ pair = (x, place) := by
    rintro ⟨y, other⟩
    rw [List.mem_filter, List.mem_zipIdx_iff_getElem?, Prod.mk.injEq]
    constructor
    · rintro ⟨hy, hyfits⟩
      obtain rfl := honly other y hy hyfits
      exact ⟨Option.some_inj.mp (hy.symm.trans hat), rfl⟩
    · rintro ⟨rfl, rfl⟩
      exact ⟨hat, hfits⟩
  have hnodup : (xs.zipIdx.filter fun pair ↦ fits pair.1).Nodup :=
    (List.Nodup.of_map Prod.snd (by rw [List.zipIdx_map_snd]; exact List.nodup_range')).filter _
  exact List.perm_singleton.mp ((List.perm_ext_iff_of_nodup hnodup (List.nodup_singleton _)).mpr
    fun pair ↦ by rw [hmem, List.mem_singleton])

/-- In a scope with distinct names each of them means its column. What has no name is not meant. -/
theorem column?_of_named {scope : Scope} {names : List String} (hdistinct : Distinct names)
    {columnOf : String → Column} {others : List Column}
    (hcolumns : scope.columns = names.map columnOf ++ others)
    (hnamed : ∀ name, (columnOf name).name = some name ∧ (columnOf name).access = .free)
    (hothers : ∀ column ∈ others, column.access = .rowNumber) {place : Nat} {name : String}
    (hname : names[place]? = some name) :
    scope.column? [name] = some (some (columnOf name, place)) := by
  have hmeant : ∀ other, (columnOf other).isMeant [name] = true ↔ folded name = folded other := by
    intro other
    rw [← sameButAsciiCase_iff]
    simp [Column.isMeant, Column.isNamed, Column.isUnder, hnamed]
  have hat : scope.columns[place]? = some (columnOf name) := by
    rw [hcolumns, List.getElem?_append_left, List.getElem?_map, hname, Option.map_some]
    rw [List.length_map]
    exact (List.getElem?_eq_some_iff.mp hname).1
  have honly : ∀ other column, scope.columns[other]? = some column →
      column.isMeant [name] = true → other = place := by
    intro other column hcolumn hfits
    rw [hcolumns, List.getElem?_append] at hcolumn
    split at hcolumn
    · rw [List.getElem?_map] at hcolumn
      obtain ⟨found, hfound, rfl⟩ := Option.map_eq_some_iff.mp hcolumn
      exact hdistinct.place_eq hfound hname ((hmeant found).mp hfits).symm
    · have hnumber := hothers column (List.mem_of_getElem? hcolumn)
      simp [Column.isMeant, hnumber] at hfits
  rw [Scope.column?, Scope.places, filter_zipIdx_eq_singleton hat ((hmeant name).mpr rfl) honly]

/-! ### The names of the columns of a query -/

namespace Source

theorem freshName_of_notMem {taken : List String} {name : String}
    (h : ∀ other ∈ taken, folded name ≠ folded other) (fuel : Nat) :
    freshName taken name 0 (fuel + 1) = name := by
  have hfree : taken.any (sameButAsciiCase name) = false := by
    rw [List.any_eq_false]
    intro other hother hsame
    exact h other hother (sameButAsciiCase_iff.mp hsame)
  rw [freshName, if_pos rfl, hfree]
  rfl

/-- The names of some columns, of which none is known. -/
theorem foldl_freshName {names taken : List String} {found : List (Option String)}
    (h : Distinct (names ++ taken)) :
    (names.map some).foldl withFreshName (found, taken) =
      (found ++ names.map some, names.reverse ++ taken) := by
  induction names generalizing found taken with
  | nil => simp
  | cons name names ih =>
    rw [Distinct, List.cons_append, List.map_cons, List.nodup_cons] at h
    obtain ⟨hnew, hrest⟩ := h
    have hfree : ∀ other ∈ taken, folded name ≠ folded other := fun other hother hsame ↦
      hnew (hsame ▸ List.mem_map_of_mem (List.mem_append_right _ hother))
    have hnext : Distinct (names ++ name :: taken) := by
      rw [Distinct, (List.perm_middle.map folded).nodup_iff]
      exact List.nodup_cons.mpr ⟨hnew, hrest⟩
    rw [List.map_cons, List.foldl_cons, withFreshName]
    simp only [freshName_of_notMem hfree, ih hnext]
    simp

/-- Distinct names stay as they are. -/
theorem freshNames_map_some {names : List String} (h : Distinct names) :
    freshNames (names.map some) = names.map some := by
  rw [freshNames, foldl_freshName (by simpa using h), List.nil_append]

end Source

end StreamAudit.Sql
