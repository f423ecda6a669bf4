import StreamAudit.Backend.SearchIndex
import StreamAudit.Proofs.Calendar.Spelling
import StreamAudit.Proofs.Text.FixedWidth

/-!
What the name of an index tells. The day is written in digits, so it ends at the first low line,
whatever low lines and digits the audit id has (`digitsOf_append_eq_iff`). A year has from one digit
to four, but the month and the day of the month take the last two digits each (`digitsOf_eq_iff`).
So no index is shared by two days or by two audit ids (`indexName_eq_iff`).
-/

set_option autoImplicit false
set_option relaxedAutoImplicit false

namespace StreamAudit.Backend.SearchIndex

open StreamAudit.Calendar StreamAudit.Text

/-- The digits of a day in the name of an index. -/
def digitsOf (day : Date) : List Char :=
  Nat.toDigits 10 day.year ++ twoDigits day.month ++ twoDigits day.day

theorem toList_indexName (day : Date) (auditId : String) :
    (indexName day auditId).toList = digitsOf day ++ '_' :: auditId.toList := by
  simp [indexName, digitsOf]

theorem line_not_mem_digitsOf (day : Date) : '_' ∉ digitsOf day := by
  have htwo : ∀ n, '_' ∉ twoDigits n := by
    intro n
    simp [twoDigits, Ne.symm (digitChar_ne (by decide : isAsciiDigit '_' = false) _)]
  simp only [digitsOf, List.mem_append, not_or]
  exact ⟨⟨Nat.underscore_not_in_toDigits, htwo _⟩, htwo _⟩

/-- A day is known by its digits: the last two are the day of the month, the two before them the
month. -/
theorem digitsOf_eq_iff {first second : Date} :
    digitsOf first = digitsOf second ↔ first = second := by
  refine ⟨fun h ↦ ?_, congrArg _⟩
  obtain ⟨hfront, hday⟩ := List.append_inj' h rfl
  obtain ⟨hyear, hmonth⟩ := List.append_inj' hfront rfl
  have hmonths : ∀ day : Date, day.month < 100 := fun day ↦ day.month_mem.2.trans_lt (by decide)
  have hdays : ∀ day : Date, day.day < 100 :=
    fun day ↦ day.day_mem.2.trans_lt ((monthLength_le _ _).trans_lt (by decide))
  exact Date.ext_parts (toDigits_eq_iff.mp hyear)
    ((twoDigits_eq_iff (hmonths _) (hmonths _)).mp hmonth)
    ((twoDigits_eq_iff (hdays _) (hdays _)).mp hday)

/-- The digits end where the first low line stands. -/
theorem digitsOf_append_eq_iff {first second : Date} {rest other : List Char} :
    digitsOf first ++ '_' :: rest = digitsOf second ++ '_' :: other ↔
      digitsOf first = digitsOf second ∧ rest = other := by
  constructor
  · intro h
    have hcut : ∀ day : Date, ∀ s : List Char,
        (digitsOf day ++ '_' :: s).takeWhile (· ≠ '_') = digitsOf day := by
      intro day s
      have hdigits : ∀ c ∈ digitsOf day, decide (c ≠ '_') = true := by
        intro c hc
        exact decide_eq_true fun hline ↦ line_not_mem_digitsOf day (hline ▸ hc)
      rw [List.takeWhile_append_of_pos hdigits]
      simp
    have hfront := congrArg (List.takeWhile (· ≠ '_')) h
    rw [hcut, hcut] at hfront
    rw [hfront] at h
    exact ⟨hfront, (List.cons.inj (List.append_cancel_left h)).2⟩
  · rintro ⟨hfront, rfl⟩
    rw [hfront]

/-- Indices have the same name only for the same day and the same audit id. -/
theorem indexName_eq_iff {first second : Date} {auditId other : String} :
    indexName first auditId = indexName second other ↔ first = second ∧ auditId = other := by
  rw [← String.toList_inj, toList_indexName, toList_indexName, digitsOf_append_eq_iff,
    digitsOf_eq_iff, String.toList_inj]

end StreamAudit.Backend.SearchIndex
