import StreamAudit.Proofs.Calendar.Numbering

/-!
The walk over the days. From one day to another it takes the days between them (`mem_upTo_iff`),
each after those before it (`pairwise_upTo`). It can be interrupted after any day: the days from one
to another are the days to one in between, followed by those from the next one on (`upTo_cut`).
-/

set_option autoImplicit false
set_option relaxedAutoImplicit false

namespace StreamAudit.Calendar.Date

theorem next?_eq_none_iff {date : Date} : date.next? = none ↔ date = final := by
  constructor
  · intro h
    by_contra hne
    obtain ⟨after, hafter, -⟩ := exists_next? hne
    rw [hafter] at h
    cases h
  · rintro rfl
    decide

/-- A day with another one after it is not the last of the calendar. -/
theorem ne_final_of_lt {date later : Date} (h : date.number < later.number) : date ≠ final := by
  rintro rfl
  have := later.number_le_final
  omega

theorem le_of_le_of_lt {first mid last : Date} (hfirst : first ≤ mid)
    (hlast : mid.number < last.number) :
    first ≤ last :=
  le_def.mpr ((le_def.mp hfirst).trans hlast.le)

theorem le_next {first mid after : Date} (hafter : mid.next? = some after) (hfirst : first ≤ mid) :
    first ≤ after := by
  have hnumber := next?_eq_some_iff.mp hafter
  exact le_of_le_of_lt hfirst (by omega)

theorem next_le {mid after last : Date} (hafter : mid.next? = some after)
    (hlast : mid.number < last.number) : after ≤ last := by
  rw [le_def, next?_eq_some_iff.mp hafter]
  exact hlast

/-- A walk of some days and some more goes on from the day that the first part reaches. -/
theorem walk_add {count : Nat} {date after : Date} (h : after.number = date.number + count)
    (more : Nat) : walk (count + more) date = walk count date ++ walk more after := by
  induction count generalizing date with
  | zero =>
    obtain rfl : after = date := number_injective h
    rw [Nat.zero_add, walk, List.nil_append]
  | succ count ih =>
    have hlt : date.number < after.number := by omega
    obtain ⟨next, hnext, hnumber⟩ := exists_next? (ne_final_of_lt hlt)
    have hrest : after.number = next.number + count := by omega
    rw [Nat.add_right_comm, walk, walk, hnext, Option.map_some, Option.map_some, Option.getD_some,
      Option.getD_some, ih hrest, List.cons_append]

/-- The days from one to another are those up to a day in between and those after it. -/
theorem upTo_cut {first mid after last : Date} (hafter : mid.next? = some after)
    (hfirst : first ≤ mid) (hlast : mid.number < last.number) :
    upTo first last = upTo first mid ++ upTo after last := by
  have hnumber := next?_eq_some_iff.mp hafter
  rw [le_def] at hfirst
  have hcount : last.number + 1 - first.number =
      mid.number + 1 - first.number + (last.number + 1 - after.number) := by omega
  have hreach : after.number = first.number + (mid.number + 1 - first.number) := by omega
  rw [upTo, hcount, walk_add hreach, upTo, upTo]

/-- A walk that stays on the calendar takes every day as it comes. -/
theorem map_number_walk {count : Nat} {date : Date} (h : date.number + count ≤ final.number + 1) :
    (walk count date).map number = List.range' date.number count := by
  induction count generalizing date with
  | zero => rfl
  | succ count ih =>
    rw [walk, List.map_cons, List.range'_succ]
    refine congrArg (date.number :: ·) ?_
    cases count with
    | zero => cases date.next? <;> rfl
    | succ count =>
      have hlt : date.number < final.number := by omega
      obtain ⟨after, hafter, hnumber⟩ := exists_next? (ne_final_of_lt hlt)
      rw [hafter, Option.map_some, Option.getD_some, ih (by omega), hnumber]

theorem map_number_upTo (first last : Date) :
    (upTo first last).map number = List.range' first.number (last.number + 1 - first.number) := by
  have hfirst := first.number_le_final
  have hlast := last.number_le_final
  exact map_number_walk (by omega)

/-- The days from one to another are those between them. -/
theorem mem_upTo_iff {first last day : Date} :
    day ∈ upTo first last ↔ first ≤ day ∧ day ≤ last := by
  have hmem : day ∈ upTo first last ↔ day.number ∈ (upTo first last).map number :=
    ⟨List.mem_map_of_mem, fun h ↦ by
      obtain ⟨other, hother, hnumber⟩ := List.mem_map.mp h
      exact number_injective hnumber ▸ hother⟩
  rw [hmem, map_number_upTo, List.mem_range'_1, le_def, le_def]
  omega

/-- They come in ascending order. -/
theorem pairwise_upTo (first last : Date) :
    (upTo first last).Pairwise fun day later ↦ day.number < later.number := by
  have hnumbers : ((upTo first last).map number).Pairwise (· < ·) := by
    rw [map_number_upTo]
    exact List.pairwise_lt_range'
  exact List.pairwise_map.mp hnumbers

end StreamAudit.Calendar.Date
