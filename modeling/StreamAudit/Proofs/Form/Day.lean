import StreamAudit.Form.Day
import StreamAudit.Proofs.Relabel
import StreamAudit.Proofs.Text.Blank

/-!
What tells a day in a form. The reader takes the text of a day, but also a text that goes on to
midnight at whatever offset, and numbers and texts of numbers that count the seconds or milliseconds
from 1970 to midnight (`reader_eq_ok_iff`). Blanks around the text of a day are not dropped, so that
it is then refused (`ofText_padded`).
-/

set_option autoImplicit false
set_option relaxedAutoImplicit false

namespace StreamAudit.Form.Day

open StreamAudit.Calendar StreamAudit.Number StreamAudit.Text StreamAudit.Precision

/-! ### Digits -/

theorem fixedDigits?_succ_iff {value count : Nat} {s : List Char} {found : Nat × List Char} :
    fixedDigits? value (count + 1) s = some found ↔
      ∃ d < 10, ∃ left, s = digitChar d :: left ∧
        fixedDigits? (value * 10 + d) count left = some found := by
  cases s with
  | nil => simp [fixedDigits?]
  | cons c rest =>
    cases hdigit : asciiDigit? c with
    | none =>
      simp only [fixedDigits?, hdigit, reduceCtorEq, false_iff]
      rintro ⟨d, hd, left, hs, -⟩
      rw [(List.cons.inj hs).1, asciiDigit?_digitChar hd] at hdigit
      cases hdigit
    | some d =>
      obtain ⟨hd, rfl⟩ := asciiDigit?_eq_some_iff_digitChar.mp hdigit
      simp only [fixedDigits?, hdigit]
      constructor
      · exact fun h ↦ ⟨d, hd, rest, rfl, h⟩
      · rintro ⟨other, hother, left, hs, h⟩
        obtain ⟨hchar, rfl⟩ := List.cons.inj hs
        rw [digitChar_eq_iff, Nat.mod_eq_of_lt hd, Nat.mod_eq_of_lt hother] at hchar
        rw [hchar]
        exact h

/-- Two digits are read behind a value. -/
theorem fixedDigits?_two_append_iff {value found : Nat} {s rest : List Char} :
    fixedDigits? value 2 s = some (found, rest) ↔
      ∃ n < 100, found = value * 100 + n ∧ s = twoDigits n ++ rest := by
  simp only [fixedDigits?_succ_iff]
  constructor
  · rintro ⟨tens, htens, _, rfl, ones, hones, _, rfl, h⟩
    cases h
    have hfirst : digitChar ((tens * 10 + ones) / 10) = digitChar tens :=
      digitChar_eq_iff.mpr (by omega)
    have hlast : digitChar (tens * 10 + ones) = digitChar ones := digitChar_eq_iff.mpr (by omega)
    refine ⟨tens * 10 + ones, by omega, by omega, ?_⟩
    rw [twoDigits, hfirst, hlast]
    rfl
  · rintro ⟨n, hn, rfl, rfl⟩
    have hvalue : (value * 10 + n / 10) * 10 + n % 10 = value * 100 + n := by omega
    refine ⟨n / 10, by omega, _, rfl, n % 10, by omega, rest, ?_, ?_⟩
    · rw [digitChar_mod]
      rfl
    · rw [fixedDigits?, hvalue]

theorem fixedDigits?_two_iff {n : Nat} {s rest : List Char} :
    fixedDigits? 0 2 s = some (n, rest) ↔ n < 100 ∧ s = twoDigits n ++ rest := by
  rw [fixedDigits?_two_append_iff]
  simp only [Nat.zero_mul, Nat.zero_add]
  exact ⟨fun ⟨_, hn, hfound, hs⟩ ↦ hfound ▸ ⟨hn, hs⟩, fun ⟨hn, hs⟩ ↦ ⟨n, hn, rfl, hs⟩⟩

theorem fixedDigits?_add (value first second : Nat) (s : List Char) :
    fixedDigits? value (first + second) s =
    (fixedDigits? value first s).bind fun found ↦ fixedDigits? found.1 second found.2 := by
  induction first generalizing value s with
  | zero => rw [Nat.zero_add, fixedDigits?, Option.bind_some]
  | succ first ih =>
    rw [Nat.succ_add]
    cases s with
    | nil => rfl
    | cons c rest =>
      rw [fixedDigits?, fixedDigits?]
      cases asciiDigit? c with
      | none => rfl
      | some d => exact ih _ _

theorem fixedDigits?_four_iff {n : Nat} {s rest : List Char} :
    fixedDigits? 0 4 s = some (n, rest) ↔ n < 10000 ∧ s = fourDigits n ++ rest := by
  rw [fixedDigits?_add 0 2 2, Option.bind_eq_some_iff, fourDigits_eq_append, List.append_assoc]
  constructor
  · rintro ⟨⟨front, left⟩, hfront, hback⟩
    obtain ⟨hlt, rfl⟩ := fixedDigits?_two_iff.mp hfront
    obtain ⟨back, hback, rfl, rfl⟩ := fixedDigits?_two_append_iff.mp hback
    have hhundreds : (front * 100 + back) / 100 = front := by omega
    have hrest : (front * 100 + back) % 100 = back := by omega
    rw [hhundreds, hrest]
    exact ⟨by omega, rfl⟩
  · rintro ⟨hn, rfl⟩
    exact ⟨(n / 100, _), fixedDigits?_two_iff.mpr ⟨by omega, rfl⟩,
      fixedDigits?_two_append_iff.mpr ⟨n % 100, by omega, by omega, rfl⟩⟩

theorem mark?_eq_some_iff {mark : Char} {s rest : List Char} :
    mark? mark s = some rest ↔ s = mark :: rest := by
  cases s with
  | nil => simp [mark?]
  | cons c left =>
    by_cases h : c = mark <;> simp [mark?, h]

/-! ### The day in front -/

theorem front?_eq_some_iff {s rest : List Char} {found : Found} : front? s = some (found, rest) ↔
    ∃ year month day, year < 10000 ∧
      (1 ≤ month ∧ month ≤ 12 ∧ 1 ≤ day ∧ day ≤ monthLength year month) ∧
      s = fourDigits year ++ '-' :: (twoDigits month ++ '-' :: (twoDigits day ++ rest)) ∧
      Date.of? year month day = found := by
  simp only [front?, Option.bind_eq_bind, Option.bind_eq_some_iff]
  constructor
  · rintro ⟨⟨year, _⟩, hyear, _, hhyphen, ⟨month, _⟩, hmonth, _, hsecond, ⟨day, left⟩, hday, h⟩
    obtain ⟨hlt, rfl⟩ := fixedDigits?_four_iff.mp hyear
    obtain rfl := mark?_eq_some_iff.mp hhyphen
    obtain ⟨-, rfl⟩ := fixedDigits?_two_iff.mp hmonth
    obtain rfl := mark?_eq_some_iff.mp hsecond
    obtain ⟨-, rfl⟩ := fixedDigits?_two_iff.mp hday
    split_ifs at h with hrange
    cases h
    exact ⟨year, month, day, hlt, hrange, rfl, rfl⟩
  · rintro ⟨year, month, day, hlt, hrange, rfl, rfl⟩
    have hlength := monthLength_le year month
    refine ⟨(year, _), fixedDigits?_four_iff.mpr ⟨hlt, rfl⟩, _, mark?_eq_some_iff.mpr rfl,
      (month, _), fixedDigits?_two_iff.mpr ⟨by omega, rfl⟩, _, mark?_eq_some_iff.mpr rfl,
      (day, rest), fixedDigits?_two_iff.mpr ⟨by omega, rfl⟩, if_pos hrange⟩

/-- A day of the calendar is read where it is written. -/
theorem front?_eq_some_some_iff {s rest : List Char} {date : Date} :
    front? s = some (some date, rest) ↔ s = frontText date rest := by
  rw [front?_eq_some_iff]
  constructor
  · rintro ⟨year, month, day, -, -, rfl, hdate⟩
    obtain ⟨rfl, rfl, rfl⟩ := Date.of?_eq_some_iff.mp hdate
    rfl
  · rintro rfl
    have hyear := date.year_mem.2
    exact ⟨date.year, date.month, date.day, by omega,
      ⟨date.month_mem.1, date.month_mem.2, date.day_mem.1, date.day_mem.2⟩, rfl,
      Date.of?_eq_some_iff.mpr ⟨rfl, rfl, rfl⟩⟩

theorem toList_text (date : Date) : date.text.toList = frontText date [] := by
  have hyear := date.year_mem.2
  rw [Date.text, String.toList_ofList, padded_eq_fourDigits (by omega), frontText]
  simp

/-! ### Counts -/

/-- The microseconds since 1970 of a count with its fraction. -/
def sinceEpoch (count : Int) (micro : Nat) : Int :=
  if inMillis count then count * 1000 + micro else count * 1000000 + micro

/-- Whether a count with its fraction leads from 1970 to the start of a day. -/
def Counts (count : Int) (micro : Nat) (date : Date) : Prop :=
  ((Moment.midnight date).micros : Int) = Moment.epoch + sinceEpoch count micro

theorem atSeconds_eq_ok_iff {seconds : Int} {micro : Nat} {date : Date} :
    atSeconds seconds micro = .ok (some date) ↔
      micro = 0 ∧ seconds = (date.number - epochNumber) * 86400 := by
  have hfirst := date.number_pos
  have hlast := date.number_le_final
  have hfinal : Date.final.number = 3652059 := by decide
  unfold atSeconds firstSecond lastSecond epochNumber
  split_ifs with hrange hexact
  · simp only [false_iff]
    omega
  · simp only [false_iff]
    omega
  · rw [Except.ok.injEq, Date.ofNumber?_eq_some_iff]
    omega

/-- A count is read as the day to whose start it leads. -/
theorem ofCount_eq_ok_iff {count : Int} {micro : Nat} {date : Date} :
    ofCount count micro = .ok (some date) ↔ Counts count micro date := by
  have hepoch : Moment.epoch = 719163 * Moment.microsPerDay := rfl
  rw [ofCount, atSeconds_eq_ok_iff, Counts, sinceEpoch, Moment.micros_midnight, hepoch]
  unfold epochNumber Moment.microsPerDay
  split_ifs <;> omega

theorem natAbs_lt_of_counts {count : Int} {date : Date} (h : Counts count 0 date) :
    count.natAbs < 1000000000000000 := by
  have hfirst := date.number_pos
  have hlast := date.number_le_final
  have hfinal : Date.final.number = 3652059 := by decide
  have hepoch : Moment.epoch = 719163 * Moment.microsPerDay := rfl
  rw [Counts, sinceEpoch, Moment.micros_midnight, hepoch] at h
  unfold Moment.microsPerDay at h
  split_ifs at h <;> omega

/-! ### Texts of numbers -/

theorem mapM_asciiDigit?_eq_some_iff {s : List Char} {ds : List Nat} :
    s.mapM asciiDigit? = some ds ↔ (∀ d ∈ ds, d < 10) ∧ s = ds.map digitChar := by
  induction s generalizing ds with
  | nil => cases ds <;> simp
  | cons c rest ih =>
    rw [List.mapM_cons]
    simp only [Option.bind_eq_bind, Option.bind_eq_some_iff, asciiDigit?_eq_some_iff_digitChar,
      ih, pure, Option.some.injEq]
    constructor
    · rintro ⟨d, ⟨hd, rfl⟩, others, ⟨hothers, rfl⟩, rfl⟩
      exact ⟨List.forall_mem_cons.mpr ⟨hd, hothers⟩, rfl⟩
    · rintro ⟨hlt, hs⟩
      obtain ⟨d, others, rfl, rfl, rfl⟩ := List.map_eq_cons_iff.mp hs.symm
      exact ⟨d, ⟨(List.forall_mem_cons.mp hlt).1, rfl⟩, others,
        ⟨(List.forall_mem_cons.mp hlt).2, rfl⟩, rfl⟩

/-- A text of digits, with a sign in front or none. -/
inductive IsInteger : List Char → Int → Prop where
  | plain (ds : List Nat) (hne : ds ≠ []) (hlt : ∀ d ∈ ds, d < 10) :
      IsInteger (ds.map digitChar) (readDigits 0 ds)
  | plus (ds : List Nat) (hne : ds ≠ []) (hlt : ∀ d ∈ ds, d < 10) :
      IsInteger ('+' :: ds.map digitChar) (readDigits 0 ds)
  | minus (ds : List Nat) (hne : ds ≠ []) (hlt : ∀ d ∈ ds, d < 10) :
      IsInteger ('-' :: ds.map digitChar) (-(readDigits 0 ds : Nat))

theorem signed_digitChar (d : Nat) (rest : List Char) :
    signed (digitChar d :: rest) = (false, digitChar d :: rest) := by
  unfold signed
  split
  · exact absurd (List.cons.inj ‹_›).1 (digitChar_ne (by decide) d)
  · exact absurd (List.cons.inj ‹_›).1 (digitChar_ne (by decide) d)
  · rfl

theorem eq_of_signed {s digits : List Char} {negative : Bool} (h : signed s = (negative, digits)) :
    negative = true ∧ s = '-' :: digits ∨ negative = false ∧ (s = '+' :: digits ∨ s = digits) := by
  unfold signed at h
  split at h <;> cases h <;> simp

theorem count?_eq {s digits : List Char} {negative : Bool} (hs : signed s = (negative, digits))
    (hne : digits ≠ []) :
    count? s = ((digits.mapM asciiDigit?).map (readDigits 0)).bind fun n ↦
      if n < wordLimit then some (if negative then -(n : Int) else n) else none := by
  rw [count?, hs]
  cases digits with
  | nil => exact absurd rfl hne
  | cons c rest => rfl

theorem count?_eq_of_digits {s : List Char} {negative : Bool} {ds : List Nat}
    (hs : signed s = (negative, ds.map digitChar)) (hne : ds ≠ []) (hlt : ∀ d ∈ ds, d < 10) :
    count? s =
      if (readDigits 0 ds : Int) < wordLimit then
        some (if negative then -(readDigits 0 ds : Int) else (readDigits 0 ds : Int))
          else none := by
  have hdigits := mapM_asciiDigit?_eq_some_iff.mpr ⟨hlt, rfl⟩
  rw [count?_eq hs (by simpa using hne), hdigits, Option.map_some, Option.bind_some]

theorem exists_digits_of_count? {s digits : List Char} {negative : Bool} {n : Int}
    (h : count? s = some n) (hs : signed s = (negative, digits)) :
    ∃ ds, ds ≠ [] ∧ (∀ d ∈ ds, d < 10) ∧ digits = ds.map digitChar := by
  have hne : digits ≠ [] := by
    rintro rfl
    rw [count?, hs] at h
    cases h
  rw [count?_eq hs hne] at h
  obtain ⟨_, hvalue, -⟩ := Option.bind_eq_some_iff.mp h
  obtain ⟨ds, hdigits, -⟩ := Option.map_eq_some_iff.mp hvalue
  obtain ⟨hlt, rfl⟩ := mapM_asciiDigit?_eq_some_iff.mp hdigits
  exact ⟨ds, by simpa using hne, hlt, rfl⟩

/-- A text of digits is read as its integer, unless that is too large. -/
theorem count?_eq_some_iff {s : List Char} {n : Int} :
    count? s = some n ↔ IsInteger s n ∧ (n.natAbs : Int) < wordLimit := by
  constructor
  · intro h
    rcases hsigned : signed s with ⟨negative, digits⟩
    obtain ⟨ds, hne, hlt, rfl⟩ := exists_digits_of_count? h hsigned
    rw [count?_eq_of_digits hsigned hne hlt] at h
    split_ifs at h with hlimit hnegative
    · cases h
      obtain ⟨-, rfl⟩ | ⟨hpositive, -⟩ := eq_of_signed hsigned
      · exact ⟨.minus ds hne hlt, by rwa [Int.natAbs_neg]⟩
      · rw [hnegative] at hpositive
        cases hpositive
    · cases h
      obtain ⟨hminus, -⟩ | ⟨-, rfl | rfl⟩ := eq_of_signed hsigned
      · exact absurd hminus hnegative
      · exact ⟨.plus ds hne hlt, hlimit⟩
      · exact ⟨.plain ds hne hlt, hlimit⟩
  · rintro ⟨hinteger, hlimit⟩
    cases hinteger with
    | plain ds hne hlt =>
      have hsigned : signed (ds.map digitChar) = (false, ds.map digitChar) := by
        obtain ⟨d, rest, rfl⟩ := List.exists_cons_of_ne_nil hne
        exact signed_digitChar d _
      rw [Int.natAbs_natCast] at hlimit
      rw [count?_eq_of_digits hsigned hne hlt, if_pos hlimit, if_neg Bool.false_ne_true]
    | plus ds hne hlt =>
      rw [Int.natAbs_natCast] at hlimit
      rw [count?_eq_of_digits rfl hne hlt, if_pos hlimit, if_neg Bool.false_ne_true]
    | minus ds hne hlt =>
      rw [Int.natAbs_neg, Int.natAbs_natCast] at hlimit
      rw [count?_eq_of_digits rfl hne hlt, if_pos hlimit, if_pos rfl]

/-- Only a sign may stand in front of the digits of an integer. -/
theorem IsInteger.isAsciiDigit_of_mem_tail {s : List Char} {n : Int} (h : IsInteger s n) :
    ∀ c ∈ s.tail, isAsciiDigit c = true := by
  have hall : ∀ ds : List Nat, ∀ c ∈ ds.map digitChar, isAsciiDigit c = true := by
    simp [isAsciiDigit_digitChar]
  cases h with
  | plain ds => exact fun c hc ↦ hall ds c (List.mem_of_mem_tail hc)
  | plus ds | minus ds => exact hall ds

/-- The text of a decimal is no integer, for its point. -/
theorem count?_of_decimal? {s : List Char} {x : Binary64} (h : decimal? s = some x) :
    count? s = none := by
  rw [Option.eq_none_iff_forall_not_mem]
  intro n hn
  rcases hsigned : signed s with ⟨negative, digits⟩
  obtain ⟨ds, -, -, rfl⟩ := exists_digits_of_count? hn hsigned
  have hnone : (ds.map digitChar).dropWhile isAsciiDigit = [] :=
    List.dropWhile_eq_nil_iff.mpr (by simp [isAsciiDigit_digitChar])
  rw [decimal?, hsigned] at h
  simp only [hnone] at h
  cases h

/-- What begins as a day is no number. -/
theorem not_number_of_front? {s : List Char} {found : Found × List Char}
    (h : front? s = some found) :
    count? s = none ∧ decimal? s = none := by
  obtain ⟨year, month, day, -, -, rfl, -⟩ := front?_eq_some_iff.mp h
  constructor
  · rw [Option.eq_none_iff_forall_not_mem]
    intro n hn
    have hhyphen := (count?_eq_some_iff.mp hn).1.isAsciiDigit_of_mem_tail '-' (by simp [fourDigits])
    exact absurd hhyphen (by decide)
  · have hsigned : ∀ rest, signed (fourDigits year ++ rest) = (false, fourDigits year ++ rest) :=
      fun rest ↦ signed_digitChar _ _
    have hdigits : ∀ c ∈ fourDigits year, isAsciiDigit c = true := by
      simp [fourDigits, isAsciiDigit_digitChar]
    rw [decimal?, hsigned]
    simp only [List.dropWhile_append_of_pos hdigits]
    rfl

/-! ### Midnight -/

/-- The signs in front of an offset; the last one is the minus sign of typography. -/
def offsetSigns : List Char :=
  ['+', '-', '\u2212']

/-- How an offset is written: not at all, as a letter, or as hours and minutes behind a sign. -/
inductive IsOffset : List Char → Prop where
  | none : IsOffset []
  | letter (c : Char) (hc : c ∈ ['Z', 'z']) : IsOffset [c]
  | signed (sign : Char) (hours minutes : Nat) (hsign : sign ∈ offsetSigns) (hhours : hours < 24)
      (hminutes : minutes < 60) : IsOffset (sign :: (twoDigits hours ++ ':' :: twoDigits minutes))
  | compact (sign : Char) (hours minutes : Nat) (hsign : sign ∈ offsetSigns) (hhours : hours < 24)
      (hminutes : minutes < 60) : IsOffset (sign :: (twoDigits hours ++ twoDigits minutes))

theorem isSign_iff {sign : Char} :
    (sign == '+' || sign == '-' || sign.toNat == 0x2212) = true ↔ sign ∈ offsetSigns := by
  have hminus : sign.toNat = 0x2212 ↔ sign = '\u2212' := by
    rw [← Char.toNat_inj]
    rfl
  simp [offsetSigns, hminus, or_assoc]

/-- The minutes of an offset are read to its end. -/
theorem eq_minutes_of_match {hours : Nat} {s : List Char}
    (h : (match fixedDigits? 0 2 s with
      | some (minutes, []) => hours < 24 && minutes < 60
      | _ => false) = true) :
    ∃ minutes < 60, hours < 24 ∧ s = twoDigits minutes := by
  split at h
  · rename_i minutes hminutes
    obtain ⟨-, rfl⟩ := fixedDigits?_two_iff.mp hminutes
    rw [Bool.and_eq_true, decide_eq_true_eq, decide_eq_true_eq] at h
    exact ⟨minutes, h.2, h.1, List.append_nil _⟩
  · cases h

theorem isOffset_sound {s : List Char} (h : isOffset s = true) : IsOffset s := by
  unfold isOffset at h
  split at h
  · exact .none
  · exact .letter _ (by simp)
  · exact .letter _ (by simp)
  · split_ifs at h with hsign
    rw [isSign_iff] at hsign
    split at h
    · rename_i hours more hread
      obtain ⟨-, rfl⟩ := fixedDigits?_two_iff.mp hread
      obtain ⟨minutes, hminutes, hhours, rfl⟩ := eq_minutes_of_match h
      exact .signed _ hours minutes hsign hhours hminutes
    · rename_i hours more _ hread
      obtain ⟨-, rfl⟩ := fixedDigits?_two_iff.mp hread
      obtain ⟨minutes, hminutes, hhours, rfl⟩ := eq_minutes_of_match h
      exact .compact _ hours minutes hsign hhours hminutes
    · cases h

theorem isOffset_complete {s : List Char} (h : IsOffset s) : isOffset s = true := by
  have hread : ∀ n < 60, ∀ rest, fixedDigits? 0 2 (twoDigits n ++ rest) = some (n, rest) :=
    fun n hn rest ↦ fixedDigits?_two_iff.mpr ⟨by omega, rfl⟩
  have hlast : ∀ n < 60, fixedDigits? 0 2 (twoDigits n) = some (n, []) := by
    intro n hn
    rw [← hread n hn, List.append_nil]
  cases h with
  | none => rfl
  | letter c hc =>
    have hall : ∀ c ∈ ['Z', 'z'], isOffset [c] = true := by
      rw [List.forall_mem_cons, List.forall_mem_singleton]
      decide
    exact hall c hc
  | signed sign hours minutes hsign hhours hminutes =>
    rw [isOffset, if_pos (isSign_iff.mpr hsign), hread hours (by omega)]
    · simp [hlast minutes hminutes, hhours, hminutes]
    all_goals simp [twoDigits]
  | compact sign hours minutes hsign hhours hminutes =>
    rw [isOffset, if_pos (isSign_iff.mpr hsign), hread hours (by omega)]
    · split
      · rename_i hcolon
        rw [Option.some.injEq, Prod.mk.injEq] at hcolon
        exact absurd (List.cons.inj hcolon.2).1 (digitChar_ne (by decide) _)
      · rename_i hfound
        cases hfound
        simp [hlast minutes hminutes, hhours, hminutes]
      · cases ‹some _ = none›
    all_goals simp [twoDigits]

theorem isOffset_iff {s : List Char} : isOffset s = true ↔ IsOffset s :=
  ⟨isOffset_sound, isOffset_complete⟩

/-- A fraction of a second that is dropped: none, or digits behind a mark of which the first six are
zeros. -/
inductive IsNoFraction : List Char → Prop where
  | none : IsNoFraction []
  | zeros (mark : Char) (digits : List Char) (hmark : mark ∈ ['.', ',']) (hne : digits ≠ [])
      (hdigits : ∀ c ∈ digits, isAsciiDigit c = true) (hzeros : ∀ c ∈ digits.take 6, c = '0') :
      IsNoFraction (mark :: digits)

/-- Midnight with or without its seconds, at any offset. -/
inductive IsMidnight : List Char → Prop where
  | minutes (rest : List Char) (hrest : IsOffset rest) :
      IsMidnight (twoDigits 0 ++ ':' :: (twoDigits 0 ++ rest))
  | seconds (fraction rest : List Char) (hfraction : IsNoFraction fraction)
      (hrest : IsOffset rest) :
      IsMidnight (twoDigits 0 ++ ':' :: (twoDigits 0 ++ ':' :: (twoDigits 0 ++ (fraction ++ rest))))

/-- No offset begins as the time that it follows might go on. -/
theorem IsOffset.head_ne {s : List Char} (h : IsOffset s) :
    ∀ c ∈ s.head?, isAsciiDigit c = false ∧ c ∉ ['.', ',', ':'] := by
  have hsigns : ∀ c ∈ offsetSigns, isAsciiDigit c = false ∧ c ∉ ['.', ',', ':'] := by
    rw [offsetSigns, List.forall_mem_cons, List.forall_mem_cons, List.forall_mem_singleton]
    decide
  have hletters : ∀ c ∈ ['Z', 'z'], isAsciiDigit c = false ∧ c ∉ ['.', ',', ':'] := by
    rw [List.forall_mem_cons, List.forall_mem_singleton]
    decide
  cases h with
  | none => simp
  | letter c hc => simpa using hletters c hc
  | signed sign _ _ hsign | compact sign _ _ hsign => simpa using hsigns sign hsign

theorem takeWhile_eq_nil {s : List Char} (h : ∀ c ∈ s.head?, isAsciiDigit c = false) :
    s.takeWhile isAsciiDigit = [] := by
  cases s with
  | nil => rfl
  | cons c rest => exact List.takeWhile_cons_of_neg (by simp [h c (by simp)])

theorem fraction?_sound {s rest : List Char} (h : fraction? s = some (false, rest)) :
    ∃ fraction, IsNoFraction fraction ∧ s = fraction ++ rest := by
  cases s with
  | nil =>
    cases h
    exact ⟨[], .none, rfl⟩
  | cons mark left =>
    simp only [fraction?] at h
    split_ifs at h with hmark hempty
    · rw [Option.some.injEq, Prod.mk.injEq] at h
      obtain ⟨hzeros, rfl⟩ := h
      have hne : left.takeWhile isAsciiDigit ≠ [] := by simpa using hempty
      have hall : ∀ c ∈ (left.takeWhile isAsciiDigit).take 6, c = '0' := by simpa using hzeros
      refine ⟨mark :: left.takeWhile isAsciiDigit,
        .zeros mark _ (by simpa using hmark) hne (fun c hc ↦ List.mem_takeWhile_imp hc) hall, ?_⟩
      rw [List.cons_append, List.takeWhile_append_dropWhile]
    · cases h
      exact ⟨[], .none, rfl⟩

/-- A fraction of zeros is dropped up to the offset behind it. -/
theorem fraction?_complete {fraction rest : List Char} (hfraction : IsNoFraction fraction)
    (hrest : IsOffset rest) :
    fraction? (fraction ++ rest) = some (false, rest) := by
  have hhead := hrest.head_ne
  cases hfraction with
  | none =>
    cases rest with
    | nil => rfl
    | cons c left =>
      have hnone := (hhead c rfl).2
      rw [List.mem_cons, List.mem_cons, not_or, not_or] at hnone
      rw [List.nil_append, fraction?, if_neg (by simp [hnone.1, hnone.2.1])]
  | zeros mark digits hmark hne hdigits hzeros =>
    have hdigit : ∀ c ∈ rest.head?, isAsciiDigit c = false := fun c hc ↦ (hhead c hc).1
    have hall : (digits.take 6).any (· != '0') = false := by simpa using hzeros
    have hempty : ¬ digits.isEmpty = true := by simpa using hne
    have htake : (digits ++ rest).takeWhile isAsciiDigit = digits := by
      rw [List.takeWhile_append_of_pos hdigits, takeWhile_eq_nil hdigit, List.append_nil]
    have hdrop : (digits ++ rest).dropWhile isAsciiDigit = rest := by
      rw [List.dropWhile_append_of_pos hdigits, dropWhile_eq_self _ hdigit]
    rw [List.cons_append, fraction?, if_pos (by simpa using hmark)]
    simp only [htake, hdrop, if_neg hempty, hall]

theorem parts_at_midnight_iff {hour minute second : Nat} {hasFraction : Bool} {rest : List Char} :
    (if hour < 24 ∧ minute < 60 ∧ second < 60 ∧ isOffset rest then
        some (hour == 0 && minute == 0 && second == 0 && !hasFraction) else none) = some true ↔
      hour = 0 ∧ minute = 0 ∧ second = 0 ∧ hasFraction = false ∧ IsOffset rest := by
  rw [← isOffset_iff]
  constructor
  · intro h
    split_ifs at h with hrange
    simp only [Option.some.injEq, Bool.and_eq_true, beq_iff_eq, Bool.not_eq_true'] at h
    exact ⟨h.1.1.1, h.1.1.2, h.1.2, h.2, hrange.2.2.2⟩
  · rintro ⟨rfl, rfl, rfl, rfl, hrest⟩
    rw [hrest]
    rfl

theorem midnight?_sound {s : List Char} (h : midnight? s = some true) : IsMidnight s := by
  simp only [midnight?, Option.bind_eq_bind, Option.bind_eq_some_iff] at h
  obtain ⟨⟨hour, _⟩, hhour, _, hcolon, ⟨minute, afterMinute⟩, hminute, h⟩ := h
  obtain ⟨-, rfl⟩ := fixedDigits?_two_iff.mp hhour
  obtain rfl := mark?_eq_some_iff.mp hcolon
  obtain ⟨-, rfl⟩ := fixedDigits?_two_iff.mp hminute
  split at h
  · rename_i hmore
    obtain rfl : afterMinute = _ := hmore
    obtain ⟨⟨second, _⟩, hsecond, h⟩ := Option.bind_eq_some_iff.mp h
    obtain ⟨⟨hasFraction, rest⟩, hfraction, h⟩ := Option.bind_eq_some_iff.mp h
    obtain ⟨rfl, rfl, rfl, rfl, hrest⟩ := parts_at_midnight_iff.mp h
    obtain ⟨-, rfl⟩ := fixedDigits?_two_iff.mp hsecond
    obtain ⟨fraction, hnone, rfl⟩ := fraction?_sound hfraction
    exact .seconds fraction rest hnone hrest
  · split at h
    · rename_i hnone _ more hmore
      exact (hnone more hmore).elim
    · obtain ⟨rfl, rfl, -, -, hrest⟩ := parts_at_midnight_iff.mp h
      exact .minutes _ hrest

theorem midnight?_complete {s : List Char} (h : IsMidnight s) : midnight? s = some true := by
  have hzero : ∀ rest, fixedDigits? 0 2 (twoDigits 0 ++ rest) = some (0, rest) :=
    fun rest ↦ fixedDigits?_two_iff.mpr ⟨by decide, rfl⟩
  have hcolon : ∀ rest, mark? ':' (':' :: rest) = some rest := fun rest ↦ mark?_eq_some_iff.mpr rfl
  cases h with
  | minutes rest hrest =>
    -- an offset has no colon in front, so that no seconds are read from it
    have hhead : ∀ more, rest ≠ ':' :: more := by
      rintro more rfl
      exact absurd (hrest.head_ne ':' rfl).2 (by decide)
    simp only [midnight?, hzero, hcolon, Option.bind_eq_bind, Option.bind_some]
    exact parts_at_midnight_iff.mpr ⟨rfl, rfl, rfl, rfl, hrest⟩
  | seconds fraction rest hfraction hrest =>
    simp only [midnight?, hzero, hcolon, fraction?_complete hfraction hrest, Option.bind_eq_bind,
      Option.bind_some]
    exact parts_at_midnight_iff.mpr ⟨rfl, rfl, rfl, rfl, hrest⟩

/-- The time of day that is read as midnight. -/
theorem midnight?_eq_some_true_iff {s : List Char} : midnight? s = some true ↔ IsMidnight s :=
  ⟨midnight?_sound, midnight?_complete⟩

/-! ### What tells a day -/

/-- Whether a text tells a day: as the day itself, as its midnight, or as a number that counts to
it. -/
inductive TextTells (date : Date) : List Char → Prop where
  | day : TextTells date (frontText date [])
  | midnight (mark : Char) (time : List Char) (hmark : separates mark = true)
      (htime : IsMidnight time) :
      TextTells date (frontText date (mark :: time))
  | count (s : List Char) (n : Int) (hinteger : IsInteger s n) (hcounts : Counts n 0 date) :
      TextTells date s
  | decimal (s : List Char) (x : Binary64) (whole : Int) (micro : Nat)
      (hdecimal : decimal? s = some x)
      (hsplit : split? x = some (whole, micro)) (hcounts : Counts whole micro date) :
        TextTells date s

/-- Whether a value of a form tells a day: as a text, or as a number that counts to it. -/
inductive Tells (date : Date) : Json → Prop where
  | text (s : String) (htext : TextTells date s.toList) : Tells date (.text s)
  | int (n : Int) (hcounts : Counts n 0 date) : Tells date (.int n)
  | real (x : Binary64) (whole : Int) (micro : Nat) (hsplit : split? x = some (whole, micro))
      (hcounts : Counts whole micro date) : Tells date (.real x)

theorem ofReal_eq_ok_iff {x : Binary64} {date : Date} : ofReal x = .ok (some date) ↔
    ∃ whole micro, split? x = some (whole, micro) ∧ Counts whole micro date := by
  unfold ofReal
  rcases split? x with _ | ⟨whole, micro⟩
  · simp
  · rw [ofCount_eq_ok_iff]
    constructor
    · exact fun h ↦ ⟨whole, micro, rfl, h⟩
    · rintro ⟨_, _, hsplit, h⟩
      cases hsplit
      exact h

/-- A number does not begin as a day. -/
theorem front?_eq_none {s : List Char} (h : count? s ≠ none ∨ decimal? s ≠ none) :
    front? s = none := by
  rw [Option.eq_none_iff_forall_not_mem]
  intro found hfound
  obtain ⟨hcount, hdecimal⟩ := not_number_of_front? hfound
  exact h.elim (· hcount) (· hdecimal)

theorem moment?_eq_none {s : List Char} (h : front? s = none) : moment? s = none := by
  rw [moment?, h]
  rfl

/-- A moment is read as midnight of a day where it is written as such. -/
theorem moment?_eq_some_iff {s : List Char} {date : Date} : moment? s = some (some date, true) ↔
    ∃ mark time, separates mark = true ∧ IsMidnight time ∧ s = frontText date (mark :: time) := by
  constructor
  · intro h
    obtain ⟨⟨day, rest⟩, hfront, h⟩ := Option.bind_eq_some_iff.mp h
    cases rest with
    | nil => cases h
    | cons mark time =>
      simp only at h
      split_ifs at h with hmark
      obtain ⟨isMidnight, htime, h⟩ := Option.map_eq_some_iff.mp h
      cases h
      exact ⟨mark, time, hmark, midnight?_eq_some_true_iff.mp htime,
        front?_eq_some_some_iff.mp hfront⟩
  · rintro ⟨mark, time, hmark, htime, rfl⟩
    rw [moment?, front?_eq_some_some_iff.mpr rfl]
    simp only [Option.bind_eq_bind, Option.bind_some, if_pos hmark,
      midnight?_eq_some_true_iff.mpr htime, Option.map_some]

theorem ofText_sound {s : List Char} {date : Date} (h : ofText s = .ok (some date)) :
    TextTells date s := by
  unfold ofText at h
  split at h
  · rename_i day hfront
    cases h
    rw [front?_eq_some_some_iff.mp hfront]
    exact .day
  · unfold ofMoment at h
    split at h
    · rename_i day isMidnight hmoment
      split_ifs at h with hmidnight
      cases h
      rw [hmidnight] at hmoment
      obtain ⟨mark, time, hmark, htime, rfl⟩ := moment?_eq_some_iff.mp hmoment
      exact .midnight mark time hmark htime
    · split at h
      · rename_i n hcount
        exact .count s n (count?_eq_some_iff.mp hcount).1 (ofCount_eq_ok_iff.mp h)
      · rename_i x _ hdecimal
        obtain ⟨whole, micro, hsplit, hcounts⟩ := ofReal_eq_ok_iff.mp h
        exact .decimal s x whole micro hdecimal hsplit hcounts
      · cases h

theorem ofText_complete {s : List Char} {date : Date} (h : TextTells date s) :
    ofText s = .ok (some date) := by
  cases h with
  | day => rw [ofText, front?_eq_some_some_iff.mpr rfl]
  | midnight mark time hmark htime =>
    rw [ofText, front?_eq_some_some_iff.mpr rfl]
    simp only [ofMoment, moment?_eq_some_iff.mpr ⟨mark, time, hmark, htime, rfl⟩, if_true]
  | count s n hinteger hcounts =>
    -- a count that leads to a day is far from the limits of 64 bits
    have hsmall := natAbs_lt_of_counts hcounts
    have hcount : count? s = some n := count?_eq_some_iff.mpr ⟨hinteger, by unfold wordLimit; omega⟩
    have hnone : front? s = none := front?_eq_none (.inl (by simp [hcount]))
    rw [ofText, hnone, ofMoment, moment?_eq_none hnone, hcount]
    exact ofCount_eq_ok_iff.mpr hcounts
  | decimal s x whole micro hdecimal hsplit hcounts =>
    have hnone : front? s = none := front?_eq_none (.inr (by simp [hdecimal]))
    rw [ofText, hnone, ofMoment, moment?_eq_none hnone, count?_of_decimal? hdecimal, hdecimal]
    exact ofReal_eq_ok_iff.mpr ⟨whole, micro, hsplit, hcounts⟩

/-- A text is read as the day that it tells. -/
theorem ofText_eq_ok_iff {s : List Char} {date : Date} :
    ofText s = .ok (some date) ↔ TextTells date s :=
  ⟨ofText_sound, ofText_complete⟩

/-! ### The reader -/

theorem leaf_eq_ok_iff {α : Type} {read : Json → Except Cause α} {value : Json} {a : α} :
    leaf read value = .ok a ↔ read value = .ok a := by
  unfold leaf
  cases read value with
  | ok b => simp
  | error cause => simp [refuse]

theorem bind_onCalendar_eq_ok_iff {found : Except Cause Found} {date : Date} :
    found.bind onCalendar = .ok date ↔ found = .ok (some date) := by
  rcases found with cause | _ | day <;> simp [Except.bind, onCalendar]

/-- A value of a form is read as the day that it tells. -/
theorem reader_eq_ok_iff {value : Json} {date : Date} :
    reader value = .ok date ↔ Tells date value := by
  rw [reader, leaf_eq_ok_iff]
  constructor
  · intro h
    cases value with
    | text s => exact .text s (ofText_eq_ok_iff.mp (bind_onCalendar_eq_ok_iff.mp h))
    | int n =>
      simp only at h
      split_ifs at h
      exact .int n (ofCount_eq_ok_iff.mp (bind_onCalendar_eq_ok_iff.mp h))
    | real x =>
      obtain ⟨whole, micro, hsplit, hcounts⟩ := ofReal_eq_ok_iff.mp (bind_onCalendar_eq_ok_iff.mp h)
      exact .real x whole micro hsplit hcounts
    | null | bool b | list items | object members => cases h
  · intro h
    cases h with
    | text s htext => exact bind_onCalendar_eq_ok_iff.mpr (ofText_eq_ok_iff.mpr htext)
    | int n hcounts =>
      have hsmall := natAbs_lt_of_counts hcounts
      have hfits : fitsWord n = true := by
        rw [fitsWord, Bool.and_eq_true, decide_eq_true_eq, decide_eq_true_eq]
        unfold wordLimit
        omega
      simp only [hfits, if_true]
      exact bind_onCalendar_eq_ok_iff.mpr (ofCount_eq_ok_iff.mpr hcounts)
    | real x whole micro hsplit hcounts =>
      exact bind_onCalendar_eq_ok_iff.mpr (ofReal_eq_ok_iff.mpr ⟨whole, micro, hsplit, hcounts⟩)

/-! ### Blanks around a day -/

theorem not_digit_of_isWhiteSpace {c : Char} (h : isWhiteSpace c = true) :
    isAsciiDigit c = false ∧ c ∉ ['+', '-', '.'] := by
  have hall : ∀ c ∈ ['+', '-', '.'], isWhiteSpace c = false := by
    rw [List.forall_mem_cons, List.forall_mem_cons, List.forall_mem_singleton]
    decide
  constructor
  · rw [Bool.eq_false_iff]
    intro hdigit
    obtain ⟨d, hd⟩ := Option.isSome_iff_exists.mp hdigit
    obtain ⟨hlt, rfl⟩ := asciiDigit?_eq_some_iff_digitChar.mp hd
    have hdigits : ∀ d < 10, isWhiteSpace (digitChar d) = false := by decide
    rw [hdigits d hlt] at h
    cases h
  · intro hmem
    rw [hall c hmem] at h
    cases h

theorem fixedDigits?_eq_none {s : List Char} (h : ∀ c ∈ s.head?, isAsciiDigit c = false)
    (value count : Nat) :
    fixedDigits? value (count + 1) s = none := by
  rw [Option.eq_none_iff_forall_not_mem]
  intro found hfound
  obtain ⟨d, -, left, rfl, -⟩ := fixedDigits?_succ_iff.mp hfound
  have hdigit := h (digitChar d) rfl
  rw [isAsciiDigit_digitChar] at hdigit
  cases hdigit

/-- Neither a day nor a number begins with a character that is no part of one. -/
theorem unread_of_head {c : Char} (hdigit : isAsciiDigit c = false) (hmark : c ∉ ['+', '-', '.'])
    (rest : List Char) :
    front? (c :: rest) = none ∧ count? (c :: rest) = none ∧ decimal? (c :: rest) = none := by
  have hhead : ∀ other ∈ (c :: rest).head?, isAsciiDigit other = false := by simpa using hdigit
  simp only [List.mem_cons, List.not_mem_nil, or_false, not_or] at hmark
  have hsigned : signed (c :: rest) = (false, c :: rest) := by
    unfold signed
    split
    · exact absurd (List.cons.inj ‹_›).1 hmark.2.1
    · exact absurd (List.cons.inj ‹_›).1 hmark.1
    · rfl
  refine ⟨?_, ?_, ?_⟩
  · rw [front?, fixedDigits?_eq_none hhead]
    rfl
  · rw [Option.eq_none_iff_forall_not_mem]
    intro n hn
    obtain ⟨ds, -, -, hds⟩ := exists_digits_of_count? hn hsigned
    obtain ⟨d, _, -, rfl, -⟩ := List.map_eq_cons_iff.mp hds.symm
    rw [isAsciiDigit_digitChar] at hdigit
    cases hdigit
  · rw [decimal?, hsigned]
    simp only [List.dropWhile_cons_of_neg (Bool.eq_false_iff.mp hdigit)]
    split
    · exact absurd (List.cons.inj ‹_›).1 hmark.2.2
    · rfl

/-- With white space around it a day is refused. -/
theorem ofText_padded (date : Date) {before after : List Char}
    (hbefore : ∀ c ∈ before, isWhiteSpace c = true) (hafter : ∀ c ∈ after, isWhiteSpace c = true)
    (hpadded : before ++ after ≠ []) :
    ofText (before ++ frontText date after) = .error .dateText := by
  cases before with
  | nil =>
    obtain ⟨c, rest, rfl⟩ := List.exists_cons_of_ne_nil hpadded
    have hfront : front? (frontText date (c :: rest)) = some (some date, c :: rest) :=
      front?_eq_some_some_iff.mpr rfl
    obtain ⟨hcount, hdecimal⟩ := not_number_of_front? hfront
    have hrest : ∀ c ∈ rest.head?, isAsciiDigit c = false := fun other hother ↦
      (not_digit_of_isWhiteSpace
        (hafter other (List.mem_cons_of_mem c (List.mem_of_mem_head? hother)))).1
    -- a blank may stand between a day and a time, but no time follows it
    have hmoment : moment? (frontText date (c :: rest)) = none := by
      rw [moment?, hfront]
      simp only [Option.bind_eq_bind, Option.bind_some, midnight?, fixedDigits?_eq_none hrest,
        Option.bind_none, Option.map_none, ite_self]
    rw [List.nil_append, ofText, hfront, ofMoment, hmoment, hcount, hdecimal]
  | cons c rest =>
    obtain ⟨hdigit, hmark⟩ := not_digit_of_isWhiteSpace (hbefore c List.mem_cons_self)
    obtain ⟨hfront, hcount, hdecimal⟩ := unread_of_head hdigit hmark (rest ++ frontText date after)
    rw [List.cons_append, ofText, hfront, ofMoment, moment?_eq_none hfront, hcount, hdecimal]

/-- Whether a value is a text that is a day but for white space around it. -/
def Documented (date : Date) (value : Json) : Prop :=
  ∃ s, value = .text s ∧ stripWhiteSpace s = date.text

theorem frontText_eq_append (date : Date) (rest : List Char) :
    frontText date rest = frontText date [] ++ rest := by
  simp [frontText]

theorem trimmed_frontText (date : Date) : Trimmed isWhiteSpace (frontText date []) := by
  have hdigit : ∀ d, isWhiteSpace (digitChar d) = false := by
    intro d
    rw [Bool.eq_false_iff]
    intro h
    have hblank := isBlank_of_isWhiteSpace h
    rw [isBlank_digitChar] at hblank
    cases hblank
  constructor <;> simp [frontText, fourDigits, twoDigits, hdigit]

theorem stripWhiteSpace_text (date : Date) : stripWhiteSpace date.text = date.text := by
  rw [stripWhiteSpace, toList_text, trimList_eq_self _ (trimmed_frontText date), ← toList_text,
    String.ofList_toList]

theorem eq_frontText_of_stripWhiteSpace {s : String} {date : Date}
    (h : stripWhiteSpace s = date.text) :
    ∃ before after, (∀ c ∈ before, isWhiteSpace c = true) ∧ (∀ c ∈ after, isWhiteSpace c = true) ∧
      s.toList = before ++ frontText date after := by
  obtain ⟨before, after, hbefore, hafter, hs⟩ := exists_eq_append_trimList isWhiteSpace s.toList
  have htrim : trimList isWhiteSpace s.toList = frontText date [] := by
    rw [← toList_text, ← h, stripWhiteSpace, String.toList_ofList]
  refine ⟨before, after, hbefore, hafter, ?_⟩
  rw [frontText_eq_append, ← List.append_assoc, ← htrim]
  exact hs

theorem tells_text (date : Date) : Tells date (.text date.text) :=
  .text _ (by rw [toList_text]; exact .day)

/-- Of all texts of a day only the one without any white space tells it. -/
theorem tells_documented_iff {date : Date} {value : Json} :
    Tells date value ∧ Documented date value ↔ value = .text date.text := by
  constructor
  · rintro ⟨htells, s, rfl, hs⟩
    obtain ⟨before, after, hbefore, hafter, heq⟩ := eq_frontText_of_stripWhiteSpace hs
    by_cases hpadded : before ++ after = []
    · obtain ⟨rfl, rfl⟩ := List.append_eq_nil_iff.mp hpadded
      rw [List.nil_append, ← toList_text, String.toList_inj] at heq
      rw [heq]
    · cases htells with
      | text _ htext =>
        have hread := ofText_eq_ok_iff.mpr htext
        rw [heq, ofText_padded date hbefore hafter hpadded] at hread
        cases hread
  · rintro rfl
    exact ⟨tells_text date, _, rfl, stripWhiteSpace_text date⟩

end StreamAudit.Form.Day
