import Mathlib.Algebra.Order.Group.Nat
import Mathlib.Order.Basic
import StreamAudit.Text.Blank
import StreamAudit.Text.Digit

/-!
Numbers in a fixed number of digits. Among texts that begin with as many digits the order is that of
the numbers first and of the rests behind them next (`twoDigits_append_lt_iff`,
`fourDigits_append_lt_iff`).
-/

set_option autoImplicit false
set_option relaxedAutoImplicit false

namespace StreamAudit.Text

/-- Exactly four digits, for numbers below ten thousand. -/
def fourDigits (n : Nat) : List Char :=
  [digitChar (n / 1000), digitChar (n / 100), digitChar (n / 10), digitChar n]

theorem digitChar_mod (n : Nat) : digitChar (n % 10) = digitChar n := by
  simp [digitChar]

theorem toNat_digitChar (n : Nat) : (digitChar n).toNat = 48 + n % 10 := by
  have hall : ∀ d < 10, (digitChar d).toNat = 48 + d := by decide
  rw [← digitChar_mod]
  exact hall _ (Nat.mod_lt n (by decide))

theorem digit?_digitChar (n : Nat) : digit? (digitChar n) = some (n % 10) := by
  have hall : ∀ d < 10, digit? (digitChar d) = some d := by decide
  rw [← digitChar_mod]
  exact hall _ (Nat.mod_lt n (by decide))

theorem isBlank_digitChar (n : Nat) : isBlank (digitChar n) = false := by
  have hall : ∀ d < 10, isBlank (digitChar d) = false := by decide
  rw [← digitChar_mod]
  exact hall _ (Nat.mod_lt n (by decide))

theorem asciiDigit?_eq_some_iff_digitChar {c : Char} {d : Nat} :
    asciiDigit? c = some d ↔ d < 10 ∧ c = digitChar d := by
  rw [asciiDigit?_eq_some_iff, ← Char.toNat_inj, toNat_digitChar]
  omega

theorem isAsciiDigit_digitChar (d : Nat) : isAsciiDigit (digitChar d) = true := by
  rw [← digitChar_mod, isAsciiDigit, asciiDigit?_digitChar (Nat.mod_lt d (by decide)),
    Option.isSome_some]

theorem digitChar_ne {c : Char} (h : isAsciiDigit c = false) (d : Nat) : digitChar d ≠ c := by
  rintro rfl
  rw [isAsciiDigit_digitChar] at h
  cases h

theorem natDigitChar_eq {d : Nat} (h : d < 10) : Nat.digitChar d = digitChar d := by
  have hall : ∀ d < 10, Nat.digitChar d = digitChar d := by decide
  exact hall d h

theorem toDigits_of_le {n : Nat} (h : 10 ≤ n) :
    Nat.toDigits 10 n = Nat.toDigits 10 (n / 10) ++ [digitChar n] := by
  rw [Nat.toDigits_of_base_le (by decide) h, natDigitChar_eq (Nat.mod_lt n (by decide)),
    digitChar_mod]

theorem toDigits_of_lt {n : Nat} (h : n < 10) : Nat.toDigits 10 n = [digitChar n] := by
  rw [Nat.toDigits_of_lt_base h, natDigitChar_eq h]

/-- A number is known by its digits. -/
theorem toDigits_eq_iff {m n : Nat} : Nat.toDigits 10 m = Nat.toDigits 10 n ↔ m = n := by
  refine ⟨fun h ↦ ?_, congrArg _⟩
  calc m = Nat.ofDigitChars 10 (Nat.toDigits 10 m) 0 := Nat.ofDigitChars_ten_toDigits.symm
    _ = Nat.ofDigitChars 10 (Nat.toDigits 10 n) 0 := by rw [h]
    _ = n := Nat.ofDigitChars_ten_toDigits

/-- A number of four digits is written with them. -/
theorem toDigits_eq_fourDigits {n : Nat} (hlow : 1000 ≤ n) (hhigh : n < 10000) :
    Nat.toDigits 10 n = fourDigits n := by
  rw [toDigits_of_le (by omega), toDigits_of_le (by omega), toDigits_of_le (by omega),
    toDigits_of_lt (by omega)]
  simp only [Nat.div_div_eq_div_mul]
  rfl

/-- A number below ten thousand is padded to four digits. -/
theorem padded_eq_fourDigits {n : Nat} (h : n < 10000) : padded 4 n = fourDigits n := by
  have hzero : '0' = digitChar 0 := by decide
  unfold padded fourDigits
  rcases Nat.lt_or_ge n 10 with hone | hone
  · rw [toDigits_of_lt hone, Nat.div_eq_of_lt (by omega : n < 1000),
      Nat.div_eq_of_lt (by omega : n < 100), Nat.div_eq_of_lt hone, hzero]
    rfl
  · rcases Nat.lt_or_ge n 100 with htwo | htwo
    · rw [toDigits_of_le hone, toDigits_of_lt (by omega), Nat.div_eq_of_lt (by omega : n < 1000),
        Nat.div_eq_of_lt htwo, hzero]
      rfl
    · rcases Nat.lt_or_ge n 1000 with hthree | hthree
      · rw [toDigits_of_le hone, toDigits_of_le (by omega), toDigits_of_lt (by omega),
          Nat.div_div_eq_div_mul, Nat.div_eq_of_lt hthree, hzero]
        rfl
      · rw [toDigits_eq_fourDigits hthree h]
        rfl

/-! ### Order -/

theorem digitChar_lt_iff {m n : Nat} : digitChar m < digitChar n ↔ m % 10 < n % 10 := by
  have hlt : digitChar m < digitChar n ↔ (digitChar m).toNat < (digitChar n).toNat := by
    rw [Char.lt_def, UInt32.lt_iff_toNat_lt]
    rfl
  rw [hlt, toNat_digitChar, toNat_digitChar]
  omega

theorem digitChar_eq_iff {m n : Nat} : digitChar m = digitChar n ↔ m % 10 = n % 10 := by
  rw [← Char.toNat_inj, toNat_digitChar, toNat_digitChar]
  omega

theorem digitChar_cons_lt_iff {m n : Nat} {s t : List Char} :
    digitChar m :: s < digitChar n :: t ↔ m % 10 < n % 10 ∨ m % 10 = n % 10 ∧ s < t := by
  rw [List.cons_lt_cons_iff, digitChar_lt_iff, digitChar_eq_iff]

theorem twoDigits_eq_iff {m n : Nat} (hm : m < 100) (hn : n < 100) :
    twoDigits m = twoDigits n ↔ m = n := by
  simp only [twoDigits, List.cons.injEq, digitChar_eq_iff, and_true]
  omega

theorem twoDigits_append_lt_iff {m n : Nat} (hm : m < 100) (hn : n < 100) {s t : List Char} :
    twoDigits m ++ s < twoDigits n ++ t ↔ m < n ∨ m = n ∧ s < t := by
  simp only [twoDigits, List.cons_append, List.nil_append, digitChar_cons_lt_iff]
  by_cases h : s < t
  · simp only [h, and_true]
    omega
  · simp only [h, and_false, or_false]
    omega

theorem fourDigits_eq_append (n : Nat) :
    fourDigits n = twoDigits (n / 100) ++ twoDigits (n % 100) := by
  have hthousands : n / 1000 = n / 100 / 10 := by omega
  have htens : digitChar (n / 10) = digitChar (n % 100 / 10) := digitChar_eq_iff.mpr (by omega)
  have hones : digitChar n = digitChar (n % 100) := digitChar_eq_iff.mpr (by omega)
  rw [fourDigits, hthousands, htens, hones]
  rfl

theorem fourDigits_append_lt_iff {m n : Nat} (hm : m < 10000) (hn : n < 10000) {s t : List Char} :
    fourDigits m ++ s < fourDigits n ++ t ↔ m < n ∨ m = n ∧ s < t := by
  rw [fourDigits_eq_append, fourDigits_eq_append, List.append_assoc, List.append_assoc,
    twoDigits_append_lt_iff (by omega) (by omega), twoDigits_append_lt_iff (by omega) (by omega)]
  by_cases h : s < t
  · simp only [h, and_true]
    omega
  · simp only [h, and_false, or_false]
    omega

end StreamAudit.Text
