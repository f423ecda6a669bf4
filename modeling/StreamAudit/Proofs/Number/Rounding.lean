import Mathlib.Algebra.Order.Group.Nat
import Mathlib.Tactic.Ring
import StreamAudit.Number.Binary64

/-!
Rounding to double precision. The nearest whole number to a quotient is at most half away from it
(`roundEven_near`). The double of a quotient below `2 ^ bits` is off by at most half of the distance
between its neighbours, so by `2 ^ (bits - 54)`, and a whole number of 53 bits is its own double
(`exists_ofRatio`).
-/

set_option autoImplicit false
set_option relaxedAutoImplicit false

namespace StreamAudit.Number

theorem roundEven_near (num : Nat) {den : Nat} (h : 0 < den) :
    2 * (roundEven num den * den) ≤ 2 * num + den ∧
      2 * num ≤ 2 * (roundEven num den * den) + den := by
  have hsplit := Nat.div_add_mod' num den
  have hrest := Nat.mod_lt num h
  have hparity : num / den % 2 = 0 ∨ num / den % 2 = 1 := by omega
  unfold roundEven
  simp only
  split_ifs with hbelow habove
  · omega
  · rw [Nat.add_mul]
    omega
  · -- both neighbours are as far away
    rcases hparity with hzero | hone
    · rw [hzero, Nat.add_zero]
      omega
    · rw [hone, Nat.add_mul]
      omega

theorem le_roundEven {num den whole : Nat} (h : 0 < den) (hnum : whole * den ≤ num) :
    whole ≤ roundEven num den := by
  have hnear := (roundEven_near num h).2
  by_contra hless
  have hnext : (roundEven num den + 1) * den ≤ whole * den := Nat.mul_le_mul_right den (by omega)
  rw [Nat.add_mul] at hnext
  omega

theorem roundEven_le {num den whole : Nat} (h : 0 < den) (hnum : num ≤ whole * den) :
    roundEven num den ≤ whole := by
  have hnear := (roundEven_near num h).1
  by_contra hmore
  have hnext : (whole + 1) * den ≤ roundEven num den * den := Nat.mul_le_mul_right den (by omega)
  rw [Nat.add_mul] at hnext
  omega

theorem roundEven_mul_left {den : Nat} (h : 0 < den) (whole : Nat) :
    roundEven (den * whole) den = whole := by
  unfold roundEven
  simp [Nat.mul_div_cancel_left _ h, h]

namespace Binary64

/-- The bits of one behind the point. -/
def unitBits : Nat :=
  1074

theorem unit_eq : unit = 2 ^ unitBits := by
  unfold unit unitBits
  generalize 1074 = bits
  rfl

theorem unit_pos : 0 < unit := by
  rw [unit_eq]
  exact Nat.pow_pos (by decide)

theorem gridStep_pos (units : Nat) : 0 < gridStep units :=
  Nat.pow_pos (by decide)

/-- Below `2 ^ bits` the distance between neighbours goes into one, and so often that 53 bits are
there. -/
theorem gridStep_mul_dvd_unit {units bits : Nat} (hbits : bits ≤ 53) (h : units < 2 ^ bits * unit) :
    gridStep units * 2 ^ (53 - bits) ∣ unit := by
  have hlog : Nat.log2 units - 52 + (53 - bits) ≤ unitBits := by
    by_cases hzero : units = 0
    · rw [hzero, Nat.log2_zero, unitBits]
      omega
    · rw [unit_eq, ← Nat.pow_add] at h
      have := (Nat.log2_lt hzero).mpr h
      unfold unitBits at *
      omega
  rw [unit_eq, gridStep, Nat.pow_eq, ← Nat.pow_add]
  exact Nat.pow_dvd_pow 2 hlog

/-- Numbers of 54 bits are below the limit of the finite doubles. -/
theorem lt_limit {units : Nat} (h : units < 2 ^ 54 * unit) : units < Nat.pow 2 2098 := by
  have hbits : 54 + unitBits ≤ 2098 := by decide
  generalize 2098 = limit at hbits ⊢
  rw [unit_eq] at h
  generalize unitBits = bits at hbits h
  rw [← Nat.pow_add] at h
  exact Nat.lt_of_lt_of_le h (Nat.pow_le_pow_right (by decide) hbits)

/-- The double of a quotient below `2 ^ bits` is finite, is off by no more than `2 ^ (bits - 54)`,
and is the quotient itself where that is a whole number. -/
theorem exists_ofRatio (negative : Bool) {num den bits : Nat} (hbits : bits ≤ 53)
    (h : num < 2 ^ bits * den) :
    ∃ units, ofRatio negative num den = .finite negative units ∧
      2 ^ (54 - bits) * (units * den) ≤ 2 ^ (54 - bits) * (num * unit) + den * unit ∧
      2 ^ (54 - bits) * (num * unit) ≤ 2 ^ (54 - bits) * (units * den) + den * unit ∧
      ∀ whole, num = whole * den → units = whole * unit := by
  have hden : 0 < den := Nat.pos_of_ne_zero fun hzero ↦ by simp [hzero] at h
  have hnum : num * unit < 2 ^ bits * unit * den := by
    rw [Nat.mul_right_comm]
    exact Nat.mul_lt_mul_of_pos_right h unit_pos
  have hdvd := gridStep_mul_dvd_unit hbits ((Nat.div_lt_iff_lt_mul hden).mpr hnum)
  unfold ofRatio
  simp only
  generalize hgrid : gridStep (num * unit / den) = step at hdvd ⊢
  have hstep : 0 < step := hgrid ▸ gridStep_pos _
  have hfine : step * 2 ^ (53 - bits) ≤ unit := Nat.le_of_dvd unit_pos hdvd
  obtain ⟨hlow, hhigh⟩ := roundEven_near (num * unit) (Nat.mul_pos hden hstep)
  have hexact : ∀ whole, num = whole * den →
      roundEven (num * unit) (den * step) * step = whole * unit := by
    rintro whole rfl
    obtain ⟨steps, hsteps⟩ := hdvd
    have hwhole : whole * den * unit = den * step * (whole * (2 ^ (53 - bits) * steps)) := by
      rw [hsteps]
      ring
    rw [hwhole, roundEven_mul_left (Nat.mul_pos hden hstep), hsteps]
    ring
  generalize roundEven (num * unit) (den * step) = rounded at hlow hhigh hexact ⊢
  have hunits : rounded * (den * step) = rounded * step * den := by ring
  rw [hunits] at hlow hhigh
  generalize rounded * step = units at hlow hhigh hexact ⊢
  have hsmall : units < 2 ^ 54 * unit := by
    have hpow : 2 ^ bits ≤ 2 ^ 53 := Nat.pow_le_pow_right (by decide) hbits
    refine Nat.lt_of_mul_lt_mul_right (a := den) ?_
    calc units * den ≤ num * unit + den * step := by omega
      _ < 2 ^ bits * unit * den + den * unit := by
        refine Nat.add_lt_add_of_lt_of_le hnum (Nat.mul_le_mul_left den ?_)
        exact (Nat.le_mul_of_pos_right step (Nat.two_pow_pos _)).trans hfine
      _ = (2 ^ bits + 1) * unit * den := by ring
      _ ≤ 2 ^ 54 * unit * den := by
        refine Nat.mul_le_mul_right den (Nat.mul_le_mul_right unit ?_)
        omega
  have hdouble : 2 ^ (54 - bits) = 2 ^ (53 - bits) * 2 := by
    rw [← Nat.pow_succ, show (53 - bits).succ = 54 - bits by omega]
  have hscaled : 2 ^ (53 - bits) * (den * step) ≤ den * unit := by
    rw [Nat.mul_left_comm, Nat.mul_comm _ step]
    exact Nat.mul_le_mul_left den hfine
  refine ⟨units, if_pos (lt_limit hsmall), ?_, ?_, hexact⟩
  · calc 2 ^ (54 - bits) * (units * den)
      _ = 2 ^ (53 - bits) * (2 * (units * den)) := by rw [hdouble, Nat.mul_assoc]
      _ ≤ 2 ^ (53 - bits) * (2 * (num * unit) + den * step) := Nat.mul_le_mul_left _ hlow
      _ = 2 ^ (54 - bits) * (num * unit) + 2 ^ (53 - bits) * (den * step) := by rw [hdouble]; ring
      _ ≤ 2 ^ (54 - bits) * (num * unit) + den * unit := Nat.add_le_add_left hscaled _
  · calc 2 ^ (54 - bits) * (num * unit)
      _ = 2 ^ (53 - bits) * (2 * (num * unit)) := by rw [hdouble, Nat.mul_assoc]
      _ ≤ 2 ^ (53 - bits) * (2 * (units * den) + den * step) := Nat.mul_le_mul_left _ hhigh
      _ = 2 ^ (54 - bits) * (units * den) + 2 ^ (53 - bits) * (den * step) := by rw [hdouble]; ring
      _ ≤ 2 ^ (54 - bits) * (units * den) + den * unit := Nat.add_le_add_left hscaled _

/-- The same where a multiple of the smallest positive number is rounded. -/
theorem exists_ofRatio_unit (negative : Bool) {num bits : Nat} (hbits : bits ≤ 53)
    (h : num < 2 ^ bits * unit) :
    ∃ units, ofRatio negative num unit = .finite negative units ∧
      2 ^ (54 - bits) * units ≤ 2 ^ (54 - bits) * num + unit ∧
      2 ^ (54 - bits) * num ≤ 2 ^ (54 - bits) * units + unit ∧ (num = 0 → units = 0) := by
  obtain ⟨units, hunits, hlow, hhigh, hwhole⟩ := exists_ofRatio negative hbits h
  have hzero : num = 0 → units = 0 := fun hnum ↦ by
    rw [hwhole 0 (by rw [hnum, Nat.zero_mul]), Nat.zero_mul]
  have hpos := unit_pos
  generalize unit = one at *
  rw [← Nat.mul_assoc, ← Nat.mul_assoc, ← Nat.add_mul] at hlow hhigh
  exact ⟨units, hunits, Nat.le_of_mul_le_mul_right hlow hpos,
    Nat.le_of_mul_le_mul_right hhigh hpos, hzero⟩

/-! ### Parts of a finite number -/

/-- A magnitude behind its sign. -/
def signed (negative : Bool) (magnitude : Nat) : Int :=
  if negative then -(magnitude : Int) else magnitude

theorem truncate?_finite (negative : Bool) (units : Nat) :
    truncate? (.finite negative units) = some (signed negative (units / unit)) :=
  rfl

theorem round?_finite (negative : Bool) (units : Nat) :
    round? (.finite negative units) = some (signed negative (roundEven units unit)) :=
  rfl

theorem scale_fraction_finite (factor : Nat) (negative : Bool) (units : Nat) :
    (fraction (.finite negative units)).scale factor =
      ofRatio negative (units % unit * factor) unit :=
  rfl

end Binary64

end StreamAudit.Number
