import StreamAudit.Number.IntegerText
import StreamAudit.Proofs.Text.FixedWidth

/-!
Integers read back from their texts. The decimal digits of a number are read as the number
(`exists_digits`), and an integer that is written with no more digits than are read is read from its
text (`readInteger?_toString`). No text reads as a longer one (`isTooLong_of_readInteger?`).
-/

set_option autoImplicit false
set_option relaxedAutoImplicit false

namespace StreamAudit.Number

open StreamAudit.Text

/-! ### Digits -/

theorem readDigits_concat (value d : Nat) (ds : List Nat) :
    readDigits value (ds ++ [d]) = readDigits value ds * 10 + d := by
  induction ds generalizing value with
  | nil => rfl
  | cons first rest ih => exact ih _

/-- The decimal digits of a number by their values. -/
theorem exists_digits (n : Nat) : ∃ first rest, Nat.toDigits 10 n = (first :: rest).map digitChar ∧
    (∀ d ∈ first :: rest, d < 10) ∧ readDigits 0 (first :: rest) = n ∧
    (first = 0 → n = 0 ∧ rest = []) := by
  induction n using Nat.strong_induction_on with
  | _ n ih =>
    rcases Nat.lt_or_ge n 10 with hsmall | hlarge
    · refine ⟨n, [], toDigits_of_lt hsmall, by simpa using hsmall, ?_, fun hzero ↦ ⟨hzero, rfl⟩⟩
      simp [readDigits]
    · obtain ⟨first, rest, hdigits, hlt, hread, hzero⟩ := ih (n / 10) (by omega)
      refine ⟨first, rest ++ [n % 10], ?_, ?_, ?_, ?_⟩
      · rw [toDigits_of_le hlarge, hdigits, ← List.cons_append, List.map_append, List.map_singleton,
          digitChar_mod]
      · intro d hd
        rw [← List.cons_append, List.mem_append, List.mem_singleton] at hd
        rcases hd with hd | rfl
        · exact hlt d hd
        · exact Nat.mod_lt n (by decide)
      · rw [← List.cons_append, readDigits_concat, hread]
        omega
      · intro hfirst
        have := (hzero hfirst).1
        omega

theorem readDigits_lt {ds : List Nat} (hlt : ∀ d ∈ ds, d < 10) (value : Nat) :
    readDigits value ds < (value + 1) * 10 ^ ds.length := by
  induction ds generalizing value with
  | nil => simp [readDigits]
  | cons d rest ih =>
    have hd := hlt d List.mem_cons_self
    calc readDigits (value * 10 + d) rest
        < (value * 10 + d + 1) * 10 ^ rest.length :=
          ih (fun other hother ↦ hlt other (List.mem_cons_of_mem d hother)) _
      _ ≤ ((value + 1) * 10) * 10 ^ rest.length := Nat.mul_le_mul_right _ (by omega)
      _ = (value + 1) * 10 ^ (d :: rest).length := by
        rw [List.length_cons, Nat.pow_succ, Nat.mul_assoc, Nat.mul_comm 10]

/-- Digits up to a limit make a number of no more digits. -/
theorem readDigits_lt_pow {ds : List Nat} (hlt : ∀ d ∈ ds, d < 10) {limit : Nat}
    (h : ds.length ≤ limit) :
    readDigits 0 ds < Nat.pow 10 limit :=
  calc readDigits 0 ds
      < (0 + 1) * 10 ^ ds.length := readDigits_lt hlt 0
    _ = 10 ^ ds.length := by rw [Nat.zero_add, Nat.one_mul]
    _ ≤ Nat.pow 10 limit := Nat.pow_le_pow_right (by decide) h

/-- The value of a digit of any script is below ten. -/
theorem lt_ten_of_digit? {c : Char} {d : Nat} (h : digit? c = some d) : d < 10 := by
  obtain ⟨base, hbase, rfl⟩ := Option.map_eq_some_iff.mp h
  have hrange := List.find?_some hbase
  simp only [Bool.and_eq_true, decide_eq_true_eq] at hrange
  omega

/-! ### Texts -/

theorem toList_repr (n : Nat) : n.repr.toList = Nat.toDigits 10 n := by
  rw [Nat.repr_eq_ofList_toDigits, String.toList_ofList]

theorem length_toDigits_le {n limit : Nat} (hlimit : 0 < limit) (h : n < Nat.pow 10 limit) :
    (Nat.toDigits 10 n).length ≤ limit :=
  (Nat.length_toDigits_le_iff (by decide) hlimit).mpr h

theorem toList_toString_of_nonneg {n : Int} (h : 0 ≤ n) :
    (toString n).toList = Nat.toDigits 10 n.natAbs := by
  have habs : n.toNat = n.natAbs := by omega
  rw [Int.toString_eq_repr, Int.repr_eq_if, if_pos h, toList_repr, habs]

theorem toList_toString_of_neg {n : Int} (h : n < 0) :
    (toString n).toList = '-' :: Nat.toDigits 10 n.natAbs := by
  have habs : (-n).toNat = n.natAbs := by omega
  rw [Int.toString_eq_repr, Int.repr_eq_if, if_neg (by omega), String.toList_append,
    toList_repr, habs]
  rfl

/-- An integer is written with digits and at most a sign. -/
theorem mem_toString {n : Int} {c : Char} (h : c ∈ (toString n).toList) :
    c = '-' ∨ ∃ d < 10, c = digitChar d := by
  obtain ⟨first, rest, hdigits, hlt, -⟩ := exists_digits n.natAbs
  have hof : c ∈ Nat.toDigits 10 n.natAbs → ∃ d < 10, c = digitChar d := by
    intro hc
    rw [hdigits] at hc
    obtain ⟨d, hd, rfl⟩ := List.mem_map.mp hc
    exact ⟨d, hlt d hd, rfl⟩
  rcases Int.lt_or_le n 0 with hneg | hpos
  · rw [toList_toString_of_neg hneg, List.mem_cons] at h
    exact h.imp_right hof
  · rw [toList_toString_of_nonneg hpos] at h
    exact .inr (hof h)

/-! ### Reading -/

theorem digit?_digitChar_of_lt {d : Nat} (h : d < 10) : digit? (digitChar d) = some d := by
  rw [digit?_digitChar, Nat.mod_eq_of_lt h]

theorem groupedDigits_map_digitChar {first : Nat} {rest : List Nat}
    (hlt : ∀ d ∈ first :: rest, d < 10) :
    groupedDigits ((first :: rest).map digitChar) = some (first :: rest) := by
  induction rest generalizing first with
  | nil => simp [groupedDigits, digit?_digitChar_of_lt (hlt first List.mem_cons_self)]
  | cons second rest ih =>
    have hmark : ∀ d < 10, digitChar d ≠ '_' := by decide
    have hfirst := digit?_digitChar_of_lt (hlt first List.mem_cons_self)
    have hrest := ih fun d hd ↦ hlt d (List.mem_cons_of_mem first hd)
    have hsecond := hmark second (hlt second (by simp))
    rw [List.map_cons] at hrest
    rw [List.map_cons, List.map_cons, groupedDigits]
    · rw [hfirst, hrest]
      rfl
    · simp
    · rintro more hmore
      exact hsecond (List.cons.inj hmore).1

theorem readNatural?_toDigits {n : Nat} (h : (Nat.toDigits 10 n).length ≤ digitLimit) :
    readNatural? (Nat.toDigits 10 n) = some n := by
  obtain ⟨first, rest, hdigits, hlt, hread, -⟩ := exists_digits n
  rw [hdigits, List.length_map] at h
  rw [hdigits, readNatural?, groupedDigits_map_digitChar hlt]
  simp only [Option.bind_eq_bind, Option.bind_some, if_pos h, hread]

/-- A text of digits with at most a sign has no white space around it. -/
theorem trimList_toString (n : Int) :
    trimList isWhiteSpace (toString n).toList = (toString n).toList := by
  have hplain : ∀ c ∈ (toString n).toList, isWhiteSpace c = false := by
    intro c hc
    have hall : ∀ d < 10, isWhiteSpace (digitChar d) = false := by decide
    rcases mem_toString hc with rfl | ⟨d, hd, rfl⟩
    · decide
    · exact hall d hd
  exact trimList_eq_self _ ⟨fun c hc ↦ hplain c (List.mem_of_mem_head? hc),
    fun c hc ↦ hplain c (List.mem_of_getLast? hc)⟩

/-- An integer that is not too long is read from its text. -/
theorem readInteger?_toString {n : Int} (h : isTooLong n = false) :
    readInteger? (toString n) = some n := by
  have hlength : (Nat.toDigits 10 n.natAbs).length ≤ digitLimit := by
    rw [isTooLong, decide_eq_false_iff_not, Nat.not_le] at h
    exact length_toDigits_le (by decide) h
  have hread := readNatural?_toDigits hlength
  rw [readInteger?, trimList_toString]
  rcases Int.lt_or_le n 0 with hneg | hpos
  · rw [toList_toString_of_neg hneg]
    have hvalue : -(n.natAbs : Int) = n := by omega
    simp only [hread]
    exact congrArg some hvalue
  · rw [toList_toString_of_nonneg hpos]
    obtain ⟨first, rest, hdigits, hlt, -⟩ := exists_digits n.natAbs
    have hmarks : ∀ d < 10, digitChar d ≠ '-' ∧ digitChar d ≠ '+' := by decide
    obtain ⟨hminus, hplus⟩ := hmarks first (hlt first List.mem_cons_self)
    rw [hdigits, List.map_cons] at hread ⊢
    split
    · rename_i hfront
      exact absurd (List.cons.inj hfront).1 hminus
    · rename_i hfront
      exact absurd (List.cons.inj hfront).1 hplus
    · rw [hread, Option.map_some, Option.some.injEq]
      exact Int.natAbs_of_nonneg hpos

theorem lt_of_groupedDigits {s : List Char} {ds : List Nat} (h : groupedDigits s = some ds) :
    ∀ d ∈ ds, d < 10 := by
  fun_induction groupedDigits s generalizing ds with
  | case1 => simp at h
  | case2 c =>
    obtain ⟨d, hd, rfl⟩ := Option.map_eq_some_iff.mp h
    simpa using lt_ten_of_digit? hd
  | case3 c rest ih =>
    obtain ⟨d, hd, h⟩ := Option.bind_eq_some_iff.mp h
    obtain ⟨others, hothers, h⟩ := Option.bind_eq_some_iff.mp h
    cases h
    exact List.forall_mem_cons.mpr ⟨lt_ten_of_digit? hd, ih hothers⟩
  | case4 c rest _ _ ih =>
    obtain ⟨d, hd, h⟩ := Option.bind_eq_some_iff.mp h
    obtain ⟨others, hothers, h⟩ := Option.bind_eq_some_iff.mp h
    cases h
    exact List.forall_mem_cons.mpr ⟨lt_ten_of_digit? hd, ih hothers⟩

theorem lt_of_readNatural? {s : List Char} {n : Nat} (h : readNatural? s = some n) :
    n < Nat.pow 10 digitLimit := by
  obtain ⟨ds, hds, h⟩ := Option.bind_eq_some_iff.mp h
  split at h
  · rename_i hlength
    cases h
    exact readDigits_lt_pow (lt_of_groupedDigits hds) hlength
  · cases h

/-- No text reads as an integer that is too long to be written. -/
theorem isTooLong_of_readInteger? {s : String} {n : Int} (h : readInteger? s = some n) :
    isTooLong n = false := by
  have hbound : n.natAbs < Nat.pow 10 digitLimit := by
    unfold readInteger? at h
    split at h
    · obtain ⟨signed, hsigned, rfl⟩ := Option.map_eq_some_iff.mp h
      obtain ⟨m, hm, hcast⟩ := Option.bind_eq_some_iff.mp hsigned
      cases hcast
      rw [Int.natAbs_neg]
      exact lt_of_readNatural? hm
    all_goals
      obtain ⟨m, hm, rfl⟩ := Option.map_eq_some_iff.mp h
      exact lt_of_readNatural? hm
  rw [isTooLong, decide_eq_false_iff_not, Nat.not_le]
  exact hbound

end StreamAudit.Number
