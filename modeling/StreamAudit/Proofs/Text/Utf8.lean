import Mathlib.Tactic.SplitIfs
import StreamAudit.Text.Utf8

/-!
UTF-8 read back. The bytes of a character in front of any others are read as that character
(`decode_encodeChar_append`), one lemma for each number of bytes, and so a text is read from its own
bytes (`decode_encode`).
-/

set_option autoImplicit false
set_option relaxedAutoImplicit false

namespace StreamAudit.Text

/-- The position of a character is not one of a surrogate. -/
theorem toNat_mem (c : Char) : c.toNat < 0xD800 ∨ 0xDFFF < c.toNat ∧ c.toNat < 0x110000 :=
  c.valid

namespace Utf8

section Front

variable {c : Char} (rest : List Nat)

theorem decodeFront_one (h : c.toNat < 0x80) : decodeFront c.toNat rest = (c, 1) := by
  simp only [decodeFront, if_pos h, Char.ofNat_toNat]

theorem decodeFront_two (hlow : 0x80 ≤ c.toNat) (hhigh : c.toNat < 0x800) :
    decodeFront (0xC0 + c.toNat / 0x40) ((0x80 + c.toNat % 0x40) :: rest) = (c, 2) := by
  generalize hlead : 0xC0 + c.toNat / 0x40 = lead
  generalize hnext : 0x80 + c.toNat % 0x40 = next
  have hlarge : ¬ lead < 0x80 := by omega
  have hfollowing : following lead = 1 := by
    rw [following, if_pos (by simp; omega)]
  have hrange : secondRange lead = (0x80, 0xBF) := by
    simp only [secondRange, beq_iff_eq]
    rw [if_neg (by omega), if_neg (by omega), if_neg (by omega), if_neg (by omega)]
  have hsecond : isSecond lead next = true := by
    simp [isSecond, hrange]
    omega
  have hvalue : (lead - 0xC0) * 0x40 + (next - 0x80) = c.toNat := by omega
  simp only [decodeFront, if_neg hlarge, hfollowing, hsecond, if_true, hvalue, Char.ofNat_toNat]

theorem decodeFront_three (hlow : 0x800 ≤ c.toNat) (hhigh : c.toNat < 0x10000) :
    decodeFront (0xE0 + c.toNat / 0x1000)
      ((0x80 + c.toNat / 0x40 % 0x40) :: (0x80 + c.toNat % 0x40) :: rest) = (c, 3) := by
  have hvalid := toNat_mem c
  generalize hlead : 0xE0 + c.toNat / 0x1000 = lead
  generalize hnext : 0x80 + c.toNat / 0x40 % 0x40 = next
  generalize hlast : 0x80 + c.toNat % 0x40 = last
  have hlarge : ¬ lead < 0x80 := by omega
  have hfollowing : following lead = 2 := by
    rw [following, if_neg (by simp; omega), if_pos (by simp; omega)]
  have hsecond : isSecond lead next = true := by
    simp only [isSecond, secondRange, beq_iff_eq, Bool.and_eq_true, decide_eq_true_eq]
    split_ifs <;> omega
  have hcontinuation : isContinuation last = true := by
    simp [isContinuation]
    omega
  have hvalue : (lead - 0xE0) * 0x1000 + (next - 0x80) * 0x40 + (last - 0x80) = c.toNat := by omega
  simp only [decodeFront, if_neg hlarge, hfollowing, hsecond, hcontinuation, if_true, hvalue,
    Char.ofNat_toNat]

theorem decodeFront_four (hlow : 0x10000 ≤ c.toNat) :
    decodeFront (0xF0 + c.toNat / 0x40000) ((0x80 + c.toNat / 0x1000 % 0x40) ::
      (0x80 + c.toNat / 0x40 % 0x40) :: (0x80 + c.toNat % 0x40) :: rest) = (c, 4) := by
  have hvalid := toNat_mem c
  generalize hlead : 0xF0 + c.toNat / 0x40000 = lead
  generalize hnext : 0x80 + c.toNat / 0x1000 % 0x40 = next
  generalize hthird : 0x80 + c.toNat / 0x40 % 0x40 = third
  generalize hlast : 0x80 + c.toNat % 0x40 = last
  have hlarge : ¬ lead < 0x80 := by omega
  have hfollowing : following lead = 3 := by
    rw [following, if_neg (by simp; omega), if_neg (by simp; omega), if_pos (by simp; omega)]
  have hsecond : isSecond lead next = true := by
    simp only [isSecond, secondRange, beq_iff_eq, Bool.and_eq_true, decide_eq_true_eq]
    split_ifs <;> omega
  have hcontinuations : isContinuation third = true ∧ isContinuation last = true := by
    simp [isContinuation]
    omega
  have hvalue : (lead - 0xF0) * 0x40000 + (next - 0x80) * 0x1000 + (third - 0x80) * 0x40 +
      (last - 0x80) = c.toNat := by omega
  simp only [decodeFront, if_neg hlarge, hfollowing, hsecond, hcontinuations, if_true, hvalue,
    Char.ofNat_toNat]

end Front

/-- The bytes of a character are read as it, however many they are. -/
theorem exists_decodeFront (c : Char) (rest : List Nat) : ∃ lead tail, encodeChar c = lead :: tail ∧
    decodeFront lead (tail ++ rest) = (c, tail.length + 1) := by
  simp only [encodeChar]
  split_ifs with hone htwo hthree
  · exact ⟨_, _, rfl, decodeFront_one _ hone⟩
  · exact ⟨_, _, rfl, decodeFront_two rest (by omega) htwo⟩
  · exact ⟨_, _, rfl, decodeFront_three rest (by omega) hthree⟩
  · exact ⟨_, _, rfl, decodeFront_four rest (by omega)⟩

theorem decode_encodeChar_append (c : Char) (rest : List Nat) :
    decode (encodeChar c ++ rest) = c :: decode rest := by
  obtain ⟨lead, tail, hbytes, hfront⟩ := exists_decodeFront c rest
  rw [hbytes, List.cons_append, decode, hfront]
  simp

/-- A text is read from its own bytes. -/
theorem decode_encode (s : List Char) : decode (encode s) = s := by
  induction s with
  | nil => simp [encode, decode]
  | cons c rest ih =>
    rw [encode, List.flatMap_cons, decode_encodeChar_append]
    exact congrArg (c :: ·) ih

/-- Every byte of a text is below 256. -/
theorem lt_of_mem_encodeChar {c : Char} {b : Nat} (h : b ∈ encodeChar c) : b < 256 := by
  have hvalid := toNat_mem c
  simp only [encodeChar] at h
  split_ifs at h <;> simp only [List.mem_cons, List.not_mem_nil, or_false] at h <;> omega

end Utf8

end StreamAudit.Text
