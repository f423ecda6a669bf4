import Mathlib.Tactic.SplitIfs
import StreamAudit.Text.LetterCase

/-!
Texts in lower case. Few characters have a small letter in ASCII: the capitals of ASCII and the sign
for kelvin. None of them is left in lower case (`not_mem_lower`), so what is in lower case and is
lowered to a text of ASCII characters is that text already (`eq_of_lower_eq`).
-/

set_option autoImplicit false
set_option relaxedAutoImplicit false

namespace StreamAudit.Text

/-- Whether the small letter of a character is another character, of ASCII. -/
def fallsToAscii (c : Char) : Bool :=
  (65 ≤ c.toNat && c.toNat ≤ 90) || c.toNat == 0x212A

/-- What is needed of a run of capitals: their small letters are characters, these do not fall to
ASCII, and if they are ASCII characters then the capitals do. -/
def IsSettled : Nat × Nat × Nat × Int → Prop
  | (first, last, _, distance) =>
    (last + distance < 0xD800 ∨ 0xDFFF < first + distance ∧ last + distance < 0x110000) ∧
      90 < first + distance ∧ (last + distance < 0x212A ∨ 0x212A < first + distance) ∧
      (128 ≤ first + distance ∨ 65 ≤ first ∧ last ≤ 90 ∨ first = 0x212A ∧ last = 0x212A)

instance : DecidablePred IsSettled :=
  fun (_, _, _, _) ↦ inferInstanceAs (Decidable (_ ∧ _))

theorem isSettled_of_mem {run : Nat × Nat × Nat × Int} (h : run ∈ capitalRuns) : IsSettled run := by
  have hall : ∀ run ∈ capitalRuns.toList, IsSettled run := by decide +kernel
  exact hall run (Array.mem_toList_iff.mpr h)

theorem toNat_ofNat {n : Nat} (h : n.isValidChar) : (Char.ofNat n).toNat = n := by
  rw [Char.ofNat, dif_pos h]
  rfl

/-- A small letter does not fall to ASCII, and a character with a small letter in ASCII does. -/
theorem falls_of_smallLetter? {c small : Char} (h : smallLetter? c = some small) :
    fallsToAscii small = false ∧ (small.toNat < 128 → fallsToAscii c = true) := by
  rw [smallLetter?, Option.map_eq_some_iff] at h
  obtain ⟨⟨first, last, step, distance⟩, hfound, hsmall⟩ := h
  have hrun := Array.find?_some hfound
  simp only [Bool.and_eq_true, decide_eq_true_eq] at hrun
  obtain ⟨⟨hfirst, hlast⟩, -⟩ := hrun
  obtain ⟨hvalid, hcapital, hkelvin, hascii⟩ := isSettled_of_mem (Array.mem_of_find?_eq_some hfound)
  have hvalue : (small.toNat : Int) = c.toNat + distance := by
    rw [← hsmall, toNat_ofNat]
    · omega
    · rcases hvalid with hlow | ⟨hhigh, hbound⟩
      · exact .inl (by omega)
      · exact .inr ⟨by omega, by omega⟩
  simp only [fallsToAscii, Bool.or_eq_false_iff, Bool.and_eq_false_iff, Bool.or_eq_true,
    Bool.and_eq_true, decide_eq_true_eq, decide_eq_false_iff_not, beq_iff_eq, beq_eq_false_iff_ne]
  omega

theorem smallLetter?_ne_none {c : Char} (h : fallsToAscii c = true) : smallLetter? c ≠ none := by
  rw [fallsToAscii, Bool.or_eq_true, Bool.and_eq_true, decide_eq_true_eq, decide_eq_true_eq,
    beq_iff_eq] at h
  rw [smallLetter?, ne_eq, Option.map_eq_none_iff, ← ne_eq, ← Option.isSome_iff_ne_none,
    Array.find?_isSome]
  rcases h with ⟨hfirst, hlast⟩ | hkelvin
  · exact ⟨(0x41, 0x5a, 1, 32), by decide +kernel, by simp [hfirst, hlast, Nat.mod_one]⟩
  · exact ⟨(0x212a, 0x212a, 1, -8383), by decide +kernel, by simp [hkelvin]⟩

theorem not_falls_of_mem_smallLetters {before after : List Char} {c small : Char}
    (h : small ∈ smallLetters before c after) : fallsToAscii small = false := by
  rw [smallLetters] at h
  split_ifs at h
  · rw [List.mem_cons, List.mem_singleton] at h
    rcases h with rfl | rfl
    · decide
    · decide
  · rw [List.mem_singleton] at h
    rw [h]
    decide
  · rw [List.mem_singleton] at h
    rw [h]
    decide
  · rw [List.mem_singleton] at h
    rw [h]
    cases hsmall : smallLetter? c with
    | some found => exact (falls_of_smallLetter? hsmall).1
    | none => exact Bool.eq_false_iff.mpr fun hfalls ↦ smallLetter?_ne_none hfalls hsmall

theorem not_falls_of_mem_lowerList {before s : List Char} {small : Char}
    (h : small ∈ lowerList before s) :
    fallsToAscii small = false := by
  induction s generalizing before with
  | nil => cases h
  | cons c rest ih =>
    rcases List.mem_append.mp h with hfirst | hrest
    · exact not_falls_of_mem_smallLetters hfirst
    · exact ih hrest

/-- No character of a text in lower case falls to ASCII. -/
theorem not_mem_lower {s : String} {c : Char} (h : c ∈ (lower s).toList) :
    fallsToAscii c = false := by
  rw [lower, String.toList_ofList] at h
  exact not_falls_of_mem_lowerList h

/-- A character that does not fall to ASCII stands for itself where its small letters are ASCII
characters. -/
theorem smallLetters_eq_self {before after : List Char} {c : Char} (hc : fallsToAscii c = false)
    (h : ∀ small ∈ smallLetters before c after, small.toNat < 128) :
    smallLetters before c after = [c] := by
  rw [smallLetters] at h ⊢
  split_ifs at h ⊢
  · exact absurd (h (Char.ofNat 0x307) (by simp)) (by decide)
  · exact absurd (h (Char.ofNat 0x3C2) (by simp)) (by decide)
  · exact absurd (h (Char.ofNat 0x3C3) (by simp)) (by decide)
  · cases hsmall : smallLetter? c with
    | none => rfl
    | some small =>
      rw [hsmall] at h
      have hfalls := (falls_of_smallLetter? hsmall).2 (h small (by simp))
      rw [hc] at hfalls
      cases hfalls

theorem lowerList_eq_self {before s : List Char} (hs : ∀ c ∈ s, fallsToAscii c = false)
    (h : ∀ small ∈ lowerList before s, small.toNat < 128) : lowerList before s = s := by
  induction s generalizing before with
  | nil => rfl
  | cons c rest ih =>
    obtain ⟨hc, hrest⟩ := List.forall_mem_cons.mp hs
    rw [lowerList, List.forall_mem_append] at h
    rw [lowerList, smallLetters_eq_self hc h.1, ih hrest h.2, List.singleton_append]

/-- What has no character that falls to ASCII and is lowered to ASCII characters is in lower
case. -/
theorem eq_of_lower_eq {s t : String} (hs : ∀ c ∈ s.toList, fallsToAscii c = false)
    (ht : ∀ c ∈ t.toList, c.toNat < 128) (h : lower s = t) : s = t := by
  rw [← h, lower, String.toList_ofList] at ht
  rw [← h, lower, lowerList_eq_self hs ht, String.ofList_toList]

end StreamAudit.Text
