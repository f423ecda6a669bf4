import Mathlib.Data.List.Infix
import StreamAudit.CommandLine.PlainText

/-!
What plain text leaves out. A text is captured as it is exactly if it holds no control sequence,
which writing leaves out, and no carriage return at the end of a line, which reading the captured
text leaves out (`plainText_eq_self_iff`): since characters are only ever dropped, a text that comes
out unchanged passed both steps unchanged.
-/

set_option autoImplicit false
set_option relaxedAutoImplicit false

namespace StreamAudit.CommandLine

theorem withoutSequences_sublist (left : Nat) (s : List Char) :
    (withoutSequences left s).Sublist s := by
  fun_induction withoutSequences left s with
  | case1 => exact .refl []
  | case2 left c rest ih => exact ih.cons c
  | case3 c rest length _ ih => exact ih.cons c
  | case4 c rest _ ih => exact ih.cons_cons c

theorem withoutReturns_sublist (s : List Char) : (withoutReturns s).Sublist s := by
  fun_induction withoutReturns s with
  | case1 rest ih => exact (ih.cons_cons '\n').cons '\r'
  | case2 c rest _ ih => exact ih.cons_cons c
  | case3 => exact .refl []

/-- Whether a text holds no control sequence. -/
def HasNoSequence (s : List Char) : Prop :=
  ∀ suffix, suffix <:+ s → sequenceLength? suffix = none

theorem withoutSequences_eq_self_iff (s : List Char) :
    withoutSequences 0 s = s ↔ HasNoSequence s := by
  induction s with
  | nil => simp [withoutSequences, HasNoSequence, sequenceLength?]
  | cons c rest ih =>
    have hcons : HasNoSequence (c :: rest) ↔
        sequenceLength? (c :: rest) = none ∧ HasNoSequence rest := by
      simp only [HasNoSequence, List.suffix_cons_iff, forall_eq_or_imp]
    rw [hcons, ← ih, withoutSequences]
    cases hsequence : sequenceLength? (c :: rest) with
    | none => simp
    | some length =>
      -- what is left is shorter than the text
      have hshort := (withoutSequences_sublist (length - 1) rest).length_le
      simp only [reduceCtorEq, false_and, iff_false]
      intro heq
      rw [heq, List.length_cons] at hshort
      omega

theorem withoutReturns_eq_self_iff (s : List Char) :
    withoutReturns s = s ↔ ¬ ['\r', '\n'] <:+: s := by
  fun_induction withoutReturns s with
  | case1 rest ih =>
    have hmem : ['\r', '\n'] <:+: '\r' :: '\n' :: rest := ⟨[], rest, rfl⟩
    simp [hmem]
  | case2 c rest hreturn ih =>
    have hcons : ['\r', '\n'] <:+: c :: rest ↔ ['\r', '\n'] <:+: rest := by
      rw [List.infix_cons_iff, or_iff_right]
      rintro ⟨after, heq⟩
      exact hreturn after (List.cons.inj heq).1.symm (List.cons.inj heq).2.symm
    rw [hcons, ← ih, List.cons.injEq]
    simp
  | case3 => simp

/-- Whether a text holds no control sequence and no carriage return at the end of a line. -/
def IsPlain (s : String) : Prop :=
  HasNoSequence s.toList ∧ ¬ ['\r', '\n'] <:+: s.toList

/-- A text is captured as it is exactly if it is plain. -/
theorem plainText_eq_self_iff (s : String) : plainText s = s ↔ IsPlain s := by
  have hlist : plainText s = s ↔ withoutReturns (withoutSequences 0 s.toList) = s.toList := by
    rw [plainText, ← String.toList_inj, String.toList_ofList]
  rw [hlist, IsPlain, ← withoutSequences_eq_self_iff, ← withoutReturns_eq_self_iff]
  constructor
  · intro heq
    have hsub := withoutReturns_sublist (withoutSequences 0 s.toList)
    rw [heq] at hsub
    have hsame := (withoutSequences_sublist 0 s.toList).antisymm hsub
    rw [hsame] at heq
    exact ⟨hsame, heq⟩
  · rintro ⟨hsequences, hreturns⟩
    rw [hsequences, hreturns]

theorem sequenceLength?_of_ne {c : Char} (h : c.toNat ≠ 0x1B) (rest : List Char) :
    sequenceLength? (c :: rest) = none := by
  rw [sequenceLength?.eq_def]
  split
  · rename_i heq
    cases heq
    exact if_neg h
  · rfl

/-- A text without escapes and carriage returns is captured as it is. -/
theorem plainText_of_forall {s : String} (h : ∀ c ∈ s.toList, c.toNat ≠ 0x1B ∧ c ≠ '\r') :
    plainText s = s := by
  rw [plainText_eq_self_iff]
  constructor
  · intro suffix hsuffix
    cases suffix with
    | nil => rfl
    | cons c rest => exact sequenceLength?_of_ne (h c (hsuffix.subset List.mem_cons_self)).1 rest
  · intro hreturn
    exact (h '\r' (hreturn.subset List.mem_cons_self)).2 rfl

end StreamAudit.CommandLine
