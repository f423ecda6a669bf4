import Mathlib.Algebra.Ring.Nat
import Mathlib.Data.List.Basic
import Mathlib.Data.List.TakeWhile
import StreamAudit.Proofs.Number.IntegerText
import StreamAudit.Proofs.Relabel

/-!
Labels that are read from a cut text. A part that lies in front of the cut is read as from the whole
text (`Part.read?_shorten`), and one that the cut goes through is read to the end of what is left,
if at all (`Part.read?_inside`). Since no part is read from nothing, only the last part of a label
can be cut in two and still be read (`readFront_inside`).
-/

set_option autoImplicit false
set_option relaxedAutoImplicit false

namespace StreamAudit.Label

open StreamAudit.Text

/-! ### Shapes -/

section Shapes

variable {shape : Shape} {s used rest : List Char} {value found : Nat}

theorem Shape.read?_of_short (h : s.length < shape.length) (value : Nat) :
    Shape.read? value shape s = none := by
  induction shape generalizing s value with
  | nil => simp at h
  | cons slot slots ih =>
    cases s with
    | nil => rfl
    | cons c left =>
      rw [Shape.read?]
      split
      · exact ih (Nat.lt_of_succ_lt_succ h) _
      · rfl

/-- A shape uses up as many characters as it has slots. -/
theorem Shape.exists_used (h : Shape.read? value shape s = some (found, rest)) :
    ∃ used, s = used ++ rest ∧ used.length = shape.length := by
  induction shape generalizing s value with
  | nil =>
    cases h
    exact ⟨[], rfl, rfl⟩
  | cons slot slots ih =>
    cases s with
    | nil => cases h
    | cons c left =>
      rw [Shape.read?] at h
      split at h
      · obtain ⟨used, rfl, hlength⟩ := ih h
        exact ⟨c :: used, rfl, congrArg Nat.succ hlength⟩
      · cases h

/-- What a shape reads does not depend on what follows. -/
theorem Shape.read?_append_of (h : Shape.read? value shape (used ++ rest) = some (found, rest)) :
    used.length = shape.length ∧
      ∀ more, Shape.read? value shape (used ++ more) = some (found, more) := by
  obtain ⟨front, hfront, hlength⟩ := Shape.exists_used h
  obtain rfl := List.append_cancel_right hfront
  refine ⟨hlength, fun more ↦ ?_⟩
  rw [Shape.read?_append shape hlength.ge] at h ⊢
  obtain ⟨⟨value, left⟩, hread, heq⟩ := Option.map_eq_some_iff.mp h
  obtain ⟨rfl, hleft⟩ := Prod.mk.inj heq
  obtain rfl : left = [] := by simpa using hleft
  rw [hread]
  rfl

/-- What a shape does not read it does not read from a cut text. -/
theorem Shape.read?_take_eq_none (h : Shape.read? value shape s = none) (n : Nat) :
    Shape.read? value shape (s.take n) = none := by
  rcases Nat.lt_or_ge (s.take n).length shape.length with hshort | hlong
  · exact Shape.read?_of_short hshort value
  · have hwhole := Shape.read?_append shape hlong value (s.drop n)
    rw [List.take_append_drop, h] at hwhole
    exact Option.map_eq_none_iff.mp hwhole.symm

end Shapes

/-! ### Parts -/

/-- Reads one part from the front of a text: the value of its number, if it is one, and the rest. -/
def Part.read? : Part → List Char → Option (List Nat × List Char)
  | .number shapes, s => (shapes.findSome? (Shape.read? 0 · s)).map fun found ↦ ([found.1], found.2)
  | .mark m, c :: rest => if c = m then some ([], rest) else none
  | .gap, c :: rest => if isBlank c then some ([], rest.dropWhile isBlank) else none
  | .mark _, [] | .gap, [] => none

theorem readParts_cons (part : Part) (parts : List Part) (s : List Char) :
    readParts (part :: parts) s =
      (part.read? s).bind fun found ↦ (readParts parts found.2).map (found.1 ++ ·) := by
  cases part with
  | number shapes =>
    rw [readParts, Part.read?]
    cases shapes.findSome? (Shape.read? 0 · s) <;> rfl
  | mark m =>
    cases s with
    | nil => rfl
    | cons c rest =>
      rw [readParts, Part.read?]
      split <;> simp
  | gap =>
    cases s with
    | nil => rfl
    | cons c rest =>
      rw [readParts, Part.read?]
      split <;> simp

/-- Whether the shapes of a part are of one length or of two that follow each other, and none is
empty. -/
def Part.IsTight (part : Part) : Prop :=
  (∀ shape ∈ part.shapes, shape ≠ []) ∧
    ∀ shape ∈ part.shapes, ∀ other ∈ part.shapes, shape.length ≤ other.length + 1

instance (part : Part) : Decidable part.IsTight :=
  inferInstanceAs (Decidable (_ ∧ _))

section Parts

variable {part : Part} {s used rest : List Char} {values : List Nat}

theorem Part.read?_nil (h : part.IsTight) : part.read? [] = none := by
  cases part with
  | mark m => rfl
  | gap => rfl
  | number shapes =>
    have hnone : shapes.findSome? (Shape.read? 0 · []) = none := by
      refine List.findSome?_eq_none_iff.mpr fun shape hshape ↦ ?_
      have hlength : ([] : List Char).length < shape.length :=
        List.length_pos_iff.mpr (h.1 shape hshape)
      exact Shape.read?_of_short hlength 0
    rw [Part.read?, hnone]
    rfl

/-- The shape by which a number is read. -/
theorem exists_shape {shapes : List Shape}
    (h : (Part.number shapes).read? s = some (values, rest)) :
    ∃ shape ∈ shapes, ∃ value, Shape.read? 0 shape s = some (value, rest) := by
  obtain ⟨⟨value, left⟩, hread, heq⟩ := Option.map_eq_some_iff.mp h
  obtain ⟨-, rfl⟩ := Prod.mk.inj heq
  obtain ⟨shape, hshape, hvalue⟩ := List.exists_of_findSome?_eq_some hread
  exact ⟨shape, hshape, value, hvalue⟩

theorem Part.exists_used (h : part.read? s = some (values, rest)) : ∃ used, s = used ++ rest := by
  cases part with
  | number shapes =>
    obtain ⟨shape, -, value, hvalue⟩ := exists_shape h
    obtain ⟨used, hused, -⟩ := Shape.exists_used hvalue
    exact ⟨used, hused⟩
  | mark m =>
    cases s with
    | nil => cases h
    | cons c left =>
      rw [Part.read?] at h
      split at h
      · cases h
        exact ⟨[c], rfl⟩
      · cases h
  | gap =>
    cases s with
    | nil => cases h
    | cons c left =>
      rw [Part.read?] at h
      split at h
      · cases h
        exact ⟨c :: left.takeWhile isBlank, by simp⟩
      · cases h

theorem Part.read?_mark_iff {m : Char} :
    (Part.mark m).read? (used ++ rest) = some (values, rest) ↔ used = [m] ∧ values = [] := by
  constructor
  · intro h
    generalize htext : used ++ rest = s at h
    cases s with
    | nil => cases h
    | cons c left =>
      rw [Part.read?] at h
      split at h
      · rename_i hmark
        cases h
        exact ⟨List.append_cancel_right (htext.trans (by rw [hmark]; rfl)), rfl⟩
      · cases h
  · rintro ⟨rfl, rfl⟩
    exact if_pos rfl

/-- A gap is a run of blanks up to the next character that is none. -/
theorem Part.read?_gap_iff : Part.gap.read? (used ++ rest) = some (values, rest) ↔
    used ≠ [] ∧ (∀ c ∈ used, isBlank c = true) ∧ (∀ c ∈ rest.head?, isBlank c = false) ∧
      values = [] := by
  constructor
  · intro h
    generalize htext : used ++ rest = s at h
    cases s with
    | nil => cases h
    | cons c left =>
      rw [Part.read?] at h
      split at h
      · rename_i hblank
        obtain ⟨rfl, hrest⟩ := Prod.mk.inj (Option.some.inj h)
        have hused : used = c :: left.takeWhile isBlank := by
          refine List.append_cancel_right (htext.trans ?_)
          rw [← hrest, List.cons_append, List.takeWhile_append_dropWhile]
        refine ⟨by simp [hused], ?_, hrest ▸ head?_dropWhile isBlank left, rfl⟩
        rw [hused]
        exact List.forall_mem_cons.mpr ⟨hblank, fun other ↦ List.mem_takeWhile_imp⟩
      · cases h
  · rintro ⟨hne, hused, hrest, rfl⟩
    obtain ⟨c, more, rfl⟩ := List.exists_cons_of_ne_nil hne
    obtain ⟨hblank, hmore⟩ := List.forall_mem_cons.mp hused
    rw [List.cons_append, Part.read?, if_pos hblank, List.dropWhile_append_of_pos hmore,
      dropWhile_eq_self isBlank hrest]

/-- A part is read the same from a text that is cut behind it. -/
theorem Part.read?_shorten (h : part.read? (used ++ rest) = some (values, rest)) (n : Nat) :
    part.read? (used ++ rest.take n) = some (values, rest.take n) := by
  cases part with
  | number shapes =>
    obtain ⟨⟨value, left⟩, hread, heq⟩ := Option.map_eq_some_iff.mp h
    obtain ⟨rfl, rfl⟩ := Prod.mk.inj heq
    obtain ⟨before, shape, after, hshapes, hvalue, hbefore⟩ := List.findSome?_eq_some_iff.mp hread
    obtain ⟨hlength, hmore⟩ := Shape.read?_append_of hvalue
    have hcut : shapes.findSome? (Shape.read? 0 · (used ++ left.take n)) =
        some (value, left.take n) := by
      refine List.findSome?_eq_some_iff.mpr
        ⟨before, shape, after, hshapes, hmore _, fun other hother ↦ ?_⟩
      have hnone := Shape.read?_take_eq_none (hbefore other hother) (used.length + n)
      rwa [List.take_length_add_append] at hnone
    rw [Part.read?, hcut]
    rfl
  | mark m =>
    rw [Part.read?_mark_iff] at h ⊢
    exact h
  | gap =>
    rw [Part.read?_gap_iff] at h ⊢
    obtain ⟨hne, hused, hrest, hvalues⟩ := h
    refine ⟨hne, hused, fun c hc ↦ hrest c ?_, hvalues⟩
    cases n with
    | zero => cases hc
    | succ n => rwa [List.head?_take, if_neg (Nat.succ_ne_zero n)] at hc

/-- A part that the cut goes through leaves nothing, if it is read at all. -/
theorem Part.read?_inside (htight : part.IsTight)
    (h : part.read? (used ++ rest) = some (values, rest)) {n : Nat} (hn : n < used.length)
    {others : List Nat} {left : List Char} (hcut : part.read? (used.take n) = some (others, left)) :
    left = [] := by
  cases part with
  | number shapes =>
    obtain ⟨shape, hshape, value, hvalue⟩ := exists_shape h
    obtain ⟨other, hother, found, hfound⟩ := exists_shape hcut
    have hlength := (Shape.read?_append_of hvalue).1
    obtain ⟨front, hfront, hother'⟩ := Shape.exists_used hfound
    have hshort := htight.2 shape hshape other hother
    have htotal := congrArg List.length hfront
    rw [List.length_take, List.length_append] at htotal
    exact List.eq_nil_of_length_eq_zero (by omega)
  | mark m =>
    obtain ⟨rfl, -⟩ := Part.read?_mark_iff.mp h
    obtain rfl : n = 0 := by simpa using hn
    cases hcut
  | gap =>
    obtain ⟨-, hused, -⟩ := Part.read?_gap_iff.mp h
    obtain ⟨front, hfront⟩ := Part.exists_used hcut
    rw [hfront] at hcut
    obtain ⟨-, -, hleft, -⟩ := Part.read?_gap_iff.mp hcut
    -- what is left would begin with a character that is no blank
    cases left with
    | nil => rfl
    | cons c more =>
      have hmem : c ∈ used.take n := by simp [hfront]
      exact absurd (hused c (List.mem_of_mem_take hmem)) (by simp [hleft c rfl])

/-- How many values a part has. -/
def Part.arity : Part → Nat
  | .number _ => 1
  | .mark _ | .gap => 0

theorem Part.length_values (h : part.read? s = some (values, rest)) :
    values.length = part.arity := by
  obtain ⟨used, rfl⟩ := Part.exists_used h
  cases part with
  | number shapes =>
    obtain ⟨found, -, heq⟩ := Option.map_eq_some_iff.mp h
    obtain ⟨rfl, -⟩ := Prod.mk.inj heq
    rfl
  | mark m =>
    obtain ⟨-, rfl⟩ := Part.read?_mark_iff.mp h
    rfl
  | gap =>
    obtain ⟨-, -, -, rfl⟩ := Part.read?_gap_iff.mp h
    rfl

/-- The length of the longest of some shapes. -/
def longest : List Shape → Nat
  | [] => 0
  | shape :: shapes => max shape.length (longest shapes)

theorem length_le_longest {shapes : List Shape} {shape : Shape} (h : shape ∈ shapes) :
    shape.length ≤ longest shapes := by
  induction shapes with
  | nil => cases h
  | cons other shapes ih =>
    rw [longest]
    rcases List.mem_cons.mp h with rfl | hlater
    · exact Nat.le_max_left _ _
    · exact (ih hlater).trans (Nat.le_max_right _ _)

/-- How many characters a part uses up at most; a gap has no limit. -/
def Part.limit? : Part → Option Nat
  | .number shapes => some (longest shapes)
  | .mark _ => some 1
  | .gap => none

theorem Part.length_used_le (h : part.read? (used ++ rest) = some (values, rest)) {limit : Nat}
    (hlimit : part.limit? = some limit) : used.length ≤ limit := by
  cases part with
  | number shapes =>
    obtain ⟨shape, hshape, value, hvalue⟩ := exists_shape h
    rw [(Shape.read?_append_of hvalue).1]
    cases hlimit
    exact length_le_longest hshape
  | mark m =>
    obtain ⟨rfl, -⟩ := Part.read?_mark_iff.mp h
    cases hlimit
    exact le_rfl
  | gap => cases hlimit

end Parts

/-! ### Parts one after another -/

/-- Reads parts from the front of a text: the values of their numbers, and the rest. -/
def readFront : List Part → List Char → Option (List Nat × List Char)
  | [], s => some ([], s)
  | part :: parts, s =>
    (part.read? s).bind fun found ↦
      (readFront parts found.2).map fun later ↦ (found.1 ++ later.1, later.2)

section Fronts

variable {parts : List Part} {s used rest : List Char} {values : List Nat}

theorem readFront_cons_iff {part : Part} : readFront (part :: parts) s = some (values, rest) ↔
    ∃ first later mid, part.read? s = some (first, mid) ∧ readFront parts mid = some (later, rest) ∧
      values = first ++ later := by
  rw [readFront, Option.bind_eq_some_iff]
  constructor
  · rintro ⟨⟨first, mid⟩, hfirst, hlater⟩
    obtain ⟨⟨later, left⟩, hread, heq⟩ := Option.map_eq_some_iff.mp hlater
    obtain ⟨rfl, rfl⟩ := Prod.mk.inj heq
    exact ⟨first, later, mid, hfirst, hread, rfl⟩
  · rintro ⟨first, later, mid, hfirst, hlater, rfl⟩
    exact ⟨(first, mid), hfirst, by rw [hlater]; rfl⟩

/-- Parts that are read to the end of a label begin with parts that are read from its front. -/
theorem readParts_append (first second : List Part) (s : List Char) :
    readParts (first ++ second) s =
    (readFront first s).bind fun found ↦ (readParts second found.2).map (found.1 ++ ·) := by
  induction first generalizing s with
  | nil => simp [readFront]
  | cons part first ih =>
    rw [List.cons_append, readParts_cons, readFront]
    cases part.read? s with
    | none => rfl
    | some found =>
      rw [Option.bind_some, Option.bind_some, ih]
      cases readFront first found.2 with
      | none => rfl
      | some later => simp [Function.comp_def]

theorem readParts_eq_some_iff :
    readParts parts s = some values ↔ readFront parts s = some (values, []) := by
  have happend := readParts_append parts [] s
  rw [List.append_nil] at happend
  rw [happend]
  cases readFront parts s with
  | none => simp
  | some found =>
    obtain ⟨first, left⟩ := found
    cases left <;> simp [readParts]

theorem exists_used_of_readFront (h : readFront parts s = some (values, rest)) :
    ∃ used, s = used ++ rest := by
  induction parts generalizing s values with
  | nil =>
    cases h
    exact ⟨[], rfl⟩
  | cons part parts ih =>
    obtain ⟨first, later, mid, hfirst, hlater, rfl⟩ := readFront_cons_iff.mp h
    obtain ⟨front, rfl⟩ := Part.exists_used hfirst
    obtain ⟨back, rfl⟩ := ih hlater
    exact ⟨front ++ back, (List.append_assoc front back rest).symm⟩

/-- The first of some parts ends within what they use up. -/
theorem readFront_cons_used {part : Part}
    (h : readFront (part :: parts) (used ++ rest) = some (values, rest)) :
    ∃ front back first later, used = front ++ back ∧
      part.read? (front ++ (back ++ rest)) = some (first, back ++ rest) ∧
      readFront parts (back ++ rest) = some (later, rest) ∧ values = first ++ later := by
  obtain ⟨first, later, mid, hfirst, hlater, rfl⟩ := readFront_cons_iff.mp h
  obtain ⟨front, hfront⟩ := Part.exists_used hfirst
  obtain ⟨back, rfl⟩ := exists_used_of_readFront hlater
  rw [← List.append_assoc] at hfront
  obtain rfl := List.append_cancel_right hfront
  exact ⟨front, back, first, later, rfl, by rwa [← List.append_assoc], hlater, rfl⟩

/-- Parts are read the same from a text that is cut behind them. -/
theorem readFront_shorten (h : readFront parts (used ++ rest) = some (values, rest)) (n : Nat) :
    readFront parts (used ++ rest.take n) = some (values, rest.take n) := by
  induction parts generalizing used values with
  | nil =>
    obtain ⟨rfl, hused⟩ := Prod.mk.inj (Option.some.inj h)
    obtain rfl : used = [] := by simpa using hused
    rfl
  | cons part parts ih =>
    obtain ⟨front, back, first, later, rfl, hfirst, hlater, rfl⟩ := readFront_cons_used h
    have hshort := Part.read?_shorten hfirst (back.length + n)
    rw [List.take_length_add_append] at hshort
    rw [List.append_assoc]
    exact readFront_cons_iff.mpr ⟨first, later, _, hshort, ih hlater, rfl⟩

/-- No parts are read from nothing. -/
theorem readFront_nil (htight : ∀ part ∈ parts, part.IsTight) (hne : parts ≠ []) :
    readFront parts [] = none := by
  obtain ⟨part, more, rfl⟩ := List.exists_cons_of_ne_nil hne
  rw [readFront, Part.read?_nil (htight part List.mem_cons_self)]
  rfl

/-- If the cut goes through what the parts use up, it goes through the last of them. -/
theorem readFront_inside {init : List Part} {last : Part}
    (htight : ∀ part ∈ init ++ [last], part.IsTight)
    (h : readFront (init ++ [last]) (used ++ rest) = some (values, rest)) {n : Nat}
    (hn : n < used.length) {others : List Nat} {left : List Char}
    (hcut : readFront (init ++ [last]) (used.take n) = some (others, left)) :
    ∃ before after start whole cut, used = before ++ after ∧ before.length ≤ n ∧
      n - before.length < after.length ∧
      last.read? (after ++ rest) = some (whole, rest) ∧
      last.read? (after.take (n - before.length)) = some (cut, left) ∧
      values = start ++ whole ∧ others = start ++ cut := by
  have hread : ∀ {more : List Char} {found : List Nat} {tail : List Char},
      readFront [last] more = some (found, tail) → last.read? more = some (found, tail) := by
    intro more found tail h
    obtain ⟨first, later, mid, hfirst, hlater, rfl⟩ := readFront_cons_iff.mp h
    obtain ⟨rfl, rfl⟩ := Prod.mk.inj (Option.some.inj hlater)
    rwa [List.append_nil]
  induction init generalizing used values others n with
  | nil =>
    exact ⟨[], used, [], values, others, rfl, Nat.zero_le n, hn, hread h, hread hcut, rfl, rfl⟩
  | cons part init ih =>
    obtain ⟨hpart, hinit⟩ := List.forall_mem_cons.mp htight
    obtain ⟨front, back, first, later, rfl, hfirst, hlater, rfl⟩ := readFront_cons_used h
    obtain ⟨cutFirst, cutLater, mid, hcutFirst, hcutLater, rfl⟩ := readFront_cons_iff.mp hcut
    rcases Nat.lt_or_ge n front.length with hinside | hbehind
    -- the cut goes through the first part, so that nothing is left for the others
    · rw [List.take_append_of_le_length hinside.le] at hcutFirst
      obtain rfl := Part.read?_inside hpart hfirst hinside hcutFirst
      have hnone :=
        readFront_nil hinit (List.append_ne_nil_of_right_ne_nil init (List.cons_ne_nil last []))
      cases hnone.symm.trans hcutLater
    · obtain ⟨k, rfl⟩ := Nat.exists_eq_add_of_le hbehind
      have hk : k < back.length := by
        rw [List.length_append] at hn
        omega
      have hshort := Part.read?_shorten hfirst k
      rw [List.take_append_of_le_length hk.le] at hshort
      rw [List.take_length_add_append, hshort] at hcutFirst
      obtain ⟨rfl, rfl⟩ := Prod.mk.inj (Option.some.inj hcutFirst)
      obtain ⟨before, after, start, whole, cut, rfl, hbefore, hlast, hwhole, hcutLast, rfl, rfl⟩ :=
        ih hinit hlater hk hcutLater
      refine ⟨front ++ before, after, first ++ start, whole, cut, by simp,
        by simpa using hbefore, ?_, hwhole, ?_, by simp, by simp⟩
      · rw [List.length_append]
        omega
      · rwa [List.length_append, Nat.add_sub_add_left]

theorem length_values_of_readFront (h : readFront parts s = some (values, rest)) :
    values.length = (parts.map Part.arity).sum := by
  induction parts generalizing s values with
  | nil =>
    cases h
    rfl
  | cons part parts ih =>
    obtain ⟨first, later, mid, hfirst, hlater, rfl⟩ := readFront_cons_iff.mp h
    rw [List.length_append, Part.length_values hfirst, ih hlater, List.map_cons, List.sum_cons]

/-- Parts that all have a limit use up no more than their limits together. -/
theorem length_used_le_of_readFront (h : readFront parts (used ++ rest) = some (values, rest))
    {limits : List Nat} (hlimits : parts.map Part.limit? = limits.map some) :
    used.length ≤ limits.sum := by
  induction parts generalizing used values limits with
  | nil =>
    obtain ⟨-, hused⟩ := Prod.mk.inj (Option.some.inj h)
    obtain rfl : used = [] := by simpa using hused
    exact Nat.zero_le _
  | cons part parts ih =>
    obtain ⟨front, back, first, later, rfl, hfirst, hlater, rfl⟩ := readFront_cons_used h
    cases limits with
    | nil => cases hlimits
    | cons limit limits =>
      obtain ⟨hlimit, hrest⟩ := List.cons.inj hlimits
      have hfront := Part.length_used_le hfirst hlimit
      have hback := ih hlater hrest
      rw [List.length_append, List.sum_cons]
      omega

end Fronts

/-! ### Numbers of two digits -/

theorem digit?_of_asciiDigit? {c : Char} {d : Nat} (h : asciiDigit? c = some d) :
    digit? c = some d := by
  obtain ⟨hle, hcode⟩ := asciiDigit?_eq_some_iff.mp h
  have hchar : c = digitChar d := by
    rw [← Char.toNat_inj, hcode, toNat_digitChar, Nat.mod_eq_of_lt (Nat.lt_succ_of_le hle)]
  rw [hchar, digit?_digitChar, Nat.mod_eq_of_lt (Nat.lt_succ_of_le hle)]

/-- What stands in a slot that is no space is a digit. -/
theorem digit?_of_slot {slot : Slot} (hslot : slot ≠ .space) {c : Char} {d : Nat}
    (h : slot.read? c = some d) :
    digit? c = some d := by
  cases slot with
  | between low high => exact digit?_of_asciiDigit? (Option.filter_eq_some_iff.mp h).1
  | digit => exact h
  | space => exact absurd rfl hslot

theorem Shape.exists_digit {slot : Slot} (hslot : slot ≠ .space) {slots : Shape} {c : Char}
    {rest left : List Char} {value found : Nat}
    (h : Shape.read? value (slot :: slots) (c :: rest) = some (found, left)) :
    ∃ d, digit? c = some d ∧ Shape.read? (value * 10 + d) slots rest = some (found, left) := by
  rw [Shape.read?] at h
  split at h
  · rename_i d hd
    exact ⟨d, digit?_of_slot hslot hd, h⟩
  · cases h

section Tens

variable {a b c d e f : Nat}

/-- A number whose shapes have two digits or, failing that, one. -/
abbrev tensPart (a b c d e f : Nat) : Part :=
  .number [[.between a b, .between c d], [.between e f, .digit], [.digit]]

theorem read?_one {first : Char} {values : List Nat} {rest : List Char}
    (h : (tensPart a b c d e f).read? [first] = some (values, rest)) :
    ∃ value, digit? first = some value ∧ values = [value] := by
  obtain ⟨⟨value, left⟩, hread, heq⟩ := Option.map_eq_some_iff.mp h
  obtain ⟨rfl, rfl⟩ := Prod.mk.inj heq
  obtain ⟨shape, hshape, hvalue⟩ := List.exists_of_findSome?_eq_some hread
  obtain ⟨used, hused, hlength⟩ := Shape.exists_used hvalue
  have hone := congrArg List.length hused
  simp only [List.mem_cons, List.not_mem_nil, or_false] at hshape
  rcases hshape with rfl | rfl | rfl
  · simp only [List.length_append, hlength, List.length_cons, List.length_nil] at hone
    omega
  · simp only [List.length_append, hlength, List.length_cons, List.length_nil] at hone
    omega
  · obtain ⟨d, hd, hend⟩ := Shape.exists_digit (by simp) hvalue
    cases hend
    exact ⟨d, hd, by simp⟩

theorem read?_two {first second : Char} {values : List Nat} {rest : List Char}
    (h : (tensPart a b c d e f).read? (first :: second :: rest) = some (values, rest)) :
    ∃ tens ones, digit? first = some tens ∧ digit? second = some ones ∧
      values = [tens * 10 + ones] := by
  obtain ⟨⟨value, left⟩, hread, heq⟩ := Option.map_eq_some_iff.mp h
  obtain ⟨rfl, rfl⟩ := Prod.mk.inj heq
  obtain ⟨shape, hshape, hvalue⟩ := List.exists_of_findSome?_eq_some hread
  have hpair : ∀ slot other : Slot, slot ≠ .space → other ≠ .space →
      Shape.read? 0 [slot, other] (first :: second :: left) = some (value, left) →
        ∃ tens ones, digit? first = some tens ∧ digit? second = some ones ∧
          [value] = [tens * 10 + ones] := by
    intro slot other hslot hother hvalue
    obtain ⟨tens, htens, hvalue⟩ := Shape.exists_digit hslot hvalue
    obtain ⟨ones, hones, hend⟩ := Shape.exists_digit hother hvalue
    cases hend
    exact ⟨tens, ones, htens, hones, by simp⟩
  simp only [List.mem_cons, List.not_mem_nil, or_false] at hshape
  rcases hshape with rfl | rfl | rfl
  · exact hpair _ _ (by simp) (by simp) hvalue
  · exact hpair _ _ (by simp) (by simp) hvalue
  · obtain ⟨used, hused, hlength⟩ := Shape.exists_used hvalue
    have htwo := congrArg List.length hused
    simp [hlength] at htwo
    omega

/-- If the cut goes through such a number, only its first digit is read. -/
theorem tens_of_cut {used rest : List Char} {values : List Nat}
    (h : (tensPart a b c d e f).read? (used ++ rest) = some (values, rest)) {n : Nat}
    (hn : n < used.length) {others : List Nat} {left : List Char}
    (hcut : (tensPart a b c d e f).read? (used.take n) = some (others, left)) :
    ∃ first second value, used = [first, second] ∧ n = 1 ∧ (digit? second).isSome ∧
      values = [value] ∧ others = [value / 10] := by
  have hlimit : used.length ≤ 2 := Part.length_used_le h rfl
  have hne : n ≠ 0 := by
    rintro rfl
    cases hcut
  obtain ⟨first, second, rfl⟩ := List.length_eq_two.mp (by omega : used.length = 2)
  obtain rfl : n = 1 := by
    simp only [List.length_cons, List.length_nil] at hn
    omega
  obtain ⟨tens, ones, htens, hones, rfl⟩ := read?_two h
  obtain ⟨value, hvalue, rfl⟩ := read?_one hcut
  obtain rfl : tens = value := Option.some.inj (htens.symm.trans hvalue)
  have hlt := Number.lt_ten_of_digit? hones
  refine ⟨first, second, tens * 10 + ones, rfl, rfl, by rw [hones]; rfl, rfl, ?_⟩
  congr 1
  omega

end Tens

end StreamAudit.Label
