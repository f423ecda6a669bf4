import Mathlib.Tactic.IntervalCases
import StreamAudit.Proofs.Json.Scalars

/-!
What a text stands for. A text that stands for a value is read as the value in front of anything
that ends a value, and shows by its first character that it is no closing bracket (`Written`). The
texts of values without parts stand for them (`written_null`, `written_bool`, `written_int`,
`written_text`).
-/

set_option autoImplicit false
set_option relaxedAutoImplicit false

namespace StreamAudit.Json

open StreamAudit.Number StreamAudit.Text Writer

/-! ### White space -/

/-- Whether all of some characters are blanks and ends of lines. -/
def Spaces (s : List Char) : Prop :=
  ∀ c ∈ s, c = ' ' ∨ c = '\n'

theorem skipSpace_append {spaces : List Char} (h : Spaces spaces) (s : List Char) :
    Reader.skipSpace (spaces ++ s) = Reader.skipSpace s := by
  refine List.dropWhile_append_of_pos fun c hc ↦ ?_
  rcases h c hc with rfl | rfl <;> rfl

theorem value_append {spaces : List Char} (h : Spaces spaces) (fuel : Nat) (s : List Char) :
    Reader.value fuel (spaces ++ s) = Reader.value fuel s := by
  cases fuel with
  | zero => rfl
  | succ fuel => rw [Reader.value, Reader.value, skipSpace_append h]

theorem toList_lineAt (depth : Nat) :
    (lineAt depth).toList = '\n' :: List.replicate (2 * depth) ' ' := by
  rw [lineAt, String.toList_ofList]

theorem spaces_lineAt (depth : Nat) : Spaces (lineAt depth).toList := by
  intro c hc
  rw [toList_lineAt, List.mem_cons] at hc
  rcases hc with rfl | hc
  · exact .inr rfl
  · exact .inl (List.eq_of_mem_replicate hc)

/-! ### Values -/

/-- Whether a text stands for a value: it begins with a mark of its own, is printable but for the
ends of its lines, and is read as the value by every reader that has fuel for its characters,
whatever follows. -/
structure Written (text : List Char) (value : Json) : Prop where
  begins : ∃ c more, text = c :: more ∧ c ≠ ']' ∧
    ∀ after, Reader.skipSpace (c :: after) = c :: after
  printable : ∀ c ∈ text, Printable c ∨ c = '\n'
  reads : ∀ fuel rest, text.length ≤ fuel → Ends rest →
    Reader.value fuel (text ++ rest) = some (value, rest)

theorem written_word {word : String} {value : Json}
    (hbegins : ∃ c more, word.toList = c :: more ∧ c ≠ ']' ∧
      ∀ after, Reader.skipSpace (c :: after) = c :: after)
    (hprintable : word.toList.all (fun c ↦ decide (Printable c)) = true)
    (hreads : ∀ fuel rest, Reader.value (fuel + 1) (word.toList ++ rest) = some (value, rest)) :
    Written word.toList value where
  begins := hbegins
  printable c hc := .inl (of_decide_eq_true (List.all_eq_true.mp hprintable c hc))
  reads fuel rest hfuel _ := by
    obtain ⟨c, more, hword, -⟩ := hbegins
    cases fuel with
    | zero => simp [hword] at hfuel
    | succ fuel => exact hreads fuel rest

theorem written_null : Written "null".toList .null :=
  written_word ⟨_, _, rfl, by decide, fun _ ↦ rfl⟩ (by decide) fun _ _ ↦ rfl

theorem written_bool (value : Bool) : Written (scalar (.bool value)).toList (.bool value) := by
  cases value with
  | true => exact written_word ⟨_, _, rfl, by decide, fun _ ↦ rfl⟩ (by decide) fun _ _ ↦ rfl
  | false => exact written_word ⟨_, _, rfl, by decide, fun _ ↦ rfl⟩ (by decide) fun _ _ ↦ rfl

theorem toList_string (s : String) :
    (string s).toList = '"' :: (s.toList.flatMap escape ++ ['"']) := by
  rw [string, String.toList_ofList, List.cons_append]

theorem printable_string (s : String) : ∀ c ∈ (string s).toList, Printable c := by
  rw [toList_string, List.forall_mem_cons, List.forall_mem_append, List.forall_mem_singleton]
  refine ⟨by decide, fun c hc ↦ ?_, by decide⟩
  obtain ⟨d, -, hd⟩ := List.mem_flatMap.mp hc
  exact printable_escape d c hd

theorem written_text (s : String) : Written (string s).toList (.text s) where
  begins := ⟨'"', _, toList_string s, by decide, fun _ ↦ rfl⟩
  printable c hc := .inl (printable_string s c hc)
  reads fuel rest hfuel _ := by
    rw [toList_string] at hfuel ⊢
    cases fuel with
    | zero => simp at hfuel
    | succ fuel =>
      rw [List.cons_append, List.append_assoc, List.singleton_append, Reader.value]
      change (Reader.string [] _).map _ = _
      rw [string_written, Option.map_some, List.reverse_nil, List.nil_append, String.ofList_toList]

/-- A digit in front is that of a number. -/
theorem value_digit {d : Nat} (h : d < 10) (fuel : Nat) (rest : List Char) :
    Reader.skipSpace (digitChar d :: rest) = digitChar d :: rest ∧
      Reader.value (fuel + 1) (digitChar d :: rest) =
        Reader.number false (digitChar d :: rest) := by
  interval_cases d <;> exact ⟨rfl, rfl⟩

theorem printable_toDigits (n : Nat) : ∀ c ∈ Nat.toDigits 10 n, Printable c := by
  obtain ⟨first, more, hdigits, hlt, -⟩ := exists_digits n
  have hmark : ∀ d < 10, Printable (digitChar d) := by decide
  intro c hc
  rw [hdigits] at hc
  obtain ⟨d, hd, rfl⟩ := List.mem_map.mp hc
  exact hmark d (hlt d hd)

theorem written_nat {n : Nat} (h : (Nat.toDigits 10 n).length ≤ digitLimit) :
    Written (toString (n : Int)).toList (.int n) := by
  obtain ⟨first, more, hdigits, hlt, -⟩ := exists_digits n
  have htext : (toString (n : Int)).toList = Nat.toDigits 10 n := by
    rw [Int.toString_eq_repr, Int.repr_eq_if, if_pos (by omega), toList_repr, Int.toNat_natCast]
  have hfirst (fuel : Nat) (rest : List Char) :=
    value_digit (hlt first List.mem_cons_self) fuel rest
  rw [List.map_cons] at hdigits
  rw [htext]
  refine ⟨⟨_, _, hdigits, ?_, fun after ↦ (hfirst 0 after).1⟩,
    fun c hc ↦ .inl (printable_toDigits n c hc), ?_⟩
  · have hmark : ∀ d < 10, digitChar d ≠ ']' := by decide
    exact hmark first (hlt first List.mem_cons_self)
  · intro fuel rest hfuel hrest
    rw [hdigits] at hfuel ⊢
    cases fuel with
    | zero => simp at hfuel
    | succ fuel => rw [List.cons_append, (hfirst fuel _).2, ← List.cons_append, ← hdigits,
        number_toDigits h false hrest, if_neg Bool.false_ne_true]

theorem written_neg {n : Nat} (h : (Nat.toDigits 10 n).length ≤ digitLimit) (hn : n ≠ 0) :
    Written (toString (-n : Int)).toList (.int (-n)) := by
  have htext : (toString (-n : Int)).toList = '-' :: Nat.toDigits 10 n := by
    rw [Int.toString_eq_repr, Int.repr_eq_if, if_neg (by omega), String.toList_append, toList_repr,
      Int.neg_neg, Int.toNat_natCast]
    rfl
  rw [htext]
  refine ⟨⟨'-', _, rfl, by decide, fun _ ↦ rfl⟩, ?_, fun fuel rest hfuel hrest ↦ ?_⟩
  · rw [List.forall_mem_cons]
    exact ⟨by decide, fun c hc ↦ .inl (printable_toDigits n c hc)⟩
  · cases fuel with
    | zero => simp at hfuel
    | succ fuel =>
      change (Reader.number true (Nat.toDigits 10 n ++ rest) <|> _) = _
      rw [number_toDigits h true hrest, if_pos rfl]
      rfl

/-- An integer is read back from its sign and its digits. -/
theorem written_int {n : Int} (h : isTooLong n = false) : Written (toString n).toList (.int n) := by
  have hdigits : (Nat.toDigits 10 n.natAbs).length ≤ digitLimit := by
    rw [isTooLong, decide_eq_false_iff_not, Nat.not_le] at h
    exact length_toDigits_le (by decide) h
  rcases lt_or_ge n 0 with hneg | hpos
  · obtain ⟨m, rfl⟩ : ∃ m : Nat, n = -m := ⟨n.natAbs, by omega⟩
    rw [Int.natAbs_neg, Int.natAbs_natCast] at hdigits
    exact written_neg hdigits (by omega)
  · obtain ⟨m, rfl⟩ : ∃ m : Nat, n = m := ⟨n.natAbs, by omega⟩
    rw [Int.natAbs_natCast] at hdigits
    exact written_nat hdigits

end StreamAudit.Json
