import Mathlib.Data.List.Basic
import StreamAudit.Sql.Placeholder

/-!
Named parameters of a statement that is written with them. If every name stands between characters
that let it stand, the text gets a question mark for each, and the names are listed in their order
(`resolve_marked`). The fuel never runs out, since it is the length of the text
(`replace_eq_replaced`).
-/

set_option autoImplicit false
set_option relaxedAutoImplicit false

namespace StreamAudit.Sql.Placeholder

/-- What becomes of the rest of a text behind a character. -/
def replaced (before : Option Char) (s : List Char) : List Char × List String :=
  replace s.length before s

theorem replace_succ_of_ne {c : Char} (hc : c ≠ ':') (fuel : Nat) (before : Option Char)
    (rest : List Char) : replace (fuel + 1) before (c :: rest) =
      (c :: (replace fuel (some c) rest).1, (replace fuel (some c) rest).2) := by
  rw [replace.eq_def]
  split
  · rename_i heq
    cases heq
  · rename_i heq _
    cases heq
  · rename_i heq
    cases heq
    exact absurd rfl hc
  · rename_i hfuel heq
    cases hfuel
    cases heq
    rfl

theorem replace_succ_colon (fuel : Nat) (before : Option Char) (rest : List Char) :
    replace (fuel + 1) before (':' :: rest) =
      match if admits before then name? rest else none with
      | some (name, after) =>
        ('?' :: (replace fuel name.getLast? after).1,
          String.ofList name :: (replace fuel name.getLast? after).2)
      | none => (':' :: (replace fuel (some ':') rest).1, (replace fuel (some ':') rest).2) :=
  rfl

theorem length_of_name? {s name after : List Char} (h : name? s = some (name, after)) :
    after.length ≤ s.length := by
  rw [name?] at h
  split at h
  · cases h
  · cases h
    exact (List.dropWhile_sublist isNameChar).length_le

/-- The length of a text is enough for it. -/
theorem replace_eq_replaced {fuel : Nat} {s : List Char} (h : s.length ≤ fuel)
    (before : Option Char) : replace fuel before s = replaced before s := by
  induction fuel using Nat.strongRecOn generalizing s before with
  | ind fuel ih =>
    cases s with
    | nil => cases fuel <;> rfl
    | cons c rest =>
      obtain ⟨fuel, rfl⟩ : ∃ less, fuel = less + 1 :=
        Nat.exists_eq_succ_of_ne_zero (by rintro rfl; simp at h)
      rw [List.length_cons, Nat.add_le_add_iff_right] at h
      rw [replaced, List.length_cons]
      by_cases hc : c = ':'
      · subst hc
        rw [replace_succ_colon, replace_succ_colon]
        split
        · rename_i name after hname
          have hafter : after.length ≤ rest.length := by
            split at hname
            · exact length_of_name? hname
            · cases hname
          rw [ih fuel (by omega) (Nat.le_trans hafter h), ih rest.length (by omega) hafter]
        · rw [ih fuel (by omega) h, ih rest.length (by omega) (Nat.le_refl _)]
      · rw [replace_succ_of_ne hc, replace_succ_of_ne hc, ih fuel (by omega) h, ← replaced]

theorem replaced_cons_of_ne {c : Char} (hc : c ≠ ':') (before : Option Char) (rest : List Char) :
    replaced before (c :: rest) =
      (c :: (replaced (some c) rest).1, (replaced (some c) rest).2) := by
  rw [replaced, List.length_cons, replace_succ_of_ne hc, replaced]

/-- What holds no colon stays as it is. -/
theorem replaced_append {s : List Char} (hs : ':' ∉ s) (before : Option Char) (rest : List Char) :
    replaced before (s ++ rest) =
      (s ++ (replaced (s.getLast?.or before) rest).1,
        (replaced (s.getLast?.or before) rest).2) := by
  induction s generalizing before with
  | nil => rfl
  | cons c s ih =>
    obtain ⟨hc, hs⟩ := not_or.mp (mt List.mem_cons.mpr hs)
    have hlast : (c :: s).getLast?.or before = s.getLast?.or (some c) := by
      rw [List.getLast?_cons]
      cases s.getLast? <;> rfl
    rw [List.cons_append, replaced_cons_of_ne (Ne.symm hc), ih hs, hlast]
    rfl

theorem name?_append {name after : List Char} (hne : name ≠ [])
    (hname : ∀ c ∈ name, isNameChar c = true)
    (hafter : (after.head?.all fun c ↦ !isNameChar c && c != ':') = true) :
    name? (name ++ after) = some (name, after) := by
  have hstop : after.takeWhile isNameChar = [] ∧ after.dropWhile isNameChar = after ∧
      (after.head? == some ':') = false := by
    cases after with
    | nil => exact ⟨rfl, rfl, rfl⟩
    | cons d after =>
      simp only [List.head?_cons, Option.all_some, Bool.and_eq_true, Bool.not_eq_true',
        bne_iff_ne] at hafter
      simp [hafter.1, hafter.2]
  have htake : (name ++ after).takeWhile isNameChar = name := by
    rw [List.takeWhile_append_of_pos hname, hstop.1, List.append_nil]
  have hdrop : (name ++ after).dropWhile isNameChar = after := by
    rw [List.dropWhile_append_of_pos hname, hstop.2.1]
  rw [name?, htake, hdrop, hstop.2.2, List.isEmpty_eq_false_iff.mpr hne]
  rfl

/-- A name between characters that let it stand becomes a question mark. -/
theorem replaced_colon {before : Option Char} {name after : List Char}
    (hbefore : admits before = true) (hne : name ≠ []) (hname : ∀ c ∈ name, isNameChar c = true)
    (hafter : (after.head?.all fun c ↦ !isNameChar c && c != ':') = true) :
    replaced before (':' :: name ++ after) =
      ('?' :: (replaced name.getLast? after).1,
        String.ofList name :: (replaced name.getLast? after).2) := by
  have hlength : after.length ≤ (name ++ after).length := by
    rw [List.length_append]
    omega
  rw [replaced, List.cons_append, List.length_cons, replace_succ_colon, if_pos hbefore,
    name?_append hne hname hafter]
  simp only [replace_eq_replaced hlength]

/-- The ranges of the characters of names as a list, which is evaluated faster than an array. -/
theorem isNameChar_eq_any : isNameChar = fun c ↦
    (Text.wordRanges.toList.any fun range ↦ range.1 ≤ c.toNat && c.toNat ≤ range.2) ||
      c == '$' := by
  funext c
  rw [isNameChar, Text.isWordCharacter, Text.inRanges, ← Array.any_toList]

/-! ### Texts that are written with parameters -/

/-- A named parameter, with what follows it up to the next one. -/
structure Field where
  name : List Char
  after : List Char

/-- Fields as they are written. -/
def written (fields : List Field) : List Char :=
  fields.flatMap fun field ↦ ':' :: field.name ++ field.after

/-- Fields with question marks for their names. -/
def marked (fields : List Field) : List Char :=
  fields.flatMap fun field ↦ '?' :: field.after

/-- Whether fields behind a character stand between characters that let them stand. -/
def standBehind : Option Char → List Field → Bool
  | _, [] => true
  | before, field :: rest =>
    admits before && !field.name.isEmpty && field.name.all isNameChar &&
      (field.after.head?.all fun c ↦ !isNameChar c && c != ':') && !field.after.contains ':' &&
      standBehind (field.after.getLast?.or field.name.getLast?) rest

/-- A field is followed by what follows it in the text, as long as there is something. -/
theorem head?_after_append {field : Field} {rest : List Field}
    (hafter : (field.after.head?.all fun c ↦ !isNameChar c && c != ':') = true)
    (hname : ∀ c ∈ field.name, isNameChar c = true) (hne : field.name ≠ [])
    (hrest : standBehind (field.after.getLast?.or field.name.getLast?) rest = true) :
    ((field.after ++ written rest).head?.all fun c ↦ !isNameChar c && c != ':') = true := by
  obtain ⟨name, _ | ⟨d, after⟩⟩ := field
  · cases rest with
    | nil => rfl
    | cons next rest =>
      -- Behind the last character of a name no further name may stand.
      simp only [standBehind, List.getLast?_nil, Option.none_or, Bool.and_eq_true] at hrest
      have hlast := hname _ (List.getLast_mem hne)
      rw [List.getLast?_eq_some_getLast hne] at hrest
      simp [admits, hlast] at hrest
  · exact hafter

theorem replaced_written {before : Option Char} {fields : List Field}
    (h : standBehind before fields = true) :
    replaced before (written fields) =
      (marked fields, fields.map fun field ↦ String.ofList field.name) := by
  induction fields generalizing before with
  | nil => rfl
  | cons field rest ih =>
    have hparts := h
    simp only [standBehind, Bool.and_eq_true, Bool.not_eq_true', List.isEmpty_eq_false_iff,
      List.all_eq_true, List.contains_eq_mem, decide_eq_false_iff_not] at hparts
    obtain ⟨⟨⟨⟨⟨hbefore, hne⟩, hname⟩, hafter⟩, hcolon⟩, hrest⟩ := hparts
    have hwritten : written (field :: rest) =
        ':' :: field.name ++ (field.after ++ written rest) := by
      simp [written]
    have hmarked : marked (field :: rest) = '?' :: (field.after ++ marked rest) := by
      simp [marked]
    rw [hwritten, replaced_colon hbefore hne hname (head?_after_append hafter hname hne hrest),
      replaced_append hcolon, ih hrest, hmarked, List.map_cons]

theorem unescape_of_notMem {s : List Char} (h : '\\' ∉ s) : unescape s = s := by
  fun_induction unescape s with
  | case1 => simp at h
  | case2 => simp at h
  | case3 c rest _ ih => rw [ih (List.not_mem_of_not_mem_cons h)]
  | case4 => rfl

/-- A text with fields gets a question mark for each of them, and their names are listed in
order. -/
theorem resolve_marked {front : List Char} {fields : List Field} (hfront : ':' ∉ front)
    (hfields : standBehind front.getLast? fields = true) (hplain : '\\' ∉ front ++ marked fields) :
    resolve (String.ofList (front ++ written fields)) =
      (String.ofList (front ++ marked fields), fields.map fun field ↦
        String.ofList field.name) := by
  have hreplaced := replaced_append hfront none (written fields)
  rw [Option.or_none, replaced_written hfields] at hreplaced
  rw [resolve, ← String.length_toList, String.toList_ofList, ← replaced, hreplaced]
  simp only [unescape_of_notMem hplain]

end StreamAudit.Sql.Placeholder
