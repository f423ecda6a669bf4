import StreamAudit.Text.Blank

/-!
Splitting texts. A text split at a mark and joined again is the same text (`join_splitAt`), so
nothing is lost, and a list of names separated by commas is read by splitting, trimming and dropping
what is left blank.
-/

set_option autoImplicit false
set_option relaxedAutoImplicit false

namespace StreamAudit.Text

/-- The parts between the marks, at least one. -/
def splitAt (mark : Char) : List Char → List (List Char)
  | [] => [[]]
  | c :: rest =>
    if c = mark then [] :: splitAt mark rest
    else match splitAt mark rest with
      | [] => [[c]]
      | part :: parts => (c :: part) :: parts

theorem splitAt_ne_nil (mark : Char) (s : List Char) : splitAt mark s ≠ [] := by
  induction s with
  | nil => simp [splitAt]
  | cons c rest ih =>
    unfold splitAt
    split
    · simp
    · split <;> simp

/-- Puts one mark between neighbouring parts. -/
def join (mark : Char) : List (List Char) → List Char
  | [] => []
  | [part] => part
  | part :: next :: parts => part ++ mark :: join mark (next :: parts)

theorem join_splitAt (mark : Char) (s : List Char) : join mark (splitAt mark s) = s := by
  induction s with
  | nil => rfl
  | cons c rest ih =>
    unfold splitAt
    have hne := splitAt_ne_nil mark rest
    split
    · rename_i hmark
      cases hparts : splitAt mark rest with
      | nil => exact absurd hparts hne
      | cons part parts => simp [join, ← hparts, ih, hmark]
    · cases hparts : splitAt mark rest with
      | nil => exact absurd hparts hne
      | cons part parts =>
        rw [hparts] at ih
        cases parts with
        | nil => simpa [join] using ih
        | cons next parts => simpa [join] using ih

/-- The parts between pairs of low lines. -/
def splitAtDoubleLine : List Char → List (List Char)
  | [] => [[]]
  | '_' :: '_' :: rest => [] :: splitAtDoubleLine rest
  | c :: rest =>
    match splitAtDoubleLine rest with
    | [] => [[c]]
    | part :: parts => (c :: part) :: parts

/-- The names in a text that separates them by commas: trimmed, and none of them empty. -/
def commaNames (s : String) : List String :=
  ((splitAt ',' s.toList).map (trimList isBlank)).filter (· ≠ []) |>.map String.ofList

theorem mem_join {mark c : Char} {parts : List (List Char)} (h : c ∈ join mark parts) :
    c = mark ∨ ∃ part ∈ parts, c ∈ part := by
  induction parts with
  | nil => cases h
  | cons part parts ih =>
    cases parts with
    | nil => exact .inr ⟨part, List.mem_cons_self, h⟩
    | cons next parts =>
      rw [join, List.mem_append, List.mem_cons] at h
      rcases h with hpart | hmark | hrest
      · exact .inr ⟨part, List.mem_cons_self, hpart⟩
      · exact .inl hmark
      · obtain hmark | ⟨other, hother, hc⟩ := ih hrest
        · exact .inl hmark
        · exact .inr ⟨other, List.mem_cons_of_mem part hother, hc⟩

end StreamAudit.Text
