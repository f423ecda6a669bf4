import StreamAudit.Proofs.Text.Blank
import StreamAudit.Text.Split

/-!
Names that are separated by commas. A text is split at each of its commas by itself, so the names of
two texts with a comma between them are those of the one and then those of the other
(`commaNames_append`). Each of them is a name (`isName_of_mem_commaNames`), and names are all that
is read from them again (`commaNames_intercalate`).
-/

set_option autoImplicit false
set_option relaxedAutoImplicit false

namespace StreamAudit.Text

/-! ### Parts -/

theorem splitAt_append (mark : Char) (s t : List Char) :
    splitAt mark (s ++ mark :: t) = splitAt mark s ++ splitAt mark t := by
  induction s with
  | nil => simp [splitAt]
  | cons c rest ih =>
    rw [List.cons_append, splitAt, splitAt]
    split
    · rw [ih, List.cons_append]
    · obtain ⟨part, parts, hparts⟩ := List.exists_cons_of_ne_nil (splitAt_ne_nil mark rest)
      simp [ih, hparts]

theorem splitAt_of_not_mem {mark : Char} {s : List Char} (h : mark ∉ s) : splitAt mark s = [s] := by
  induction s with
  | nil => rfl
  | cons c rest ih =>
    rw [List.mem_cons, not_or] at h
    rw [splitAt, if_neg (Ne.symm h.1), ih h.2]

theorem not_mem_of_mem_splitAt {mark : Char} {s part : List Char} (h : part ∈ splitAt mark s) :
    mark ∉ part := by
  induction s generalizing part with
  | nil =>
    rw [splitAt, List.mem_singleton] at h
    simp [h]
  | cons c rest ih =>
    obtain ⟨first, parts, hparts⟩ := List.exists_cons_of_ne_nil (splitAt_ne_nil mark rest)
    rw [hparts] at ih
    obtain ⟨hfirst, hothers⟩ := List.forall_mem_cons.mp fun _ hpart ↦ ih hpart
    rw [splitAt, hparts] at h
    split at h
    · rcases List.mem_cons.mp h with rfl | hlater
      · exact List.not_mem_nil
      · exact ih hlater
    · rename_i hmark
      rcases List.mem_cons.mp h with rfl | hlater
      · exact List.not_mem_cons_of_ne_of_not_mem (Ne.symm hmark) hfirst
      · exact hothers part hlater

/-! ### Names -/

/-- Whether a text is a name: not empty, without a comma, and without blanks around it. -/
structure IsName (name : String) : Prop where
  ne_empty : name ≠ ""
  no_comma : ',' ∉ name.toList
  stripped : strip name = name

/-- The names of two texts are those of the texts that they make with a comma between them. -/
theorem commaNames_append (s t : String) :
    commaNames (s ++ "," ++ t) = commaNames s ++ commaNames t := by
  have hcomma : (s ++ "," ++ t).toList = s.toList ++ ',' :: t.toList := by simp
  rw [commaNames, hcomma, splitAt_append, List.map_append, List.filter_append, List.map_append]
  rfl

theorem isName_of_mem_commaNames {s name : String} (h : name ∈ commaNames s) : IsName name := by
  obtain ⟨trimmed, hkept, rfl⟩ := List.mem_map.mp h
  obtain ⟨htrimmed, hne⟩ := List.mem_filter.mp hkept
  obtain ⟨part, hpart, rfl⟩ := List.mem_map.mp htrimmed
  refine ⟨?_, ?_, ?_⟩
  · simpa using hne
  · obtain ⟨before, after, -, -, hsplit⟩ := exists_eq_append_trimList isBlank part
    have hnone := not_mem_of_mem_splitAt hpart
    rw [hsplit] at hnone
    simp only [List.mem_append, not_or] at hnone
    simpa using hnone.1.2
  · rw [strip, String.toList_ofList, trimList_trimList]

/-- A name by itself is the only name in it. -/
theorem commaNames_of_isName {name : String} (h : IsName name) : commaNames name = [name] := by
  have htrimmed : trimList isBlank name.toList = name.toList := by
    have hstripped := congrArg String.toList h.stripped
    rwa [strip, String.toList_ofList] at hstripped
  simp [commaNames, splitAt_of_not_mem h.no_comma, htrimmed, h.ne_empty]

/-- Names with commas between them are read again. -/
theorem commaNames_intercalate {names : List String} (h : ∀ name ∈ names, IsName name) :
    commaNames (",".intercalate names) = names := by
  induction names with
  | nil => simp [commaNames, splitAt, trimList]
  | cons name rest ih =>
    obtain ⟨hname, hrest⟩ := List.forall_mem_cons.mp h
    cases rest with
    | nil => rw [String.intercalate_singleton, commaNames_of_isName hname]
    | cons next others =>
      rw [String.intercalate_cons_cons, commaNames_append, commaNames_of_isName hname, ih hrest,
        List.singleton_append]

end StreamAudit.Text
