import Mathlib.Data.List.Forall2
import StreamAudit.Proofs.Dictionary
import StreamAudit.Proofs.Json.Written

/-!
A JSON text is read as the value that it was written for. This holds of every value without doubles
whose objects name no member twice and whose integers are not too long, at every depth and whatever
follows the value (`written_indented`). The text is printable but for the ends of its lines
(`printable_indentedText`).
-/

set_option autoImplicit false
set_option relaxedAutoImplicit false

namespace StreamAudit

namespace Json

open StreamAudit.Number Writer

/-- Values without doubles that can be written so that they are read back. -/
inductive Writable : Json → Prop where
  | null : Writable .null
  | bool (value : Bool) : Writable (.bool value)
  | int (n : Int) (h : isTooLong n = false) : Writable (.int n)
  | text (s : String) : Writable (.text s)
  | list (items : List Json) (h : ∀ item ∈ items, Writable item) : Writable (.list items)
  | object (members : Members) (hnames : members.keys.Nodup)
      (h : ∀ member ∈ members, Writable member.2) : Writable (.object members)

/-! ### Lists and objects -/

theorem ends_comma (rest : List Char) : Ends (',' :: rest) :=
  fun _ hc ↦ .inl (Option.some.inj hc).symm

theorem ends_lineAt (depth : Nat) (rest : List Char) : Ends ((lineAt depth).toList ++ rest) := by
  intro c hc
  rw [toList_lineAt] at hc
  exact .inr (Option.some.inj hc).symm

/-- Texts on lines of their own, and the start of the line that follows them. -/
def lines (depth : Nat) (texts : List (List Char)) : List Char :=
  (lineAt (depth + 1)).toList ++
    ((',' :: (lineAt (depth + 1)).toList).intercalate texts ++ (lineAt depth).toList)

section Lines

variable (depth : Nat) (text next : List Char) {texts : List (List Char)}

theorem lines_singleton :
    lines depth [text] = (lineAt (depth + 1)).toList ++ (text ++ (lineAt depth).toList) := by
  rw [lines, List.intercalate_singleton]

theorem lines_cons_cons : lines depth (text :: next :: texts) =
    (lineAt (depth + 1)).toList ++ (text ++ ',' :: lines depth (next :: texts)) := by
  simp [lines, List.intercalate_cons_cons]

theorem toList_enclose (opening closing : String) {parts : List String} (h : parts ≠ []) :
    (enclose opening closing depth parts).toList =
      opening.toList ++ (lines depth (parts.map String.toList) ++ closing.toList) := by
  rw [enclose, if_neg (by simpa using h)]
  simp [lines, String.toList_intercalate]

theorem length_le_lines (h : texts ≠ []) :
    (texts.map (·.length + 1)).sum ≤ (lines depth texts).length := by
  induction texts with
  | nil => exact absurd rfl h
  | cons text texts ih =>
    cases texts with
    | nil => simp [lines_singleton, toList_lineAt]; omega
    | cons next texts =>
      have hrest := ih (by simp)
      rw [lines_cons_cons, List.map_cons, List.sum_cons]
      simp only [List.length_append, List.length_cons]
      omega

theorem skipSpace_lines {c : Char} (h : ∀ after, Reader.skipSpace (c :: after) = c :: after)
    {more : List Char} (htext : text = c :: more) (others : List (List Char)) (rest : List Char) :
    ∃ after, Reader.skipSpace (lines depth (text :: others) ++ rest) = c :: after := by
  subst htext
  cases others with
  | nil =>
    rw [lines_singleton, List.append_assoc, skipSpace_append (spaces_lineAt _)]
    exact ⟨_, h _⟩
  | cons next others =>
    rw [lines_cons_cons, List.append_assoc, skipSpace_append (spaces_lineAt _)]
    exact ⟨_, h _⟩

theorem printable_lineAt : ∀ c ∈ (lineAt depth).toList, Printable c ∨ c = '\n' := by
  intro c hc
  rcases spaces_lineAt depth c hc with rfl | rfl
  · exact .inl (by decide)
  · exact .inr rfl

theorem printable_lines (hne : texts ≠ [])
    (h : ∀ text ∈ texts, ∀ c ∈ text, Printable c ∨ c = '\n') :
    ∀ c ∈ lines depth texts, Printable c ∨ c = '\n' := by
  induction texts with
  | nil => exact absurd rfl hne
  | cons text texts ih =>
    rw [List.forall_mem_cons] at h
    cases texts with
    | nil =>
      simp only [lines_singleton, List.forall_mem_append]
      exact ⟨printable_lineAt _, h.1, printable_lineAt _⟩
    | cons next texts =>
      simp only [lines_cons_cons, List.forall_mem_append, List.forall_mem_cons]
      exact ⟨printable_lineAt _, h.1, .inl (by decide), ih (by simp) h.2⟩

end Lines

/-- The items of a list are read up to its closing bracket. -/
theorem items_written (depth : Nat) {texts : List (List Char)} {items : List Json}
    (h : List.Forall₂ Written texts items) (hne : texts ≠ []) {fuel : Nat}
    (hfuel : (texts.map (·.length + 1)).sum ≤ fuel) (rest : List Char) :
    Reader.items fuel (lines depth texts ++ ']' :: rest) = some (items, rest) := by
  induction h generalizing fuel with
  | nil => exact absurd rfl hne
  | @cons text item texts items hfirst hothers ih =>
    rw [List.map_cons, List.sum_cons] at hfuel
    obtain ⟨fuel, rfl⟩ : ∃ less, fuel = less + 1 := ⟨fuel - 1, by omega⟩
    cases texts with
    | nil =>
      cases hothers
      rw [lines_singleton, List.append_assoc, List.append_assoc, Reader.items,
        value_append (spaces_lineAt _), hfirst.reads fuel _ (by omega) (ends_lineAt depth _)]
      simp only [skipSpace_append (spaces_lineAt depth)]
      rfl
    | cons next texts =>
      rw [lines_cons_cons, List.append_assoc, List.append_assoc, List.cons_append, Reader.items,
        value_append (spaces_lineAt _), hfirst.reads fuel _ (by omega) (ends_comma _)]
      change (Reader.items fuel _).map _ = _
      rw [ih (by simp) (by omega)]
      rfl

/-- Whether a text stands for a member of an object. -/
def WrittenMember (text : List Char) (member : String × Json) : Prop :=
  ∃ valueText, text = (string member.1).toList ++ ':' :: ' ' :: valueText ∧
    Written valueText member.2

/-- A member of an object is read up to the mark that follows it. -/
theorem member_written {depth fuel : Nat} {name : String} {valueText rest : List Char}
    {value : Json} (hvalue : Written valueText value) (hfuel : valueText.length ≤ fuel)
    (hrest : Ends rest) (known : Members) :
    Reader.members (fuel + 1) known
        ((lineAt depth).toList ++ ((string name).toList ++ ':' :: ' ' :: valueText ++ rest)) =
      match Reader.skipSpace rest with
      | '}' :: after => some (known.set name value, after)
      | ',' :: more => Reader.members fuel (known.set name value) more
      | _ => none := by
  have hblank : Spaces [' '] := by simp [Spaces]
  have hread := hvalue.reads fuel rest hfuel hrest
  rw [← value_append hblank, List.singleton_append] at hread
  have hname := string_written name.toList [] (':' :: ' ' :: (valueText ++ rest))
  rw [List.reverse_nil, List.nil_append, String.ofList_toList] at hname
  have htext : (string name).toList ++ ':' :: ' ' :: valueText ++ rest =
      '"' :: (name.toList.flatMap escape ++ '"' :: ':' :: ' ' :: (valueText ++ rest)) := by
    simp [toList_string]
  rw [Reader.members, skipSpace_append (spaces_lineAt _), htext]
  have hquote (s : List Char) : Reader.skipSpace ('"' :: s) = '"' :: s := rfl
  have hcolon (s : List Char) : Reader.skipSpace (':' :: s) = ':' :: s := rfl
  simp only [hquote, hname, hcolon]
  rewrite [hread]
  rfl

/-- The members of an object are read up to its closing brace, behind those already known. -/
theorem members_written (depth : Nat) {texts : List (List Char)} {members : Members}
    (known : Members) (h : List.Forall₂ WrittenMember texts members) (hne : texts ≠ [])
    (hnames : (known.keys ++ members.keys).Nodup) {fuel : Nat}
    (hfuel : (texts.map (·.length + 1)).sum ≤ fuel) (rest : List Char) :
    Reader.members fuel known (lines depth texts ++ '}' :: rest) =
      some (known ++ members, rest) := by
  induction h generalizing fuel known with
  | nil => exact absurd rfl hne
  | @cons text member texts members hfirst hothers ih =>
    obtain ⟨valueText, rfl, hvalue⟩ := hfirst
    obtain ⟨name, value⟩ := member
    rw [List.map_cons, List.sum_cons] at hfuel
    simp only [List.length_append, List.length_cons] at hfuel
    obtain ⟨fuel, rfl⟩ : ∃ less, fuel = less + 1 := ⟨fuel - 1, by omega⟩
    have hnew : name ∉ known.keys := fun hmem ↦
      (List.nodup_append.mp hnames).2.2 name hmem name List.mem_cons_self rfl
    have hset := Dictionary.set_of_not_mem hnew value
    cases texts with
    | nil =>
      cases hothers
      rw [lines_singleton, List.append_assoc, List.append_assoc,
        member_written hvalue (by omega) (ends_lineAt depth _),
        skipSpace_append (spaces_lineAt depth), hset]
      rfl
    | cons next texts =>
      rw [lines_cons_cons, List.append_assoc, List.append_assoc, List.cons_append,
        member_written hvalue (by omega) (ends_comma _)]
      change Reader.members fuel _ _ = _
      rw [hset, ih _ (by simp) (by simpa [Dictionary.keys] using hnames) (by omega)]
      simp

/-- A list of items is read between its brackets. -/
theorem value_list (depth : Nat) {texts : List (List Char)} {items : List Json}
    (h : List.Forall₂ Written texts items) (hne : texts ≠ []) {fuel : Nat}
    (hfuel : (texts.map (·.length + 1)).sum ≤ fuel) (rest : List Char) :
    Reader.value (fuel + 1) ('[' :: (lines depth texts ++ ']' :: rest)) =
      some (.list items, rest) := by
  have hread := items_written depth h hne hfuel rest
  cases h with
  | nil => exact absurd rfl hne
  | @cons _ _ others _ hfirst hothers =>
    obtain ⟨c, more, htext, hc, hbegins⟩ := hfirst.begins
    obtain ⟨after, hafter⟩ := skipSpace_lines depth _ hbegins htext others (']' :: rest)
    have hbracket (s : List Char) : Reader.skipSpace ('[' :: s) = '[' :: s := rfl
    rw [Reader.value]
    simp only [hbracket, hafter, hread]
    split
    · rename_i hclosed
      exact absurd (List.cons.inj hclosed).1 hc
    · rfl

/-- The members of an object are read between its braces. -/
theorem value_object (depth : Nat) {texts : List (List Char)} {members : Members}
    (h : List.Forall₂ WrittenMember texts members) (hne : texts ≠ [])
    (hnames : members.keys.Nodup) {fuel : Nat} (hfuel : (texts.map (·.length + 1)).sum ≤ fuel)
    (rest : List Char) :
    Reader.value (fuel + 1) ('{' :: (lines depth texts ++ '}' :: rest)) =
      some (.object members, rest) := by
  have hread := members_written depth [] h hne hnames hfuel rest
  cases h with
  | nil => exact absurd rfl hne
  | @cons _ member others _ hfirst hothers =>
    obtain ⟨valueText, rfl, -⟩ := hfirst
    have hbegins (s : List Char) : Reader.skipSpace ('"' :: s) = '"' :: s := rfl
    obtain ⟨after, hafter⟩ := skipSpace_lines depth _ hbegins
      (congrArg (· ++ ':' :: ' ' :: valueText) (toList_string member.1)) others ('}' :: rest)
    have hbrace (s : List Char) : Reader.skipSpace ('{' :: s) = '{' :: s := rfl
    rw [Reader.value]
    simp only [hbrace, hafter, hread]
    rfl

theorem indentedItems_eq (depth : Nat) (items : List Json) :
    indentedItems depth items = items.map (indented depth) := by
  induction items with
  | nil => rfl
  | cons item items ih => rw [indentedItems, ih, List.map_cons]

theorem indentedMembers_eq (depth : Nat) (members : Members) :
    indentedMembers depth members =
      members.map fun member ↦ string member.1 ++ ": " ++ indented depth member.2 := by
  induction members with
  | nil => rfl
  | cons member members ih => rw [indentedMembers, ih, List.map_cons]

/-- What is read between its brackets as a value is written for it. -/
theorem written_enclose {depth : Nat} {opening closing : String} {first last : Char}
    (hopening : opening.toList = [first]) (hclosing : closing.toList = [last])
    (hbegins : ∀ more, Reader.skipSpace (first :: more) = first :: more) (hbracket : first ≠ ']')
    (hfirst : Printable first) (hlast : Printable last) {parts : List String} {value : Json}
    (hparts : ∀ part ∈ parts, ∀ c ∈ part.toList, Printable c ∨ c = '\n')
    (hnone : parts = [] → ∀ fuel rest,
      Reader.value (fuel + 1) (first :: last :: rest) = some (value, rest))
    (hsome : parts ≠ [] → ∀ fuel rest, ((parts.map String.toList).map (·.length + 1)).sum ≤ fuel →
      Reader.value (fuel + 1) (first :: (lines depth (parts.map String.toList) ++ last :: rest)) =
        some (value, rest)) :
    Written (enclose opening closing depth parts).toList value := by
  rcases eq_or_ne parts [] with rfl | hne
  · have htext : (enclose opening closing depth []).toList = [first, last] := by
      simp [enclose, hopening, hclosing]
    rw [htext]
    refine ⟨⟨first, _, rfl, hbracket, hbegins⟩, by simp [hfirst, hlast], fun fuel rest hfuel _ ↦ ?_⟩
    obtain ⟨fuel, rfl⟩ : ∃ less, fuel = less + 1 := ⟨fuel - 1, by simp at hfuel; omega⟩
    exact hnone rfl fuel rest
  · have htext := toList_enclose depth opening closing hne
    rw [hopening, hclosing, List.singleton_append] at htext
    have hne' : parts.map String.toList ≠ [] := by simpa using hne
    have hlength := length_le_lines depth hne'
    have hlines := printable_lines depth hne' (List.forall_mem_map.mpr hparts)
    rw [htext]
    refine ⟨⟨first, _, rfl, hbracket, hbegins⟩, ?_, fun fuel rest hfuel _ ↦ ?_⟩
    · simp only [List.forall_mem_cons, List.forall_mem_append]
      exact ⟨.inl hfirst, hlines, .inl hlast, by simp⟩
    · rw [List.length_cons, List.length_append] at hfuel
      obtain ⟨fuel, rfl⟩ : ∃ less, fuel = less + 1 := ⟨fuel - 1, by omega⟩
      rw [List.cons_append, List.append_assoc, List.singleton_append]
      exact hsome hne fuel rest (by omega)

theorem written_list {depth : Nat} {items : List Json}
    (h : ∀ item ∈ items, Written (indented (depth + 1) item).toList item) :
    Written (indented depth (.list items)).toList (.list items) := by
  rw [indented, indentedItems_eq]
  refine written_enclose rfl rfl (fun _ ↦ rfl) (by decide) (by decide) (by decide)
    (List.forall_mem_map.mpr fun item hitem ↦ (h item hitem).printable) ?_ fun hne fuel rest hfuel ↦
      ?_
  · intro hnone fuel rest
    rw [List.map_eq_nil_iff.mp hnone]
    rfl
  · refine value_list depth ?_ (by simpa using hne) hfuel rest
    rw [List.map_map, List.forall₂_map_left_iff, List.forall₂_same]
    exact h

theorem written_object {depth : Nat} {members : Members} (hnames : members.keys.Nodup)
    (h : ∀ member ∈ members, Written (indented (depth + 1) member.2).toList member.2) :
    Written (indented depth (.object members)).toList (.object members) := by
  have htext (member : String × Json) :
      (string member.1 ++ ": " ++ indented (depth + 1) member.2).toList =
      (string member.1).toList ++ ':' :: ' ' :: (indented (depth + 1) member.2).toList := by
    simp
  rw [indented, indentedMembers_eq]
  refine written_enclose rfl rfl (fun _ ↦ rfl) (by decide) (by decide) (by decide)
    (List.forall_mem_map.mpr fun member hmember ↦ ?_) ?_ fun hne fuel rest hfuel ↦ ?_
  · simp only [htext, List.forall_mem_append, List.forall_mem_cons]
    exact ⟨fun c hc ↦ .inl (printable_string _ c hc), .inl (by decide), .inl (by decide),
      (h member hmember).printable⟩
  · intro hnone fuel rest
    rw [List.map_eq_nil_iff.mp hnone]
    rfl
  · refine value_object depth ?_ (by simpa using hne) hnames hfuel rest
    rw [List.map_map, List.forall₂_map_left_iff, List.forall₂_same]
    exact fun member hmember ↦ ⟨_, htext member, h member hmember⟩

/-- A value is read back from the text that it was written to. -/
theorem written_indented {value : Json} (h : Writable value) :
    ∀ depth, Written (indented depth value).toList value := by
  induction h with
  | null => exact fun _ ↦ written_null
  | bool value => exact fun _ ↦ written_bool value
  | int n h => exact fun _ ↦ written_int h
  | text s => exact fun _ ↦ written_text s
  | list items _ ih => exact fun depth ↦ written_list fun item hitem ↦ ih item hitem (depth + 1)
  | object members hnames _ ih =>
    exact fun depth ↦ written_object hnames fun member hmember ↦ ih member hmember (depth + 1)

/-- A value is read back from its text. -/
theorem read?_indentedText {value : Json} (h : Writable value) :
    read? (value.indentedText ++ "\n") = some value := by
  have htext : (value.indentedText ++ "\n").toList = (indented 0 value).toList ++ ['\n'] := by
    rw [String.toList_append]
    rfl
  have hread := (written_indented h 0).reads ((value.indentedText ++ "\n").length + 1) ['\n']
    (by rw [← String.length_toList, htext, List.length_append]; omega) (by simp [Ends])
  rw [read?, htext, hread]
  rfl

theorem printable_indentedText {value : Json} (h : Writable value) :
    ∀ c ∈ (value.indentedText ++ "\n").toList, Printable c ∨ c = '\n' := by
  rw [String.toList_append, List.forall_mem_append]
  exact ⟨(written_indented h 0).printable, fun c hc ↦ .inr (List.mem_singleton.mp hc)⟩

end Json

end StreamAudit
