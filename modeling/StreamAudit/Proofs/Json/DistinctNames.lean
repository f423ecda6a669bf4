import StreamAudit.Json.Reader
import StreamAudit.Proofs.Dictionary

/-!
The names of an object that is read. A name that comes again gives its member another value and no
second place, so the names of the members are distinct (`nodup_keys_of_read?`).
-/

set_option autoImplicit false
set_option relaxedAutoImplicit false

namespace StreamAudit

namespace Json.Reader

theorem nodup_keys_members {fuel : Nat} {known members : Members} {s rest : List Char}
    (hknown : known.keys.Nodup) (h : Reader.members fuel known s = some (members, rest)) :
    members.keys.Nodup := by
  induction fuel generalizing known s with
  | zero => cases h
  | succ fuel ih =>
    rw [Reader.members] at h
    split at h
    · split at h
      · cases h
      · split at h
        · split at h
          · cases h
          · split at h
            · obtain ⟨rfl, -⟩ := Prod.mk.inj (Option.some.inj h)
              exact Dictionary.nodup_keys_set hknown _ _
            · exact ih (Dictionary.nodup_keys_set hknown _ _) h
            · cases h
        · cases h
    · cases h

theorem number_ne_object (negative : Bool) (s : List Char) (members : Members) (rest : List Char) :
    number negative s ≠ some (.object members, rest) := by
  intro h
  unfold number at h
  simp only at h
  split at h
  · cases h
  · split at h
    · split at h
      · cases h
      · simp at h
    · simp at h

theorem word_ne_object (s : List Char) (members : Members) (rest : List Char) :
    word s ≠ some (.object members, rest) := by
  simp [word, Option.or_eq_some_iff]

/-- The members of an object that is read have distinct names. -/
theorem nodup_keys_value {fuel : Nat} {members : Members} {s rest : List Char}
    (h : value fuel s = some (.object members, rest)) : members.keys.Nodup := by
  cases fuel with
  | zero => cases h
  | succ fuel =>
    rw [value] at h
    split at h
    · cases h
    · simp at h
    · split at h
      · simp at h
      · simp at h
    · split at h
      · simp only [Option.some.injEq, Prod.mk.injEq, object.injEq] at h
        rw [← h.1]
        exact List.nodup_nil
      · obtain ⟨⟨found, after⟩, hfound, hobject⟩ := Option.map_eq_some_iff.mp h
        simp only [Prod.mk.injEq, object.injEq] at hobject
        rw [← hobject.1]
        exact nodup_keys_members (show (Dictionary.keys []).Nodup from List.nodup_nil) hfound
    · rw [Option.orElse_eq_orElse, Option.orElse_eq_or] at h
      rcases Option.or_eq_some_iff.mp h with hnumber | ⟨-, hword⟩
      · exact absurd hnumber (number_ne_object _ _ _ _)
      · exact absurd hword (word_ne_object _ _ _)
    · split at h
      · exact absurd h (number_ne_object _ _ _ _)
      · exact absurd h (word_ne_object _ _ _)

end Json.Reader

theorem Json.nodup_keys_of_read? {s : String} {members : Json.Members}
    (h : Json.read? s = some (.object members)) :
    members.keys.Nodup := by
  rw [Json.read?] at h
  split at h
  · rename_i value rest hvalue
    split at h
    · obtain rfl := Option.some.inj h
      exact Json.Reader.nodup_keys_value hvalue
    · cases h
  · cases h

end StreamAudit
