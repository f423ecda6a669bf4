import Mathlib.Data.List.Nodup
import Mathlib.Tactic.SplitIfs
import StreamAudit.Dictionary

/-!
Dictionaries that are filled pair by pair. Keys stay distinct whatever is set (`nodup_keys_set`,
`nodup_keys_foldl_set`), and of all values that are set under one key the last one counts
(`get?_foldl_set`).
-/

set_option autoImplicit false
set_option relaxedAutoImplicit false

namespace StreamAudit.Dictionary

variable {α : Type} {dictionary : Dictionary α} {key : String} {value : α}

theorem mem_keys_iff : key ∈ dictionary.keys ↔ (dictionary.get? key).isSome = true := by
  induction dictionary with
  | nil => simp [keys, get?]
  | cons pair rest ih =>
    obtain ⟨first, value⟩ := pair
    have hrest : key ∈ (rest.map (·.1)) ↔ (get? rest key).isSome = true := ih
    by_cases hfirst : first = key
    · simp [keys, get?, hfirst]
    · simp only [keys, List.map_cons, List.mem_cons, get?, if_neg hfirst, hrest]
      exact or_iff_right (Ne.symm hfirst)

theorem set_of_not_mem (h : key ∉ dictionary.keys) (value : α) :
    dictionary.set key value = dictionary ++ [(key, value)] := by
  induction dictionary with
  | nil => rfl
  | cons pair rest ih =>
    obtain ⟨first, old⟩ := pair
    rw [keys, List.map_cons, List.mem_cons, not_or] at h
    rw [set, if_neg (Ne.symm h.1), ih h.2, List.cons_append]

theorem nodup_keys_set (h : dictionary.keys.Nodup) (key : String) (value : α) :
    (dictionary.set key value).keys.Nodup := by
  rw [keys_set]
  split_ifs with hmem
  · exact h
  · exact List.nodup_append_comm.mp (List.nodup_cons.mpr ⟨hmem, h⟩)

theorem mem_keys_set {other : String} (h : other ∈ (dictionary.set key value).keys) :
    other = key ∨ other ∈ dictionary.keys := by
  rw [keys_set] at h
  split_ifs at h
  · exact .inr h
  · exact (List.mem_append.mp h).symm.imp_left List.mem_singleton.mp

theorem mem_of_get? (h : dictionary.get? key = some value) : (key, value) ∈ dictionary := by
  induction dictionary with
  | nil => cases h
  | cons pair rest ih =>
    obtain ⟨first, old⟩ := pair
    by_cases hfirst : first = key
    · rw [get?, if_pos hfirst, Option.some.injEq] at h
      rw [hfirst, h]
      exact List.mem_cons_self
    · rw [get?, if_neg hfirst] at h
      exact List.mem_cons_of_mem _ (ih h)

theorem get?_append_of_not_mem {front : Dictionary α} (h : key ∉ front.keys) (rest : Dictionary α) :
    get? (front ++ rest) key = get? rest key := by
  induction front with
  | nil => rfl
  | cons pair others ih =>
    rw [keys, List.map_cons, List.mem_cons, not_or] at h
    rw [List.cons_append, get?, if_neg (Ne.symm h.1), ih h.2]

/-- Among distinct keys no value of the same key follows the value of a key. -/
theorem exists_cut (hnodup : dictionary.keys.Nodup) (h : dictionary.get? key = some value) :
    ∃ before after, dictionary = before ++ (key, value) :: after ∧ key ∉ keys after := by
  obtain ⟨before, after, rfl⟩ := List.append_of_mem (mem_of_get? h)
  refine ⟨before, after, rfl, ?_⟩
  rw [keys, List.map_append, List.map_cons] at hnodup
  exact (List.nodup_cons.mp hnodup.of_append_right).1

/-! ### Setting many pairs -/

section Filling

variable (name : String → String)

theorem nodup_keys_foldl_set (h : dictionary.keys.Nodup) (pairs : Dictionary α) :
    (pairs.foldl (fun filled pair ↦ filled.set (name pair.1) pair.2) dictionary).keys.Nodup := by
  induction pairs generalizing dictionary with
  | nil => exact h
  | cons pair rest ih => exact ih (nodup_keys_set h _ _)

theorem mem_keys_foldl_set {pairs : Dictionary α} {other : String}
    (h : other ∈
      (pairs.foldl (fun filled pair ↦ filled.set (name pair.1) pair.2) dictionary).keys) :
    other ∈ dictionary.keys ∨ ∃ pair ∈ pairs, name pair.1 = other := by
  induction pairs generalizing dictionary with
  | nil => exact .inl h
  | cons pair rest ih =>
    rcases ih h with hset | ⟨later, hlater, hname⟩
    · rcases mem_keys_set hset with rfl | hold
      · exact .inr ⟨pair, List.mem_cons_self, rfl⟩
      · exact .inl hold
    · exact .inr ⟨later, List.mem_cons_of_mem _ hlater, hname⟩

theorem get?_foldl_set_of_ne {pairs : Dictionary α} (h : ∀ pair ∈ pairs, name pair.1 ≠ key) :
    (pairs.foldl (fun filled pair ↦ filled.set (name pair.1) pair.2) dictionary).get? key =
      dictionary.get? key := by
  induction pairs generalizing dictionary with
  | nil => rfl
  | cons pair rest ih =>
    obtain ⟨hpair, hrest⟩ := List.forall_mem_cons.mp h
    rw [List.foldl_cons, ih hrest, get?_set, if_neg (Ne.symm hpair)]

/-- Of the values that are set under one key the last one counts. -/
theorem get?_foldl_set (dictionary before : Dictionary α) (value : α) {after : Dictionary α}
    {written : String} (h : ∀ pair ∈ after, name pair.1 ≠ name written) :
    ((before ++ (written, value) :: after).foldl (fun filled pair ↦ filled.set (name pair.1) pair.2)
      dictionary).get? (name written) = some value := by
  rw [List.foldl_append, List.foldl_cons, get?_foldl_set_of_ne name h, get?_set, if_pos rfl]

end Filling

end StreamAudit.Dictionary
