/-!
Dictionaries with texts for keys, in the order in which the keys first came. Setting a key leaves
every other key as it was (`get?_set`).
-/

set_option autoImplicit false
set_option relaxedAutoImplicit false

namespace StreamAudit

/-- Pairs of a key and its value. -/
abbrev Dictionary (α : Type) :=
  List (String × α)

namespace Dictionary

variable {α : Type}

/-- The value of a key. -/
def get? : Dictionary α → String → Option α
  | [], _ => none
  | (other, value) :: rest, key => if other = key then some value else get? rest key

/-- Gives a key a value, in its old place if it has one and at the end otherwise. -/
def set : Dictionary α → String → α → Dictionary α
  | [], key, value => [(key, value)]
  | (other, old) :: rest, key, value =>
    if other = key then (other, value) :: rest else (other, old) :: set rest key value

/-- The keys in their order. -/
def keys (dictionary : Dictionary α) : List String :=
  dictionary.map (·.1)

theorem get?_set (dictionary : Dictionary α) (key other : String) (value : α) :
    (dictionary.set key value).get? other =
      if other = key then some value else dictionary.get? other := by
  induction dictionary with
  | nil =>
    by_cases h : key = other
    · simp [set, get?, h]
    · simp [set, get?, h, Ne.symm h]
  | cons pair rest ih =>
    obtain ⟨first, old⟩ := pair
    unfold set
    by_cases hfirst : first = key
    · subst hfirst
      by_cases hother : first = other
      · simp [get?, hother]
      · simp [get?, hother, Ne.symm hother]
    · by_cases hother : first = other
      · subst hother
        simp [get?, hfirst]
      · simp [get?, hfirst, hother, ih]

theorem keys_set (dictionary : Dictionary α) (key : String) (value : α) :
    (dictionary.set key value).keys =
      if key ∈ dictionary.keys then dictionary.keys else dictionary.keys ++ [key] := by
  induction dictionary with
  | nil => simp [set, keys]
  | cons pair rest ih =>
    obtain ⟨first, old⟩ := pair
    unfold set
    by_cases hfirst : first = key
    · simp [keys, hfirst]
    · have hne : key ≠ first := Ne.symm hfirst
      simp only [keys, List.map_cons] at ih ⊢
      simp only [hfirst, if_false, List.map_cons, List.mem_cons, hne, false_or]
      rw [ih]
      split <;> simp_all

end Dictionary

end StreamAudit
