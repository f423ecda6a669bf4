import StreamAudit.Form.Number

/-!
Readers of members. A member is read as a value exactly if it is there and its reader takes it
(`required_eq_ok_iff`), or if it may be missing and is (`optional_eq_ok_iff`); setting one member of
a form leaves the others as they were. A complaint names the member that it is about
(`exists_of_mem_complaints_optional`). What a list is read as has whatever its items have, and is
read from the list of its items.
-/

set_option autoImplicit false
set_option relaxedAutoImplicit false

namespace StreamAudit.Form

variable {α : Type}

theorem Checked.under_eq_ok_iff {step : Step} {found : Checked α} {a : α} :
    found.under step = .ok a ↔ found = .ok a := by
  refine ⟨eq_ok_of_under, ?_⟩
  rintro rfl
  rfl

section Members

variable {form : Json.Members} {name other : String} {read : Reader α} {absent a : α}

theorem required_eq_ok_iff :
    required form name read = .ok a ↔
      ∃ value, form.get? name = some value ∧ read value = .ok a := by
  unfold required
  cases form.get? name with
  | none => simp
  | some value => simp [Checked.under_eq_ok_iff]

theorem optional_eq_ok_iff : Form.optional form name read absent = .ok a ↔
    (form.get? name = none ∧ absent = a) ∨ ∃ value, form.get? name = some value ∧
      read value = .ok a := by
  unfold Form.optional
  cases form.get? name with
  | none => simp
  | some value => simp [Checked.under_eq_ok_iff]

theorem required_set_self {value : Json} :
    required (form.set name value) name read = .ok a ↔ read value = .ok a := by
  rw [required_eq_ok_iff, Dictionary.get?_set, if_pos rfl]
  exact ⟨fun ⟨_, hvalue, hread⟩ ↦ Option.some.inj hvalue ▸ hread, fun hread ↦ ⟨value, rfl, hread⟩⟩

theorem required_set_of_ne (h : name ≠ other) (value : Json) (read : Reader α) :
    required (form.set other value) name read = required form name read := by
  rw [required, Dictionary.get?_set, if_neg h, required]

theorem optional_set_of_ne (h : name ≠ other) (value : Json) (read : Reader α) (absent : α) :
    Form.optional (form.set other value) name read absent =
      Form.optional form name read absent := by
  rw [Form.optional, Dictionary.get?_set, if_neg h, Form.optional]

end Members

/-! ### Complaints -/

section Complaints

variable {β : Type}

theorem Checked.complaints_also (function : Checked (α → β)) (argument : Checked α) :
    (function.also argument).complaints = function.complaints ++ argument.complaints := by
  cases function <;> cases argument <;> rfl

theorem Checked.exists_of_mem_complaints_under {step : Step} {found : Checked α}
    {complaint : Complaint} (h : complaint ∈ (found.under step).complaints) :
    ∃ inner ∈ found.complaints, complaint.path = step :: inner.path := by
  cases found with
  | ok a => cases h
  | wrong all =>
    obtain ⟨inner, hinner, rfl⟩ := List.mem_map.mp h
    exact ⟨inner, hinner, rfl⟩

/-- What is wrong with a member that may be missing is wrong with its value. -/
theorem exists_of_mem_complaints_optional {form : Json.Members} {name : String} {read : Reader α}
    {absent : α} {complaint : Complaint}
    (h : complaint ∈ (Form.optional form name read absent).complaints) :
    ∃ value, form.get? name = some value ∧
      ∃ inner ∈ (read value).complaints, complaint.path = .member name :: inner.path := by
  unfold Form.optional at h
  cases hvalue : form.get? name with
  | none =>
    rw [hvalue] at h
    cases h
  | some value =>
    rw [hvalue] at h
    exact ⟨value, rfl, Checked.exists_of_mem_complaints_under h⟩

end Complaints

/-! ### Texts and lists -/

/-- A text is read as what its preparation leaves, if that is long enough. -/
theorem text_eq_ok_iff {prepare : String → String} {minimum : Nat} {value : Json} {t : String} :
    text prepare minimum value = .ok t ↔
      ∃ s, value = .text s ∧ prepare s = t ∧ minimum ≤ t.length := by
  cases value with
  | text s =>
    by_cases hshort : (prepare s).length < minimum
    · simp only [text, if_pos hshort, refuse, reduceCtorEq, Json.text.injEq, false_iff]
      rintro ⟨_, rfl, rfl, hlong⟩
      omega
    · simp only [text, if_neg hshort, Checked.ok.injEq, Json.text.injEq]
      constructor
      · rintro rfl
        exact ⟨s, rfl, rfl, Nat.le_of_not_lt hshort⟩
      · rintro ⟨_, rfl, ht, -⟩
        exact ht
  | null | bool | int | real | list | object => simp [text, refuse]

variable {read : Reader α}

theorem itemsFrom_cons_eq_ok_iff {place : Nat} {item : Json} {rest : List Json} {as : List α} :
    itemsFrom read place (item :: rest) = .ok as ↔
      ∃ a others, read item = .ok a ∧ itemsFrom read (place + 1) rest = .ok others ∧
        a :: others = as := by
  simp only [itemsFrom, Checked.also_eq_ok_iff, Checked.under_eq_ok_iff]
  constructor
  · rintro ⟨_, others, ⟨_, a, hcons, ha, rfl⟩, hothers, rfl⟩
    cases hcons
    exact ⟨a, others, ha, hothers, rfl⟩
  · rintro ⟨a, others, ha, hothers, rfl⟩
    exact ⟨_, others, ⟨_, a, rfl, ha, rfl⟩, hothers, rfl⟩

/-- What holds of each value that is read holds of those of a list. -/
theorem forall_of_list {P : α → Prop} (hread : ∀ value a, read value = .ok a → P a) {value : Json}
    {as : List α} (h : list read value = .ok as) : ∀ a ∈ as, P a := by
  have hitems : ∀ items place as, itemsFrom read place items = .ok as → ∀ a ∈ as, P a := by
    intro items
    induction items with
    | nil =>
      intro place as h
      cases h
      simp
    | cons item rest ih =>
      intro place as h
      obtain ⟨a, others, ha, hothers, rfl⟩ := itemsFrom_cons_eq_ok_iff.mp h
      exact List.forall_mem_cons.mpr ⟨hread item a ha, ih _ _ hothers⟩
  cases value with
  | list items => exact hitems items 0 as h
  | null | bool | int | real | text | object => cases h

/-- Values that are each read back are read back as a list. -/
theorem list_map {write : α → Json} {as : List α} (h : ∀ a ∈ as, read (write a) = .ok a) :
    list read (.list (as.map write)) = .ok as := by
  have hitems : ∀ place, itemsFrom read place (as.map write) = .ok as := by
    induction as with
    | nil => exact fun _ ↦ rfl
    | cons a others ih =>
      obtain ⟨ha, hothers⟩ := List.forall_mem_cons.mp h
      exact fun place ↦ itemsFrom_cons_eq_ok_iff.mpr ⟨a, others, ha, ih hothers _, rfl⟩
  exact hitems 0

theorem nullable_integer (n? : Option Int) :
    nullable integer ((n?.map Json.int).getD .null) = .ok n? := by
  cases n? <;> rfl

end StreamAudit.Form
