import StreamAudit.Proofs.Json.DistinctNames
import StreamAudit.Proofs.Text.LowerCase
import StreamAudit.Settings.Variables
import StreamAudit.Proofs.Traversal

/-!
A field of a section from the variable of its own to the form that the settings are read from. The
value of the variable is the member of its field as the text that it is (`get?_exploded`). It stays
that when the object of the section is laid under it and names are compared without case
(`exists_sectionValue?`), when the sections are put together (`get?_formOfVariables?`), and when
arguments are laid over them that do not speak of the field (`gives_overlaySections`). An argument
that does speak of it counts (`gives_overlaySections_of_argument`).
-/

set_option autoImplicit false
set_option relaxedAutoImplicit false

namespace StreamAudit

open StreamAudit.Text

/-! ### Names of variables -/

namespace Text

theorem splitAtDoubleLine_ne_nil (s : List Char) : splitAtDoubleLine s ≠ [] := by
  fun_cases splitAtDoubleLine s <;> simp_all

/-- What is not split is its only part. -/
theorem eq_of_splitAtDoubleLine {s part : List Char} (h : splitAtDoubleLine s = [part]) :
    s = part := by
  fun_induction splitAtDoubleLine s generalizing part with
  | case1 => exact List.head_eq_of_cons_eq h
  | case2 rest => exact absurd (List.cons.inj h).2 (splitAtDoubleLine_ne_nil rest)
  | case3 c rest _ hparts => exact absurd hparts (splitAtDoubleLine_ne_nil rest)
  | case4 c rest _ first parts hparts ih =>
    obtain ⟨rfl, rfl⟩ := List.cons.inj h
    rw [ih hparts]

theorem mem_of_mem_splitAtDoubleLine {s part : List Char} {c : Char}
    (hpart : part ∈ splitAtDoubleLine s) (hc : c ∈ part) : c ∈ s := by
  fun_induction splitAtDoubleLine s generalizing part with
  | case1 => simp_all
  | case2 rest ih =>
    rcases List.mem_cons.mp hpart with rfl | hlater
    · cases hc
    · exact List.mem_cons_of_mem _ (List.mem_cons_of_mem _ (ih hlater hc))
  | case3 first rest _ hparts => exact absurd hparts (splitAtDoubleLine_ne_nil rest)
  | case4 first rest _ part' parts hparts ih =>
    rw [hparts] at ih
    rcases List.mem_cons.mp hpart with rfl | hlater
    · rcases List.mem_cons.mp hc with rfl | hc
      · exact List.mem_cons_self
      · exact List.mem_cons_of_mem _ (ih List.mem_cons_self hc)
    · exact List.mem_cons_of_mem _ (ih (List.mem_cons_of_mem _ hlater) hc)

end Text

namespace Settings

theorem pathBelow?_eq_some {sectionName variableName : String} {path : List String}
    (h : pathBelow? sectionName variableName = some path) : ∃ rest,
      variableName.toList = (sectionName ++ "__").toList ++ rest ∧
        path = (splitAtDoubleLine rest).map String.ofList := by
  rw [pathBelow?] at h
  split at h
  · rename_i hfront
    obtain ⟨rest, hrest⟩ := List.isPrefixOf_iff_prefix.mp hfront
    refine ⟨rest, hrest.symm, ?_⟩
    rw [← hrest, List.drop_left, Option.some.injEq] at h
    exact h.symm
  · cases h

/-- Only the variable of its own names a field by itself. -/
theorem eq_of_pathBelow? {sectionName variableName field : String}
    (h : pathBelow? sectionName variableName = some [field]) :
    variableName = sectionName ++ "__" ++ field := by
  obtain ⟨rest, hname, hpath⟩ := pathBelow?_eq_some h
  obtain ⟨part, hparts, hpart⟩ := List.map_eq_singleton_iff.mp hpath.symm
  apply String.toList_injective
  simp [hname, eq_of_splitAtDoubleLine hparts, ← hpart]

/-! ### The members that variables give -/

section Members

variable {members : Json.Members} {path : List String} {value field text : String}

theorem get?_assign_single (value : Json) (field : String) (members : Json.Members) :
    (assign value [field] members).get? field = some value := by
  rw [assign, Dictionary.get?_set, if_pos rfl]

/-- A text is replaced by a value of its own member only. -/
theorem get?_assign_of_text (value : Json) (hpath : path ≠ [field])
    (h : members.get? field = some (.text text)) :
    (assign value path members).get? field = some (.text text) := by
  match path with
  | [] => exact h
  | [last] =>
    have hne : field ≠ last := fun heq ↦ hpath (heq ▸ rfl)
    rw [assign, Dictionary.get?_set, if_neg hne, h]
  | name :: next :: rest =>
    unfold assign
    by_cases hname : name = field
    · rw [hname, h]
      exact h
    · split
      · rw [Dictionary.get?_set, if_neg (Ne.symm hname), h]
      · rw [Dictionary.get?_set, if_neg (Ne.symm hname), h]
      · exact h

theorem nodup_keys_assign (value : Json) (path : List String) (h : members.keys.Nodup) :
    (assign value path members).keys.Nodup := by
  match path with
  | [] => exact h
  | [last] => exact Dictionary.nodup_keys_set h _ _
  | name :: next :: rest =>
    unfold assign
    split
    · exact Dictionary.nodup_keys_set h _ _
    · exact Dictionary.nodup_keys_set h _ _
    · exact h

theorem mem_keys_assign {value : Json} (h : field ∈ (assign value path members).keys) :
    field ∈ members.keys ∨ path.head? = some field := by
  match path with
  | [] => exact .inl h
  | [last] => exact (Dictionary.mem_keys_set h).symm.imp_right fun heq ↦ congrArg some heq.symm
  | name :: next :: rest =>
    unfold assign at h
    split at h
    · exact (Dictionary.mem_keys_set h).symm.imp_right fun heq ↦ congrArg some heq.symm
    · exact (Dictionary.mem_keys_set h).symm.imp_right fun heq ↦ congrArg some heq.symm
    · exact .inl h

end Members

section Exploded

variable {sectionName field text : String} {environment : Dictionary String}

theorem nodup_keys_exploded (sectionName : String) (environment : Dictionary String) :
    (exploded sectionName environment).keys.Nodup := by
  refine List.foldlRecOn (motive := fun members ↦ (Dictionary.keys members).Nodup) environment _
    List.nodup_nil fun members hmembers pair _ ↦ ?_
  split
  · exact nodup_keys_assign _ _ hmembers
  · exact hmembers

/-- A member is given by a variable whose path begins with its name. -/
theorem exists_of_mem_exploded (h : field ∈ (exploded sectionName environment).keys) :
    ∃ pair ∈ environment, ∃ path, pathBelow? sectionName pair.1 = some path ∧
      path.head? = some field := by
  revert h
  refine List.foldlRecOn
    (motive := fun members ↦ field ∈ Dictionary.keys members → ∃ pair ∈ environment, ∃ path,
    pathBelow? sectionName pair.1 = some path ∧ path.head? = some field) environment _ nofun ?_
  intro members hmembers pair hpair h
  split at h
  · rename_i path hpath
    rcases mem_keys_assign h with hold | hhead
    · exact hmembers hold
    · exact ⟨pair, hpair, path, hpath, hhead⟩
  · exact hmembers h

/-- The variable of a field gives the member its text, wherever it stands among the variables. -/
theorem get?_exploded (hnodup : environment.keys.Nodup)
    (hpath : pathBelow? sectionName (sectionName ++ "__" ++ field) = some [field])
    (h : environment.get? (sectionName ++ "__" ++ field) = some text) :
    (exploded sectionName environment).get? field = some (.text text) := by
  obtain ⟨before, after, rfl, hafter⟩ := Dictionary.exists_cut hnodup h
  -- What the variables before it left under the name is replaced, and only one of its own name
  -- could replace it again.
  rw [exploded, List.foldl_append, List.foldl_cons]
  simp only [hpath]
  refine List.foldlRecOn
    (motive := fun members ↦ Dictionary.get? members field = some (Json.text text)) after _
    (get?_assign_single _ _ _) fun members hmembers pair hpair ↦ ?_
  split
  · rename_i path hother
    refine get?_assign_of_text _ ?_ hmembers
    rintro rfl
    exact hafter (eq_of_pathBelow? hother ▸ List.mem_map_of_mem hpair)
  · exact hmembers

end Exploded

/-! ### Names in any case -/

/-- The field that a name stands for among some fields. -/
def fieldOf (fields : List String) (name : String) : String :=
  (fields.find? fun field ↦ field == lower name).getD name

theorem fieldOf_eq_self (fields : List String) {field : String} (h : lower field = field) :
    fieldOf fields field = field := by
  rw [fieldOf, h]
  cases hfound : fields.find? fun other ↦ other == field with
  | none => rfl
  | some other =>
    have hsame := List.find?_some hfound
    exact eq_of_beq hsame

theorem lower_of_fieldOf {fields : List String} {name field : String}
    (h : fieldOf fields name = field) (hne : name ≠ field) : lower name = field := by
  rw [fieldOf] at h
  cases hfound : fields.find? fun other ↦ other == lower name with
  | none =>
    rw [hfound] at h
    exact absurd h hne
  | some other =>
    have hsame := List.find?_some hfound
    rw [hfound] at h
    exact (eq_of_beq hsame).symm.trans h

section Renamed

variable {members below above : Json.Members} {field : String} {value : Json}

theorem get?_renamed (fields : List String) (hnodup : members.keys.Nodup)
    (hfield : lower field = field)
    (hspelled : ∀ name ∈ members.keys, lower name = field → name = field)
    (h : members.get? field = some value) :
    (renamed fields members).get? field = some value := by
  obtain ⟨before, after, rfl, hafter⟩ := Dictionary.exists_cut hnodup h
  -- A later member comes under the same field only if it is spelled in another case.
  have hlater : ∀ pair ∈ after, fieldOf fields pair.1 ≠ fieldOf fields field := by
    intro pair hpair hsame
    rw [fieldOf_eq_self fields hfield] at hsame
    have hmem : pair.1 ∈ Dictionary.keys after := List.mem_map_of_mem hpair
    have hne : pair.1 ≠ field := fun heq ↦ hafter (heq ▸ hmem)
    refine hne (hspelled pair.1 ?_ (lower_of_fieldOf hsame hne))
    exact List.mem_map_of_mem (List.mem_append_right _ (List.mem_cons_of_mem _ hpair))
  have hset := Dictionary.get?_foldl_set (fieldOf fields) [] before value hlater
  rw [fieldOf_eq_self fields hfield] at hset
  exact hset

theorem get?_overlay (below : Json.Members) (hnodup : above.keys.Nodup)
    (h : above.get? field = some value) :
    (overlay below above).get? field = some value := by
  obtain ⟨before, after, rfl, hafter⟩ := Dictionary.exists_cut hnodup h
  exact Dictionary.get?_foldl_set id below before value fun pair hpair heq ↦
    hafter (List.mem_map.mpr ⟨pair, hpair, heq⟩)

theorem get?_overlay_of_not_mem (h : field ∉ above.keys) :
    (overlay below above).get? field = below.get? field :=
  Dictionary.get?_foldl_set_of_ne id fun pair hpair heq ↦ h (List.mem_map.mpr ⟨pair, hpair, heq⟩)

theorem mem_keys_overlay (h : field ∈ (overlay below above).keys) :
    field ∈ below.keys ∨ field ∈ above.keys :=
  (Dictionary.mem_keys_foldl_set id h).imp_right List.mem_map.mpr

end Renamed

/-! ### The value of a section -/

section Lowered

variable {environment : List (String × String)} {name : String}

theorem nodup_keys_lowered (environment : List (String × String)) :
    (lowered environment).keys.Nodup :=
  Dictionary.nodup_keys_foldl_set lower (show (Dictionary.keys []).Nodup from List.nodup_nil)
    environment

theorem not_falls_of_mem_lowered (h : name ∈ (lowered environment).keys) :
    ∀ c ∈ name.toList, fallsToAscii c = false := by
  rcases Dictionary.mem_keys_foldl_set lower h with hnone | ⟨pair, -, rfl⟩
  · cases hnone
  · exact fun c hc ↦ not_mem_lower hc

end Lowered

/-- Whether a text can be the name of a field: it is in lower case, in ASCII and without a pair of
low lines. -/
structure IsFieldName (field : String) : Prop where
  small : lower field = field
  ascii : ∀ c ∈ field.toList, c.toNat < 128
  whole : splitAtDoubleLine field.toList = [field.toList]

/-- Whether the variable of a field decides on it: of all variables of this name in any case the
last one holds the text, and the variable of the section, if there is one and it holds JSON, holds
an object that spells the field in no other case. -/
structure IsGiven (sectionName : String) (environment : List (String × String))
    (field text : String) : Prop where
  held : (lowered environment).get? (sectionName ++ "__" ++ field) = some text
  object : ∀ written, (lowered environment).get? sectionName = some written →
    ∀ value, Json.read? written = some value →
      ∃ members : Json.Members, value = .object members ∧
        ∀ name ∈ members.keys, lower name = field → name = field

section Given

variable {part : Section} {environment : List (String × String)} {field text : String}

theorem pathBelow?_self (sectionName : String) (hfield : IsFieldName field) :
    pathBelow? sectionName (sectionName ++ "__" ++ field) = some [field] := by
  have hname : (sectionName ++ "__" ++ field).toList =
      (sectionName ++ "__").toList ++ field.toList :=
    String.toList_append
  rw [pathBelow?, hname]
  simp only [List.isPrefixOf_iff_prefix, List.prefix_append, if_true, List.drop_left, hfield.whole,
    List.map_singleton, String.ofList_toList]

/-- Among the members that variables give no field is spelled in another case. -/
theorem eq_of_lower_of_mem_exploded {name sectionName : String} (hfield : IsFieldName field)
    (h : name ∈ (exploded sectionName (lowered environment)).keys) (hlower : lower name = field) :
    name = field := by
  obtain ⟨pair, hpair, path, hpath, hhead⟩ := exists_of_mem_exploded h
  obtain ⟨rest, hname, rfl⟩ := pathBelow?_eq_some hpath
  rw [List.head?_map, Option.map_eq_some_iff] at hhead
  obtain ⟨front, hfront, rfl⟩ := hhead
  refine eq_of_lower_eq (fun c hc ↦ ?_) hfield.ascii hlower
  rw [String.toList_ofList] at hc
  refine not_falls_of_mem_lowered (List.mem_map_of_mem hpair) c ?_
  rw [hname]
  exact List.mem_append_right _ (mem_of_mem_splitAtDoubleLine (List.mem_of_mem_head? hfront) hc)

/-- A section has the text of its field's variable, also where an object gives it other members. -/
theorem exists_sectionValue? (hfield : IsFieldName field)
    (hgiven : IsGiven part.name environment field text) {value? : Option Json}
    (h : sectionValue? (lowered environment) part = some value?) :
    ∃ members : Json.Members, value? = some (.object members) ∧
      members.get? field = some (.text text) := by
  have hexploded : (exploded part.name (lowered environment)).get? field = some (.text text) :=
    get?_exploded (nodup_keys_lowered environment) (pathBelow?_self part.name hfield) hgiven.held
  have hnodup := nodup_keys_exploded part.name (lowered environment)
  have hspelled : ∀ name ∈ (exploded part.name (lowered environment)).keys, lower name = field →
      name = field :=
    fun _ hname hlower ↦ eq_of_lower_of_mem_exploded hfield hname hlower
  rw [sectionValue?] at h
  cases hwritten : (lowered environment).get? part.name with
  | none =>
    rw [hwritten] at h
    have hsome : (exploded part.name (lowered environment)).isEmpty = false := by
      cases hall : exploded part.name (lowered environment) with
      | nil =>
        rw [hall] at hexploded
        cases hexploded
      | cons pair rest => rfl
    simp only [hsome, Bool.false_eq_true, if_false, Option.some.injEq] at h
    exact ⟨_, h.symm, get?_renamed part.fields hnodup hfield.small hspelled hexploded⟩
  | some written =>
    rw [hwritten] at h
    obtain ⟨value, hread, hvalue⟩ := Option.map_eq_some_iff.mp h
    obtain ⟨members, rfl, hobject⟩ := hgiven.object written hwritten value hread
    refine ⟨_, hvalue.symm,
      get?_renamed part.fields ?_ hfield.small ?_ (get?_overlay members hnodup hexploded)⟩
    · exact Dictionary.nodup_keys_foldl_set id (Json.nodup_keys_of_read? hread) _
    · intro name hname hlower
      rcases mem_keys_overlay hname with hbelow | habove
      · exact hobject name hbelow hlower
      · exact hspelled name habove hlower

end Given

/-! ### The form and the arguments -/

section Form

variable {part : Section} {known : Dictionary String}

theorem names_of_mapM {parts : List Section} {values : List (String × Option Json)}
    (h : (parts.mapM fun part ↦ (sectionValue? known part).map (part.name, ·)) = some values) :
    values.map (·.1) = parts.map Section.name := by
  induction parts generalizing values with
  | nil =>
    cases h
    rfl
  | cons first rest ih =>
    simp only [List.mapM_cons, Option.bind_eq_bind, Option.bind_eq_some_iff, Option.pure_def,
      Option.some.injEq, Option.map_eq_some_iff] at h
    obtain ⟨_, ⟨value?, -, rfl⟩, others, hothers, rfl⟩ := h
    rw [List.map_cons, List.map_cons, ih hothers]

theorem mem_names_of_mem_keys {values : List (String × Option Json)} {name : String}
    (h : name ∈ Dictionary.keys (values.filterMap fun (name, value?) ↦ value?.map (name, ·))) :
    name ∈ values.map (·.1) := by
  obtain ⟨pair, hpair, rfl⟩ := List.mem_map.mp h
  obtain ⟨⟨name, value?⟩, hmem, hvalue⟩ := List.mem_filterMap.mp hpair
  obtain ⟨value, -, rfl⟩ := Option.map_eq_some_iff.mp hvalue
  exact List.mem_map_of_mem hmem

/-- Of sections with distinct names each has its own value. -/
theorem get?_sections {parts : List Section} (hnames : (parts.map Section.name).Nodup)
    {values : List (String × Option Json)}
    (h : (parts.mapM fun part ↦ (sectionValue? known part).map (part.name, ·)) = some values)
    (hpart : part ∈ parts) :
    ∃ value?, sectionValue? known part = some value? ∧
      Dictionary.get? (values.filterMap fun (name, value?) ↦ value?.map (name, ·)) part.name =
        value? := by
  induction parts generalizing values with
  | nil => cases hpart
  | cons first rest ih =>
    simp only [List.mapM_cons, Option.bind_eq_bind, Option.bind_eq_some_iff, Option.pure_def,
      Option.some.injEq, Option.map_eq_some_iff] at h
    obtain ⟨_, ⟨value?, hvalue, rfl⟩, others, hothers, rfl⟩ := h
    obtain ⟨hfirst, hrest⟩ := List.nodup_cons.mp hnames
    rcases List.mem_cons.mp hpart with rfl | hpart
    · refine ⟨value?, hvalue, ?_⟩
      cases value? with
      | some value => simp [Dictionary.get?]
      | none =>
        rw [List.filterMap_cons_none rfl, ← Option.not_isSome_iff_eq_none,
          ← Dictionary.mem_keys_iff]
        exact fun hmem ↦ hfirst (names_of_mapM hothers ▸ mem_names_of_mem_keys hmem)
    · obtain ⟨own?, hown, hget⟩ := ih hrest hothers hpart
      refine ⟨own?, hown, ?_⟩
      have hne : first.name ≠ part.name := fun heq ↦ hfirst (heq ▸ List.mem_map_of_mem hpart)
      cases value? with
      | some value => simpa [Dictionary.get?, hne] using hget
      | none => simpa using hget

/-- The form has for each section what the variables give it. -/
theorem get?_formOfVariables? {environment : List (String × String)} {form : Json.Members}
    (h : formOfVariables? environment = some form) (hpart : part ∈ sections) : ∃ value?,
      sectionValue? (lowered environment) part = some value? ∧ form.get? part.name = value? := by
  rw [formOfVariables?] at h
  simp only [Option.bind_eq_bind, Option.bind_eq_some_iff, Option.pure_def, Option.some.injEq] at h
  obtain ⟨values, hvalues, rfl⟩ := h
  have hnames : (sections.map Section.name).Nodup ∧ ∀ part ∈ sections, part.name ∉ plainFields := by
    decide +kernel
  obtain ⟨value?, hvalue, hget⟩ := get?_sections hnames.1 hvalues hpart
  refine ⟨value?, hvalue, ?_⟩
  rw [Dictionary.get?_append_of_not_mem, hget]
  intro hmem
  obtain ⟨pair, hpair, hname⟩ := List.mem_map.mp hmem
  obtain ⟨name, hplain, hvalue⟩ := List.mem_filterMap.mp hpair
  obtain ⟨text, -, rfl⟩ := Option.map_eq_some_iff.mp hvalue
  exact hnames.2 part hpart (hname ▸ hplain)

/-- Whether the variables of whole sections hold JSON, all that there are. -/
def HoldsJson (environment : List (String × String)) : Prop :=
  ∀ part ∈ sections, ∀ written ∈ (lowered environment).get? part.name, (Json.read? written).isSome

instance (environment : List (String × String)) : Decidable (HoldsJson environment) :=
  inferInstanceAs (Decidable (∀ part ∈ sections, ∀ written ∈ (lowered environment).get? part.name,
    (Json.read? written).isSome))

theorem exists_formOfVariables? {environment : List (String × String)} (h : HoldsJson environment) :
    ∃ form, formOfVariables? environment = some form := by
  have hvalue : ∀ part ∈ sections, sectionValue? (lowered environment) part =
      some ((sectionValue? (lowered environment) part).getD none) := by
    intro part hpart
    rw [sectionValue?]
    cases hwritten : (lowered environment).get? part.name with
    | none => rfl
    | some written =>
      obtain ⟨value, hread⟩ := Option.isSome_iff_exists.mp (h part hpart written hwritten)
      simp only [hread]
      rfl
  have hvalues :=
    mapM_eq_some fun part hpart ↦ congrArg (Option.map (part.name, ·)) (hvalue part hpart)
  rw [formOfVariables?, hvalues]
  exact ⟨_, rfl⟩

end Form

/-- Whether a form gives a field of a section a value. -/
def Gives (form : Json.Members) (sectionName field : String) (value : Json) : Prop :=
  ∃ members : Json.Members, form.get? sectionName = some (.object members) ∧
    members.get? field = some value

section Arguments

variable {below above inner : Json.Members} {sectionName field : String} {value : Json}

/-- Arguments leave a field that they do not speak of. -/
theorem gives_overlaySections (h : Gives below sectionName field value)
    (habove : ∀ other, (sectionName, other) ∈ above → ∃ inner : Json.Members,
      other = .object inner ∧ field ∉ inner.keys) :
    Gives (overlaySections below above) sectionName field value := by
  refine List.foldlRecOn (motive := fun merged ↦ Gives merged sectionName field value) above _ h ?_
  rintro merged ⟨members, hmembers, hfield⟩ ⟨name, other⟩ hpair
  by_cases hname : name = sectionName
  · subst hname
    obtain ⟨inner, rfl, hinner⟩ := habove other hpair
    simp only [hmembers]
    refine ⟨overlay members inner, ?_, ?_⟩
    · rw [Dictionary.get?_set, if_pos rfl]
    · rw [get?_overlay_of_not_mem hinner, hfield]
  · refine ⟨members, ?_, hfield⟩
    split
    · rw [Dictionary.get?_set, if_neg (Ne.symm hname), hmembers]
    · rw [Dictionary.get?_set, if_neg (Ne.symm hname), hmembers]

/-- An argument counts whatever lies below it. -/
theorem gives_overlaySections_of_argument (below : Json.Members) (hnodup : above.keys.Nodup)
    (hgiven : above.get? sectionName = some (.object inner)) (hinner : inner.keys.Nodup)
    (hvalue : inner.get? field = some value) :
    Gives (overlaySections below above) sectionName field value := by
  obtain ⟨before, after, rfl, hafter⟩ := Dictionary.exists_cut hnodup hgiven
  rw [overlaySections, List.foldl_append, List.foldl_cons]
  refine gives_overlaySections ?_ fun other hother ↦ absurd (List.mem_map_of_mem hother) hafter
  split
  · rename_i old new _ hnew
    obtain rfl := Json.object.inj hnew
    refine ⟨overlay old inner, ?_, get?_overlay old hinner hvalue⟩
    rw [Dictionary.get?_set, if_pos rfl]
  · refine ⟨inner, ?_, hvalue⟩
    rw [Dictionary.get?_set, if_pos rfl]

end Arguments

end Settings

end StreamAudit
