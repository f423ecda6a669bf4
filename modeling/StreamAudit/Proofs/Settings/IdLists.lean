import StreamAudit.Proofs.Form.Reasons
import StreamAudit.Proofs.Json.RoundTrip
import StreamAudit.Proofs.Settings.Variables
import StreamAudit.Proofs.Text.CommaNames

/-!
The lists of ids in the settings. A list may be given as a text of names with commas between them,
to the section of the query engine itself, as an argument, or by a variable. In each way the
settings hold the names of the text and nothing else, and if they are refused then for other reasons
(`takes_section`, `exists_load?_takes`); alone such a text is never refused (`ofForm_alone`,
`load?_alone`). This is put together with what the names of a text are in `idLists_of_text`.
-/

set_option autoImplicit false
set_option relaxedAutoImplicit false

namespace StreamAudit.Settings

open StreamAudit.Form StreamAudit.Text

/-- The lists of ids in the settings of the query engine. -/
inductive IdList where
  | admin
  | user
deriving DecidableEq, Repr

namespace IdList

/-- The field of a list. -/
def field : IdList → String
  | admin => "admin_ids"
  | user => "user_ids"

/-- The variable of a list. -/
def variableName : IdList → String
  | admin => "AUDIT__ADMIN_IDS"
  | user => "AUDIT__USER_IDS"

/-- The ids of a list. -/
def ids (list : IdList) (audit : AuditSettings) : List String :=
  match list with
  | admin => audit.adminIds
  | user => audit.userIds

/-- The default settings but for the ids of a list. -/
def holding (list : IdList) (ids : List String) : AuditSettings :=
  match list with
  | admin => { adminIds := ids }
  | user => { userIds := ids }

theorem isFieldName_field (list : IdList) : IsFieldName list.field := by
  have hascii : list.field.toList.all (·.toNat < 128) = true := by cases list <;> decide
  refine ⟨?_, fun c hc ↦ of_decide_eq_true (List.all_eq_true.mp hascii c hc), ?_⟩
  · cases list <;> decide +kernel
  · cases list <;> decide

end IdList

/-- Whether a reading takes ids as they are: what was read has these, and what was refused was
refused for complaints of which none is about their place. -/
structure Takes {α : Type} (place : List Step) (view : α → List String) (ids : List String)
    (reading : Checked α) :
    Prop where
  holds : ∀ found, reading = .ok found → view found = ids
  reasons : reading ≠ .wrong []
  silent : ∀ complaint ∈ reading.complaints, ¬ place <+: complaint.path

section Reading

variable {list : IdList} {form : Json.Members} {s : String}

/-- Complaints about a member are not about another one, nor about a place in its value of which its
reader says nothing. -/
theorem silent_optional {α : Type} {name field : String} {read : Reader α} {absent : α}
    {place : List Step} {complaint : Complaint}
    (h : complaint ∈ (Form.optional form name read absent).complaints)
    (hsilent : field = name → ∀ value, form.get? name = some value →
      ∀ inner ∈ (read value).complaints, ¬ place <+: inner.path) :
    ¬ .member field :: place <+: complaint.path := by
  obtain ⟨value, hvalue, inner, hinner, hpath⟩ := exists_of_mem_complaints_optional h
  rw [hpath, List.cons_prefix_cons]
  rintro ⟨hname, hprefix⟩
  exact hsilent (Step.member.inj hname) value hvalue inner hinner hprefix

theorem takes_section (h : form.get? list.field = some (.text s)) :
    Takes [.member list.field] list.ids (commaNames s) (AuditSettings.ofForm form) := by
  have hids : ∀ name, list.field = name → ∀ value, form.get? name = some value →
      idList value = .ok (commaNames s) := by
    rintro _ rfl value hvalue
    obtain rfl := Option.some.inj (h.symm.trans hvalue)
    rfl
  have hsilent : ∀ name, list.field = name → ∀ value, form.get? name = some value →
      ∀ inner ∈ (idList value).complaints, ¬ [] <+: inner.path := by
    intro name hname value hvalue inner hinner
    rw [hids name hname value hvalue] at hinner
    cases hinner
  refine ⟨?_, AuditSettings.ofForm_ne_wrong_nil form, ?_⟩
  · intro found hfound
    simp only [AuditSettings.ofForm, Checked.also_eq_ok_iff] at hfound
    obtain ⟨_, _, ⟨_, _, ⟨_, _, ⟨_, _, ⟨_, _, ⟨_, _, hmake, -, rfl⟩, hadmin, rfl⟩, huser, rfl⟩, -,
      rfl⟩, -, rfl⟩, -, rfl⟩ := hfound
    cases hmake
    cases list with
    | admin =>
      have hread := (hids _ rfl _ h).symm.trans (read_of_optional hadmin h)
      exact (Checked.ok.inj hread).symm
    | user =>
      have hread := (hids _ rfl _ h).symm.trans (read_of_optional huser h)
      exact (Checked.ok.inj hread).symm
  · intro complaint hcomplaint
    simp only [AuditSettings.ofForm, Checked.complaints_also, List.mem_append] at hcomplaint
    rcases hcomplaint with (((((hmake | hsource) | hadmin) | huser) | htimeout) | hlimit) | hisolate
    · cases hmake
    · exact silent_optional hsource fun heq ↦ absurd heq (by cases list <;> decide)
    · exact silent_optional hadmin (hsilent "admin_ids")
    · exact silent_optional huser (hsilent "user_ids")
    · exact silent_optional htimeout fun heq ↦ absurd heq (by cases list <;> decide)
    · exact silent_optional hlimit fun heq ↦ absurd heq (by cases list <;> decide)
    · exact silent_optional hisolate fun heq ↦ absurd heq (by cases list <;> decide)

theorem takes_settings (h : Gives form "audit" list.field (.text s)) :
    Takes [.member "audit", .member list.field] (fun settings ↦ list.ids settings.audit)
      (commaNames s) (Settings.ofForm form) := by
  obtain ⟨members, hmembers, hfield⟩ := h
  have htakes := takes_section hfield
  refine ⟨?_, ofForm_ne_wrong_nil form, ?_⟩
  · intro found hfound
    simp only [Settings.ofForm, Checked.also_eq_ok_iff] at hfound
    obtain ⟨_, _, ⟨_, _, ⟨_, _, ⟨_, _, ⟨_, _, ⟨_, _, ⟨_, _, hmake, -, rfl⟩, -, rfl⟩, -, rfl⟩, -,
      rfl⟩, -, rfl⟩, haudit, rfl⟩, -, rfl⟩ := hfound
    cases hmake
    exact htakes.holds _ (read_of_optional haudit hmembers)
  · intro complaint hcomplaint
    simp only [Settings.ofForm, Checked.complaints_also, List.mem_append] at hcomplaint
    rcases hcomplaint with
      ((((((hmake | hname) | henvironment) | hdatabase) | hcluster) | hwarehouse) | haudit) | hlog
    · cases hmake
    · exact silent_optional hname fun heq ↦ absurd heq (by decide)
    · exact silent_optional henvironment fun heq ↦ absurd heq (by decide)
    · exact silent_optional hdatabase fun heq ↦ absurd heq (by decide)
    · exact silent_optional hcluster fun heq ↦ absurd heq (by decide)
    · exact silent_optional hwarehouse fun heq ↦ absurd heq (by decide)
    · refine silent_optional haudit fun _ value hvalue inner hinner ↦ ?_
      obtain rfl := Option.some.inj (hmembers.symm.trans hvalue)
      exact htakes.silent inner hinner
    · exact silent_optional hlog fun heq ↦ absurd heq (by decide)

end Reading

/-! ### Nothing but a list -/

section Alone

variable (list : IdList) (s : String)

theorem lower_variableName : lower list.variableName = "audit" ++ "__" ++ list.field := by
  cases list <;> decide +kernel

/-- The variable of a list that stands alone gives its section one member and the other sections
none. -/
theorem sectionValue?_alone {part : Section} (hpart : part ∈ sections) :
    sectionValue? [("audit" ++ "__" ++ list.field, s)] part =
      some (if part.name = "audit" then some (.object [(list.field, .text s)]) else none) := by
  have hnames : ∀ part ∈ sections, "audit" ++ "__" ++ list.field ≠ part.name ∧
      (part.name ≠ "audit" → pathBelow? part.name ("audit" ++ "__" ++ list.field) = none) := by
    cases list <;> decide +kernel
  obtain ⟨hne, hother⟩ := hnames part hpart
  rw [sectionValue?]
  simp only [Dictionary.get?, hne, if_false]
  by_cases haudit : part.name = "audit"
  · have hexploded : exploded "audit" [("audit" ++ "__" ++ list.field, s)] =
        [(list.field, .text s)] := by
      simp only [exploded, List.foldl_cons, List.foldl_nil,
        pathBelow?_self "audit" list.isFieldName_field]
      rfl
    have hrenamed : renamed part.fields [(list.field, .text s)] = [(list.field, .text s)] :=
      congrArg (fun name ↦ [(name, Json.text s)])
        (fieldOf_eq_self part.fields list.isFieldName_field.small)
    rw [haudit, hexploded, if_pos rfl]
    exact congrArg (fun members ↦ some (some (Json.object members))) hrenamed
  · have hexploded : exploded part.name [("audit" ++ "__" ++ list.field, s)] = [] := by
      simp only [exploded, List.foldl_cons, List.foldl_nil, hother haudit]
    rw [hexploded, if_neg haudit]
    rfl

theorem formOfVariables?_alone :
    formOfVariables? [(list.variableName, s)] =
      some [("audit", .object [(list.field, .text s)])] := by
  have hlowered : lowered [(list.variableName, s)] = [("audit" ++ "__" ++ list.field, s)] := by
    rw [← lower_variableName]
    rfl
  have hvalues :=
    mapM_eq_some fun part hpart ↦
      congrArg (Option.map (part.name, ·)) (sectionValue?_alone list s hpart)
  rw [formOfVariables?, hlowered, hvalues]
  cases list <;> rfl

theorem ofForm_alone :
    AuditSettings.ofForm [(list.field, .text s)] = .ok (list.holding (commaNames s)) := by
  cases list <;> rfl

theorem load?_argument_alone :
    load? [] [("audit", .object [(list.field, .text s)])] =
      some (.ok { audit := list.holding (commaNames s) }) := by
  cases list <;> rfl

theorem load?_alone :
    load? [(list.variableName, s)] [] = some (.ok { audit := list.holding (commaNames s) }) := by
  rw [load?, formOfVariables?_alone]
  cases list <;> rfl

end Alone

/-! ### A text for a list -/

/-- How settings are given a text for a list of ids: by an argument, whatever lies below it, or by
the variable of the list if no argument speaks of it. -/
inductive IsSupplied (list : IdList) (environment : List (String × String))
    (arguments : Json.Members) (s : String) :
    Prop where
  | byArgument {inner : Json.Members} (hnames : arguments.keys.Nodup) (hfields : inner.keys.Nodup)
      (hsection : arguments.get? "audit" = some (.object inner))
        (hfield : inner.get? list.field = some (.text s))
  | byVariable (hvariable : IsGiven "audit" environment list.field s)
      (harguments : ∀ other, ("audit", other) ∈ arguments → ∃ inner : Json.Members,
        other = .object inner ∧ list.field ∉ inner.keys)

section Supplied

variable {list : IdList} {environment : List (String × String)} {arguments : Json.Members}
    {s : String}

/-- What supplies a list is in the form that the settings are read from. -/
theorem gives_of_isSupplied (h : IsSupplied list environment arguments s) {form : Json.Members}
    (hform : formOfVariables? environment = some form) :
    Gives (overlaySections form arguments) "audit" list.field (.text s) := by
  cases h with
  | byArgument hnames hfields hsection hfield =>
    exact gives_overlaySections_of_argument form hnames hsection hfields hfield
  | byVariable hvariable harguments =>
    have hpart : ∃ part ∈ sections, part.name = "audit" := by decide
    obtain ⟨part, hpart, hname⟩ := hpart
    obtain ⟨value?, hvalue, hget⟩ := get?_formOfVariables? hform hpart
    obtain ⟨members, rfl, hfield⟩ :=
      exists_sectionValue? list.isFieldName_field (hname ▸ hvariable) hvalue
    exact gives_overlaySections ⟨members, hname ▸ hget, hfield⟩ harguments

theorem exists_load?_takes (h : IsSupplied list environment arguments s)
    (hjson : HoldsJson environment) :
    ∃ reading, load? environment arguments = some reading ∧
      Takes [.member "audit", .member list.field] (fun settings ↦ list.ids settings.audit)
        (commaNames s) reading := by
  obtain ⟨form, hform⟩ := exists_formOfVariables? hjson
  refine ⟨_, ?_, takes_settings (gives_of_isSupplied h hform)⟩
  rw [load?, hform]
  rfl

end Supplied

/-- Names with commas between them, and the settings that are given them. The names of two texts
with a comma between them are those of the one and then those of the other; each is a name, and
names are all that is read from them again. A section that is given a text for a list of ids has the
names of the text, and so have the settings, be it by an argument or by the variable of the list;
alone it is always taken. -/
theorem idLists_of_text :
    (∀ s t, commaNames (s ++ "," ++ t) = commaNames s ++ commaNames t) ∧
      (∀ s, (∀ name ∈ commaNames s, IsName name) ∧
        commaNames (",".intercalate (commaNames s)) = commaNames s) ∧
      ∀ (list : IdList) (s : String),
        AuditSettings.ofForm [(list.field, .text s)] = .ok (list.holding (commaNames s)) ∧
        (∀ form : Json.Members, form.get? list.field = some (.text s) →
          Takes [.member list.field] list.ids (commaNames s) (AuditSettings.ofForm form)) ∧
        load? [] [("audit", .object [(list.field, .text s)])] =
          some (.ok { audit := list.holding (commaNames s) }) ∧
        load? [(list.variableName, s)] [] = some (.ok { audit := list.holding (commaNames s) }) ∧
        ∀ environment arguments, IsSupplied list environment arguments s → HoldsJson environment →
          ∃ reading, load? environment arguments = some reading ∧
            Takes [.member "audit", .member list.field] (fun settings ↦ list.ids settings.audit)
              (commaNames s) reading := by
  refine ⟨commaNames_append, fun s ↦ ?_, fun list s ↦ ?_⟩
  · have hnames : ∀ name ∈ commaNames s, IsName name := fun _ hname ↦ isName_of_mem_commaNames hname
    exact ⟨hnames, commaNames_intercalate hnames⟩
  · refine ⟨ofForm_alone list s, fun form hform ↦ takes_section hform, load?_argument_alone list s,
      load?_alone list s, ?_⟩
    exact fun environment arguments hsupplied hjson ↦ exists_load?_takes hsupplied hjson

namespace BothWays

/-- A text with blanks of several kinds and with empty parts. -/
def written : String :=
  "\u00a03 , ,\u3000agent 5\t,,_x_"

/-- Another field of the section, as an object. -/
def object : Json :=
  .object [("max_concurrent_queries", .int 4)]

/-- The variable of one list, in letters of both cases, and that of the section. -/
def environment : List (String × String) :=
  [("Audit__Admin_Ids", written), ("AUDIT", object.indentedText ++ "\n")]

/-- An argument with the other list. -/
def arguments : Json.Members :=
  [("audit", .object [("user_ids", .text "7,8")])]

/-- The settings that are read. -/
def settings : Settings where
  audit := { adminIds := ["3", "agent 5", "_x_"], userIds := ["7", "8"], maxConcurrentQueries := 4 }

theorem lowered_environment : lowered environment =
    [("audit__admin_ids", written), ("audit", object.indentedText ++ "\n")] := by
  decide +kernel

theorem read?_object : Json.read? (object.indentedText ++ "\n") = some object :=
  Json.read?_indentedText (.object _ (by decide) fun _ hmember ↦
    List.mem_singleton.mp hmember ▸ .int 4 (by decide +kernel))

theorem isSupplied_admin : IsSupplied .admin environment arguments written := by
  refine .byVariable ⟨lowered_environment ▸ rfl, ?_⟩ ?_
  · intro held hheld value hread
    rw [lowered_environment] at hheld
    obtain rfl := Option.some.inj hheld
    obtain rfl := Option.some.inj (read?_object.symm.trans hread)
    exact ⟨_, rfl, by decide +kernel⟩
  · intro other hother
    obtain rfl := congrArg Prod.snd (List.mem_singleton.mp hother)
    exact ⟨_, rfl, by decide⟩

theorem isSupplied_user : IsSupplied .user environment arguments "7,8" :=
  .byArgument (by decide) (by decide) rfl rfl

/-- One list comes from its variable and the other one from an argument. -/
theorem both_lists_taken : IsSupplied .admin environment arguments written ∧
    IsSupplied .user environment arguments "7,8" ∧ HoldsJson environment ∧
    load? environment arguments = some (.ok settings) ∧
    settings.audit.adminIds = commaNames written ∧ settings.audit.userIds = commaNames "7,8" := by
  have hjson : HoldsJson environment := by decide +kernel
  have hload : load? environment arguments = some (.ok settings) := by decide +kernel
  obtain ⟨-, -, -, -, hadmin⟩ := idLists_of_text.2.2 .admin written
  obtain ⟨-, -, -, -, huser⟩ := idLists_of_text.2.2 .user "7,8"
  obtain ⟨_, hfound, htakes⟩ := hadmin environment arguments isSupplied_admin hjson
  obtain ⟨_, hfound', htakes'⟩ := huser environment arguments isSupplied_user hjson
  obtain rfl := Option.some.inj (hload.symm.trans hfound)
  obtain rfl := Option.some.inj (hload.symm.trans hfound')
  exact ⟨isSupplied_admin, isSupplied_user, hjson, hload, htakes.holds _ rfl, htakes'.holds _ rfl⟩

end BothWays

end StreamAudit.Settings
