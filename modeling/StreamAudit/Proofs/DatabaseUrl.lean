import StreamAudit.Proofs.Address.Parts
import StreamAudit.Proofs.Text.Percent
import StreamAudit.Settings.DatabaseUrl

/-!
The address that is built for the manager's database, read back. User and password are coded as in a
form but read as parts of an address, so their plus signs, percent signs and marks come back and
their blanks come back as plus signs (`parse_built`). The settings survive exactly if neither of the
two has a blank and the host is named (`matches_iff`), in the address for asynchronous use as in the
plain one (`databaseUrl_reads_back`).
-/

set_option autoImplicit false
set_option relaxedAutoImplicit false

namespace StreamAudit.Settings

open StreamAudit.Address StreamAudit.Number StreamAudit.Text

/-! ### Names -/

/-- The characters of the names of hosts and databases: letters and digits of every script, the low
line, the period and the hyphen. -/
def isNameChar (c : Char) : Bool :=
  isWordCharacter c || c == '.' || c == '-'

/-- The marks that names must not have. -/
abbrev nameless : List Char :=
  ['/', ':', '?', '[', '%']

theorem isNameChar_of_nameless {c : Char} (h : c ∈ nameless) : isNameChar c = false := by
  have hword : ∀ mark ∈ nameless, isWordCharacter mark = false := by
    simp only [List.forall_mem_cons]
    refine ⟨?_, ?_, ?_, ?_, ?_, nofun⟩ <;> exact isWordCharacter_eq_false (by decide +kernel)
  have hplain : ∀ mark ∈ nameless, (mark == '.' || mark == '-') = false := by simp
  rw [isNameChar, hword c h, Bool.false_or, hplain c h]

/-- Periods, hyphens and small letters make a name. -/
theorem isNameChar_of_all {name : List Char}
    (h : (name.all fun c ↦ decide (c = '.' ∨ c = '-' ∨ 0x61 ≤ c.toNat ∧ c.toNat ≤ 0x7a)) = true) :
    ∀ c ∈ name, isNameChar c = true := by
  intro c hc
  simp only [isNameChar, Bool.or_eq_true, beq_iff_eq]
  rcases of_decide_eq_true (List.all_eq_true.mp h c hc) with hperiod | hhyphen | ⟨hlow, hhigh⟩
  · exact .inl (.inr hperiod)
  · exact .inr hhyphen
  · exact .inl (.inl (isWordCharacter_of_small hlow hhigh))

section Names

variable {name : List Char} (h : ∀ c ∈ name, isNameChar c = true)

include h

theorem not_mem_name {c : Char} (hc : c ∈ nameless) : c ∉ name := by
  intro hmem
  have hname := h c hmem
  rw [isNameChar_of_nameless hc] at hname
  cases hname

theorem endsHost_name : ∀ c ∈ name, endsHost c = false := by
  intro c hc
  simp only [Bool.or_eq_false_iff, beq_eq_false_iff_ne]
  refine ⟨⟨?_, ?_⟩, ?_⟩ <;> rintro rfl <;> exact not_mem_name h (by decide) hc

theorem not_closesBracket_name : ¬ ClosesBracket name := by
  rintro ⟨inner, more, -, -, rfl⟩
  exact not_mem_name h (by decide) List.mem_cons_self

end Names

/-! ### The built address -/

/-- What follows the dialect of a built address. -/
def builtParts (database : DatabaseSettings) : List Char :=
  Percent.encodeForm database.username.toList ++ ':' ::
    (Percent.encodeForm database.password.toList ++ '@' ::
    (database.host.toList ++
      (':' :: (toString database.port).toList ++ '/' :: database.database.toList)))

/-- What is read from an address that was built. -/
def readBack (dialect : String) (database : DatabaseSettings) : Address where
  dialect := dialect.toList
  username := some (database.username.toList.map Percent.plusForBlank)
  password := some (database.password.toList.map Percent.plusForBlank)
  host := if database.host = "" then none else some database.host.toList
  port := some database.port
  database := some database.database.toList
  query := []

/-- The names in an address are made of the characters of names, and its port is not too long to be
written. -/
structure HasNames (database : DatabaseSettings) : Prop where
  host : ∀ c ∈ database.host.toList, isNameChar c = true
  port : isTooLong database.port = false
  database : ∀ c ∈ database.database.toList, isNameChar c = true

theorem hostOf_named {database : DatabaseSettings} (h : HasNames database) {rest : List Char}
    (hrest : GoesOn endsPort rest) :
    hostOf (database.host.toList ++ (':' :: (toString database.port).toList ++ rest)) =
      (if database.host = "" then none else some database.host.toList,
        ':' :: (toString database.port).toList ++ rest) := by
  have hcolon :=
    goesOn_cons endsHost (by decide : endsHost ':' = true) ((toString database.port).toList ++ rest)
  split
  · rename_i hempty
    rw [hempty]
    exact hostOf_none hcolon
  · rename_i hnamed
    have hne : database.host.toList ≠ [] := fun hnil ↦ hnamed (String.toList_eq_nil_iff.mp hnil)
    have hclosed : ']' ∉ ':' :: (toString database.port).toList := by
      simpa using not_mem_digits (by decide) database.port
    exact hostOf_plain hne (endsHost_name h.host) (not_closesBracket_name h.host)
      (endsPort_digits database.port) hclosed hcolon hrest

/-- A built address is read with plus signs for the blanks of user and password. -/
theorem parse_built {database : DatabaseSettings} (h : HasNames database) {dialect : String}
    (hdialect : ∀ c ∈ dialect.toList, isDialectChar c = true) (hne : dialect.toList ≠ []) :
    parse (dialect.toList ++ ':' :: '/' :: '/' :: builtParts database) =
      .ok (readBack dialect database) := by
  have huser : ∀ c ∈ Percent.encodeForm database.username.toList, endsUser c = false := by
    intro c hc
    simp only [Bool.or_eq_false_iff, beq_eq_false_iff_ne]
    constructor <;> rintro rfl <;>
      exact Percent.not_mem_encodeForm (by decide) (by decide)
        (by decide) database.username.toList hc
  have hpassword :=
    Percent.not_mem_encodeForm (by decide : Percent.isUnreserved '@' = false) (by decide)
    (by decide) database.password.toList
  have hslash := goesOn_cons endsPort (by decide : endsPort '/' = true) database.database.toList
  have hport :
      portText (':' :: (toString database.port).toList ++ '/' :: database.database.toList) =
      ((some database.port).map fun n ↦ (toString n).toList, '/' :: database.database.toList) :=
    portText_append (List.forall_mem_cons.mp (endsPort_digits database.port)).2 hslash
  have hdatabase := databaseText_append (not_mem_name h.database (by decide : '?' ∈ nameless))
    (goesOn_nil (· == '?'))
  rw [List.append_nil] at hdatabase
  have hlimit : ∀ n ∈ some database.port, isTooLong n = false := by
    intro n hn
    rw [← Option.mem_some.mp hn]
    exact h.port
  have hparse :=
    parse_of_parts hdialect hne (credentials_pair huser hpassword) (hostOf_named h hslash) hport
    hlimit hdatabase
  simp only [Option.map_some, Percent.decode_encodeForm,
    Percent.decode_eq_self (not_mem_name h.database (by decide : '%' ∈ nameless))] at hparse
  exact hparse

/-! ### The two addresses -/

section Settings

variable {settings : Settings}

/-- Whether the address of the database is built from its parts. -/
def IsBuilt (settings : Settings) : Prop :=
  (settings.database.url = none ∨ settings.database.url = some "") ∧
    ¬ (settings.isDevelopment = true ∧ settings.database.password.isEmpty = true)

theorem databaseUrl_eq (h : settings.IsBuilt) :
    settings.databaseUrl = "mysql://" ++ String.ofList (builtParts settings.database) := by
  have hparts : builtUrl settings.database =
      "mysql://" ++ String.ofList (builtParts settings.database) := by
    apply String.toList_injective
    unfold builtUrl formCoded builtParts
    generalize toString settings.database.port = digits
    simp
  have hlocal : (settings.isDevelopment && settings.database.password.isEmpty) = false := by
    simpa using h.2
  unfold databaseUrl
  rcases h.1 with hnone | hempty
  · rw [hnone]
    simp [hlocal, hparts]
  · rw [hempty]
    simp [hlocal, hparts]

theorem asyncUrlOf_mysql (parts : String) :
    asyncUrlOf ("mysql://" ++ parts) = "mysql+aiomysql://" ++ parts := by
  have hfront : "mysql://".toList.isPrefixOf ("mysql://" ++ parts).toList = true := by
    rw [String.toList_append, List.isPrefixOf_iff_prefix]
    exact List.prefix_append _ _
  have hrest : ("mysql://" ++ parts).toList.drop "mysql://".length = parts.toList := by
    rw [String.toList_append, ← String.length_toList, List.drop_left]
  have hfound :
      (asyncDialects.find? fun pair ↦ pair.1.toList.isPrefixOf ("mysql://" ++ parts).toList) =
      some ("mysql://", "mysql+aiomysql://") := List.find?_cons_of_pos hfront
  rw [asyncUrlOf, hfound]
  simp only [hrest, String.ofList_toList]

theorem parse_databaseUrl (hbuilt : settings.IsBuilt) (hnames : HasNames settings.database) :
    parse settings.databaseUrl.toList = .ok (readBack "mysql" settings.database) := by
  have hdialect := isDialectChar_of_all (by decide +kernel :
    ("mysql".toList.all fun c ↦ decide (c = '+' ∨ 0x61 ≤ c.toNat ∧ c.toNat ≤ 0x7a)) = true)
  have hparse := parse_built hnames hdialect (by decide +kernel)
  simpa [databaseUrl_eq hbuilt] using hparse

theorem parse_asyncDatabaseUrl (hbuilt : settings.IsBuilt) (hnames : HasNames settings.database) :
    parse settings.asyncDatabaseUrl.toList = .ok (readBack "mysql+aiomysql" settings.database) := by
  have hdialect := isDialectChar_of_all (by decide +kernel :
    ("mysql+aiomysql".toList.all fun c ↦ decide (c = '+' ∨ 0x61 ≤ c.toNat ∧ c.toNat ≤ 0x7a)) = true)
  have hparse := parse_built hnames hdialect (by decide +kernel)
  simpa [asyncDatabaseUrl, databaseUrl_eq hbuilt, asyncUrlOf_mysql] using hparse

end Settings

/-! ### What comes back -/

/-- Whether an address has the parts of some settings. -/
structure Matches (address : Address) (database : DatabaseSettings) : Prop where
  username : address.username = some database.username.toList
  password : address.password = some database.password.toList
  host : address.host = some database.host.toList
  port : address.port = some database.port
  database : address.database = some database.database.toList

/-- The settings that come back: no blank in user and password, and a host. -/
def ComesBack (database : DatabaseSettings) : Prop :=
  ' ' ∉ database.username.toList ∧ ' ' ∉ database.password.toList ∧ database.host ≠ ""

theorem matches_readBack_iff (dialect : String) (database : DatabaseSettings) :
    Matches (readBack dialect database) database ↔ ComesBack database := by
  have hhost : (readBack dialect database).host = some database.host.toList ↔
      database.host ≠ "" := by
    rw [readBack]
    split <;> simp_all
  constructor
  · intro h
    exact ⟨Percent.map_plusForBlank_eq_self_iff.mp (Option.some.inj h.username),
      Percent.map_plusForBlank_eq_self_iff.mp (Option.some.inj h.password), hhost.mp h.host⟩
  · rintro ⟨huser, hpassword, hnamed⟩
    exact ⟨congrArg some (Percent.map_plusForBlank_eq_self_iff.mpr huser),
      congrArg some (Percent.map_plusForBlank_eq_self_iff.mpr hpassword), hhost.mpr hnamed,
      rfl, rfl⟩

/-- Both addresses that are built can be read, and both come back with the parts of the settings
exactly if user and password have no blank and the host is named. A blank comes back as a plus
sign. -/
theorem databaseUrl_reads_back {settings : Settings} (hbuilt : settings.IsBuilt)
    (hnames : HasNames settings.database) : ∃ plain driven : Address,
      parse settings.databaseUrl.toList = .ok plain ∧
      parse settings.asyncDatabaseUrl.toList = .ok driven ∧
      plain.dialect = "mysql".toList ∧ driven = { plain with dialect := "mysql+aiomysql".toList } ∧
      plain.username = some (settings.database.username.toList.map Percent.plusForBlank) ∧
      plain.password = some (settings.database.password.toList.map Percent.plusForBlank) ∧
      (Matches plain settings.database ↔ ComesBack settings.database) ∧
      (Matches driven settings.database ↔ ComesBack settings.database) :=
  ⟨_, _, parse_databaseUrl hbuilt hnames, parse_asyncDatabaseUrl hbuilt hnames, rfl, rfl, rfl, rfl,
    matches_readBack_iff _ _, matches_readBack_iff _ _⟩

namespace Sample

/-- A production database on `db.local` with some credentials. -/
def withCredentials (username password : String) : Settings where
  environment := .production
  database := { host := "db.local", database := "audit-log", username, password }

theorem isBuilt (username password : String) : (withCredentials username password).IsBuilt :=
  ⟨.inl rfl, fun h ↦ Bool.false_ne_true h.1⟩

theorem hasNames (username password : String) :
    HasNames (withCredentials username password).database where
  host := show ∀ c ∈ "db.local".toList, isNameChar c = true from
    isNameChar_of_all (by decide +kernel)
  port := show isTooLong 3306 = false by decide +kernel
  database := show ∀ c ∈ "audit-log".toList, isNameChar c = true from
    isNameChar_of_all (by decide +kernel)

/-- Marks of every kind come back. -/
theorem marks_read_back : (withCredentials "r+w" "p@ss:/%2B?ü").IsBuilt ∧
    HasNames (withCredentials "r+w" "p@ss:/%2B?ü").database ∧ ∃ plain driven : Address,
      parse (withCredentials "r+w" "p@ss:/%2B?ü").databaseUrl.toList = .ok plain ∧
      parse (withCredentials "r+w" "p@ss:/%2B?ü").asyncDatabaseUrl.toList = .ok driven ∧
      Matches plain (withCredentials "r+w" "p@ss:/%2B?ü").database ∧
      Matches driven (withCredentials "r+w" "p@ss:/%2B?ü").database := by
  have hbuilt := isBuilt "r+w" "p@ss:/%2B?ü"
  have hnames := hasNames "r+w" "p@ss:/%2B?ü"
  have hback : ComesBack (withCredentials "r+w" "p@ss:/%2B?ü").database := by
    refine ⟨?_, ?_, ?_⟩ <;> decide +kernel
  obtain ⟨plain, driven, hplain, hdriven, -, -, -, -, hmatches, hdrivenMatches⟩ :=
    databaseUrl_reads_back hbuilt hnames
  exact ⟨hbuilt, hnames, plain, driven, hplain, hdriven, hmatches.mpr hback,
    hdrivenMatches.mpr hback⟩

/-- A blank in a password comes back as a plus sign. -/
theorem blank_reads_as_plus : (withCredentials "r" "a b").IsBuilt ∧
    HasNames (withCredentials "r" "a b").database ∧ ∃ plain : Address,
      parse (withCredentials "r" "a b").databaseUrl.toList = .ok plain ∧
      plain.password = some "a+b".toList ∧
      ¬ Matches plain (withCredentials "r" "a b").database := by
  have hbuilt := isBuilt "r" "a b"
  have hnames := hasNames "r" "a b"
  refine ⟨hbuilt, hnames, _, parse_databaseUrl hbuilt hnames, by decide +kernel, ?_⟩
  rw [matches_readBack_iff]
  exact fun hback ↦ hback.2.1 (by decide +kernel)

end Sample

end StreamAudit.Settings
