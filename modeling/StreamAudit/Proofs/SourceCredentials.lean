import StreamAudit.Proofs.Address.Rewriting
import StreamAudit.Proofs.Registration

/-!
The credentials that the warehouse is contacted with once it was pointed at a source. The address
that is written depends on the source alone, so nothing of an earlier source is in it, and it stays
while later sources cannot be read (`url_pointedAtAll`). Read again it has the user and the parts
that the source asks for; a password is lost if the source brings one and no user is known, and the
parts are lost if the host looks bracketed (`credentials_of_source`).
-/

set_option autoImplicit false
set_option relaxedAutoImplicit false

namespace StreamAudit

open StreamAudit.Store StreamAudit.Text

namespace Store.Source

variable (source : Source) (given : Address)

/-- Whether the address of a source cannot be read. -/
def IsUnreadable : Prop :=
  ∃ cause, Address.parse source.url.toList = .error cause

/-- The user for a source: with authentication its own, or else the one in its address. -/
def userFor : Option (List Char) :=
  match source.enableAuth, source.username with
  | true, some user => some user.toList
  | _, _ => given.username

/-- The password for a source: with authentication its token, or else the password in its
address. -/
def passwordFor : Option (List Char) :=
  match source.enableAuth, source.token with
  | true, some token => some token.toList
  | _, _ => given.password

/-- Whether a source brings a token although no user is known. -/
def LacksUser : Prop :=
  source.enableAuth = true ∧ source.token.isSome ∧ source.username = none ∧ given.username = none

/-- The address in use for a source. -/
def usedAddress : Address :=
  { given with username := source.userFor given, password := source.passwordFor given }

theorem usedAddress_eq : source.usedAddress given =
    if source.enableAuth then
      given.withCredentials (source.username.map String.toList) (source.token.map String.toList)
    else given := by
  unfold usedAddress userFor passwordFor Address.withCredentials
  cases source.enableAuth <;> cases source.username <;> cases source.token <;> rfl

theorem regular_usedAddress {given : Address} (h : given.Regular) :
    (source.usedAddress given).Regular := by
  rw [usedAddress_eq]
  split
  · exact Address.regular_withCredentials h _ _
  · exact h

/-- A password goes without a user only if the source brings it. -/
theorem lacksUser_iff {given : Address} (h : given.password.isSome → given.username.isSome) :
    source.LacksUser given ↔ source.userFor given = none ∧ (source.passwordFor given).isSome := by
  have hgiven : ¬ (given.username = none ∧ given.password.isSome) := by
    rintro ⟨hnone, hsome⟩
    exact absurd (h hsome) (by simp [hnone])
  unfold LacksUser userFor passwordFor
  cases source.enableAuth with
  | false => simpa using hgiven
  | true =>
    cases source.username with
    | some user => simp
    | none =>
      cases source.token with
      | some token => simp
      | none => simpa using hgiven

/-- What is written of a password is the password, unless it has no user. -/
theorem writtenPassword_usedAddress {given : Address}
    (h : given.password.isSome → given.username.isSome) :
    (source.usedAddress given).writtenPassword = source.passwordFor given ↔
      ¬ source.LacksUser given := by
  rw [source.lacksUser_iff h, Address.writtenPassword, usedAddress]
  cases source.userFor given <;> cases source.passwordFor given <;> simp

end Store.Source

namespace Service

/-- The service after the warehouse was pointed at some sources, one after another. -/
def pointedAtAll (service : Service) (sources : List Source) : Service :=
  sources.foldl (fun service source ↦ ((pointWarehouse source).run service).2) service

theorem url_pointedAt (service : Service) (source : Source) (given : Address) :
    (service.pointedAt source given).warehouse.url =
      some (String.ofList (source.usedAddress given).render) := by
  rw [source.usedAddress_eq]
  rfl

/-- Sources that cannot be read change nothing. -/
theorem pointedAtAll_of_unreadable {sources : List Source}
    (h : ∀ source ∈ sources, source.IsUnreadable) (service : Service) :
    service.pointedAtAll sources = service := by
  induction sources with
  | nil => rfl
  | cons source rest ih =>
    obtain ⟨cause, hcause⟩ := h source List.mem_cons_self
    rw [pointedAtAll, List.foldl_cons, pointWarehouse_of_unreadable source hcause]
    exact ih fun other hother ↦ h other (List.mem_cons_of_mem source hother)

/-- The address in use is that of the last source that could be read, whatever came before. -/
theorem url_pointedAtAll {source : Source} {given : Address}
    (hread : Address.parse source.url.toList = .ok given) {later : List Source}
    (h : ∀ other ∈ later, other.IsUnreadable) (earlier : List Source) (service : Service) :
    (service.pointedAtAll (earlier ++ source :: later)).warehouse.url =
      some (String.ofList (source.usedAddress given).render) := by
  have hsplit : service.pointedAtAll (earlier ++ source :: later) =
      (((pointWarehouse source).run (service.pointedAtAll earlier)).2).pointedAtAll later := by
    simp only [pointedAtAll, List.foldl_append, List.foldl_cons]
  rw [hsplit, pointedAtAll_of_unreadable h, pointWarehouse_of_readable source hread, url_pointedAt]

end Service

open Service in
/-- A source that cannot be read changes nothing. Any other one leaves an address that depends on
the source alone, stays until the next source that can be read, and is read again with the user of
the source. Its password is lost exactly if no user is known, and its host, port and database are
exactly if the host looks bracketed. -/
theorem credentials_of_source (source : Source) :
    (∀ cause, Address.parse source.url.toList = .error cause →
      ∀ service, (pointWarehouse source).run service = (.error (.address cause), service)) ∧
    ∀ given, Address.parse source.url.toList = .ok given → ∃ url read,
      (∀ service, ((pointWarehouse source).run service).1 = .ok () ∧
        ((pointWarehouse source).run service).2.warehouse.url = some url) ∧
      (∀ (service : Service) (earlier later : List Source), (∀ other ∈ later, other.IsUnreadable) →
        (service.pointedAtAll (earlier ++ source :: later)).warehouse.url = some url) ∧
      Address.parse url.toList = .ok read ∧ read.dialect = given.dialect ∧
      read.username = source.userFor given ∧
      (read.password = source.passwordFor given ↔ ¬ source.LacksUser given) ∧
      ((read.host = given.host ∧ read.port = given.port ∧ read.database = given.database) ↔
        ∀ host ∈ given.host, ¬ Address.LooksBracketed host) := by
  refine ⟨fun cause hcause ↦ pointWarehouse_of_unreadable source hcause, fun given hread ↦ ?_⟩
  obtain ⟨hregular, hpassword⟩ := Address.regular_of_parse hread
  obtain ⟨read, hparse, hdialect, huser, hwritten, hparts⟩ :=
    Address.exists_parse_render (source.regular_usedAddress hregular)
  refine ⟨String.ofList (source.usedAddress given).render, read, fun service ↦ ?_,
    fun service earlier later hlater ↦ url_pointedAtAll hread hlater earlier service, ?_, hdialect,
    huser, ?_, hparts⟩
  · rw [pointWarehouse_of_readable source hread service]
    exact ⟨rfl, url_pointedAt service source given⟩
  · rwa [String.toList_ofList]
  · rw [hwritten, source.writtenPassword_usedAddress hpassword]

namespace Asynch

/-- A source with a token, and maybe a user. -/
def source (username : Option String) (token : String) : Source where
  name := "warehouse"
  type := "CLICKHOUSE"
  url := "clickhouse+asynch://ck:9000/audit"
  enableAuth := true
  username
  token := some token

/-- The address of the source without credentials. -/
def given : Address where
  dialect := "clickhouse+asynch".toList
  username := none
  password := none
  host := some "ck".toList
  port := some 9000
  database := some "audit".toList
  query := []

theorem parse_url (username : Option String) (token : String) :
    Address.parse (source username token).url.toList = .ok given := by
  have htext : "clickhouse+asynch://ck:9000/audit".toList =
      "clickhouse+asynch".toList ++ ':' :: '/' :: '/' :: "ck:9000/audit".toList := by decide +kernel
  have hdialect := Address.isDialectChar_of_all (by decide +kernel :
    ("clickhouse+asynch".toList.all fun c ↦ decide (c = '+' ∨ 0x61 ≤ c.toNat ∧ c.toNat ≤ 0x7a)) =
      true)
  have hcredentials : Address.credentials "ck:9000/audit".toList =
      (none, none, "ck:9000/audit".toList) := by
    decide +kernel
  have hhost : Address.hostOf "ck:9000/audit".toList =
      (some "ck".toList, ":9000/audit".toList) := by
    decide +kernel
  have hport : Address.portText ":9000/audit".toList =
      ((some 9000 : Option Int).map fun n ↦ (toString n).toList, "/audit".toList) := by
    decide +kernel
  have hlimit : ∀ n ∈ (some 9000 : Option Int), Number.isTooLong n = false := by decide +kernel
  have hdatabase : Address.databaseText "/audit".toList = (some "audit".toList, []) := by
    decide +kernel
  have hparse :=
    Address.parse_of_parts hdialect (by decide +kernel) hcredentials hhost hport hlimit hdatabase
  rw [← htext] at hparse
  exact hparse.trans (congrArg Except.ok (by decide +kernel))

open Service

/-- A source whose address cannot be read. -/
def unreadable : Source where
  name := "warehouse"
  type := "CLICKHOUSE"
  url := "ck"

/-- Blanks, slashes and marks reach the warehouse between a source with other credentials and one
that cannot be read, which changes nothing. -/
theorem marks_applied :
    (∀ service, (pointWarehouse unreadable).run service =
      (.error (.address .unreadable), service)) ∧
    ∃ url read,
      (∀ service : Service, (service.pointedAtAll
        ([source (some "old") "secret"] ++ source (some "r:w") "p@ s/%2B" ::
          [unreadable])).warehouse.url = some url) ∧
      Address.parse url.toList = .ok read ∧ read.dialect = given.dialect ∧
      read.username = some "r:w".toList ∧ read.password = some "p@ s/%2B".toList ∧
      read.host = given.host ∧ read.port = given.port ∧ read.database = given.database := by
  have hcause : Address.parse unreadable.url.toList = .error .unreadable :=
    Address.parse_of_no_colon (by decide)
  have hlater : ∀ other ∈ [unreadable], other.IsUnreadable := by
    intro other hother
    obtain rfl := List.mem_singleton.mp hother
    exact ⟨_, hcause⟩
  obtain ⟨url, read, -, hrun, hparse, hdialect, huser, hpassword, hparts⟩ :=
    (credentials_of_source (source (some "r:w") "p@ s/%2B")).2 given (parse_url _ _)
  have hfirst : "ck".toList.head? = some 'c' := by decide
  have hplain : ∀ host ∈ given.host, ¬ Address.LooksBracketed host := by
    rintro host ⟨⟩ ⟨-, inner, more, -, -, heq⟩
    exact absurd (hfirst.symm.trans (congrArg List.head? heq)) (by simp)
  exact ⟨(credentials_of_source unreadable).1 _ hcause, url, read, fun service ↦
    hrun service _ _ hlater, hparse,
    hdialect, huser, hpassword.mpr fun hlacks ↦ absurd hlacks.2.2.1 (by decide), hparts.mpr hplain⟩

/-- A token without a user is not written, so the warehouse is contacted without it. -/
theorem token_lost : ∃ url read,
    (∀ service : Service, ((pointWarehouse (source none "t")).run service).1 = .ok () ∧
      ((pointWarehouse (source none "t")).run service).2.warehouse.url = some url) ∧
    Address.parse url.toList = .ok read ∧ read.password ≠ (source none "t").passwordFor given := by
  have hurl : String.ofList ((source none "t").usedAddress given).render =
      (source none "t").url := by
    decide +kernel
  refine ⟨(source none "t").url, given, fun service ↦ ?_, parse_url none "t", by decide⟩
  rw [pointWarehouse_of_readable (source none "t") (parse_url none "t") service]
  exact ⟨rfl, by rw [url_pointedAt, hurl]⟩

end Asynch

end StreamAudit
