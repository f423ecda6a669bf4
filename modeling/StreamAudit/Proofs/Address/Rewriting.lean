import StreamAudit.Proofs.Address.Parts
import StreamAudit.Proofs.Text.Percent

/-!
Addresses written and read again. What was read as an address is regular (`regular_of_parse`), and
it stays so with other credentials. A regular address is read again with its dialect and its user;
its password is read again if there is a user, and host, port and database are unless the host looks
bracketed (`exists_parse_render`): such a host is written without brackets of its own, and what it
holds between brackets is read as the host.
-/

set_option autoImplicit false
set_option relaxedAutoImplicit false

namespace StreamAudit.Address

open StreamAudit.Number StreamAudit.Text

/-! ### Regular addresses -/

/-- What holds of every address that was read. -/
structure Regular (address : Address) : Prop where
  dialect_ne : address.dialect ≠ []
  isDialectChar : ∀ c ∈ address.dialect, isDialectChar c = true
  host_ne : ∀ host ∈ address.host, host ≠ []
  endsPort_host : ∀ host ∈ address.host, ∀ c ∈ host, endsPort c = false
  /-- Only behind user and password can a host hold a mark of credentials. -/
  host_mark : ∀ host ∈ address.host, '@' ∈ host → address.username.isSome ∧ address.password.isSome
  port_written : ∀ port ∈ address.port, isTooLong port = false

/-- The user and the password that an address is written with: a password goes with a user only. -/
def writtenPassword (address : Address) : Option (List Char) :=
  if address.username.isSome then address.password else none

theorem regular_withCredentials {address : Address} (h : address.Regular)
    (username password : Option (List Char)) :
    (address.withCredentials username password).Regular := by
  refine { h with host_mark := fun host hhost hmark ↦ ?_ }
  obtain ⟨huser, hpassword⟩ := h.host_mark host hhost hmark
  simp [withCredentials, Option.isSome_or, huser, hpassword]

/-- A longer front goes up to a rarer mark. -/
theorem mem_takeWhile_of_imp {goes further : Char → Bool}
    (himp : ∀ c, goes c = true → further c = true) {s : List Char} {c : Char}
    (h : c ∈ s.takeWhile goes) : c ∈ s.takeWhile further := by
  induction s with
  | nil => exact h
  | cons first rest ih =>
    by_cases hfirst : goes first = true
    · rw [List.takeWhile_cons_of_pos hfirst, List.mem_cons] at h
      rw [List.takeWhile_cons_of_pos (himp first hfirst), List.mem_cons]
      exact h.imp_right ih
    · rw [List.takeWhile_cons_of_neg hfirst] at h
      cases h

/-- What was read as an address, by its parts as they stood in the text. -/
theorem of_parse {s : List Char} {address : Address} (h : parse s = .ok address) :
    ∃ afterDialect user password afterUser afterHost,
      (address.dialect ≠ [] ∧ ∀ c ∈ address.dialect, isDialectChar c = true) ∧
      credentials afterDialect = (user, password, afterUser) ∧
      hostOf afterUser = (address.host, afterHost) ∧
      address.username = user.map Percent.decode ∧ address.password = password.map Percent.decode ∧
      ∀ port ∈ address.port, isTooLong port = false := by
  unfold parse at h
  rcases hdialect : frontUntil (fun c ↦ !isDialectChar c) s with ⟨dialect, rest⟩
  simp only [hdialect] at h
  split at h
  · rename_i first more afterDialect
    rcases hcredentials : credentials afterDialect with ⟨user, password, afterUser⟩
    rcases hhost : hostOf afterUser with ⟨host, afterHost⟩
    rcases hport : portText afterHost with ⟨port, afterPort⟩
    simp only [hcredentials, hhost, hport] at h
    have hchars : ∀ c ∈ first :: more, isDialectChar c = true := by
      intro c hc
      simpa using (of_frontUntil hdialect).2.1 c hc
    refine ⟨afterDialect, user, password, afterUser, afterHost, ?_⟩
    split at h
    · cases h
      exact ⟨⟨List.cons_ne_nil first more, hchars⟩, hcredentials, hhost, rfl, rfl, nofun⟩
    · split at h
      · rename_i n hn
        cases h
        refine ⟨⟨List.cons_ne_nil first more, hchars⟩, hcredentials, hhost, rfl, rfl, ?_⟩
        rintro port ⟨⟩
        exact isTooLong_of_readInteger? hn
      · cases h
  · cases h

/-- What was read as an address is regular, and has a password only if it has a user. -/
theorem regular_of_parse {s : List Char} {address : Address} (h : parse s = .ok address) :
    address.Regular ∧ (address.password.isSome → address.username.isSome) := by
  obtain ⟨afterDialect, user, password, afterUser, afterHost, ⟨hne, hchars⟩, hcredentials, hhost,
      huser, hpassword,
    hport⟩ := of_parse h
  have hmarks := of_credentials hcredentials
  rw [huser, hpassword]
  simp only [Option.isSome_map]
  have hread : ∀ host ∈ address.host,
      host ≠ [] ∧ ∀ c ∈ host, c ∈ afterUser.takeWhile fun c ↦ !endsPort c := by
    intro host hsome
    rw [Option.mem_def.mp hsome] at hhost
    exact of_hostOf hhost
  constructor
  · refine ⟨hne, hchars, fun host hsome ↦ (hread host hsome).1, fun host hsome c hc ↦ ?_,
      fun host hsome hmark ↦ ?_, hport⟩
    · simpa using List.mem_takeWhile_imp ((hread host hsome).2 c hc)
    · rw [huser, hpassword, Option.isSome_map, Option.isSome_map]
      refine hmarks.resolve_right fun hnone ↦ hnone.2 ?_
      refine mem_takeWhile_of_imp (fun c hc ↦ ?_) ((hread host hsome).2 '@' hmark)
      rw [bne_iff_ne]
      rintro rfl
      exact absurd hc (by decide)
  · intro hsome
    refine (hmarks.resolve_right fun hnone ↦ ?_).1
    rw [hnone.1] at hsome
    cases hsome

/-! ### What is written -/

/-- The host as it is written. -/
def hostPart (address : Address) : List Char :=
  (address.host.map hostText).getD []

/-- The port behind its colon. -/
def portPart (address : Address) : List Char :=
  (address.port.map fun port ↦ ':' :: (toString port).toList).getD []

/-- The database behind its slash, and the query. -/
def endPart (address : Address) : List Char :=
  (address.database.map fun name ↦ '/' :: Percent.encode keptInDatabase name).getD [] ++
    queryText address.query

theorem render_eq (address : Address) : address.render =
    address.dialect ++ ':' :: '/' :: '/' ::
      (address.credentialText ++ (address.hostPart ++ (address.portPart ++ address.endPart))) := by
  simp [render, hostPart, portPart, endPart]

theorem not_mem_queryText (query : List (List Char × List Char)) : '@' ∉ queryText query := by
  have hcoded :=
    Percent.not_mem_encodeForm (by decide : Percent.isUnreserved '@' = false) (by decide)
      (by decide)
  unfold queryText
  split
  · exact List.not_mem_nil
  · rw [List.mem_cons, not_or]
    refine ⟨by decide, fun hmem ↦ ?_⟩
    rcases mem_join hmem with hmark | ⟨part, hpart, hc⟩
    · exact absurd hmark (by decide)
    · obtain ⟨member, -, rfl⟩ := List.mem_map.mp hpart
      rcases List.mem_append.mp hc with hkey | hvalue
      · exact hcoded _ hkey
      · rcases List.mem_cons.mp hvalue with hmark | hvalue
        · exact absurd hmark (by decide)
        · exact hcoded _ hvalue

section Parts

variable (address : Address)

theorem mem_hostPart {c : Char} (h : c ∈ address.hostPart) :
    ∃ host ∈ address.host, (c = '[' ∨ c = ']') ∨ c ∈ host := by
  unfold hostPart at h
  cases hhost : address.host with
  | none =>
    rw [hhost] at h
    cases h
  | some host =>
    rw [hhost, Option.map_some, Option.getD_some, hostText] at h
    refine ⟨host, rfl, ?_⟩
    split at h
    · simp only [List.cons_append, List.mem_cons, List.mem_append, List.not_mem_nil, or_false] at h
      rcases h with hopen | hmem | hclose
      · exact .inl (.inl hopen)
      · exact .inr hmem
      · exact .inl (.inr hclose)
    · exact .inr h

theorem not_mem_portPart {c : Char} (h : c ∈ ['/', '?', '@', ']']) : c ∉ address.portPart := by
  unfold portPart
  cases address.port with
  | none => exact List.not_mem_nil
  | some port =>
    intro hmem
    rcases List.mem_cons.mp hmem with rfl | hmem
    · exact absurd h (by decide)
    · exact not_mem_digits h port hmem

theorem endsPort_portPart : ∀ c ∈ address.portPart, endsPort c = false := by
  unfold portPart
  cases address.port with
  | none => exact nofun
  | some port => exact endsPort_digits port

theorem not_mem_endPart : '@' ∉ address.endPart := by
  unfold endPart
  rw [List.mem_append, not_or]
  refine ⟨?_, not_mem_queryText address.query⟩
  cases address.database with
  | none => exact List.not_mem_nil
  | some name =>
    rw [Option.map_some, Option.getD_some, List.mem_cons, not_or]
    exact ⟨by decide, Percent.not_mem_encode (by decide) (by decide) (by decide) name⟩

theorem goesOn_queryText (query : List (List Char × List Char)) :
    GoesOn (· == '?') (queryText query) := by
  unfold queryText
  split
  · exact goesOn_nil _
  · exact goesOn_cons _ (by decide) _

theorem goesOn_endPart : GoesOn endsPort address.endPart := by
  unfold endPart
  cases address.database with
  | none =>
    intro c hc
    have hmark : (c == '?') = true := goesOn_queryText address.query c hc
    rw [endsPort, hmark, Bool.or_true]
  | some name => exact goesOn_cons endsPort (by decide) _

theorem goesOn_portPart : GoesOn endsHost (address.portPart ++ address.endPart) := by
  unfold portPart
  cases address.port with
  | none => exact address.goesOn_endPart.endsHost
  | some port => exact goesOn_cons endsHost (by decide) _

/-! ### What is read -/

theorem credentials_credentialText {rest : List Char}
    (h : '@' ∈ rest → address.username.isSome ∧ address.password.isSome) :
    credentials (address.credentialText ++ rest) =
      (address.username.map (Percent.encode keptInCredentials),
      address.writtenPassword.map (Percent.encode keptInCredentials), rest) := by
  have hmark := Percent.not_mem_encode (by decide : Percent.isUnreserved '@' = false)
    (by decide : keptInCredentials '@' = false) (by decide)
  have huser : ∀ user, ∀ c ∈ Percent.encode keptInCredentials user, endsUser c = false := by
    intro user c hc
    simp only [Bool.or_eq_false_iff, beq_eq_false_iff_ne]
    constructor
    · rintro rfl
      exact Percent.not_mem_encode (by decide) (by decide) (by decide) user hc
    · rintro rfl
      exact Percent.not_mem_encode (by decide) (by decide) (by decide) user hc
  unfold credentialText writtenPassword
  cases husername : address.username with
  | none =>
    rw [husername] at h
    exact credentials_none fun hmem ↦ absurd (h hmem).1 (by decide)
  | some user =>
    cases hpassword : address.password with
    | none =>
      rw [hpassword] at h
      have hrest : '@' ∉ rest := fun hmem ↦ absurd (h hmem).2 (by decide)
      simpa using credentials_user (huser user) hrest
    | some password => simpa using @credentials_pair _ _ rest (huser user) (hmark password)

theorem portText_portPart : portText (address.portPart ++ address.endPart) =
    (address.port.map fun port ↦ (toString port).toList, address.endPart) := by
  unfold portPart
  cases address.port with
  | none =>
    refine portText_none fun hhead ↦ ?_
    exact absurd (address.goesOn_endPart ':' hhead) (by decide)
  | some port =>
    exact portText_append (List.forall_mem_cons.mp (endsPort_digits port)).2 address.goesOn_endPart

theorem databaseText_endPart : databaseText address.endPart =
    (address.database.map (Percent.encode keptInDatabase), queryText address.query) := by
  unfold endPart
  cases address.database with
  | none =>
    refine databaseText_none fun hhead ↦ ?_
    exact absurd (goesOn_queryText address.query '/' hhead) (by decide)
  | some name =>
    exact databaseText_append (Percent.not_mem_encode (by decide) (by decide) (by decide) name)
      (goesOn_queryText address.query)

end Parts

/-- Whether a host without colons begins with a bracket that closes later. -/
def LooksBracketed (host : List Char) : Prop :=
  ':' ∉ host ∧ ClosesBracket host

section Hosts

variable {address : Address} (h : address.Regular)

include h

theorem endsHost_of_not_mem {host : List Char} (hhost : host ∈ address.host) (hcolon : ':' ∉ host) :
    ∀ c ∈ host, endsHost c = false := by
  intro c hc
  have hplain := h.endsPort_host host hhost c hc
  simp only [Bool.or_eq_false_iff, beq_eq_false_iff_ne] at hplain ⊢
  exact ⟨⟨hplain.1, fun heq ↦ hcolon (heq ▸ hc)⟩, hplain.2⟩

theorem hostOf_hostPart (hplain : ∀ host ∈ address.host, ¬ LooksBracketed host) :
    hostOf (address.hostPart ++ (address.portPart ++ address.endPart)) =
      (address.host, address.portPart ++ address.endPart) := by
  have hafter := address.endsPort_portPart
  have hclosed : ']' ∉ address.portPart := address.not_mem_portPart (by decide)
  unfold hostPart
  cases hhost : address.host with
  | none => exact hostOf_none address.goesOn_portPart
  | some host =>
    have hne := h.host_ne host hhost
    simp only [Option.map_some, Option.getD_some, hostText, List.contains_iff_mem]
    split
    · have hread :=
        hostOf_brackets hne (h.endsPort_host host hhost) hafter hclosed address.goesOn_endPart
      simpa using hread
    · rename_i hcolon
      have hopen : ¬ ClosesBracket host := fun hclose ↦ hplain host hhost ⟨hcolon, hclose⟩
      exact hostOf_plain hne (endsHost_of_not_mem h hhost hcolon) hopen hafter hclosed
        address.goesOn_portPart address.goesOn_endPart

/-- A host that looks bracketed is read as what stands between its brackets. -/
theorem hostOf_looksBracketed {host : List Char} (hhost : host ∈ address.host)
    (hlooks : LooksBracketed host) :
    ∃ inner more, inner ≠ host ∧ (∀ c ∈ more, endsHost c = false) ∧
      hostOf (address.hostPart ++ (address.portPart ++ address.endPart)) =
        (some inner, more ++ (address.portPart ++ address.endPart)) := by
  obtain ⟨hcolon, inner, more, hinner, hmore, rfl⟩ := hlooks
  have hplain := h.endsPort_host _ hhost
  have hstays := endsHost_of_not_mem h hhost hcolon
  have hwritten : address.hostPart = '[' :: (inner ++ ']' :: more) := by
    rw [hostPart, Option.mem_def.mp hhost, Option.map_some, Option.getD_some, hostText, if_neg]
    rwa [List.contains_iff_mem]
  refine ⟨inner, more, fun heq ↦ ?_, fun c hc ↦ hstays c (by simp [hc]), ?_⟩
  · have hlength := congrArg List.length heq
    simp at hlength
    omega
  · have hafter : ∀ c ∈ more ++ address.portPart, endsPort c = false :=
      List.forall_mem_append.mpr ⟨fun c hc ↦ hplain c (by simp [hc]), address.endsPort_portPart⟩
    have hclosed : ']' ∉ more ++ address.portPart := by
      rw [List.mem_append, not_or]
      exact ⟨hmore, address.not_mem_portPart (by decide)⟩
    have hread :=
      hostOf_brackets hinner (fun c hc ↦ hplain c (by simp [hc])) hafter hclosed
        address.goesOn_endPart
    rw [hwritten]
    simpa using hread

/-- What is written is read by its parts, whatever is read as its host. -/
theorem parse_render {host afterHost afterPort database afterDatabase} {port : Option Int}
    (hhost : hostOf (address.hostPart ++ (address.portPart ++ address.endPart)) = (host, afterHost))
    (hport : portText afterHost = (port.map fun n ↦ (toString n).toList, afterPort))
    (hlimit : ∀ n ∈ port, isTooLong n = false)
    (hdatabase : databaseText afterPort = (database, afterDatabase)) :
    parse address.render = .ok
      { dialect := address.dialect
        username := address.username
        password := address.writtenPassword
        host, port
        database := database.map Percent.decode
        query := queryMembers afterDatabase } := by
  have hmark : '@' ∈ address.hostPart ++ (address.portPart ++ address.endPart) →
      address.username.isSome ∧ address.password.isSome := by
    intro hmem
    rcases List.mem_append.mp hmem with hmem | hmem
    · obtain ⟨host, hhost, hmem⟩ := address.mem_hostPart hmem
      exact h.host_mark host hhost (hmem.resolve_left (by decide))
    · rcases List.mem_append.mp hmem with hmem | hmem
      · exact absurd hmem (address.not_mem_portPart (by decide))
      · exact absurd hmem address.not_mem_endPart
  have hparse :=
    parse_of_parts h.isDialectChar h.dialect_ne (address.credentials_credentialText hmark) hhost
    hport hlimit hdatabase
  rw [Percent.map_decode_encode (by decide), Percent.map_decode_encode (by decide)] at hparse
  rw [render_eq, hparse]

end Hosts

/-- A regular address that is written is read again, with all its parts if its host does not look
bracketed; but a password goes with a user only. -/
theorem exists_parse_render {address : Address} (h : address.Regular) :
    ∃ read, parse address.render = .ok read ∧ read.dialect = address.dialect ∧
      read.username = address.username ∧ read.password = address.writtenPassword ∧
      ((read.host = address.host ∧ read.port = address.port ∧ read.database = address.database) ↔
        ∀ host ∈ address.host, ¬ LooksBracketed host) := by
  by_cases hplain : ∀ host ∈ address.host, ¬ LooksBracketed host
  · have hparse :=
      parse_render h (hostOf_hostPart h hplain) address.portText_portPart h.port_written
      address.databaseText_endPart
    exact ⟨_, hparse, rfl, rfl, rfl,
      iff_of_true ⟨rfl, rfl, Percent.map_decode_encode (by decide) _⟩ hplain⟩
  · obtain ⟨host, hhost, hlooks⟩ : ∃ host ∈ address.host, LooksBracketed host := by
      simpa using hplain
    obtain ⟨inner, more, hne, hmore, hread⟩ := hostOf_looksBracketed h hhost hlooks
    have hother : some inner ≠ address.host := by
      rw [Option.mem_def.mp hhost]
      exact fun heq ↦ hne (Option.some.inj heq)
    cases more with
    | nil =>
      have hparse :=
        parse_render h hread address.portText_portPart h.port_written address.databaseText_endPart
      exact ⟨_, hparse, rfl, rfl, rfl, iff_of_false (fun hsame ↦ hother hsame.1) hplain⟩
    -- behind the bracket neither a port nor a database is looked for
    | cons c more =>
      have hc := hmore c List.mem_cons_self
      simp only [Bool.or_eq_false_iff, beq_eq_false_iff_ne] at hc
      have hport : portText (c :: more ++ (address.portPart ++ address.endPart)) =
          ((none : Option Int).map fun n ↦ (toString n).toList, _) :=
        portText_none (by simpa using hc.1.2)
      have hdatabase : databaseText (c :: more ++ (address.portPart ++ address.endPart)) =
          (none, _) :=
        databaseText_none (by simpa using hc.1.1)
      have hparse := parse_render h hread hport nofun hdatabase
      exact ⟨_, hparse, rfl, rfl, rfl, iff_of_false (fun hsame ↦ hother hsame.1) hplain⟩

end StreamAudit.Address
