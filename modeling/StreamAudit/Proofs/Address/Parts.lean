import Mathlib.Data.List.TakeWhile
import StreamAudit.Address
import StreamAudit.Proofs.Number.IntegerText

/-!
The parts of an address, read one after another. Each part is read from the front of what is left,
up to the first mark that it cannot hold, so a part in front of such a mark is read whole and the
rest is left as it is. What was read as a host stood in front of the next slash and question mark
(`of_hostOf`), and no mark of credentials stands there unless user and password were read before it
(`of_credentials`).
-/

set_option autoImplicit false
set_option relaxedAutoImplicit false

namespace StreamAudit.Address

open StreamAudit.Number StreamAudit.Text

/-! ### Cuts -/

/-- Whether a text is at its end or goes on with a character of a class. -/
def GoesOn (marks : Char → Bool) (rest : List Char) : Prop :=
  ∀ c ∈ rest.head?, marks c = true

theorem goesOn_nil (marks : Char → Bool) : GoesOn marks [] := by
  simp [GoesOn]

theorem goesOn_cons (marks : Char → Bool) {c : Char} (h : marks c = true) (rest : List Char) :
    GoesOn marks (c :: rest) := by
  simpa [GoesOn] using h

/-- A text is cut where a character of the class comes first. -/
theorem frontUntil_append {stops : Char → Bool} {front rest : List Char}
    (hfront : ∀ c ∈ front, stops c = false) (hrest : GoesOn stops rest) :
    frontUntil stops (front ++ rest) = (front, rest) := by
  have hgo : ∀ c ∈ front, (!stops c) = true := by
    intro c hc
    rw [hfront c hc, Bool.not_false]
  rw [frontUntil, List.takeWhile_append_of_pos hgo, List.dropWhile_append_of_pos hgo]
  cases rest with
  | nil => simp
  | cons mark rest =>
    have hmark : stops mark = true := hrest mark rfl
    simp [hmark]

/-- The two parts of a cut text. -/
theorem of_frontUntil {stops : Char → Bool} {s front rest : List Char}
    (h : frontUntil stops s = (front, rest)) :
    s = front ++ rest ∧ (∀ c ∈ front, stops c = false) ∧ GoesOn stops rest := by
  obtain ⟨rfl, rfl⟩ := Prod.mk.inj h
  refine ⟨List.takeWhile_append_dropWhile.symm, fun c hc ↦ ?_, fun c hc ↦ ?_⟩
  · simpa using List.mem_takeWhile_imp hc
  · simpa using head?_dropWhile _ s c hc

theorem exists_cut (stops : Char → Bool) (s : List Char) :
    ∃ front rest, s = front ++ rest ∧ (∀ c ∈ front, stops c = false) ∧ GoesOn stops rest :=
  ⟨_, _, of_frontUntil rfl⟩

theorem splitAtLast?_append {mark : Char} {front after : List Char} (h : mark ∉ after) :
    splitAtLast? mark (front ++ mark :: after) = some (front, after) := by
  have hafter : ∀ c ∈ after.reverse, (c != mark) = true := by
    intro c hc
    rw [bne_iff_ne]
    rintro rfl
    exact h (List.mem_reverse.mp hc)
  have hcontains : (front ++ mark :: after).contains mark = true := by simp
  have hreverse : (front ++ mark :: after).reverse = after.reverse ++ mark :: front.reverse := by
    simp
  have hlength : front.length + (after.length + 1) - after.length - 1 = front.length := by omega
  rw [splitAtLast?, if_pos hcontains, hreverse, List.takeWhile_append_of_pos hafter]
  simp [hlength]

theorem splitAtLast?_eq_none_iff {mark : Char} {s : List Char} :
    splitAtLast? mark s = none ↔ mark ∉ s := by
  unfold splitAtLast?
  split <;> simp_all

/-- A text is split at its last mark. -/
theorem of_splitAtLast? {mark : Char} {s front after : List Char}
    (h : splitAtLast? mark s = some (front, after)) :
    s = front ++ mark :: after ∧ mark ∉ after := by
  have hmem : mark ∈ s := by
    by_contra hnot
    rw [splitAtLast?_eq_none_iff.mpr hnot] at h
    cases h
  obtain ⟨last, first, hreverse, hlast⟩ := List.eq_append_cons_of_mem (List.mem_reverse.mpr hmem)
  have hs : s = first.reverse ++ mark :: last.reverse := by
    rw [← List.reverse_reverse s, hreverse]
    simp
  have hlast' : mark ∉ last.reverse := by rwa [List.mem_reverse]
  rw [hs, splitAtLast?_append hlast'] at h
  cases h
  exact ⟨hs, hlast'⟩

/-! ### Credentials -/

/-- What ends the text of a user. -/
abbrev endsUser (c : Char) : Bool :=
  c == ':' || c == '/'

/-- Whether no password begins where the text of a user ended. -/
def NoPassword (after : List Char) : Prop :=
  ∀ more, after = ':' :: more → '@' ∉ more

theorem noPassword_of_not_mem {after : List Char} (h : '@' ∉ after) : NoPassword after := by
  rintro more rfl hmem
  exact h (List.mem_cons_of_mem _ hmem)

section Credentials

variable {user password rest : List Char}

theorem credentials_pair (huser : ∀ c ∈ user, endsUser c = false) (hpassword : '@' ∉ password) :
    credentials (user ++ ':' :: (password ++ '@' :: rest)) = (some user, some password, rest) := by
  have huserCut := frontUntil_append huser
    (goesOn_cons endsUser (by decide : endsUser ':' = true) (password ++ '@' :: rest))
  have hstays : ∀ c ∈ password, (c == '@') = false := by
    intro c hc
    rw [beq_eq_false_iff_ne]
    exact fun heq ↦ hpassword (heq ▸ hc)
  have hpasswordCut :=
    frontUntil_append hstays (goesOn_cons (· == '@') (by decide : ('@' == '@') = true) rest)
  unfold credentials
  rw [huserCut]
  simp only [hpasswordCut]

/-- Where no password begins, the user ends at the last mark in front, if there is one. -/
theorem credentials_of_noPassword {front after : List Char}
    (hfront : ∀ c ∈ front, endsUser c = false) (hafter : GoesOn endsUser after)
    (hnone : NoPassword after) :
    credentials (front ++ after) = match splitAtLast? '@' front with
      | some (name, more) => (some name, none, more ++ after)
      | none => (none, none, front ++ after) := by
  unfold credentials
  rw [frontUntil_append hfront hafter]
  simp only
  split
  · rename_i password rest hpassword
    split at hpassword
    · rename_i more
      split at hpassword
      · rename_i mark tail hcut
        obtain ⟨hmore, -, hmark⟩ := of_frontUntil hcut
        have hat : (mark == '@') = true := hmark mark rfl
        refine absurd ?_ (hnone more rfl)
        rw [hmore, beq_iff_eq.mp hat]
        simp
      · cases hpassword
    · cases hpassword
  · rfl

theorem credentials_user (huser : ∀ c ∈ user, endsUser c = false) (hrest : '@' ∉ rest) :
    credentials (user ++ '@' :: rest) = (some user, none, rest) := by
  obtain ⟨front, after, rfl, hfront, hafter⟩ := exists_cut endsUser rest
  rw [List.mem_append, not_or] at hrest
  have hwhole : ∀ c ∈ user ++ '@' :: front, endsUser c = false :=
    List.forall_mem_append.mpr ⟨huser, List.forall_mem_cons.mpr ⟨by decide, hfront⟩⟩
  have hread := credentials_of_noPassword hwhole hafter (noPassword_of_not_mem hrest.2)
  rw [splitAtLast?_append hrest.1, List.append_assoc, List.cons_append] at hread
  exact hread

theorem credentials_none (hrest : '@' ∉ rest) : credentials rest = (none, none, rest) := by
  obtain ⟨front, after, rfl, hfront, hafter⟩ := exists_cut endsUser rest
  have hparts := hrest
  rw [List.mem_append, not_or] at hparts
  rw [credentials_of_noPassword hfront hafter (noPassword_of_not_mem hparts.2),
    splitAtLast?_eq_none_iff.mpr hparts.1]

end Credentials

theorem not_mem_takeWhile {after : List Char} (hafter : GoesOn endsUser after)
    (hnone : NoPassword after) :
    '@' ∉ after.takeWhile (· != '/') := by
  cases after with
  | nil => simp
  | cons c more =>
    rcases Bool.or_eq_true_iff.mp (hafter c rfl) with hcolon | hslash
    · obtain rfl := beq_iff_eq.mp hcolon
      have hmark := hnone more rfl
      intro hmem
      rcases List.mem_cons.mp (List.takeWhile_subset _ hmem) with heq | hmore
      · exact absurd heq (by decide)
      · exact hmark hmore
    · obtain rfl := beq_iff_eq.mp hslash
      simp

/-- Unless both user and password were read, no password was, and no mark of credentials is left in
front of the next slash. -/
theorem of_credentials {s after : List Char} {user password : Option (List Char)}
    (h : credentials s = (user, password, after)) :
    user.isSome ∧ password.isSome ∨ password = none ∧ '@' ∉ after.takeWhile (· != '/') := by
  obtain ⟨front, rest, rfl, hfront, hrest⟩ := exists_cut endsUser s
  have hslash : '/' ∉ front := fun hmem ↦ absurd (hfront '/' hmem) (by decide)
  by_cases hnone : NoPassword rest
  · have htail := not_mem_takeWhile hrest hnone
    rw [credentials_of_noPassword hfront hrest hnone] at h
    have hmore : ∀ more : List Char, '/' ∉ more → '@' ∉ more →
        '@' ∉ (more ++ rest).takeWhile (· != '/') := by
      intro more hslash hmark
      have hgo : ∀ c ∈ more, (c != '/') = true := by
        intro c hc
        rw [bne_iff_ne]
        exact fun heq ↦ hslash (heq ▸ hc)
      rw [List.takeWhile_append_of_pos hgo, List.mem_append, not_or]
      exact ⟨hmark, htail⟩
    right
    split at h
    · rename_i name more hsplit
      obtain ⟨rfl, hmark⟩ := of_splitAtLast? hsplit
      cases h
      exact ⟨rfl, hmore more (fun hmem ↦ hslash (by simp [hmem])) hmark⟩
    · rename_i hsplit
      cases h
      exact ⟨rfl, hmore front hslash (splitAtLast?_eq_none_iff.mp hsplit)⟩
  · simp only [NoPassword, not_forall, not_not] at hnone
    obtain ⟨more, rfl, hmem⟩ := hnone
    obtain ⟨password, behind, rfl, hpassword⟩ := List.eq_append_cons_of_mem hmem
    rw [credentials_pair hfront hpassword] at h
    cases h
    exact .inl ⟨rfl, rfl⟩

/-! ### Hosts -/

/-- What ends the text of a host. -/
abbrev endsHost (c : Char) : Bool :=
  c == '/' || c == ':' || c == '?'

/-- What ends the text of a port, and of a host in brackets. -/
abbrev endsPort (c : Char) : Bool :=
  c == '/' || c == '?'

theorem GoesOn.endsHost {rest : List Char} (h : GoesOn endsPort rest) : GoesOn endsHost rest := by
  intro c hc
  rcases Bool.or_eq_true_iff.mp (h c hc) with hslash | hquestion
  · simp [hslash]
  · simp [hquestion]

/-- The host that ends at the first mark, and what follows it. -/
def plainHost (s : List Char) : Option (List Char) × List Char :=
  match frontUntil endsHost s with
  | ([], rest) => (none, rest)
  | (host, rest) => (some host, rest)

section Hosts

variable {host after rest : List Char}

theorem plainHost_append (hne : host ≠ []) (hhost : ∀ c ∈ host, endsHost c = false)
    (hrest : GoesOn endsHost rest) : plainHost (host ++ rest) = (some host, rest) := by
  obtain ⟨first, more, rfl⟩ := List.exists_cons_of_ne_nil hne
  rw [plainHost, frontUntil_append hhost hrest]

theorem plainHost_of_goesOn (hrest : GoesOn endsHost rest) : plainHost rest = (none, rest) := by
  have hcut : frontUntil endsHost ([] ++ rest) = ([], rest) := frontUntil_append nofun hrest
  rw [List.nil_append] at hcut
  rw [plainHost, hcut]

/-- Behind a bracket the host is what stands up to the last bracket that closes in the run, if
anything does. -/
theorem hostOf_bracket {run : List Char} (hrun : ∀ c ∈ run, endsPort c = false)
    (hrest : GoesOn endsPort rest) : hostOf ('[' :: (run ++ rest)) =
      match splitAtLast? ']' run with
      | some ([], _) | none => plainHost ('[' :: (run ++ rest))
      | some (host, front) => (some host, front ++ rest) := by
  unfold hostOf
  simp only [frontUntil_append hrun hrest]
  rfl

theorem hostOf_of_ne {s : List Char} (h : s.head? ≠ some '[') : hostOf s = plainHost s := by
  unfold hostOf
  simp only
  split
  · exact absurd rfl h
  · rfl

/-- A host in brackets is read up to the last bracket that closes in front of the next slash. -/
theorem hostOf_brackets (hne : host ≠ []) (hhost : ∀ c ∈ host, endsPort c = false)
    (hafter : ∀ c ∈ after, endsPort c = false) (hclosed : ']' ∉ after)
    (hrest : GoesOn endsPort rest) :
    hostOf ('[' :: (host ++ ']' :: (after ++ rest))) = (some host, after ++ rest) := by
  have hrun : ∀ c ∈ host ++ ']' :: after, endsPort c = false :=
    List.forall_mem_append.mpr ⟨hhost, List.forall_mem_cons.mpr ⟨by decide, hafter⟩⟩
  have hread := hostOf_bracket hrun hrest
  obtain ⟨first, more, rfl⟩ := List.exists_cons_of_ne_nil hne
  rw [splitAtLast?_append hclosed, List.append_assoc, List.cons_append] at hread
  exact hread

/-- Whether a text begins with a bracket and the last one that closes stands behind at least one
more character. -/
def ClosesBracket (s : List Char) : Prop :=
  ∃ inner more, inner ≠ [] ∧ ']' ∉ more ∧ s = '[' :: (inner ++ ']' :: more)

/-- A host that closes no bracket is read up to the first mark that ends it. -/
theorem hostOf_plain (hne : host ≠ []) (hhost : ∀ c ∈ host, endsHost c = false)
    (hopen : ¬ ClosesBracket host) (hafter : ∀ c ∈ after, endsPort c = false)
    (hclosed : ']' ∉ after) (hnext : GoesOn endsHost (after ++ rest))
    (hrest : GoesOn endsPort rest) :
    hostOf (host ++ (after ++ rest)) = (some host, after ++ rest) := by
  rw [← plainHost_append hne hhost hnext]
  obtain ⟨first, more, rfl⟩ := List.exists_cons_of_ne_nil hne
  by_cases hbracket : first = '['
  · subst hbracket
    have hmore : ∀ c ∈ more, endsPort c = false := by
      intro c hc
      have hplace := hhost c (List.mem_cons_of_mem _ hc)
      simp only [Bool.or_eq_false_iff] at hplace ⊢
      exact ⟨hplace.1.1, hplace.2⟩
    rw [List.cons_append, ← List.append_assoc,
      hostOf_bracket (List.forall_mem_append.mpr ⟨hmore, hafter⟩) hrest]
    split
    · rfl
    · rfl
    -- a bracket that closes would do so within the host
    · rename_i inner behind hinner hsplit
      obtain ⟨hparts, hlast⟩ := of_splitAtLast? hsplit
      rcases List.append_eq_append_iff.mp hparts with ⟨left, -, hright⟩ | ⟨right, hleft, hright⟩
      · exact absurd (by simp [hright]) hclosed
      · cases right with
        | nil =>
          have hsame : ']' :: behind = after := hright
          exact absurd (by simp [← hsame]) hclosed
        | cons mark right =>
          obtain ⟨rfl, rfl⟩ := List.cons.inj hright
          have hclosing : ']' ∉ right := fun hmem ↦ hlast (List.mem_append_left _ hmem)
          exact absurd ⟨inner, right, hinner, hclosing, by rw [hleft]⟩ hopen
  · exact hostOf_of_ne (by simpa using hbracket)

/-- Where a host ends at once there is none. -/
theorem hostOf_none (hrest : GoesOn endsHost rest) : hostOf rest = (none, rest) := by
  rw [← plainHost_of_goesOn hrest]
  refine hostOf_of_ne fun hhead ↦ ?_
  exact absurd (hrest '[' hhead) (by decide)

end Hosts

/-- What was read as a host stood in front of the next slash and question mark. -/
theorem of_hostOf {s host after : List Char} (h : hostOf s = (some host, after)) :
    host ≠ [] ∧ ∀ c ∈ host, c ∈ s.takeWhile fun c ↦ !endsPort c := by
  have hplain : plainHost s = (some host, after) →
      host ≠ [] ∧ ∀ c ∈ host, c ∈ s.takeWhile fun c ↦ !endsPort c := by
    intro h
    unfold plainHost at h
    split at h
    · cases h
    · rename_i front rest hne hcut
      cases h
      obtain ⟨rfl, hfront, -⟩ := of_frontUntil hcut
      have hgo : ∀ c ∈ host, (!endsPort c) = true := by
        intro c hc
        have hplace := hfront c hc
        simp only [Bool.or_eq_false_iff] at hplace
        simp [hplace]
      refine ⟨hne, fun c hc ↦ ?_⟩
      rw [List.takeWhile_append_of_pos hgo]
      exact List.mem_append_left _ hc
  by_cases hbracket : s.head? = some '['
  · obtain ⟨more, rfl⟩ := List.head?_eq_some_iff.mp hbracket
    obtain ⟨run, rest, rfl, hrun, hrest⟩ := exists_cut endsPort more
    have hread := h
    rw [hostOf_bracket hrun hrest] at hread
    split at hread
    · exact hplain hread
    · exact hplain hread
    · rename_i inner front hinner hsplit
      cases hread
      obtain ⟨rfl, -⟩ := of_splitAtLast? hsplit
      have hgo : ∀ c ∈ '[' :: (host ++ ']' :: front), (!endsPort c) = true := by
        refine List.forall_mem_cons.mpr ⟨by decide, fun c hc ↦ ?_⟩
        rw [hrun c hc, Bool.not_false]
      refine ⟨hinner, fun c hc ↦ ?_⟩
      rw [← List.cons_append, List.takeWhile_append_of_pos hgo]
      simp [hc]
  · rw [hostOf_of_ne hbracket] at h
    exact hplain h

/-! ### Ports and databases -/

/-- The digits of a port are no marks. -/
theorem not_mem_digits {c : Char} (h : c ∈ ['/', '?', '@', ']']) (port : Int) :
    c ∉ (toString port).toList := by
  have hdigits : ∀ d < 10, digitChar d ∉ ['/', '?', '@', ']'] := by decide
  intro hmem
  obtain rfl | ⟨d, hd, rfl⟩ := mem_toString hmem
  · exact absurd h (by decide)
  · exact hdigits d hd h

/-- A port with its colon goes up to the next part. -/
theorem endsPort_digits (port : Int) : ∀ c ∈ ':' :: (toString port).toList, endsPort c = false := by
  refine List.forall_mem_cons.mpr ⟨by decide, fun c hc ↦ ?_⟩
  simp only [Bool.or_eq_false_iff, beq_eq_false_iff_ne]
  constructor <;> rintro rfl <;> exact not_mem_digits (by decide) port hc

section Ends

variable {text rest : List Char}

theorem portText_append (htext : ∀ c ∈ text, endsPort c = false) (hrest : GoesOn endsPort rest) :
    portText (':' :: (text ++ rest)) = (some text, rest) := by
  unfold portText
  simp only [frontUntil_append htext hrest]

theorem portText_none (hrest : rest.head? ≠ some ':') : portText rest = (none, rest) := by
  unfold portText
  split
  · exact absurd rfl hrest
  · rfl

theorem databaseText_append (htext : '?' ∉ text) (hrest : GoesOn (· == '?') rest) :
    databaseText ('/' :: (text ++ rest)) = (some text, rest) := by
  have hstays : ∀ c ∈ text, (c == '?') = false := by
    intro c hc
    rw [beq_eq_false_iff_ne]
    exact fun heq ↦ htext (heq ▸ hc)
  unfold databaseText
  simp only [frontUntil_append hstays hrest]

theorem databaseText_none (hrest : rest.head? ≠ some '/') : databaseText rest = (none, rest) := by
  unfold databaseText
  split
  · exact absurd rfl hrest
  · rfl

end Ends

/-! ### The whole -/

theorem isWordCharacter_eq_false {c : Char}
    (h : (wordRanges.toList.any fun range ↦ range.1 ≤ c.toNat && c.toNat ≤ range.2) = false) :
    isWordCharacter c = false := by
  rw [isWordCharacter, inRanges, ← Array.any_toList, h]

theorem isDialectChar_colon : isDialectChar ':' = false := by
  rw [isDialectChar, isWordCharacter_eq_false (by decide +kernel)]
  rfl

/-- Plus signs and small letters make a dialect. -/
theorem isDialectChar_of_all {dialect : List Char}
    (h : (dialect.all fun c ↦ decide (c = '+' ∨ 0x61 ≤ c.toNat ∧ c.toNat ≤ 0x7a)) = true) :
    ∀ c ∈ dialect, isDialectChar c = true := by
  intro c hc
  rw [isDialectChar, Bool.or_eq_true, beq_iff_eq]
  rcases of_decide_eq_true (List.all_eq_true.mp h c hc) with hplus | ⟨hlow, hhigh⟩
  · exact .inl hplus
  · exact .inr (isWordCharacter_of_small hlow hhigh)

/-- An address is read part by part. -/
theorem parse_of_parts {dialect s afterUser afterHost afterPort afterDatabase : List Char}
    {user password host database : Option (List Char)} {port : Option Int}
    (hdialect : ∀ c ∈ dialect, isDialectChar c = true) (hne : dialect ≠ [])
    (hcredentials : credentials s = (user, password, afterUser))
    (hhost : hostOf afterUser = (host, afterHost))
    (hport : portText afterHost = (port.map fun n ↦ (toString n).toList, afterPort))
    (hlimit : ∀ n ∈ port, isTooLong n = false)
    (hdatabase : databaseText afterPort = (database, afterDatabase)) :
    parse (dialect ++ ':' :: '/' :: '/' :: s) = .ok
      { dialect, host, port
        username := user.map Percent.decode
        password := password.map Percent.decode
        database := database.map Percent.decode
        query := queryMembers afterDatabase } := by
  have hfront : ∀ c ∈ dialect, (!isDialectChar c) = false := by
    intro c hc
    rw [hdialect c hc, Bool.not_true]
  have hmark : (!isDialectChar ':') = true := by
    rw [isDialectChar_colon, Bool.not_false]
  have hcut :=
    frontUntil_append hfront (goesOn_cons (fun c ↦ !isDialectChar c) hmark ('/' :: '/' :: s))
  obtain ⟨first, more, rfl⟩ := List.exists_cons_of_ne_nil hne
  unfold parse
  simp only [hcut, hcredentials, hhost, hport, hdatabase]
  cases port with
  | none => rfl
  | some n =>
    simp only [Option.map_some, String.ofList_toList, readInteger?_toString (hlimit n rfl)]

end StreamAudit.Address
