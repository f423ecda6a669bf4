import Mathlib.Tactic.SplitIfs
import StreamAudit.Json.Reader
import StreamAudit.Json.Writer
import StreamAudit.Proofs.Number.IntegerText
import StreamAudit.Proofs.Text.Utf8

/-!
Texts and integers are read as they were written. The escape of a character is read back as the
character, whatever follows it (`string_escape`): the escape of a code unit is not taken for the
first half of a pair, since no character is a surrogate. The digits of an integer are read back up
to the character that ends them (`number_toDigits`).
-/

set_option autoImplicit false
set_option relaxedAutoImplicit false

namespace StreamAudit.Json

open StreamAudit.Number StreamAudit.Text Writer

/-! ### Texts -/

theorem hexDigit?_hexDigit {n : Nat} (h : n < 16) : Reader.hexDigit? (hexDigit n) = some n := by
  have hall : ∀ m < 16, Reader.hexDigit? (hexDigit m) = some m := by decide
  exact hall n h

theorem unit?_escapeUnit {n : Nat} (h : n < 0x10000) :
    Reader.unit? (hexDigit (n / 4096 % 16)) (hexDigit (n / 256 % 16)) (hexDigit (n / 16 % 16))
      (hexDigit (n % 16)) = some n := by
  have hdigit (m : Nat) : Reader.hexDigit? (hexDigit (m % 16)) = some (m % 16) :=
    hexDigit?_hexDigit (Nat.mod_lt m (by decide))
  simp only [Reader.unit?, hdigit, Option.bind_eq_bind, Option.bind_some, Option.pure_def,
    Option.some.injEq]
  omega

/-- Whether a character is printable and of ASCII. -/
def Printable (c : Char) : Prop :=
  0x20 ≤ c.toNat ∧ c.toNat < 0x7F

instance (c : Char) : Decidable (Printable c) :=
  inferInstanceAs (Decidable (_ ∧ _))

/-- The ways in which a character is written: with a mark that stands for it, as itself, or by its
number in one unit or two. -/
inductive Escaped (c : Char) : List Char → Prop where
  | marked (mark : Char) (hmark : mark ≠ 'u') (hprintable : Printable mark)
      (hread : Reader.escaped? mark = some c) : Escaped c ['\\', mark]
  | plain (hquote : c ≠ '"') (hslash : c ≠ '\\') (hprintable : Printable c) : Escaped c [c]
  | unit (h : c.toNat < 0x10000) : Escaped c (escapeUnit c.toNat)
  | units (h : 0x10000 ≤ c.toNat) : Escaped c (escapeUnit (0xD800 + (c.toNat - 0x10000) / 0x400) ++
      escapeUnit (0xDC00 + (c.toNat - 0x10000) % 0x400))

theorem escaped_marked {c mark : Char} {n : Nat} (hn : c.toNat = n) (hmark : mark ≠ 'u')
    (hprintable : Printable mark) (hread : Reader.escaped? mark = some (Char.ofNat n)) :
    Escaped c ['\\', mark] := by
  rw [← hn, Char.ofNat_toNat] at hread
  exact .marked mark hmark hprintable hread

theorem escape_cases (c : Char) : Escaped c (escape c) := by
  unfold escape
  simp only [beq_iff_eq, Bool.and_eq_true, decide_eq_true_eq]
  split
  · subst c
    exact .marked '"' (by decide) (by decide) rfl
  split
  · subst c
    exact .marked '\\' (by decide) (by decide) rfl
  split
  · exact escaped_marked ‹_› (by decide) (by decide) rfl
  split
  · exact escaped_marked ‹_› (by decide) (by decide) rfl
  split
  · exact escaped_marked ‹_› (by decide) (by decide) rfl
  split
  · exact escaped_marked ‹_› (by decide) (by decide) rfl
  split
  · exact escaped_marked ‹_› (by decide) (by decide) rfl
  split
  · exact .plain ‹_› ‹_› ‹_›
  split
  · exact .unit ‹_›
  · exact .units (by omega)

section Strings

variable (read rest : List Char)

theorem string_plain {c : Char} (hquote : c ≠ '"') (hslash : c ≠ '\\') (hcontrol : 0x20 ≤ c.toNat) :
    Reader.string read (c :: rest) = Reader.string (c :: read) rest := by
  rw [Reader.string.eq_def]
  split <;> simp_all

/-- The escape of a code unit that is no high surrogate stands for a character of its own. -/
theorem string_escapeUnit {n : Nat} (h : n < 0x10000) (hhigh : ¬ (0xD800 ≤ n ∧ n < 0xDC00)) :
    Reader.string read (escapeUnit n ++ rest) = Reader.string (Char.ofNat n :: read) rest := by
  have hunit := unit?_escapeUnit h
  have hpair : ∀ low? : Option Nat, low?.bind (Reader.pair? n) = none := by
    rintro (_ | low)
    · rfl
    · exact if_neg fun hboth ↦ hhigh ⟨hboth.1, hboth.2.1⟩
  simp only [escapeUnit, List.cons_append, List.nil_append]
  generalize hexDigit (n / 4096 % 16) = a at hunit ⊢
  generalize hexDigit (n / 256 % 16) = b at hunit ⊢
  generalize hexDigit (n / 16 % 16) = c at hunit ⊢
  generalize hexDigit (n % 16) = d at hunit ⊢
  rw [Reader.string.eq_def]
  split
  · rename_i heq
    cases heq
  · rename_i heq
    cases heq
  · rename_i heq
    -- another unit follows, but not one that this one is paired with
    cases heq
    simp only [hunit, hpair]
  · rename_i heq
    cases heq
    simp only [hunit]
  · rename_i hshort heq
    cases heq
    exact (hshort _ _ _ _ _ rfl rfl).elim
  · rename_i hescape heq
    cases heq
    exact (hescape _ _ rfl rfl).elim

theorem string_escapeUnits {high low : Nat} {c : Char} (hhigh : high < 0x10000)
    (hlow : low < 0x10000) (hpair : Reader.pair? high low = some c) :
    Reader.string read (escapeUnit high ++ (escapeUnit low ++ rest)) =
      Reader.string (c :: read) rest := by
  simp only [escapeUnit, List.cons_append, List.nil_append]
  rw [Reader.string.eq_def]
  simp only [unit?_escapeUnit hhigh, unit?_escapeUnit hlow, Option.bind_some, hpair]

theorem surrogates_lt {c : Char} (h : 0x10000 ≤ c.toNat) :
    0xD800 + (c.toNat - 0x10000) / 0x400 < 0x10000 ∧
      0xDC00 + (c.toNat - 0x10000) % 0x400 < 0x10000 := by
  have hmem := toNat_mem c
  omega

/-- The surrogates of a character are paired to the character. -/
theorem pair?_surrogates {c : Char} (h : 0x10000 ≤ c.toNat) :
    Reader.pair? (0xD800 + (c.toNat - 0x10000) / 0x400) (0xDC00 + (c.toNat - 0x10000) % 0x400) =
      some c := by
  have hmem := toNat_mem c
  have hsum : 0x10000 + (0xD800 + (c.toNat - 0x10000) / 0x400 - 0xD800) * 0x400 +
      (0xDC00 + (c.toNat - 0x10000) % 0x400 - 0xDC00) = c.toNat := by omega
  rw [Reader.pair?, if_pos (by omega), hsum, Char.ofNat_toNat]

/-- A character that stands behind a backslash is read as the character that it stands for. -/
theorem string_escaped {c mark : Char} (hmark : mark ≠ 'u')
    (hread : Reader.escaped? mark = some c) :
    Reader.string read ('\\' :: mark :: rest) = Reader.string (c :: read) rest := by
  rw [Reader.string.eq_def]
  split <;> rename_i heq <;> cases heq
  · exact absurd rfl hmark
  · exact absurd rfl hmark
  · simp only [hread]
  · rename_i hescape
    exact (hescape _ _ rfl rfl).elim

/-- A character is read back from its escape. -/
theorem string_escape (c : Char) :
    Reader.string read (escape c ++ rest) = Reader.string (c :: read) rest := by
  have hmem := toNat_mem c
  have hescape := escape_cases c
  generalize escape c = written at hescape ⊢
  cases hescape with
  | marked mark hmark _ hread => exact string_escaped read rest hmark hread
  | plain hquote hslash hprintable => exact string_plain read rest hquote hslash hprintable.1
  | unit hsmall => rw [string_escapeUnit read rest hsmall (by omega), Char.ofNat_toNat]
  | units hlarge =>
    obtain ⟨hhigh, hlow⟩ := surrogates_lt hlarge
    rw [List.append_assoc, string_escapeUnits read rest hhigh hlow (pair?_surrogates hlarge)]

end Strings

/-- A text is read back from its escapes up to the closing mark. -/
theorem string_written (s read rest : List Char) :
    Reader.string read (s.flatMap escape ++ '"' :: rest) =
      some (String.ofList (read.reverse ++ s), rest) := by
  induction s generalizing read with
  | nil => rw [List.flatMap_nil, List.nil_append, Reader.string, List.append_nil]
  | cons c s ih =>
    rw [List.flatMap_cons, List.append_assoc, string_escape, ih, List.reverse_cons,
      List.append_assoc, List.singleton_append]

theorem printable_escapeUnit (n : Nat) : ∀ c ∈ escapeUnit n, Printable c := by
  have hdigit (m : Nat) : Printable (hexDigit (m % 16)) := by
    have hall : ∀ k < 16, Printable (hexDigit k) := by decide
    exact hall _ (Nat.mod_lt m (by decide))
  simp only [escapeUnit, List.forall_mem_cons]
  exact ⟨by decide, by decide, hdigit _, hdigit _, hdigit _, hdigit _, by simp⟩

theorem printable_escape (c : Char) : ∀ d ∈ escape c, Printable d := by
  have hescape := escape_cases c
  generalize escape c = written at hescape ⊢
  cases hescape with
  | marked mark _ hprintable _ =>
    rw [List.forall_mem_cons, List.forall_mem_singleton]
    exact ⟨by decide, hprintable⟩
  | plain _ _ hprintable => simpa using hprintable
  | unit _ => exact printable_escapeUnit c.toNat
  | units _ =>
    rw [List.forall_mem_append]
    exact ⟨printable_escapeUnit _, printable_escapeUnit _⟩

/-! ### Integers -/

/-- Whether a value may end where the given characters go on. -/
def Ends (rest : List Char) : Prop :=
  ∀ c ∈ rest.head?, c = ',' ∨ c = '\n'

theorem digits_written {ds : List Nat} (hlt : ∀ d ∈ ds, d < 10) {rest : List Char}
    (hrest : Ends rest) :
    Reader.digits (ds.map digitChar ++ rest) = (ds, rest) := by
  induction ds with
  | nil =>
    have hstop : rest.takeWhile isAsciiDigit = [] ∧ rest.dropWhile isAsciiDigit = rest := by
      cases rest with
      | nil => exact ⟨rfl, rfl⟩
      | cons c more =>
        rcases hrest c rfl with rfl | rfl <;> exact ⟨rfl, rfl⟩
    rw [List.map_nil, List.nil_append, Reader.digits, hstop.1, hstop.2]
    rfl
  | cons d ds ih =>
    have hd := hlt d List.mem_cons_self
    have hrest := ih fun other hother ↦ hlt other (List.mem_cons_of_mem d hother)
    rw [Reader.digits, Prod.mk.injEq] at hrest ⊢
    simp only [List.map_cons, List.cons_append, List.takeWhile_cons, List.dropWhile_cons,
      isAsciiDigit_digitChar d, if_true, List.filterMap_cons, asciiDigit?_digitChar hd]
    exact ⟨congrArg (d :: ·) hrest.1, hrest.2⟩

theorem fraction_of_ends {rest : List Char} (hrest : Ends rest) :
    Reader.fraction rest = (none, rest) := by
  cases rest with
  | nil => rfl
  | cons c more => rcases hrest c rfl with rfl | rfl <;> rfl

theorem exponent_of_ends {rest : List Char} (hrest : Ends rest) :
    Reader.exponent rest = (none, rest) := by
  cases rest with
  | nil => rfl
  | cons c more => rcases hrest c rfl with rfl | rfl <;> rfl

/-- A number is read back from its digits, unless they are too many. -/
theorem number_toDigits {n : Nat} (hlimit : (Nat.toDigits 10 n).length ≤ digitLimit)
    (negative : Bool) {rest : List Char} (hrest : Ends rest) :
    Reader.number negative (Nat.toDigits 10 n ++ rest) =
      some (.int (if negative then -n else n), rest) := by
  obtain ⟨first, more, hdigits, hlt, hread, hzero⟩ := exists_digits n
  have hlength : ¬ digitLimit < (first :: more).length := by
    rw [hdigits, List.length_map] at hlimit
    omega
  have hfirst : digitChar first = '0' → first = 0 := by
    have hall : ∀ d < 10, digitChar d = '0' → d = 0 := by decide
    exact hall first (hlt first List.mem_cons_self)
  rw [hdigits]
  unfold Reader.number
  split
  · rename_i after hwhole
    -- a zero in front is all of the number
    rw [List.map_cons, List.cons_append, List.cons.injEq] at hwhole
    obtain ⟨hzeroChar, hafter⟩ := hwhole
    obtain rfl := hfirst hzeroChar
    obtain ⟨rfl, rfl⟩ := hzero rfl
    obtain rfl : rest = after := hafter
    simp only [fraction_of_ends hrest, exponent_of_ends hrest, Option.isNone_none, Bool.and_self,
      if_true, if_neg hlength]
    rfl
  · rw [digits_written hlt hrest]
    simp only [fraction_of_ends hrest, exponent_of_ends hrest, Option.isNone_none, Bool.and_self,
      if_true, if_neg hlength, hread]

end StreamAudit.Json
