/-!
Blank characters and trimming. Two classes are in use: the Unicode white space characters, and the
wider class of blanks that also counts the four information separators U+001C to U+001F. Trimming
is stated for any class: it leaves a text whose ends lie outside the class (`trimmed_trimList`) and
changes no text that is already so (`trimList_eq_self`).
-/

set_option autoImplicit false
set_option relaxedAutoImplicit false

namespace StreamAudit.Text

/-- The characters with the Unicode property White_Space. -/
def isWhiteSpace (c : Char) : Bool :=
  let n := c.toNat
  (9 ≤ n && n ≤ 13) || n == 0x20 || n == 0x85 || n == 0xA0 || n == 0x1680 ||
    (0x2000 ≤ n && n ≤ 0x200A) || n == 0x2028 || n == 0x2029 || n == 0x202F || n == 0x205F ||
    n == 0x3000

/-- White space, or one of the four information separators. -/
def isBlank (c : Char) : Bool :=
  isWhiteSpace c || (0x1C ≤ c.toNat && c.toNat ≤ 0x1F)

theorem isBlank_of_isWhiteSpace {c : Char} (h : isWhiteSpace c = true) : isBlank c = true := by
  simp [isBlank, h]

section Trim

variable (drops : Char → Bool)

/-- Drops the characters of a class from both ends. -/
def trimList (s : List Char) : List Char :=
  ((s.dropWhile drops).reverse.dropWhile drops).reverse

/-- No end of the text lies in the class. -/
def Trimmed (s : List Char) : Prop :=
  (∀ c ∈ s.head?, drops c = false) ∧ ∀ c ∈ s.getLast?, drops c = false

theorem dropWhile_eq_self {s : List Char} (h : ∀ c ∈ s.head?, drops c = false) :
    s.dropWhile drops = s := by
  cases s with
  | nil => rfl
  | cons c rest => simp [h c (by simp)]

theorem trimList_eq_self {s : List Char} (h : Trimmed drops s) : trimList drops s = s := by
  rw [trimList, dropWhile_eq_self drops h.1, dropWhile_eq_self drops, List.reverse_reverse]
  simpa using h.2

theorem head?_dropWhile (s : List Char) : ∀ c ∈ (s.dropWhile drops).head?, drops c = false := by
  induction s with
  | nil => simp
  | cons c rest ih =>
    by_cases hc : drops c = true
    · simpa [hc] using ih
    · simp [hc]

theorem trimmed_trimList (s : List Char) : Trimmed drops (trimList drops s) := by
  constructor
  · intro c hc
    have hfirst := head?_dropWhile drops s
    revert hc
    rw [trimList, List.head?_reverse]
    intro hc
    generalize s.dropWhile drops = t at hc hfirst
    refine hfirst c ?_
    have hsuffix := List.dropWhile_suffix (l := t.reverse) drops
    obtain ⟨front, hfront⟩ := hsuffix
    rw [Option.mem_def] at hc ⊢
    rw [← List.getLast?_reverse, ← hfront, List.getLast?_append, hc, Option.some_or]
  · intro c hc
    rw [trimList, List.getLast?_reverse] at hc
    exact head?_dropWhile drops _ c hc

theorem trimList_trimList (s : List Char) : trimList drops (trimList drops s) = trimList drops s :=
  trimList_eq_self drops (trimmed_trimList drops s)

end Trim

/-- Drops blanks from both ends. -/
def strip (s : String) : String :=
  String.ofList (trimList isBlank s.toList)

/-- Drops white space from both ends and keeps information separators. -/
def stripWhiteSpace (s : String) : String :=
  String.ofList (trimList isWhiteSpace s.toList)

theorem strip_strip (s : String) : strip (strip s) = strip s := by
  simp [strip, trimList_trimList]

theorem stripWhiteSpace_stripWhiteSpace (s : String) :
    stripWhiteSpace (stripWhiteSpace s) = stripWhiteSpace s := by
  simp [stripWhiteSpace, trimList_trimList]

/-- The text holds nothing but blanks. -/
def isVoid (s : String) : Bool :=
  s.toList.all isBlank

end StreamAudit.Text
