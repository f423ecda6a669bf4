/-!
Decimal digits. The ASCII digits and the decimal digits of every script are read by value; a
script's ten digits are consecutive, so the table holds the position of each script's zero.
-/

set_option autoImplicit false
set_option relaxedAutoImplicit false

namespace StreamAudit.Text

/-- The positions of the zeros of all scripts with decimal digits. -/
def digitZeros : List Nat :=
  [0x30, 0x660, 0x6f0, 0x7c0, 0x966, 0x9e6, 0xa66, 0xae6, 0xb66, 0xbe6, 0xc66, 0xce6, 0xd66, 0xde6,
    0xe50, 0xed0, 0xf20, 0x1040, 0x1090, 0x17e0, 0x1810, 0x1946, 0x19d0, 0x1a80, 0x1a90, 0x1b50,
    0x1bb0, 0x1c40, 0x1c50, 0xa620, 0xa8d0, 0xa900, 0xa9d0, 0xa9f0, 0xaa50, 0xabf0, 0xff10, 0x104a0,
    0x10d30, 0x11066, 0x110f0, 0x11136, 0x111d0, 0x112f0, 0x11450, 0x114d0, 0x11650, 0x116c0,
    0x11730, 0x118e0, 0x11950, 0x11c50, 0x11d50, 0x11da0, 0x16a60, 0x16ac0, 0x16b50, 0x1d7ce,
    0x1d7d8, 0x1d7e2, 0x1d7ec, 0x1d7f6, 0x1e140, 0x1e2f0, 0x1e950, 0x1fbf0]

/-- The value of an ASCII digit. -/
def asciiDigit? (c : Char) : Option Nat :=
  if 48 ≤ c.toNat ∧ c.toNat ≤ 57 then some (c.toNat - 48) else none

/-- The value of a decimal digit of any script. -/
def digit? (c : Char) : Option Nat :=
  (digitZeros.find? fun first ↦ first ≤ c.toNat && c.toNat ≤ first + 9).map (c.toNat - ·)

/-- Whether a character is an ASCII digit. -/
def isAsciiDigit (c : Char) : Bool :=
  (asciiDigit? c).isSome

/-- The ASCII digit of a value below ten. -/
def digitChar (n : Nat) : Char :=
  Char.ofNat (48 + n % 10)

/-- Reads digits most significant first, in front of a value already read. -/
def readDigits (value : Nat) : List Nat → Nat
  | [] => value
  | d :: rest => readDigits (value * 10 + d) rest

/-- The decimal digits of a number, with leading zeros up to the given width. -/
def padded (width n : Nat) : List Char :=
  let digits := Nat.toDigits 10 n
  List.replicate (width - digits.length) '0' ++ digits

/-- Exactly two digits, for numbers below one hundred. -/
def twoDigits (n : Nat) : List Char :=
  [digitChar (n / 10), digitChar n]

theorem asciiDigit?_eq_some_iff {c : Char} {d : Nat} :
    asciiDigit? c = some d ↔ d ≤ 9 ∧ c.toNat = 48 + d := by
  unfold asciiDigit?
  split <;> simp <;> omega

theorem asciiDigit?_digitChar {n : Nat} (h : n < 10) : asciiDigit? (digitChar n) = some n := by
  have : ∀ m < 10, asciiDigit? (digitChar m) = some m := by decide
  exact this n h

end StreamAudit.Text
