/-!
UTF-8. A text is written as bytes and read back. Bytes that are no text are read as replacement
characters, one for each longest front of a character that stops short.
-/

set_option autoImplicit false
set_option relaxedAutoImplicit false

namespace StreamAudit.Text.Utf8

/-- The bytes of one character. -/
def encodeChar (c : Char) : List Nat :=
  let n := c.toNat
  if n < 0x80 then [n]
  else if n < 0x800 then [0xC0 + n / 0x40, 0x80 + n % 0x40]
  else if n < 0x10000 then [0xE0 + n / 0x1000, 0x80 + n / 0x40 % 0x40, 0x80 + n % 0x40]
  else [0xF0 + n / 0x40000, 0x80 + n / 0x1000 % 0x40, 0x80 + n / 0x40 % 0x40, 0x80 + n % 0x40]

/-- The bytes of a text. -/
def encode (s : List Char) : List Nat :=
  s.flatMap encodeChar

/-- What stands for bytes that form no character. -/
def replacement : Char :=
  Char.ofNat 0xFFFD

/-- A byte that continues a character. -/
def isContinuation (b : Nat) : Bool :=
  0x80 ≤ b && b < 0xC0

/-- The lowest and the highest second byte after a leading byte. -/
def secondRange (lead : Nat) : Nat × Nat :=
  if lead == 0xE0 then (0xA0, 0xBF)
  else if lead == 0xED then (0x80, 0x9F)
  else if lead == 0xF0 then (0x90, 0xBF)
  else if lead == 0xF4 then (0x80, 0x8F)
  else (0x80, 0xBF)

/-- How many bytes follow a leading byte, none for a byte that leads nothing. -/
def following (lead : Nat) : Nat :=
  if 0xC2 ≤ lead && lead < 0xE0 then 1
  else if 0xE0 ≤ lead && lead < 0xF0 then 2
  else if 0xF0 ≤ lead && lead < 0xF5 then 3
  else 0

/-- Whether a byte may come second after a leading byte. -/
def isSecond (lead b : Nat) : Bool :=
  (secondRange lead).1 ≤ b && b ≤ (secondRange lead).2

/-- Reads the character at the front of some bytes, and says how many bytes it takes. -/
def decodeFront (lead : Nat) (rest : List Nat) : Char × Nat :=
  if lead < 0x80 then (Char.ofNat lead, 1)
  else match following lead, rest with
    | 1, b :: _ =>
      if isSecond lead b then (Char.ofNat ((lead - 0xC0) * 0x40 + (b - 0x80)), 2)
      else (replacement, 1)
    | 2, b :: more =>
      if isSecond lead b then
        match more with
        | c :: _ =>
          if isContinuation c then
            (Char.ofNat ((lead - 0xE0) * 0x1000 + (b - 0x80) * 0x40 + (c - 0x80)), 3)
          else (replacement, 2)
        | [] => (replacement, 2)
      else (replacement, 1)
    | 3, b :: more =>
      if isSecond lead b then
        match more with
        | c :: last =>
          if isContinuation c then
            match last with
            | d :: _ =>
              if isContinuation d then
                (Char.ofNat ((lead - 0xF0) * 0x40000 + (b - 0x80) * 0x1000 + (c - 0x80) * 0x40 +
                  (d - 0x80)), 4)
              else (replacement, 3)
            | [] => (replacement, 3)
          else (replacement, 2)
        | [] => (replacement, 2)
      else (replacement, 1)
    | _, _ => (replacement, 1)

theorem decodeFront_pos (lead : Nat) (rest : List Nat) : 0 < (decodeFront lead rest).2 := by
  unfold decodeFront
  repeat' split
  all_goals simp

/-- The text of some bytes. -/
def decode : List Nat → List Char
  | [] => []
  | lead :: rest =>
    (decodeFront lead rest).1 :: decode (rest.drop ((decodeFront lead rest).2 - 1))
termination_by bytes => bytes.length
decreasing_by
  simp only [List.length_drop, List.length_cons]
  omega

end StreamAudit.Text.Utf8
