import StreamAudit.Sql.Value
import StreamAudit.Text.Percent

/-!
Functions on texts. A number given to one of them is taken for its text; octets are taken for
themselves where their count or their places matter. Places count from one.
-/

set_option autoImplicit false
set_option relaxedAutoImplicit false

namespace StreamAudit.Sql.Function

open StreamAudit.Number StreamAudit.Text

/-- The characters of the text of a value. -/
def charactersOf (value : Value) : List Char :=
  (value.text?.getD "").toList

/-- The text value of characters. -/
def ofCharacters (characters : List Char) : Value :=
  .text (String.ofList characters)

/-- A function on texts whose result is null for null. -/
def onText (f : List Char → Value) (value : Value) : Value :=
  if value = .null then .null else f (charactersOf value)

/-- The octets of a value. -/
def octetsOf : Value → List Nat
  | .octets bytes => bytes
  | other => Utf8.encode (charactersOf other)

/-- The number of characters of a text up to a null character, or of octets. -/
def length : Value → Value
  | .octets bytes => .whole bytes.length
  | other => onText (fun s ↦ .whole (s.takeWhile (·.toNat ≠ 0)).length) other

/-- A text in small ASCII letters. -/
def lower : Value → Value :=
  onText fun s ↦ ofCharacters (s.map lowerAscii)

/-- An ASCII letter as a capital. -/
def capital (c : Char) : Char :=
  if 'a' ≤ c ∧ c ≤ 'z' then Char.ofNat (c.toNat - 32) else c

/-- A text in capital ASCII letters. -/
def upper : Value → Value :=
  onText fun s ↦ ofCharacters (s.map capital)

/-- The code of the first character. -/
def unicode : Value → Value :=
  onText fun s ↦ (s.head?.map fun c ↦ Value.whole c.toNat).getD .null

/-- The text of characters with the given codes. -/
def char (codes : List Value) : Value :=
  ofCharacters (codes.map fun code ↦
    let n := code.toWord
    if 0 ≤ n ∧ n.toNat.isValidChar then Char.ofNat n.toNat else Utf8.replacement)

/-- Digits to the base sixteen for octets. -/
def hexDigits (bytes : List Nat) : List Char :=
  bytes.flatMap fun b ↦ [Percent.hexDigit (b / 16), Percent.hexDigit (b % 16)]

/-- The octets of a value to the base sixteen. -/
def hex (value : Value) : Value :=
  ofCharacters (hexDigits (octetsOf value))

/-- A value as it is written in a statement. -/
def quote : Value → Value
  | .null => .text "NULL"
  | .text s =>
    ofCharacters ('\'' :: s.toList.flatMap (fun c ↦ if c = '\'' then [c, c] else [c]) ++ ['\''])
  | .octets bytes => ofCharacters ('X' :: '\'' :: hexDigits bytes ++ ['\''])
  | other => ofCharacters (charactersOf other)

/-- Where one list begins in another, counted from a place. -/
def placeIn {α : Type} [BEq α] (part : List α) : Nat → List α → Nat
  | place, s =>
    if part.isPrefixOf s then place
    else
      match s with
      | [] => 0
      | _ :: rest => placeIn part (place + 1) rest

/-- Where a text is found first in another, zero if nowhere. -/
def instr : Value → Value → Value
  | .null, _ | _, .null => .null
  | .octets whole, .octets part => .whole (placeIn part 1 whole)
  | whole, part => .whole (placeIn (charactersOf part) 1 (charactersOf whole))

/-- What stands from a place on: `start` counts from one at the front or below zero from the end,
and a count below zero asks for what stands before. -/
def slice {α : Type} (s : List α) (start : Int) (count : Option Int) : List α :=
  let length : Int := s.length
  let size : Int := (count.map fun n ↦ (n.natAbs : Int)).getD (length + start.natAbs + 1)
  let (place, size) :=
    if start < 0 then
      if start + length < 0 then (0, max 0 (size + (start + length))) else (start + length, size)
    else if 0 < start then (start - 1, size)
    else (0, if 0 < size then size - 1 else size)
  let (place, size) :=
    if count.any (· < 0) then
      if place - size < 0 then (0, size + (place - size)) else (place - size, size)
    else (place, size)
  (s.drop place.toNat).take size.toNat

/-- A part of a text or of octets. -/
def substr (value start : Value) (count : Option Value) : Value :=
  if start = .null ∨ count = some .null then .null
  else
    let count := count.map Value.toWord
    match value with
    | .octets bytes => .octets (slice bytes start.toWord count)
    | other => onText (fun s ↦ ofCharacters (slice s start.toWord count)) other

/-- A text with every occurrence of one that is not empty replaced; the fuel bounds its length. -/
def replaced (part by_ : List Char) : Nat → List Char → List Char
  | 0, s => s
  | fuel + 1, s =>
    match s with
    | [] => []
    | c :: rest =>
      if part.isPrefixOf s then by_ ++ replaced part by_ fuel (s.drop part.length)
      else c :: replaced part by_ fuel rest

/-- A text with every occurrence of another replaced. -/
def replace : Value → Value → Value → Value
  | .null, _, _ | _, .null, _ | _, _, .null => .null
  | value, part, other =>
    let s := charactersOf value
    if (charactersOf part).isEmpty then value
    else ofCharacters (replaced (charactersOf part) (charactersOf other) s.length s)

/-- Which ends of a text are trimmed. -/
structure Ends where
  left : Bool := false
  right : Bool := false

/-- A text without some characters at its ends; a blank if none are given. -/
def trimmed (ends : Ends) (value : Value) (given : Option Value) : Value :=
  if given = some .null then .null
  else
    let drops (c : Char) : Bool := ((given.map charactersOf).getD [' ']).contains c
    onText
      (fun s ↦
        let s := if ends.left then s.dropWhile drops else s
        ofCharacters (if ends.right then (s.reverse.dropWhile drops).reverse else s))
      value

/-- The name of the kind of a value. -/
def typeName : Value → Value
  | .null => .text "null"
  | .whole _ => .text "integer"
  | .real _ => .text "real"
  | .text _ => .text "text"
  | .octets _ => .text "blob"

end StreamAudit.Sql.Function
