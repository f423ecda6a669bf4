import StreamAudit.Sql.Value
import StreamAudit.Text.LetterCase

/-!
Values taken for other types. A type is known by letters that its name contains, and stands for
numbers if it contains none of them.
-/

set_option autoImplicit false
set_option relaxedAutoImplicit false

namespace StreamAudit.Sql

open StreamAudit.Number StreamAudit.Text

/-- A type that a value can be taken for. -/
inductive CastType where
  | octets
  | texts
  | numbers
  | integers
  | reals
deriving DecidableEq, Repr

namespace CastType

/-- The letters that tell a type, the first of them before the others. -/
def marks : List (String × CastType) :=
  [("int", .integers), ("char", .texts), ("clob", .texts), ("text", .texts), ("blob", .octets),
    ("real", .reals), ("floa", .reals), ("doub", .reals)]

/-- Whether letters stand in a text of small letters. -/
def isIn (letters : List Char) : List Char → Bool
  | [] => letters.isEmpty
  | c :: rest => letters.isPrefixOf (c :: rest) || isIn letters rest

/-- The type of a name. -/
def ofName (name : String) : CastType :=
  let small := name.toList.map lowerAscii
  ((marks.find? fun mark ↦ isIn mark.1.toList small).map Prod.snd).getD .numbers

/-- What a type prefers to hold. -/
def affinity : CastType → Affinity
  | .octets => .octets
  | .texts => .texts
  | _ => .numbers

/-- A double as an integer, if it has no fraction and every integer of its size is a double. -/
def settled (x : Binary64) : Value :=
  match x.integer? with
  | some n => if n.natAbs < Nat.pow 2 51 then .whole n else .real x
  | none => .real x

/-- The number in front of characters. -/
def numberOf (s : List Char) : Value :=
  match Value.ofNumeral (.scan s) with
  | .real x => settled x
  | other => other

/-- A value taken for a type. -/
def apply (type : CastType) (value : Value) : Value :=
  if value = .null then .null
  else
    match type with
    | .octets => match value with
      | .octets bytes => .octets bytes
      | other => .octets (Utf8.encode ((other.text?.getD "").toList))
    | .texts => .text (value.text?.getD "")
    | .integers => .whole value.toWord
    | .reals => .real value.toReal
    | .numbers => match value with
      | .text s => numberOf s.toList
      | .octets bytes => numberOf (Value.characters bytes)
      | other => other

end CastType

end StreamAudit.Sql
