import StreamAudit.Json.Basic
import StreamAudit.Number.IntegerText

/-!
Reading JSON texts. The whole text must be one value with white space around it. A name that appears
twice in an object keeps its first place and its last value. Besides the standard numbers the three
words for infinities and for no number are read, and an integer of too many digits is refused.
-/

set_option autoImplicit false
set_option relaxedAutoImplicit false

namespace StreamAudit.Json.Reader

open StreamAudit.Number StreamAudit.Text

/-- Drops white space in front. -/
def skipSpace (s : List Char) : List Char :=
  s.dropWhile fun c ↦ c == ' ' || c == '\t' || c == '\n' || c == '\r'

/-- The value of a hexadecimal digit. -/
def hexDigit? (c : Char) : Option Nat :=
  let n := c.toNat
  if 48 ≤ n && n ≤ 57 then some (n - 48)
  else if 65 ≤ n && n ≤ 70 then some (n - 55)
  else if 97 ≤ n && n ≤ 102 then some (n - 87)
  else none

/-- The code unit of four hexadecimal digits. -/
def unit? (a b c d : Char) : Option Nat := do
  let a ← hexDigit? a
  let b ← hexDigit? b
  let c ← hexDigit? c
  let d ← hexDigit? d
  pure (((a * 16 + b) * 16 + c) * 16 + d)

/-- The character of an escape other than a code unit. -/
def escaped? (c : Char) : Option Char :=
  match c with
  | '"' => some '"'
  | '\\' => some '\\'
  | '/' => some '/'
  | 'b' => some (Char.ofNat 8)
  | 'f' => some (Char.ofNat 12)
  | 'n' => some '\n'
  | 'r' => some '\r'
  | 't' => some '\t'
  | _ => none

/-- The character of a high and a low surrogate. -/
def pair? (high low : Nat) : Option Char :=
  if 0xD800 ≤ high ∧ high < 0xDC00 ∧ 0xDC00 ≤ low ∧ low < 0xE000 then
    some (Char.ofNat (0x10000 + (high - 0xD800) * 0x400 + (low - 0xDC00)))
  else none

/-- Reads a text up to its closing mark; what was read is kept in reverse. -/
def string (read : List Char) : List Char → Option (String × List Char)
  | [] => none
  | '"' :: rest => some (String.ofList read.reverse, rest)
  | '\\' :: 'u' :: a :: b :: c :: d :: '\\' :: 'u' :: e :: f :: g :: h :: rest =>
    match unit? a b c d with
    | none => none
    | some high =>
      match (unit? e f g h).bind (pair? high) with
      | some paired => string (paired :: read) rest
      | none => string (Char.ofNat high :: read) ('\\' :: 'u' :: e :: f :: g :: h :: rest)
  | '\\' :: 'u' :: a :: b :: c :: d :: rest =>
    match unit? a b c d with
    | none => none
    | some code => string (Char.ofNat code :: read) rest
  | '\\' :: c :: rest =>
    match escaped? c with
    | none => none
    | some plain => string (plain :: read) rest
  | c :: rest => if c.toNat < 0x20 || c == '\\' then none else string (c :: read) rest

/-- The ASCII digits in front, and what follows them. -/
def digits (s : List Char) : List Nat × List Char :=
  (s.takeWhile isAsciiDigit |>.filterMap asciiDigit?, s.dropWhile isAsciiDigit)

/-- The digits after a point, if a point and a digit come next. -/
def fraction (s : List Char) : Option (List Nat) × List Char :=
  match s with
  | '.' :: rest =>
    match digits rest with
    | ([], _) => (none, s)
    | (ds, after) => (some ds, after)
  | _ => (none, s)

/-- The exponent, if an exponent mark and a digit come next. -/
def exponent (s : List Char) : Option Int × List Char :=
  let signed (negative : Bool) (rest : List Char) : Option Int × List Char :=
    match digits rest with
    | ([], _) => (none, s)
    | (ds, after) =>
      let n : Int := readDigits 0 ds
      (some (if negative then -n else n), after)
  match s with
  | mark :: rest =>
    if mark == 'e' || mark == 'E' then
      match rest with
      | '+' :: more => signed false more
      | '-' :: more => signed true more
      | _ => signed false rest
    else (none, s)
  | [] => (none, s)

/-- Reads a number without its sign. A leading zero stands alone. -/
def number (negative : Bool) (s : List Char) : Option (Json × List Char) :=
  let whole := match s with
    | '0' :: rest => ([0], rest)
    | _ => digits s
  match whole with
  | ([], _) => none
  | (ds, rest) =>
    match fraction rest with
    | (decimals, afterPoint) =>
      match exponent afterPoint with
      | (power, after) =>
        if decimals.isNone && power.isNone then
          if digitLimit < ds.length then none
          else
            let n : Int := readDigits 0 ds
            some (.int (if negative then -n else n), after)
        else
          let all := ds ++ decimals.getD []
          let value := Binary64.ofDecimal negative (readDigits 0 all)
            (Nat.toDigits 10 (readDigits 0 all)).length
            (power.getD 0 - (decimals.getD []).length)
          some (.real value, after)

/-- What follows a word in front. -/
def after? (word : String) (s : List Char) : Option (List Char) :=
  if word.toList.isPrefixOf s then some (s.drop word.length) else none

/-- Reads a word that stands for a value. -/
def word (s : List Char) : Option (Json × List Char) :=
  (after? "null" s).map (Json.null, ·) <|>
    (after? "true" s).map (Json.bool true, ·) <|>
    (after? "false" s).map (Json.bool false, ·) <|>
    (after? "NaN" s).map (Json.real .nan, ·) <|>
    (after? "Infinity" s).map (Json.real (.infinite false), ·) <|>
    (after? "-Infinity" s).map (Json.real (.infinite true), ·)

mutual

/-- Reads one value; the fuel bounds the depth and the number of values read. -/
def value : Nat → List Char → Option (Json × List Char)
  | 0, _ => none
  | fuel + 1, s =>
    match skipSpace s with
    | [] => none
    | '"' :: rest => (string [] rest).map fun (t, after) ↦ (.text t, after)
    | '[' :: rest =>
      match skipSpace rest with
      | ']' :: after => some (.list [], after)
      | _ => (items fuel rest).map fun (values, after) ↦ (.list values, after)
    | '{' :: rest =>
      match skipSpace rest with
      | '}' :: after => some (.object [], after)
      | _ => (members fuel [] rest).map fun (values, after) ↦ (.object values, after)
    | '-' :: rest => number true rest <|> word ('-' :: rest)
    | c :: rest => if isAsciiDigit c then number false (c :: rest) else word (c :: rest)

/-- Reads the items of a list up to its closing bracket. -/
def items : Nat → List Char → Option (List Json × List Char)
  | 0, _ => none
  | fuel + 1, s =>
    match value fuel s with
    | none => none
    | some (first, rest) =>
      match skipSpace rest with
      | ']' :: after => some ([first], after)
      | ',' :: more => (items fuel more).map fun (values, after) ↦ (first :: values, after)
      | _ => none

/-- Reads the members of an object up to its closing brace. -/
def members : Nat → Members → List Char → Option (Members × List Char)
  | 0, _, _ => none
  | fuel + 1, known, s =>
    match skipSpace s with
    | '"' :: rest =>
      match string [] rest with
      | none => none
      | some (name, afterName) =>
        match skipSpace afterName with
        | ':' :: valueText =>
          match value fuel valueText with
          | none => none
          | some (member, afterValue) =>
            match skipSpace afterValue with
            | '}' :: after => some (known.set name member, after)
            | ',' :: more => members fuel (known.set name member) more
            | _ => none
        | _ => none
    | _ => none

end

end StreamAudit.Json.Reader

namespace StreamAudit.Json

open StreamAudit.Number

/-- Reads a JSON text. -/
def read? (s : String) : Option Json :=
  match Reader.value (s.length + 1) s.toList with
  | some (value, rest) => if (Reader.skipSpace rest).isEmpty then some value else none
  | none => none

end StreamAudit.Json
