import StreamAudit.Form.Checked
import StreamAudit.Number.DecimalText
import StreamAudit.Number.IntegerText
import StreamAudit.Number.Word
import StreamAudit.Text.LetterCase

/-!
Numbers and flags in forms. An integer may come as an integer, a flag, a double without fraction or
a text; the text may have white space around, leading zeros, low lines between digits and a decimal
point with zeros after it. A double may come as a text with white space around or with low lines in
it, not with both. A flag may come as a number or as one of a few words.
-/

set_option autoImplicit false
set_option relaxedAutoImplicit false

namespace StreamAudit.Form

open StreamAudit.Number StreamAudit.Text

/-- Drops leading zeros and keeps the last character of a run of them. A low line may follow a zero,
and so may a minus sign. -/
def dropLeadingZeros (last : Char) : List Char → Option (List Char)
  | [] => some [last]
  | c :: rest =>
    if c == '0' || c == '_' then dropLeadingZeros c rest
    else if isAsciiDigit c || c == '-' then some (c :: rest)
    else if c == '.' then some (last :: c :: rest)
    else none

/-- A number without its leading zeros; another digit or a minus sign in front leaves it as it
is. -/
def withoutLeadingZeros : List Char → Option (List Char)
  | [] => none
  | c :: rest =>
    if c == '0' then dropLeadingZeros c rest
    else if isAsciiDigit c || c == '-' then some (c :: rest)
    else none

/-- Drops a decimal point with one or more zeros and nothing else after it. -/
def withoutZeroFraction (s : List Char) : List Char :=
  match s.dropWhile (· != '.') with
  | _ :: zeros =>
    if !zeros.isEmpty && zeros.all (· == '0') then s.takeWhile (· != '.') else s
  | [] => s

/-- Whether two low lines meet. -/
def hasDoubleLine : List Char → Bool
  | '_' :: '_' :: _ => true
  | _ :: rest => hasDoubleLine rest
  | [] => false

/-- Drops single low lines between other characters. -/
def withoutLines? (s : List Char) : Option (List Char) :=
  if s.head? == some '_' || s.getLast? == some '_' || hasDoubleLine s then none
  else some (s.filter (· != '_'))

/-- A number without its plus sign or the zeros behind its sign. -/
def withoutSignedZeros : List Char → Option (List Char)
  | '+' :: '-' :: _ => none
  | '+' :: rest => withoutLeadingZeros rest
  | '-' :: rest => (withoutLeadingZeros rest).map ('-' :: ·)
  | other => withoutLeadingZeros other

/-- The natural number of digits without a leading zero, or of zero alone, that `taken` characters
stand before. The run of digits in front must not reach too far, whatever follows it. -/
def naturalOfDigits (taken : Nat) : List Char → Except Cause Nat
  | [] => .error .integerText
  | '0' :: rest => if rest.isEmpty then .ok 0 else .error .integerText
  | digits =>
    if digitLimit < taken + (digits.takeWhile isAsciiDigit).length then .error .integerTooLong
    else
      match digits.mapM asciiDigit? with
      | some ds => .ok (readDigits 0 ds)
      | none => .error .integerText

/-- The natural number of digits that low lines stood between. Nothing but its digits is counted
here. -/
def naturalOfParts (digits : List Char) : Except Cause Nat :=
  match digits.mapM asciiDigit? with
  | some ds => if digitLimit < ds.length then .error .integerText else .ok (readDigits 0 ds)
  | none => .error .integerText

/-- The integer of a text that may have a minus sign, by what its digits are. -/
def signedInteger (natural : Nat → List Char → Except Cause Nat) : List Char → Except Cause Int
  | '-' :: digits => (natural 1 digits).map fun n ↦ -(n : Int)
  | digits => (natural 0 digits).map Int.ofNat

/-- The integer of a text. With low lines in it only the digits before the first of them may be too
many to be read at all. -/
def integerOfText (s : String) : Except Cause Int :=
  match (withoutSignedZeros (trimList isWhiteSpace s.toList)).map withoutZeroFraction with
  | none => .error .integerText
  | some whole =>
    match withoutLines? whole with
    | none => .error .integerText
    | some plain =>
      if plain.length = whole.length then signedInteger naturalOfDigits plain
      else if digitLimit < (whole.takeWhile fun c ↦ c == '-' || isAsciiDigit c).length then
        .error .integerTooLong
      else signedInteger (fun _ ↦ naturalOfParts) plain

/-- The integer of a double without fraction, if it lies within 64 bits. -/
def integerOfReal (x : Binary64) : Except Cause Int :=
  match x.units?, x.integer? with
  | none, _ => .error .infinite
  | some _, none => .error .fractional
  | some _, some n => if -wordLimit < n ∧ n < wordLimit then .ok n else .error .integerTooLong

/-- An integer. -/
def integer : Reader Int :=
  leaf fun
    | .int n => .ok n
    | .bool b => .ok (if b then 1 else 0)
    | .real x => integerOfReal x
    | .text s => integerOfText s
    | _ => .error .noInteger

/-- A value that passes a test, or else is too small. -/
def above {α : Type} (test : α → Bool) (read : Reader α) : Reader α :=
  fun value ↦
    match read value with
    | .ok a => if test a then .ok a else refuse .tooSmall
    | .wrong all => .wrong all

/-- The words for yes. -/
def yesWords : List String :=
  ["1", "t", "y", "on", "yes", "true"]

/-- The words for no. -/
def noWords : List String :=
  ["0", "f", "n", "no", "off", "false"]

/-- The flag of a word in any case. -/
def flagOfText (word : String) : Except Cause Bool :=
  if yesWords.any (sameButAsciiCase word) then .ok true
  else if noWords.any (sameButAsciiCase word) then .ok false
  else .error .flagText

/-- The flag of an integer in 64 bits. -/
def flagOfInteger (n : Int) : Except Cause Bool :=
  if n = 0 then .ok false
  else if n = 1 then .ok true
  else if fitsWord n then .error .flagText
  else .error .noFlag

/-- A flag. -/
def flag : Reader Bool :=
  leaf fun
    | .bool b => .ok b
    | .text word => flagOfText word
    | .int n => flagOfInteger n
    | .real x =>
      match integerOfReal x with
      | .ok n => flagOfInteger n
      | .error _ => .error .noFlag
    | _ => .error .noFlag

/-- The double of a text: a decimal, or a word for an infinity or for no number. -/
def realOf? (s : List Char) : Option Binary64 :=
  let (negative, rest) := match s with
    | '-' :: more => (true, more)
    | '+' :: more => (false, more)
    | other => (false, other)
  let word := rest.map lowerAscii
  if word = "inf".toList ∨ word = "infinity".toList then some (.infinite negative)
  else if word = "nan".toList then some .nan
  else decimalOf? negative rest

/-- A double. -/
def real : Reader Binary64 :=
  leaf fun
    | .real x => .ok x
    | .int n => if (Binary64.ofInt n).units?.isSome then .ok (.ofInt n) else .error .noNumber
    | .bool b => .ok (.ofInt (if b then 1 else 0))
    | .text s =>
      match realOf? (trimList isWhiteSpace s.toList) <|> (withoutLines? s.toList).bind realOf? with
      | some x => .ok x
      | none => .error .numberText
    | _ => .error .noNumber

end StreamAudit.Form
