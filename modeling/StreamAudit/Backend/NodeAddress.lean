import StreamAudit.Text.Digit
import StreamAudit.Text.LetterCase
import StreamAudit.Text.Percent
import StreamAudit.Text.Split
import StreamAudit.Text.WordCharacter

/-!
Addresses of the nodes of a search index, `scheme://user@host:port/path?query#fragment`. A node can
be reached if its address names a scheme, a host and a port. A host is a name, a dotted number, or a
longer one in brackets, which may name its zone.
-/

set_option autoImplicit false
set_option relaxedAutoImplicit false

namespace StreamAudit.Backend.NodeAddress

open StreamAudit.Text

/-- Whether a character may stand in a scheme. -/
def isSchemeChar (c : Char) : Bool :=
  c.isAlphanum || c == '+' || c == '-'

/-- The scheme and the text behind its colon, if there is one. A text that starts with a slash has
none. -/
def splitScheme? (s : List Char) : Option (List Char × List Char) :=
  match s.head?, s.dropWhile isSchemeChar with
  | some c, ':' :: rest => if c.isAlpha then some (s.takeWhile isSchemeChar, rest) else none
  | _, _ => none

/-- Whether names of hosts are checked under a scheme. -/
def checksNames (scheme : List Char) : Bool :=
  let name := String.ofList scheme
  sameButAsciiCase name "http" || sameButAsciiCase name "https"

/-- The text between the slashes and the path, the query or the fragment. -/
def authority? : List Char → Option (List Char)
  | '/' :: '/' :: rest => some (rest.takeWhile fun c ↦ !"/\\?#".toList.contains c)
  | _ => none

/-- The text behind the last mark of a user. -/
def afterUser (s : List Char) : List Char :=
  (s.reverse.takeWhile (· != '@')).reverse

/-- Whether a text is a run of characters of a name, or of percent signs with two digits behind
them. -/
def isNamed (isPlain : Char → Bool) : List Char → Bool
  | [] => true
  | '%' :: a :: b :: rest =>
    ((Percent.hexValue? a).isSome && (Percent.hexValue? b).isSome && isNamed isPlain rest)
  | c :: rest => isPlain c && isNamed isPlain rest

/-- Whether a character may stand in the name of a host. -/
def isHostChar (c : Char) : Bool :=
  !"[]%:/?#".toList.contains c

/-- Ranges of letters and digits that are other forms of plainer ones and stand in no name: raised
and lowered ones, those in circles, ligatures, wide and narrow ones. -/
def otherForms : List (Nat × Nat) :=
  [(0xAA, 0xBE), (0x2070, 0x209C), (0x2100, 0x2189), (0x2460, 0x249B), (0x24B6, 0x24FF),
    (0x3131, 0x318E), (0x3220, 0x33FF), (0xF900, 0xFA0D), (0xFB00, 0xFB4F), (0xFB50, 0xFDFB),
    (0xFE70, 0xFEFC), (0xFF10, 0xFFDC), (0x1D400, 0x1D7FF)]

/-- Whether a character beyond ASCII may stand in a checked name. -/
def isCheckedChar (c : Char) : Bool :=
  isWordCharacter c && !otherForms.any fun (first, last) ↦ first ≤ c.toNat && c.toNat ≤ last

/-- Whether a label of a host has characters beyond ASCII only where letters and digits of any
script stand, and no others beside them but hyphens within, of which the third and the fourth are
not both one. -/
def isLabel (label : List Char) : Bool :=
  label.all (·.toNat < 128) ||
    (label.all fun c ↦ if c.toNat < 128 then c.isAlphanum || c == '-' else isCheckedChar c) &&
      label.head? != some '-' && label.getLast? != some '-' && (label.drop 2).take 2 != ['-', '-']

/-- Whether a text is the name of a host, whose labels may be checked. -/
def isName (checked : Bool) (s : List Char) : Bool :=
  isNamed isHostChar s && (!checked || (splitAt '.' s).all isLabel)

/-- Whether a text is a group of a number in brackets. -/
def isGroup (s : List Char) : Bool :=
  1 ≤ s.length && s.length ≤ 4 && s.all fun c ↦ (Percent.hexValue? c).isSome

/-- Whether a text is a dotted number. -/
def isDotted (s : List Char) : Bool :=
  let parts := splitAt '.' s
  parts.length == 4 && parts.all fun part ↦
    1 ≤ part.length && part.length ≤ 3 && part.all isAsciiDigit

/-- How many groups a run of groups between colons has; a dotted number at its end counts for
two. -/
def groupCount? (mayBeDotted : Bool) (s : List Char) : Option Nat :=
  if s.isEmpty then some 0
  else
    let parts := splitAt ':' s
    if parts.all isGroup then some parts.length
    else if mayBeDotted && parts.dropLast.all isGroup && (parts.getLast?.any isDotted) then
      some (parts.length + 1)
    else none

/-- The parts before and behind the first pair of colons. -/
def splitAtPair? : List Char → Option (List Char × List Char)
  | ':' :: ':' :: rest => some ([], rest)
  | c :: rest => (splitAtPair? rest).map fun (front, back) ↦ (c :: front, back)
  | [] => none

/-- Whether a text is a number of eight groups, some of which a pair of colons may stand for. -/
def isLongNumber (s : List Char) : Bool :=
  match splitAtPair? s with
  | none => groupCount? true s == some 8
  | some (front, back) =>
    match groupCount? false front, groupCount? true back with
    | some before, some after => before + after ≤ 7
    | _, _ => false

/-- Whether a character may stand in the name of a zone. -/
def isZoneChar (c : Char) : Bool :=
  c.isAlphanum || ['.', '_', '-', '~'].contains c

/-- Whether a text is a number in brackets with its zone, if it names one. -/
def isBracketed (s : List Char) : Bool :=
  let number := s.takeWhile (· != '%')
  isLongNumber number &&
    match s.dropWhile (· != '%') with
    | [] => true
    | '%' :: '2' :: '5' :: c :: zone => isNamed isZoneChar (c :: zone)
    | '%' :: c :: zone => isNamed isZoneChar (c :: zone)
    | _ => false

/-- Whether a text is a host that is not empty. -/
def isHost (checked : Bool) (s : List Char) : Bool :=
  match s with
  | [] => false
  | '[' :: rest => rest.getLast? == some ']' && isBracketed rest.dropLast
  | _ => isName checked s

/-- Whether a text is a port: digits, up to five behind zeros, below 65536. A line may end behind
it. -/
def isPort (s : List Char) : Bool :=
  let digits := if s.getLast? == some '\n' then s.dropLast else s
  !digits.isEmpty && (digits.dropWhile (· == '0')).length ≤ 5 &&
    match digits.mapM asciiDigit? with
    | some ds => readDigits 0 ds ≤ 65535
    | none => false

/-- Whether a text is a host with a port behind its last colon. -/
def isHostWithPort (checked : Bool) (s : List Char) : Bool :=
  let port := (s.reverse.takeWhile (· != ':')).reverse
  let host := s.take (s.length - port.length - 1)
  s.contains ':' && isPort port && isHost checked host

/-- Whether an address names a scheme, a host and a port. -/
def isComplete (url : String) : Bool :=
  match splitScheme? url.toList with
  | some (scheme, rest) =>
    (authority? rest).any fun authority ↦ isHostWithPort (checksNames scheme) (afterUser authority)
  | none => false

end StreamAudit.Backend.NodeAddress
