import StreamAudit.Calendar.Moment
import StreamAudit.Json.Spelling
import StreamAudit.Text.Blank

/-!
Bucket labels. A precision says how much of a moment a label shows: seconds, hours or days. A label
is written with the year unpadded and every other part in two digits, and it is read from the front
of a longer label: the text is trimmed, cut to the width of the precision and read part by part,
each part by the first of its shapes that fits.
-/

set_option autoImplicit false
set_option relaxedAutoImplicit false

namespace StreamAudit

open StreamAudit.Calendar StreamAudit.Text

/-- How much of a moment a label shows. -/
inductive Precision where
  | second
  | hour
  | day
deriving DecidableEq, Repr

namespace Label

/-- What one character of a part may be. -/
inductive Slot where
  | between (low high : Nat)
  | digit
  | space
deriving DecidableEq

/-- The value of a character in a slot, nothing if it does not fit; a space is worth zero. -/
def Slot.read? : Slot → Char → Option Nat
  | .between low high, c => (asciiDigit? c).filter fun d ↦ low ≤ d && d ≤ high
  | .digit, c => digit? c
  | .space, c => if c = ' ' then some 0 else none

/-- The slots of one way to write a part. -/
abbrev Shape :=
  List Slot

/-- The parts of a label; the shapes of a part are tried in order. -/
inductive Part where
  | number (shapes : List Shape)
  | mark (c : Char)
  | gap

/-- A year has four digits. -/
def yearPart : Part :=
  .number [[.digit, .digit, .digit, .digit]]

/-- A month has one digit or two. -/
def monthPart : Part :=
  .number [[.between 1 1, .between 0 2], [.between 0 0, .between 1 9], [.between 1 9]]

/-- A day of the month has two digits, or one that may follow a space. -/
def dayPart : Part :=
  .number [[.between 3 3, .between 0 1], [.between 1 2, .digit], [.between 0 0, .between 1 9],
    [.between 1 9], [.space, .between 1 9]]

/-- An hour has one digit or two. -/
def hourPart : Part :=
  .number [[.between 2 2, .between 0 3], [.between 0 1, .digit], [.digit]]

/-- A minute has one digit or two. -/
def minutePart : Part :=
  .number [[.between 0 5, .digit], [.digit]]

/-- A second has one digit or two, and may be a leap second as far as its shape goes. -/
def secondPart : Part :=
  .number [[.between 6 6, .between 0 1], [.between 0 5, .digit], [.digit]]

/-- Reads the front of a text by a shape: its value and the rest. -/
def Shape.read? (value : Nat) : Shape → List Char → Option (Nat × List Char)
  | [], rest => some (value, rest)
  | _ :: _, [] => none
  | slot :: slots, c :: rest =>
    match slot.read? c with
    | some d => Shape.read? (value * 10 + d) slots rest
    | none => none

/-- Reads a label part by part to its end and gives the values of its numbers. -/
def readParts : List Part → List Char → Option (List Nat)
  | [], [] => some []
  | [], _ :: _ => none
  | .number shapes :: parts, s =>
    match shapes.findSome? (Shape.read? 0 · s) with
    | some (value, rest) => (readParts parts rest).map (value :: ·)
    | none => none
  | .mark m :: parts, s =>
    match s with
    | c :: rest => if c = m then readParts parts rest else none
    | [] => none
  | .gap :: parts, s =>
    match s with
    | c :: rest => if isBlank c then readParts parts (rest.dropWhile isBlank) else none
    | [] => none

end Label

namespace Precision

open StreamAudit.Label

/-- The notation of the precision as it stands in messages. -/
def pattern : Precision → String
  | .second => "%Y-%m-%d %H:%M:%S"
  | .hour => "%Y-%m-%d %H"
  | .day => "%Y-%m-%d"

/-- The length of a label with a year of four digits. -/
def width : Precision → Nat
  | .second => 19
  | .hour => 13
  | .day => 10

/-- The parts of a label. -/
def parts : Precision → List Part
  | .second =>
    [yearPart, .mark '-', monthPart, .mark '-', dayPart, .gap, hourPart, .mark ':', minutePart,
      .mark ':', secondPart]
  | .hour => [yearPart, .mark '-', monthPart, .mark '-', dayPart, .gap, hourPart]
  | .day => [yearPart, .mark '-', monthPart, .mark '-', dayPart]

/-- The label of a moment. -/
def render (precision : Precision) (moment : Moment) : String :=
  let front := Nat.toDigits 10 moment.date.year ++ '-' :: twoDigits moment.date.month ++
    '-' :: twoDigits moment.date.day
  match precision with
  | .second => String.ofList (front ++ ' ' :: Moment.clockText moment.time)
  | .hour => String.ofList (front ++ ' ' :: twoDigits moment.time.hour)
  | .day => String.ofList front

/-- The moment of the values of a label. -/
def momentOf? : List Nat → Option Moment
  | [y, m, d] => do pure ⟨← Date.of? y m d, .midnight⟩
  | [y, m, d, h] => do pure ⟨← Date.of? y m d, ← TimeOfDay.of? h 0 0 0⟩
  | [y, m, d, h, mins, secs] => do pure ⟨← Date.of? y m d, ← TimeOfDay.of? h mins secs 0⟩
  | _ => none

/-- Reads a whole text as a label of the precision. -/
def readAll? (precision : Precision) (s : List Char) : Option Moment :=
  (readParts precision.parts s).bind momentOf?

/-- Reads the front of a text as a label of the precision. -/
def read? (precision : Precision) (s : String) : Option Moment :=
  precision.readAll? ((trimList isBlank s.toList).take precision.width)

/-- Why a value is no label of the precision. -/
def mismatch (precision : Precision) (value : Json) : String :=
  "log time " ++ value.spelled ++ " does not match " ++ quoted precision.pattern

/-- The label that a value has under the precision; a value that is no text has none. -/
def relabel? (precision : Precision) : Json → Option String
  | .text s => (precision.read? s).map precision.render
  | _ => none

end Precision

end StreamAudit
