import StreamAudit.Sql.Value

/-!
Times as texts and numbers. A time is read from a date, a clock time, both, or a number of days, may
be moved by modifiers, and is written by a pattern. Times are counted in milliseconds from noon of
the first day of the Julian period. What was read shows as it was written until a modifier counts
with it: a day behind the end of its month, an hour of 24, and a last fraction of a second that the
count rounds up to the next one. What is no time gives null.
-/

set_option autoImplicit false
set_option relaxedAutoImplicit false

namespace StreamAudit.Sql.Clock

open StreamAudit.Number StreamAudit.Text

/-- The milliseconds of a day. -/
def day : Int :=
  86400000

/-- The first count that is no time, behind the last day of the year 9999. -/
def limit : Int :=
  464269060800000

/-- The count of the first moment of 1970. -/
def epoch : Int :=
  210866760000000

/-- The number of a day of the Gregorian calendar; a day behind the end of its month is one of the
next. -/
def dayNumber (year month dayOfMonth : Int) : Int :=
  let late := (14 - month) / 12
  let y := year + 4800 - late
  let m := month + 12 * late - 3
  dayOfMonth + (153 * m + 2) / 5 + 365 * y + y / 4 - y / 100 + y / 400 - 32045

/-- The year, the month and the day of a number of days. -/
def civil (number : Int) : Int × Int × Int :=
  let a := number + 32044
  let b := (4 * a + 3) / 146097
  let c := a - 146097 * b / 4
  let d := (4 * c + 3) / 1461
  let e := c - 1461 * d / 4
  let m := (5 * e + 2) / 153
  (100 * b + d - 4800 + m / 10, m + 3 - 12 * (m / 10), e - (153 * m + 2) / 5 + 1)

/-- The number of the day in which a count lies. -/
def dayOfCount (count : Int) : Int :=
  (count + day / 2) / day

/-- What the hands of a clock show, and the nearest number of milliseconds since midnight. -/
structure Hands where
  hour : Int
  minute : Int
  second : Int
  millis : Int

namespace Hands

/-- The hands at a number of milliseconds since midnight. -/
def ofMillis (millis : Int) : Hands :=
  ⟨millis / 3600000, millis / 60000 % 60, millis / 1000 % 60, millis⟩

/-- The milliseconds of the minute that is shown, short of the next one. -/
def inMinute (hands : Hands) : Int :=
  min (hands.millis - 3600000 * hands.hour - 60000 * hands.minute) 59999

end Hands

/-- A date, the hands of a clock, and the count of the moment. The year may have a sign. -/
structure Time where
  year : Int
  month : Int
  dayOfMonth : Int
  hands : Hands
  count : Int

namespace Time

/-- The time of a day at some position of the hands. -/
def ofParts (year month dayOfMonth : Int) (hands : Hands) : Time where
  year
  month
  dayOfMonth
  hands
  count := dayNumber year month dayOfMonth * day - day / 2 + hands.millis

/-- The time of a count, at any position of the hands. -/
def shownBy (hands : Hands) (count : Int) : Time :=
  let (year, month, dayOfMonth) := civil (dayOfCount count)
  ⟨year, month, dayOfMonth, hands, count⟩

/-- The time of a count. -/
def ofCount (count : Int) : Time :=
  shownBy (.ofMillis ((count + day / 2) % day)) count

/-- The start of a day. -/
def midnight (year month dayOfMonth : Int) : Time :=
  ofParts year month dayOfMonth (.ofMillis 0)

/-- The time if its year is one that days are counted in. -/
def checked? (time : Time) : Option Time :=
  if time.year < -4713 ∨ 9999 < time.year then none else some time

/-- The time that many milliseconds later. -/
def later (time : Time) (millis : Int) : Time :=
  ofCount (time.count + millis)

end Time

/-- A number of so many digits in a range, and what follows it. -/
def digits? (width low high : Nat) (s : List Char) : Option (Int × List Char) := do
  let front := s.take width
  let n := readDigits 0 (← front.mapM asciiDigit?)
  guard (front.length = width && low ≤ n && n ≤ high)
  pure (n, s.drop width)

/-- What follows a character that must stand in front. -/
def after? (c : Char) : List Char → Option (List Char)
  | d :: rest => if d = c then some rest else none
  | [] => none

/-- The minutes by which a clock is ahead, at the end of a text. -/
def offset? (s : List Char) : Option Int :=
  match s.dropWhile isSpace with
  | [] => some 0
  | mark :: rest =>
    if mark = 'Z' ∨ mark = 'z' then (if (rest.dropWhile isSpace).isEmpty then some 0 else none)
    else if mark = '+' ∨ mark = '-' then do
      let (hours, s) ← digits? 2 0 14 rest
      let (minutes, s) ← digits? 2 0 59 (← after? ':' s)
      guard (s.dropWhile isSpace).isEmpty
      let ahead := 60 * hours + minutes
      pure (if mark = '-' then -ahead else ahead)
    else none

/-- The seconds, the milliseconds nearest to them and their fraction, and what follows. -/
def seconds? (s : List Char) : Option (Int × Int × List Char) := do
  let (whole, rest) ← digits? 2 0 59 s
  match rest with
  | '.' :: c :: more =>
    if isAsciiDigit c then
      let front := (c :: more).takeWhile isAsciiDigit
      let n := readDigits 0 (front.filterMap asciiDigit?)
      let scale := Nat.pow 10 front.length
      pure (whole, 1000 * whole + ((2000 * n + scale) / (2 * scale) : Nat),
        (c :: more).dropWhile isAsciiDigit)
    else pure (whole, 1000 * whole, rest)
  | _ => pure (whole, 1000 * whole, rest)

/-- The hands of a clock, and the minutes by which it is ahead. -/
def timeOfDay? (s : List Char) : Option (Hands × Int) := do
  let (hour, s) ← digits? 2 0 24 s
  let (minute, s) ← digits? 2 0 59 (← after? ':' s)
  let (second, millis, s) ← match s with
    | ':' :: rest => seconds? rest
    | _ => some (0, 0, s)
  pure (⟨hour, minute, second, 3600000 * hour + 60000 * minute + millis⟩, ← offset? s)

/-- The time of a date that may be followed by a time of day. -/
def ofDate? (s : List Char) : Option Time := do
  let (negative, s) := match s with
    | '-' :: rest => (true, rest)
    | other => (false, other)
  let (year, s) ← digits? 4 0 9999 s
  let (month, s) ← digits? 2 1 12 (← after? '-' s)
  let (dayOfMonth, s) ← digits? 2 1 31 (← after? '-' s)
  let rest := s.dropWhile fun c ↦ isSpace c || c = 'T'
  let (hands, ahead) ← if rest.isEmpty then some (.ofMillis 0, 0) else timeOfDay? rest
  let year := if negative then -year else year
  let time ← (Time.ofParts year month dayOfMonth hands).checked?
  pure (if ahead = 0 then time else time.later (-(60000 * ahead)))

/-- What was read as a time: a time, the hands of a clock without a date, which stand for a time of
the first day of the year 2000, or a number whose unit a modifier may still tell. -/
inductive Given where
  | known (time : Time)
  | clock (hands : Hands)
  | number (x : Binary64)

/-- What the hands of a clock say that is ahead by some minutes. -/
def Given.ofClock (hands : Hands) (ahead : Int) : Given :=
  if ahead = 0 then .clock hands
  else .known ((Time.ofParts 2000 1 1 hands).later (-(60000 * ahead)))

/-- The integer nearest to a finite double, a half upward in magnitude. -/
def nearest (x : Binary64) : Int :=
  let half := Binary64.ofRatio false 1 2
  ((if x.isPositive then x.add half else x.add half.negate).truncate?).getD 0

/-- What a value says as a time. -/
def read? : Value → Option Given
  | .null => none
  | .whole n => some (.number (.ofInt n))
  | .real x => some (.number x)
  | other =>
    let s := ((other.text?).getD "").toList
    match (ofDate? s).map Given.known <|> (timeOfDay? s).map fun read ↦ .ofClock read.1 read.2 with
    | some given => some given
    | none =>
      let numeral := Numeral.scan s
      if numeral.isAll then some (.number numeral.real) else none

/-- Whether a count is one of a time. -/
def isCount (count : Int) : Bool :=
  0 ≤ count && count < limit

/-- The time of a number of days, if it is one. -/
def ofDays? (x : Binary64) : Option Time :=
  let count := nearest (x.scale day.toNat)
  if x.truncate?.isSome ∧ isCount count then some (.ofCount count) else none

/-- The time of a number of seconds since 1970. -/
def ofSeconds? (x : Binary64) : Option Time :=
  let count := nearest ((x.scale 1000).add (.ofInt epoch))
  if x.truncate?.isSome ∧ isCount count then some (.ofCount count) else none

/-- The time that was read, from days if nothing tells another unit. -/
def Given.time? : Given → Option Time
  | .known time => some time
  | .clock hands => some (.ofParts 2000 1 1 hands)
  | .number x => ofDays? x

/-- The time that nothing modifies. Hands without a date show on the day in which their count
lies. -/
def Given.settled (given : Given) (time : Time) : Time :=
  match given with
  | .clock hands => .shownBy hands time.count
  | _ => time

/-- The time some months later; a day behind the end of a month is one of the next. -/
def Time.monthsLater? (time : Time) (months : Int) : Option Time :=
  let total := 12 * time.year + (time.month - 1) + months
  (Time.ofParts (total / 12) (total % 12 + 1) time.dayOfMonth time.hands).checked?

/-- The units of a move in seconds, with the months that each stands for. -/
def units : List (String × Nat × Int) :=
  [("second", 1, 0), ("minute", 60, 0), ("hour", 3600, 0), ("day", 86400, 0), ("month", 2592000, 1),
    ("year", 31536000, 12)]

/-- The time moved by a number of units. -/
def moved? (s : List Char) (time : Time) : Option Time := do
  let front := s.takeWhile fun c ↦ !isSpace c && c ≠ ':'
  let numeral := Numeral.scan front
  let rest := s.drop front.length
  if rest.head? = some ':' then
    let (negative, clock) := match s with
      | '-' :: more => (true, more)
      | '+' :: more => (false, more)
      | other => (false, other)
    let (hands, ahead) ← timeOfDay? clock
    let millis := (hands.millis - 60000 * ahead) % day
    pure (time.later (if negative then -millis else millis))
  else
    guard numeral.isAll
    let word := rest.dropWhile isSpace
    let word := match word.reverse with
      | 's' :: more | 'S' :: more => more.reverse
      | _ => word
    let (_, seconds, months) ← units.find? fun unit ↦ sameButAsciiCase unit.1 (String.ofList word)
    let x := numeral.real
    if months = 0 then pure (time.later (nearest ((x.scale 1000).scale seconds)))
    else
      let moved ← time.monthsLater? (months * (← x.truncate?))
      pure (moved.later (nearest ((x.fraction.scale 1000).scale seconds)))

/-- The time after a modifier in small letters. -/
def modified? (modifier : String) (time : Time) : Option Time :=
  match modifier with
  | "start of day" => some (.midnight time.year time.month time.dayOfMonth)
  | "start of month" => some (.midnight time.year time.month 1)
  | "start of year" => some (.midnight time.year 1 1)
  | "localtime" | "utc" => some (.ofCount time.count)
  | other =>
    if other.startsWith "weekday " then do
      let .whole wanted ← Sql.number? (String.ofList (other.toList.drop 8)) | none
      guard (0 ≤ wanted && wanted ≤ 6)
      let today := (dayOfCount time.count + 1) % 7
      pure (time.later (day * ((wanted - today) % 7)))
    else
      match other.toList with
      | c :: _ => if c = '+' ∨ c = '-' ∨ isAsciiDigit c then moved? other.toList time else none
      | [] => none

/-- The time after the modifiers behind it. The first may tell the unit of a number. -/
def Given.modified? (given : Given) (modifiers : List Value) : Option Time := do
  let words ← modifiers.mapM fun modifier ↦
    modifier.text?.map fun s ↦ String.ofList (s.toList.map lowerAscii)
  let (start, rest) ← match given, words with
    | .number x, "unixepoch" :: rest => (ofSeconds? x).map fun time ↦ (time, rest)
    | .number x, "julianday" :: rest => (ofDays? x).map fun time ↦ (time, rest)
    | .number x, "auto" :: rest => (ofDays? x <|> ofSeconds? x).map fun time ↦ (time, rest)
    | _, "auto" :: rest => given.time?.map fun time ↦ (time, rest)
    | _, _ => given.time?.map fun time ↦ (time, words)
  let time ←
    if rest.isEmpty then some (given.settled start)
    else rest.foldlM (fun time word ↦ Clock.modified? word time) start
  guard (isCount time.count)
  pure time

/-- A number with zeros in front of it. -/
def padded (width : Nat) (n : Int) : List Char :=
  let shown := Nat.toDigits 10 n.natAbs
  (if n < 0 then ['-'] else []) ++ List.replicate (width - shown.length) '0' ++ shown

/-- What a mark of a pattern stands for. -/
def field? (mark : Char) (time : Time) : Option (List Char) :=
  let number := dayOfCount time.count
  let dayOfYear := dayOfCount (time.count - (Time.ofParts time.year 1 1 time.hands).count)
  let hands := time.hands
  match mark with
  | 'd' => some (padded 2 time.dayOfMonth)
  | 'f' => some (padded 2 (hands.inMinute / 1000) ++ '.' :: padded 3 (hands.inMinute % 1000))
  | 'H' => some (padded 2 hands.hour)
  | 'j' => some (padded 3 (dayOfYear + 1))
  | 'J' => some ((Value.real (.ofRatio false time.count.toNat day.toNat)).text?.getD "").toList
  | 'm' => some (padded 2 time.month)
  | 'M' => some (padded 2 hands.minute)
  | 's' => some (toString ((time.count - epoch).fdiv 1000)).toList
  | 'S' => some (padded 2 hands.second)
  | 'w' => some (padded 1 ((number + 1) % 7))
  | 'W' => some (padded 2 ((dayOfYear + 7 - number % 7) / 7))
  | 'Y' => some (padded 4 time.year)
  | '%' => some ['%']
  | _ => none

/-- A time written by a pattern, none if a mark has no meaning. -/
def written? (time : Time) : List Char → Option (List Char)
  | '%' :: mark :: rest => do pure ((← field? mark time) ++ (← written? time rest))
  | ['%'] => none
  | c :: rest => (written? time rest).map (c :: ·)
  | [] => some []

/-- A value as a time under modifiers. -/
def time? (value : Value) (modifiers : List Value) : Option Time :=
  (read? value).bind fun given ↦ given.modified? modifiers

/-- A time written by a pattern, null for what is none. -/
def pattern (shape : String) (value : Value) (modifiers : List Value) : Value :=
  (((time? value modifiers).bind fun time ↦ written? time shape.toList).map fun s ↦
    Value.text (String.ofList s)).getD .null

/-- The days of a time in the Julian period. -/
def julianDay (value : Value) (modifiers : List Value) : Value :=
  ((time? value modifiers).map fun time ↦
    Value.real (.ofRatio false time.count.toNat day.toNat)).getD .null

/-- The seconds of a time since 1970. -/
def unixSeconds (value : Value) (modifiers : List Value) : Value :=
  ((time? value modifiers).map fun time ↦ Value.whole ((time.count - epoch).fdiv 1000)).getD .null

end StreamAudit.Sql.Clock
