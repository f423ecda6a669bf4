import StreamAudit.Proofs.Backend.Relational
import StreamAudit.Proofs.Calendar.IsoInstant
import StreamAudit.Proofs.Number.IntegerText
import StreamAudit.Sql.Function.Basic

/-!
The minute of a row as the query language computes it. A log time is stored as a text down to its
microsecond, and the call that truncates the column reads the text and writes it by a pattern
(`ofDate?_storedText`, `written?_minute`). What it writes is the text of the minute under which the
row is summed, for all rows of a query whatever their fraction of a second (`value_minuteCall`).
-/

set_option autoImplicit false
set_option relaxedAutoImplicit false

namespace StreamAudit.Sql.Clock

open StreamAudit.Calendar StreamAudit.Number StreamAudit.Text

/-! ### Numbers in times -/

theorem asciiDigit?_digitChar_mod (n : Nat) : asciiDigit? (digitChar n) = some (n % 10) :=
  asciiDigit?_eq_some_iff_digitChar.mpr ⟨Nat.mod_lt n (by decide), (digitChar_mod n).symm⟩

theorem digits?_twoDigits {n low high : Nat} (hlow : low ≤ n) (hhigh : n ≤ high) (hn : n < 100)
    (rest : List Char) : digits? 2 low high (twoDigits n ++ rest) = some ((n : Int), rest) := by
  have hvalue : (n / 10 % 10) * 10 + n % 10 = n := by omega
  simp [digits?, twoDigits, asciiDigit?_digitChar_mod, readDigits, hvalue, hlow, hhigh]

theorem digits?_fourDigits {n low high : Nat} (hlow : low ≤ n) (hhigh : n ≤ high) (hn : n < 10000)
    (rest : List Char) : digits? 4 low high (fourDigits n ++ rest) = some ((n : Int), rest) := by
  have hvalue : (((n / 1000 % 10) * 10 + n / 100 % 10) * 10 + n / 10 % 10) * 10 + n % 10 = n := by
    omega
  simp [digits?, fourDigits, asciiDigit?_digitChar_mod, readDigits, hvalue, hlow, hhigh]

theorem after?_cons (c : Char) (rest : List Char) : after? c (c :: rest) = some rest :=
  if_pos rfl

theorem padded_two {n : Nat} (hn : n < 100) : padded 2 (n : Int) = twoDigits n := by
  have hsign : ¬ (n : Int) < 0 := by omega
  have hzero : '0' = digitChar 0 := by decide
  unfold padded twoDigits
  rw [if_neg hsign]
  rcases Nat.lt_or_ge n 10 with hone | hone
  · simp [toDigits_of_lt hone, Nat.div_eq_of_lt hone, ← hzero]
  · simp [toDigits_of_le hone, toDigits_of_lt (by omega : n / 10 < 10)]

theorem padded_four {n : Nat} (hn : n < 10000) : padded 4 (n : Int) = fourDigits n := by
  rw [← padded_eq_fourDigits hn]
  simp [padded, Text.padded]

theorem isAsciiDigit_of_mem_fixedDigits {count n : Nat} {c : Char}
    (h : c ∈ Iso.fixedDigits count n) : isAsciiDigit c = true := by
  induction count generalizing n with
  | zero => simp [Iso.fixedDigits] at h
  | succ count ih =>
    rcases List.mem_append.mp h with hfront | hlast
    · exact ih hfront
    · obtain rfl := List.mem_singleton.mp hlast
      exact isAsciiDigit_digitChar n

theorem readDigits_fixedDigits (count n : Nat) :
    readDigits 0 ((Iso.fixedDigits count n).filterMap asciiDigit?) = n % 10 ^ count := by
  induction count generalizing n with
  | zero => simp [Iso.fixedDigits, readDigits, Nat.mod_one]
  | succ count ih =>
    rw [Iso.fixedDigits, List.filterMap_append,
      show [digitChar n].filterMap asciiDigit? = [n % 10] by simp [asciiDigit?_digitChar_mod],
      readDigits_concat, ih, Nat.pow_succ', Nat.mod_mul]
    omega

theorem length_fixedDigits (count n : Nat) : (Iso.fixedDigits count n).length = count := by
  induction count generalizing n with
  | zero => rfl
  | succ count ih => rw [Iso.fixedDigits, List.length_append, ih, List.length_singleton]

/-! ### What is read of a stored time -/

/-- The milliseconds nearest to a number of microseconds, a half upward. -/
def nearestMillis (micro : Nat) : Nat :=
  (2000 * micro + 1000000) / 2000000

/-- The hands at a time of day. They stand where the fraction of the second has not yet moved
them. -/
def Hands.ofTime (time : TimeOfDay) : Hands where
  hour := time.hour
  minute := time.minute
  second := time.second
  millis := 3600000 * time.hour + 60000 * time.minute +
    (1000 * time.second + nearestMillis time.micro)

/-- A time of day as it is stored, down to the microsecond. -/
def clockText (time : TimeOfDay) : List Char :=
  twoDigits time.hour ++ ':' :: (twoDigits time.minute ++ ':' :: (twoDigits time.second ++
    '.' :: Iso.fixedDigits 6 time.micro))

theorem seconds?_clockText (time : TimeOfDay) :
    seconds? (twoDigits time.second ++ '.' :: Iso.fixedDigits 6 time.micro) =
      some ((time.second : Int), 1000 * (time.second : Int) + (nearestMillis time.micro : Nat),
        []) := by
  have hsecond := time.second_lt
  have hmicro := time.micro_lt
  have hread := readDigits_fixedDigits 6 time.micro
  have hdigit : ∀ c ∈ Iso.fixedDigits 6 time.micro, isAsciiDigit c = true :=
    fun c ↦ isAsciiDigit_of_mem_fixedDigits
  have hlength := length_fixedDigits 6 time.micro
  generalize Iso.fixedDigits 6 time.micro = fraction at hread hdigit hlength ⊢
  unfold seconds?
  rw [digits?_twoDigits (Nat.zero_le _) (by omega) (by omega)]
  cases fraction with
  | nil => simp at hlength
  | cons c more =>
    have htake : (c :: more).takeWhile isAsciiDigit = c :: more := by
      rw [List.takeWhile_eq_self_iff]
      exact hdigit
    have hdrop : (c :: more).dropWhile isAsciiDigit = [] := by
      rw [List.dropWhile_eq_nil_iff]
      exact hdigit
    rw [Nat.mod_eq_of_lt (by omega)] at hread
    simp only [Option.bind_eq_bind, Option.bind_some, hdigit c List.mem_cons_self, if_true, htake,
      hdrop, hread, hlength]
    rfl

theorem timeOfDay?_clockText (time : TimeOfDay) :
    timeOfDay? (clockText time) = some (.ofTime time, 0) := by
  have hhour := time.hour_lt
  have hminute := time.minute_lt
  unfold timeOfDay? clockText
  rw [digits?_twoDigits (Nat.zero_le _) (by omega) (by omega)]
  simp only [Option.bind_eq_bind, Option.bind_some, after?_cons]
  rw [digits?_twoDigits (Nat.zero_le _) (by omega) (by omega)]
  simp only [Option.bind_some, seconds?_clockText]
  rfl

/-- A moment as it is stored. -/
def storedText (moment : Moment) : String :=
  String.ofList (fourDigits moment.date.year ++ '-' :: (twoDigits moment.date.month ++ '-' ::
    (twoDigits moment.date.day ++ ' ' :: clockText moment.time)))

/-- The time of a moment as it shows when nothing modifies it. -/
def Time.ofMoment (moment : Moment) : Time :=
  .ofParts moment.date.year moment.date.month moment.date.day (.ofTime moment.time)

theorem isSpace_digitChar (n : Nat) : isSpace (digitChar n) = false := by
  have hall : ∀ d < 10, isSpace (digitChar d) = false := by decide
  rw [← digitChar_mod]
  exact hall _ (Nat.mod_lt n (by decide))

theorem ofDate?_storedText (moment : Moment) :
    ofDate? (storedText moment).toList = some (.ofMoment moment) := by
  obtain ⟨hyear, hmonth, hday, -⟩ := moment.inRange
  have hblank : (' ' :: clockText moment.time).dropWhile (fun c ↦ isSpace c || c = 'T') =
      clockText moment.time := by
    have hfirst : digitChar (moment.time.hour / 10) ≠ 'T' := digitChar_ne (by decide) _
    have hspace : isSpace ' ' = true := by decide
    simp [clockText, twoDigits, hspace, isSpace_digitChar, hfirst]
  have hchecked : (Time.ofMoment moment).checked? = some (.ofMoment moment) :=
    if_neg (by simp only [Time.ofMoment, Time.ofParts]; omega)
  unfold ofDate? storedText
  rw [String.toList_ofList]
  split
  rename_i negative rest hsign
  -- The first digit is no sign.
  obtain ⟨rfl, rfl⟩ : false = negative ∧ _ = rest := by
    rw [← Prod.mk.injEq, ← hsign]
    split
    · rename_i heq
      exact absurd (List.cons.inj heq).1 (digitChar_ne (by decide) _)
    · rfl
  rw [digits?_fourDigits (Nat.zero_le _) hyear (by omega)]
  simp only [Option.bind_eq_bind, Option.bind_some, after?_cons]
  rw [digits?_twoDigits hmonth.1 hmonth.2 (by omega)]
  simp only [Option.bind_some, after?_cons]
  rw [digits?_twoDigits hday.1 hday.2 (by omega)]
  simp only [Option.bind_some, hblank, timeOfDay?_clockText]
  exact congrArg (Option.bind · _) hchecked

/-! ### What is written of it -/

/-- The last day of the calendar ends behind the last count of a time; the days before it do not. -/
theorem dayNumber_mem {date : Date} (h : date ≠ Date.final) :
    1 ≤ dayNumber date.year date.month date.day ∧
      dayNumber date.year date.month date.day ≤ 5373483 := by
  have hyear := date.year_mem
  have hmonth := date.month_mem
  have hday := date.day_mem.1
  have hlength := date.day_mem.2.trans (monthLength_le _ _)
  have hparts : ¬ (date.year = 9999 ∧ date.month = 12 ∧ date.day = 31) :=
    fun heq ↦ h (Date.ext_parts heq.1 heq.2.1 heq.2.2)
  have hlate : ((14 - (date.month : Int)) / 12 = 1 ∧ date.month ≤ 2) ∨
      ((14 - (date.month : Int)) / 12 = 0 ∧ 3 ≤ date.month) := by
    omega
  unfold dayNumber
  rcases hlate with ⟨hlate, hbound⟩ | ⟨hlate, hbound⟩
  · simp only [hlate]
    omega
  · simp only [hlate]
    omega

theorem isCount_ofMoment {moment : Moment} (h : moment.date ≠ Date.final) :
    isCount (Time.ofMoment moment).count = true := by
  obtain ⟨-, -, -, hhour, hminute, hsecond⟩ := moment.inRange
  have hmicro := moment.time.micro_lt
  have hday := dayNumber_mem h
  rw [isCount, Bool.and_eq_true, decide_eq_true_eq, decide_eq_true_eq]
  simp only [Time.ofMoment, Time.ofParts, day, limit, Hands.ofTime, nearestMillis]
  generalize dayNumber moment.date.year moment.date.month moment.date.day = number at hday ⊢
  omega

theorem time?_storedText {moment : Moment} (h : moment.date ≠ Date.final) :
    time? (.text (storedText moment)) [] = some (.ofMoment moment) := by
  have hread : read? (.text (storedText moment)) = some (.known (.ofMoment moment)) := by
    simp only [read?, Value.text?, Option.getD_some, ofDate?_storedText, Option.map_some]
    rfl
  rw [time?, hread]
  simp [Given.modified?, Given.time?, Given.settled, isCount_ofMoment h]

theorem written?_minute (moment : Moment) :
    written? (.ofMoment moment) "%Y-%m-%d %H:%M:00".toList = some moment.toMinute.secondText := by
  obtain ⟨hyear, hmonth, hday, hhour, hminute, -⟩ := moment.inRange
  have hyearText := padded_four (n := moment.date.year) (by omega)
  have hmonthText := padded_two (n := moment.date.month) (by omega)
  have hdayText := padded_two (n := moment.date.day) (by omega)
  have hhourText := padded_two (n := moment.time.hour) (by omega)
  have hminuteText := padded_two (n := moment.time.minute) (by omega)
  have hshape : "%Y-%m-%d %H:%M:00".toList =
      ['%', 'Y', '-', '%', 'm', '-', '%', 'd', ' ', '%', 'H', ':',
    '%', 'M', ':', '0', '0'] := by decide
  have hzero : twoDigits 0 = ['0', '0'] := by decide
  rw [hshape]
  simp [written?, field?, Time.ofMoment, Time.ofParts, Hands.ofTime, hyearText, hmonthText,
    hdayText, hhourText, hminuteText, Moment.secondText, Moment.toMinute, TimeOfDay.toMinute, hzero]

theorem pattern_minute {moment : Moment} (h : moment.date ≠ Date.final) :
    pattern "%Y-%m-%d %H:%M:00" (.text (storedText moment)) [] = .text moment.toMinute.text := by
  rw [pattern, time?_storedText h, Option.bind_some, written?_minute, ← Moment.toList_text]
  simp

end StreamAudit.Sql.Clock

namespace StreamAudit.Backend.Relational

open StreamAudit.Calendar StreamAudit.Sql

/-- The value of a call on a row of which the time column is known. The other arguments are
texts. -/
def MinuteCall.value (call : MinuteCall) (column : Value) : Option Value :=
  (Function.find? call.function call.arguments.length).bind fun function ↦
    function.apply .binary (call.arguments.map fun argument ↦
      if argument = "log_ts" then column else .text argument)

/-- The call truncates the stored log time of every row of a query to the minute under which the row
is summed. -/
theorem value_minuteCall {query : Query} {window : Window}
    (hwindow : Window.ofDays? query.first query.last = some window) {row : Store.RawRow}
    (hrow : selects query window row = true) :
    (minuteCall "sqlite").value (.text (Clock.storedText row.logTime)) =
      some (.text (minuteText row)) := by
  have hday : row.logTime.date ≠ Date.final := by
    obtain ⟨after, hafter, -⟩ := Option.map_eq_some_iff.mp hwindow
    have hnext := Date.next?_eq_some_iff.mp hafter
    have hlast := ((Window.holds_ofDays? hwindow _).mp (Bool.and_eq_true_iff.mp hrow).2).2
    have hfinal := after.number_le_final
    rw [Date.le_def] at hlast
    intro heq
    rw [heq] at hlast
    omega
  have hfunction : Function.find? "strftime" 2 =
      some ⟨"strftime", 2, Function.widest, fun _ values ↦ some (Function.strftime values)⟩ := rfl
  have hvalue : (minuteCall "sqlite").value (.text (Clock.storedText row.logTime)) =
      some (Clock.pattern "%Y-%m-%d %H:%M:00" (.text (Clock.storedText row.logTime)) []) := by
    simp only [MinuteCall.value, minuteCall, if_true, List.length_cons, List.length_nil]
    rw [hfunction]
    rfl
  rw [hvalue, Clock.pattern_minute hday, minuteText]

end StreamAudit.Backend.Relational
