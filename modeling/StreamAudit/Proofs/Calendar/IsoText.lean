import StreamAudit.Calendar.Iso
import StreamAudit.Proofs.Calendar.Spelling

/-!
The text of a moment as an ISO 8601 text. Read part by part it gives back the moment down to its
second, without an offset (`read?_text`).
-/

set_option autoImplicit false
set_option relaxedAutoImplicit false

namespace StreamAudit.Calendar

open StreamAudit.Text

/-- The time with everything below the hours dropped. -/
def TimeOfDay.toHour (time : TimeOfDay) : TimeOfDay :=
  { midnight with hour := time.hour, hour_lt := time.hour_lt }

/-- The time with everything below the seconds dropped. -/
def TimeOfDay.toSecond (time : TimeOfDay) : TimeOfDay :=
  { time with micro := 0, micro_lt := midnight.micro_lt }

/-- The second in which a moment lies. -/
def Moment.toSecond (moment : Moment) : Moment :=
  ⟨moment.date, moment.time.toSecond⟩

theorem Moment.trimmed_secondText (moment : Moment) : Trimmed isBlank moment.secondText := by
  constructor
  · intro c hc
    simp only [secondText, fourDigits, List.cons_append, List.head?_cons, Option.mem_some_iff] at hc
    rw [← hc]
    exact isBlank_digitChar _
  · intro c hc
    simp only [secondText, fourDigits, twoDigits, List.cons_append, List.nil_append,
      List.getLast?_cons_cons, List.getLast?_singleton, Option.mem_some_iff] at hc
    rw [← hc]
    exact isBlank_digitChar _

namespace Iso

/-- The octet of the last digit of a number. -/
def digitOctet (n : Nat) : Nat :=
  48 + n % 10

/-- The octets of a number in two digits. -/
def twoOctets (n : Nat) : List Nat :=
  [digitOctet (n / 10), digitOctet n]

/-- The octets of a number in four digits. -/
def fourOctets (n : Nat) : List Nat :=
  [digitOctet (n / 1000), digitOctet (n / 100), digitOctet (n / 10), digitOctet n]

theorem encodeChar_digitChar (n : Nat) : Utf8.encodeChar (digitChar n) = [digitOctet n] := by
  have hlt : 48 + n % 10 < 0x80 := by omega
  simp [Utf8.encodeChar, toNat_digitChar, hlt, digitOctet]

theorem encode_append (s t : List Char) : Utf8.encode (s ++ t) = Utf8.encode s ++ Utf8.encode t :=
  List.flatMap_append

theorem encode_cons (c : Char) (s : List Char) :
    Utf8.encode (c :: s) = Utf8.encodeChar c ++ Utf8.encode s :=
  List.flatMap_cons

theorem encode_twoDigits (n : Nat) : Utf8.encode (twoDigits n) = twoOctets n := by
  simp [Utf8.encode, twoDigits, twoOctets, encodeChar_digitChar]

theorem encode_fourDigits (n : Nat) : Utf8.encode (fourDigits n) = fourOctets n := by
  simp [Utf8.encode, fourDigits, fourOctets, encodeChar_digitChar]

/-- The octets of a time of day down to its seconds. -/
def clockOctets (time : TimeOfDay) : List Nat :=
  twoOctets time.hour ++ octet ':' :: (twoOctets time.minute ++ octet ':' ::
    (twoOctets time.second ++ []))

/-- The octets of a moment down to its seconds. -/
def secondOctets (moment : Moment) : List Nat :=
  fourOctets moment.date.year ++ octet '-' :: (twoOctets moment.date.month ++ octet '-' ::
    (twoOctets moment.date.day ++ octet ' ' :: clockOctets moment.time))

theorem encode_secondText (moment : Moment) :
    Utf8.encode moment.secondText = secondOctets moment := by
  have hhyphen : Utf8.encodeChar '-' = [octet '-'] := by decide
  have hspace : Utf8.encodeChar ' ' = [octet ' '] := by decide
  have hcolon : Utf8.encodeChar ':' = [octet ':'] := by decide
  simp only [Moment.secondText, secondOctets, clockOctets, encode_append, encode_cons,
    encode_fourDigits, encode_twoDigits, hhyphen, hspace, hcolon, List.cons_append, List.nil_append]
  rfl

/-! ### Reading the octets -/

theorem isDigit_digitOctet (n : Nat) : isDigit (digitOctet n) = true := by
  have hall : ∀ d < 10, isDigit (48 + d) = true := by decide
  exact hall _ (Nat.mod_lt n (by decide))

theorem beginsOffset_digitOctet (n : Nat) : beginsOffset (digitOctet n) = false := by
  have hall : ∀ d < 10, beginsOffset (48 + d) = false := by decide
  exact hall _ (Nat.mod_lt n (by decide))

theorem number?_digitOctet (value count n : Nat) (rest : List Nat) :
    number? value (count + 1) (digitOctet n :: rest) =
      number? (value * 10 + n % 10) count rest := by
  rw [number?, if_pos (isDigit_digitOctet n), digitOctet, Nat.add_sub_cancel_left]

theorem number?_twoOctets {n : Nat} (h : n < 100) (rest : List Nat) :
    number? 0 2 (twoOctets n ++ rest) = some (n, rest) := by
  have hvalue : (0 * 10 + n / 10 % 10) * 10 + n % 10 = n := by omega
  simp only [twoOctets, List.cons_append, List.nil_append, number?_digitOctet, hvalue]
  rfl

theorem number?_fourOctets {n : Nat} (h : n < 10000) (rest : List Nat) :
    number? 0 4 (fourOctets n ++ rest) = some (n, rest) := by
  have hvalue : (((0 * 10 + n / 1000 % 10) * 10 + n / 100 % 10) * 10 + n / 10 % 10) * 10 + n % 10 =
      n := by omega
  simp only [fourOctets, List.cons_append, List.nil_append, number?_digitOctet, hvalue]
  rfl

theorem of?_parts (date : Date) : Date.of? date.year date.month date.day = some date :=
  Date.of?_eq_some_iff.mpr ⟨rfl, rfl, rfl⟩

theorem time_of?_parts (time : TimeOfDay) :
    TimeOfDay.of? time.hour time.minute time.second 0 = some time.toSecond := by
  rw [TimeOfDay.of?, dif_pos ⟨time.hour_lt, time.minute_lt, time.second_lt, by decide⟩]
  rfl

theorem digitOctet_ne_week (n : Nat) : digitOctet n ≠ octet 'W' := by
  have hall : ∀ d < 10, 48 + d ≠ octet 'W' := by decide
  exact hall _ (Nat.mod_lt n (by decide))

theorem date?_octets (date : Date) (rest : List Nat) (stop : Nat) :
    date? (fourOctets date.year ++ octet '-' :: (twoOctets date.month ++ octet '-' ::
      (twoOctets date.day ++ rest))) stop = some date := by
  have hyear := date.year_mem.2
  have hmonth := date.month_mem.2
  have hday := date.day_mem.2.trans (monthLength_le _ _)
  have hweek : ¬ (twoOctets date.month ++ octet '-' :: (twoOctets date.day ++ rest)).head? =
      some (octet 'W') := by
    simp [twoOctets, digitOctet_ne_week]
  unfold date?
  rw [number?_fourOctets (by omega)]
  simp only [Option.bind_eq_bind, Option.bind_some, List.head?_cons, if_true, List.drop_one,
    List.tail_cons, if_neg hweek, number?_twoOctets (by omega : date.month < 100), decide_true,
    hyphen?, number?_twoOctets (by omega : date.day < 100), of?_parts]

theorem clock?_twoOctets {n : Nat} (h : n < 100) (count left : Nat) (hleft : 3 < left)
    (colons? : Option Bool) (hcolons : colons? ≠ some false) (parts rest : List Nat) :
    clock? (count + 1) colons? parts left (twoOctets n ++ octet ':' :: rest) =
      clock? count (some true) (parts ++ [n]) (left - 3) rest := by
  have hleft' : ¬ left ≤ 3 := by omega
  conv_lhs => rw [clock?, number?_twoOctets h]
  rcases colons? with _ | _ | _
  · simp [hleft']
  · exact absurd rfl hcolons
  · simp [hleft']

/-- A time of day in hours, minutes and seconds is read part by part. -/
theorem clock?_clockOctets (time : TimeOfDay) :
    clock? 3 none [] 8 (clockOctets time) =
      some ⟨[time.hour, time.minute, time.second], 0, false⟩ := by
  have hhour := time.hour_lt
  have hminute := time.minute_lt
  have hsecond := time.second_lt
  rw [clockOctets, clock?_twoOctets (by omega) 2 8 (by decide) none (by simp),
    clock?_twoOctets (by omega) 1 5 (by decide) (some true) (by simp), clock?,
    number?_twoOctets (by omega)]
  rfl

theorem timeAndOffset?_clockOctets (time : TimeOfDay) :
    timeAndOffset? (clockOctets time) = some (time.toSecond, none) := by
  have hcolon : beginsOffset (octet ':') = false := by decide
  have hplace : ((clockOctets time).takeWhile fun b ↦ !beginsOffset b).length = 8 := by
    simp [clockOctets, twoOctets, beginsOffset_digitOctet, hcolon]
  have hrest : (clockOctets time).drop 8 = [] := by
    simp [clockOctets, twoOctets]
  unfold timeAndOffset?
  simp only [hplace, hrest, clock?_clockOctets, Option.bind_eq_bind, Option.bind_some, Clock.time?,
    List.getD_cons_zero, List.getD_cons_succ, time_of?_parts]
  rfl

theorem readOctets?_secondOctets (moment : Moment) :
    readOctets? (secondOctets moment) = some ⟨moment.toSecond, none⟩ := by
  have hlength : (secondOctets moment).length = 19 := rfl
  have hdash : octetAt (secondOctets moment) 4 = octet '-' := rfl
  have hfirst : octetAt (secondOctets moment) 5 ≠ octet 'W' := digitOctet_ne_week _
  have hend : dayEnd? (secondOctets moment) = some 10 := by
    simp [dayEnd?, hlength, hdash, hfirst]
  have hdate : date? (secondOctets moment) 10 = some moment.date := date?_octets _ _ _
  have hspace : octetAt (secondOctets moment) 10 = octet ' ' := rfl
  have hrest : (secondOctets moment).drop (10 + widthOf (octet ' ')) = clockOctets moment.time :=
    rfl
  unfold readOctets?
  simp only [hlength, hend, hdate, hspace, hrest, Option.bind_eq_bind, Option.bind_some,
    timeAndOffset?_clockOctets]
  rfl

/-- The text of a moment reads as its second. -/
theorem read?_text (moment : Moment) : read? moment.text = some ⟨moment.toSecond, none⟩ := by
  rw [read?, Moment.toList_text, trimList_eq_self isBlank moment.trimmed_secondText,
    encode_secondText, readOctets?_secondOctets]

end Iso

end StreamAudit.Calendar
