import StreamAudit.Proofs.Calendar.IsoReading
import StreamAudit.Proofs.Text.Blank
import StreamAudit.Proofs.Text.Utf8

/-!
One moment written in many ways. A moment is written as day and time of day with a mark between
them, with some places of its fraction or none, with an offset from universal time, and with blanks
around (`Form.write`). It is read back down to the last place that was written (`read?_write`), so
that every way to write one instant leads to the same second of universal time (`universal?_write`).
-/

set_option autoImplicit false
set_option relaxedAutoImplicit false

namespace StreamAudit.Calendar

open StreamAudit.Text

namespace Iso

/-! ### Forms -/

/-- How an offset from universal time is written: as a letter if there is none, or else with its
sign, its hours and its minutes. -/
inductive Zone where
  | letter
  | signed (negative : Bool) (hours minutes : Nat) (hours_lt : hours < 24)
      (minutes_lt : minutes < 60)

namespace Zone

/-- The microseconds of an offset east of Greenwich. -/
def micros : Zone → Int
  | .letter => 0
  | .signed negative hours minutes _ _ =>
    if negative then -(((hours * 60 + minutes) * 60000000 : Nat) : Int)
      else ((hours * 60 + minutes) * 60000000 : Nat)

def text : Zone → List Char
  | .letter => ['Z']
  | .signed negative hours minutes _ _ =>
    (if negative then '-' else '+') :: (twoDigits hours ++ ':' :: twoDigits minutes)

end Zone

/-- A number in a fixed number of digits. -/
def fixedDigits : Nat → Nat → List Char
  | 0, _ => []
  | count + 1, n => fixedDigits count (n / 10) ++ [digitChar n]

/-- The first places of a fraction that is given in microseconds. -/
def fractionText (places micro : Nat) : List Char :=
  if places = 0 then [] else '.' :: fixedDigits places (micro / 10 ^ (6 - places))

/-- How a moment is written. -/
structure Form where
  mark : Char
  places : Nat
  zone : Zone
  before : List Char := []
  after : List Char := []
  places_le : places ≤ 6 := by decide
  blank_before : ∀ c ∈ before, isBlank c = true := by simp
  blank_after : ∀ c ∈ after, isBlank c = true := by simp

/-- A moment from its day to its offset. -/
def Form.core (form : Form) (moment : Moment) : List Char :=
  fourDigits moment.date.year ++ '-' ::
    (twoDigits moment.date.month ++ '-' :: (twoDigits moment.date.day ++
    form.mark :: (twoDigits moment.time.hour ++ ':' :: (twoDigits moment.time.minute ++ ':' ::
      (twoDigits moment.time.second ++
        (fractionText form.places moment.time.micro ++ form.zone.text))))))

/-- A moment as it is written in a form. -/
def Form.write (form : Form) (moment : Moment) : String :=
  String.ofList (form.before ++ form.core moment ++ form.after)

end Iso

/-! ### What is written of a moment -/

/-- The time with only the first places of its fraction. -/
def TimeOfDay.cut (places : Nat) (time : TimeOfDay) : TimeOfDay :=
  { time with
    micro := time.micro / 10 ^ (6 - places) * 10 ^ (6 - places)
    micro_lt := (Nat.div_mul_le_self _ _).trans_lt time.micro_lt }

/-- The moment with only the first places of its fraction. -/
def Moment.cut (places : Nat) (moment : Moment) : Moment :=
  ⟨moment.date, moment.time.cut places⟩

theorem Moment.micros_cut (places : Nat) (moment : Moment) :
    (moment.cut places).micros + moment.time.micro % 10 ^ (6 - places) = moment.micros := by
  have hfraction := Nat.div_add_mod' moment.time.micro (10 ^ (6 - places))
  unfold micros cut TimeOfDay.micros TimeOfDay.cut
  simp only
  omega

namespace Iso

/-- Offsets are whole minutes. -/
theorem Zone.micros_eq (zone : Zone) : ∃ count : Int, zone.micros = count * 60000000 := by
  cases zone with
  | letter => exact ⟨0, rfl⟩
  | signed negative hours minutes =>
    by_cases hnegative : negative
    · refine ⟨-(hours * 60 + minutes : Nat), ?_⟩
      rw [micros, if_pos hnegative, Int.natCast_mul, Int.neg_mul]
      rfl
    · refine ⟨(hours * 60 + minutes : Nat), ?_⟩
      rw [micros, if_neg hnegative, Int.natCast_mul]
      rfl

/-- An offset moves no fraction of a second. -/
theorem micro_eq_of_shifted {instant shown : Moment} {zone : Zone}
    (h : (shown.micros : Int) = instant.micros + zone.micros) :
    shown.time.micro = instant.time.micro := by
  obtain ⟨count, hcount⟩ := zone.micros_eq
  have hshown := shown.time.micro_lt
  have hinstant := instant.time.micro_lt
  unfold Moment.micros TimeOfDay.micros Moment.microsPerDay at h
  omega

/-! ### The octets of a form -/

/-- The octets of a number in a fixed number of digits. -/
def fixedOctets : Nat → Nat → List Nat
  | 0, _ => []
  | count + 1, n => fixedOctets count (n / 10) ++ [digitOctet n]

theorem encode_fixedDigits (count n : Nat) :
    Utf8.encode (fixedDigits count n) = fixedOctets count n := by
  induction count generalizing n with
  | zero => rfl
  | succ count ih =>
    have hdigit : Utf8.encode [digitChar n] = [digitOctet n] := by
      simp [Utf8.encode, encodeChar_digitChar]
    rw [fixedDigits, encode_append, ih, hdigit, fixedOctets]

theorem length_fixedOctets (count n : Nat) : (fixedOctets count n).length = count := by
  induction count generalizing n with
  | zero => rfl
  | succ count ih => rw [fixedOctets, List.length_append, ih, List.length_singleton]

theorem beginsOffset_of_mem_fixedOctets {count n b : Nat} (h : b ∈ fixedOctets count n) :
    beginsOffset b = false := by
  induction count generalizing n with
  | zero => simp [fixedOctets] at h
  | succ count ih =>
    rcases List.mem_append.mp h with hfront | hlast
    · exact ih hfront
    · rw [List.mem_singleton.mp hlast]
      exact beginsOffset_digitOctet n

/-- A number in a fixed number of digits is read in front of any others. -/
theorem number?_fixedOctets (value count more n : Nat) (rest : List Nat) :
    number? value (count + more) (fixedOctets count n ++ rest) =
      number? (value * 10 ^ count + n % 10 ^ count) more rest := by
  induction count generalizing more n rest with
  | zero => simp [fixedOctets, Nat.mod_one]
  | succ count ih =>
    -- the last digit is read behind the others, which make up the value so far
    have hvalue : (value * 10 ^ count + n / 10 % 10 ^ count) * 10 + n % 10 =
        value * 10 ^ (count + 1) + n % 10 ^ (count + 1) := by
      have hlast := Nat.mod_mul (x := n) (a := 10) (b := 10 ^ count)
      rw [Nat.pow_succ', hlast, Nat.add_mul, Nat.mul_comm 10, Nat.mul_assoc, Nat.mul_comm 10]
      omega
    rw [fixedOctets, List.append_assoc, Nat.add_assoc, Nat.add_comm 1, ih, List.cons_append,
      List.nil_append, number?_digitOctet, hvalue]

/-- The octets of the first places of a fraction. -/
def fractionOctets (places micro : Nat) : List Nat :=
  if places = 0 then [] else octet '.' :: fixedOctets places (micro / 10 ^ (6 - places))

theorem encode_fractionText (places micro : Nat) :
    Utf8.encode (fractionText places micro) = fractionOctets places micro := by
  have hpoint : Utf8.encodeChar '.' = [octet '.'] := by decide
  unfold fractionText fractionOctets
  split_ifs
  · rfl
  · rw [encode_cons, hpoint, encode_fixedDigits]
    rfl

/-- The octets of an offset. -/
def Zone.octets : Zone → List Nat
  | .letter => [octet 'Z']
  | .signed negative hours minutes _ _ =>
    octet (if negative then '-' else '+') :: (twoOctets hours ++ octet ':' :: twoOctets minutes)

theorem Zone.encode_text (zone : Zone) : Utf8.encode zone.text = zone.octets := by
  have hcolon : Utf8.encodeChar ':' = [octet ':'] := by decide
  cases zone with
  | letter => decide
  | signed negative hours minutes =>
    have hsign : Utf8.encodeChar (if negative then '-' else '+') =
        [octet (if negative then '-' else '+')] := by
      cases negative <;> decide
    rw [text, encode_cons, hsign, encode_append, encode_cons, hcolon, encode_twoDigits,
      encode_twoDigits]
    rfl

/-- The octets of a time of day with the first places of its fraction. -/
def timeOctets (places : Nat) (time : TimeOfDay) : List Nat :=
  clockOctets time ++ fractionOctets places time.micro

/-! ### Reading them -/

/-- A fraction of some places is read to the last of them. -/
theorem fraction?_fixedOctets {places micro : Nat} (hplaces : places ≤ 6) (hmicro : micro < 1000000)
    (parts rest : List Nat) : ∃ followed, fraction? parts places
      (fixedOctets places (micro / 10 ^ (6 - places)) ++ rest) =
        some ⟨parts, micro / 10 ^ (6 - places) * 10 ^ (6 - places), followed⟩ := by
  have hshort : micro / 10 ^ (6 - places) < 10 ^ places := by
    rw [Nat.div_lt_iff_lt_mul (Nat.pow_pos (by decide)), ← Nat.pow_add, Nat.add_sub_cancel' hplaces]
    exact hmicro
  have hread := number?_fixedOctets 0 places 0 (micro / 10 ^ (6 - places)) rest
  rw [Nat.add_zero, Nat.zero_mul, Nat.zero_add, Nat.mod_eq_of_lt hshort] at hread
  refine ⟨(rest.dropWhile isDigit).headD 0 != 0, ?_⟩
  rw [fraction?, Nat.min_eq_right hplaces, hread]
  rfl

/-- The last part of a time of day is read with the places of its fraction that are there. -/
theorem clock?_second {second : Nat} (hsecond : second < 60) {places micro : Nat}
    (hplaces : places ≤ 6) (hmicro : micro < 1000000) (parts rest : List Nat) :
    ∃ followed, clock? 1 (some true) parts ((fractionOctets places micro).length + 2)
        (twoOctets second ++ (fractionOctets places micro ++ rest)) =
      some ⟨parts ++ [second], micro / 10 ^ (6 - places) * 10 ^ (6 - places), followed⟩ := by
  by_cases hnone : places = 0
  · have hfraction : fractionOctets places micro = [] := if_pos hnone
    have hnothing : micro / 10 ^ (6 - places) * 10 ^ (6 - places) = 0 := by
      rw [hnone, Nat.div_eq_of_lt (show micro < 10 ^ (6 - 0) from hmicro), Nat.zero_mul]
    refine ⟨rest.headD 0 != 0, ?_⟩
    rw [hfraction, hnothing, clock?, List.nil_append, number?_twoOctets (by omega)]
    rfl
  · have hfraction : fractionOctets places micro =
        octet '.' :: fixedOctets places (micro / 10 ^ (6 - places)) :=
      if_neg hnone
    have hlength : (fractionOctets places micro).length + 2 = places + 3 := by
      rw [hfraction, List.length_cons, length_fixedOctets]
    have hlong : ¬ places + 3 ≤ 3 := by omega
    obtain ⟨followed, hread⟩ := fraction?_fixedOctets hplaces hmicro (parts ++ [second]) rest
    refine ⟨followed, ?_⟩
    rw [hlength, hfraction, clock?, number?_twoOctets (by omega)]
    simp only [List.cons_append, List.headD_cons, if_neg hlong, Nat.add_sub_cancel,
      List.drop_succ_cons, List.drop_zero]
    exact hread

theorem clock?_timeOctets {places : Nat} (hplaces : places ≤ 6) (time : TimeOfDay)
    (rest : List Nat) :
    ∃ followed, clock? 3 none [] (timeOctets places time).length (timeOctets places time ++ rest) =
      some ⟨[time.hour, time.minute, time.second], (time.cut places).micro, followed⟩ := by
  have hhour := time.hour_lt
  have hminute := time.minute_lt
  have hlength : (timeOctets places time).length = (fractionOctets places time.micro).length + 2 +
      3 + 3 := by
    simp [timeOctets, clockOctets, twoOctets]
  obtain ⟨followed, hsecond⟩ :=
    clock?_second time.second_lt hplaces time.micro_lt [time.hour, time.minute] rest
  refine ⟨followed, ?_⟩
  rw [hlength]
  simp only [timeOctets, clockOctets, List.append_assoc, List.cons_append, List.nil_append]
  rw [clock?_twoOctets (by omega) 2 _ (by omega) none (by simp), Nat.add_sub_cancel,
    clock?_twoOctets (by omega) 1 _ (by omega) (some true) (by simp), Nat.add_sub_cancel]
  exact hsecond

/-! ### The time with its offset -/

theorem beginsOffset_of_mem_timeOctets {places : Nat} {time : TimeOfDay} {b : Nat}
    (h : b ∈ timeOctets places time) :
    beginsOffset b = false := by
  have hcolon : beginsOffset (octet ':') = false := by decide
  have hpoint : beginsOffset (octet '.') = false := by decide
  rcases List.mem_append.mp h with hclock | hfraction
  · have hall : ∀ b ∈ clockOctets time, beginsOffset b = false := by
      simp [clockOctets, twoOctets, beginsOffset_digitOctet, hcolon]
    exact hall b hclock
  · unfold fractionOctets at hfraction
    split_ifs at hfraction
    · simp at hfraction
    · rcases List.mem_cons.mp hfraction with rfl | hdigit
      · exact hpoint
      · exact beginsOffset_of_mem_fixedOctets hdigit

theorem Zone.exists_sign (zone : Zone) :
    ∃ sign after, zone.octets = sign :: after ∧ beginsOffset sign = true := by
  cases zone with
  | letter => exact ⟨_, _, rfl, by decide⟩
  | signed negative => exact ⟨_, _, rfl, by cases negative <;> decide⟩

/-- The time ends where its offset begins. -/
theorem length_takeWhile_timeOctets (places : Nat) (time : TimeOfDay) (zone : Zone) :
    ((timeOctets places time ++ zone.octets).takeWhile fun b ↦ !beginsOffset b).length =
      (timeOctets places time).length := by
  obtain ⟨sign, after, hzone, hsign⟩ := zone.exists_sign
  rw [List.takeWhile_append_of_pos fun b hb ↦ by simp [beginsOffset_of_mem_timeOctets hb], hzone,
    List.takeWhile_cons_of_neg (by simp [hsign]), List.append_nil]

theorem clock?_hoursMinutes {hours minutes : Nat} (hhours : hours < 100)
    (hminutes : minutes < 100) :
    clock? 3 none [] (twoOctets hours ++ octet ':' :: twoOctets minutes).length
        (twoOctets hours ++ octet ':' :: twoOctets minutes) =
          some ⟨[hours, minutes], 0, false⟩ := by
  have hread := number?_twoOctets hminutes []
  rw [List.append_nil] at hread
  rw [clock?_twoOctets hhours 2 _ (by simp [twoOctets]) none (by simp), clock?, hread]
  rfl

theorem offset?_hoursMinutes (negative : Bool) {hours minutes : Nat} (hhours : hours < 24)
    (hminutes : minutes < 60) : offset? negative ⟨[hours, minutes], 0, false⟩ =
      some (Zone.signed negative hours minutes hhours hminutes).micros := by
  have hseconds : Clock.seconds ⟨[hours, minutes], 0, false⟩ = (hours * 60 + minutes) * 60 := rfl
  unfold offset? Zone.micros Moment.microsPerDay
  rw [hseconds]
  by_cases hnone : hours * 60 + minutes = 0
  · simp [hnone]
  · have hmicros : (hours * 60 + minutes) * 60 * 1000000 + 0 =
        (hours * 60 + minutes) * 60000000 := by omega
    have hshort : ¬ 86400000000 ≤ (hours * 60 + minutes) * 60000000 := by omega
    simp only [hmicros, if_neg hshort, if_neg (show ¬ (hours * 60 + minutes) * 60 = 0 by omega)]
    rfl

theorem time_of?_cut (places : Nat) (time : TimeOfDay) :
    TimeOfDay.of? time.hour time.minute time.second (time.cut places).micro =
      some (time.cut places) := by
  rw [TimeOfDay.of?,
    dif_pos ⟨time.hour_lt, time.minute_lt, time.second_lt, (time.cut places).micro_lt⟩]
  rfl

/-- A time of day in front of an offset is read with it. -/
theorem timeAndOffset?_octets {places : Nat} (hplaces : places ≤ 6) (time : TimeOfDay)
    (zone : Zone) :
    timeAndOffset? (timeOctets places time ++ zone.octets) =
      some (time.cut places, some zone.micros) := by
  obtain ⟨followed, hclock⟩ := clock?_timeOctets hplaces time zone.octets
  unfold timeAndOffset?
  simp only [length_takeWhile_timeOctets, hclock, List.drop_left, Option.bind_eq_bind,
    Option.bind_some, Clock.time?, List.getD_cons_zero, List.getD_cons_succ, time_of?_cut]
  cases zone with
  | letter => rfl
  | signed negative hours minutes hhours hminutes =>
    have hsign : octet (if negative then '-' else '+') ≠ octet 'Z' := by cases negative <;> decide
    have hnegative : (octet (if negative then '-' else '+') == octet '-') = negative := by
      cases negative <;> decide
    simp only [Zone.octets, if_neg hsign, hnegative, clock?_hoursMinutes (show hours < 100 by omega)
      (show minutes < 100 by omega), Option.bind_some,
        offset?_hoursMinutes negative hhours hminutes]
    rfl

/-! ### The whole form -/

/-- The octets of a moment from its day to its offset. -/
def Form.octets (form : Form) (moment : Moment) : List Nat :=
  fourOctets moment.date.year ++ octet '-' :: (twoOctets moment.date.month ++ octet '-' ::
    (twoOctets moment.date.day ++ (Utf8.encodeChar form.mark ++
      (timeOctets form.places moment.time ++ form.zone.octets))))

theorem Form.encode_core (form : Form) (moment : Moment) :
    Utf8.encode (form.core moment) = form.octets moment := by
  have hhyphen : Utf8.encodeChar '-' = [octet '-'] := by decide
  have hcolon : Utf8.encodeChar ':' = [octet ':'] := by decide
  simp only [core, octets, timeOctets, clockOctets, encode_append, encode_cons, encode_fourDigits,
    encode_twoDigits, encode_fractionText, Zone.encode_text, hhyphen, hcolon, List.cons_append,
    List.nil_append, List.append_assoc]

/-- The first octet of a character tells how many there are. -/
theorem exists_encodeChar (c : Char) : ∃ lead tail, Utf8.encodeChar c = lead :: tail ∧
    widthOf lead = tail.length + 1 := by
  have hvalid := toNat_mem c
  simp only [Utf8.encodeChar]
  split_ifs with hone htwo hthree
  · exact ⟨_, _, rfl, if_pos hone⟩
  · refine ⟨_, _, rfl, ?_⟩
    rw [widthOf, if_neg (by omega), if_pos (by omega)]
    rfl
  · refine ⟨_, _, rfl, ?_⟩
    rw [widthOf, if_neg (by omega), if_neg (by omega), if_pos (by omega)]
    rfl
  · refine ⟨_, _, rfl, ?_⟩
    rw [widthOf, if_neg (by omega), if_neg (by omega), if_neg (by omega)]
    rfl

/-- Whatever character stands between the day and the time, both are read. -/
theorem Form.readOctets?_octets (form : Form) (moment : Moment) :
    readOctets? (form.octets moment) = some ⟨moment.cut form.places, some form.zone.micros⟩ := by
  obtain ⟨lead, tail, hmark, hwidth⟩ := exists_encodeChar form.mark
  have hlong : 10 < (form.octets moment).length := by
    simp [octets, hmark, fourOctets, twoOctets]
  have hdash : octetAt (form.octets moment) 4 = octet '-' := rfl
  have hfirst : octetAt (form.octets moment) 5 ≠ octet 'W' := digitOctet_ne_week _
  have hend : dayEnd? (form.octets moment) = some 10 := by
    simp only [dayEnd?, if_neg (show (form.octets moment).length ≠ 7 by omega), if_pos hdash,
      if_neg hfirst]
  have hdate : date? (form.octets moment) 10 = some moment.date := date?_octets _ _ _
  have hlead : octetAt (form.octets moment) 10 = lead := by
    rw [octets, hmark]
    rfl
  have hrest : (form.octets moment).drop (10 + widthOf lead) =
      timeOctets form.places moment.time ++ form.zone.octets := by
    rw [hwidth, show 10 + (tail.length + 1) = tail.length + 11 by omega, octets, hmark]
    exact List.drop_left
  unfold readOctets?
  simp only [if_neg (show ¬ (form.octets moment).length < 7 by omega), hend, hdate, hlead, hrest,
    if_neg (show ¬ (form.octets moment).length ≤ 10 by omega), Option.bind_eq_bind,
    Option.bind_some, timeAndOffset?_octets form.places_le]
  rfl

theorem Zone.exists_last (zone : Zone) :
    ∃ front last, zone.text = front ++ [last] ∧ isBlank last = false := by
  cases zone with
  | letter => exact ⟨[], 'Z', rfl, by decide⟩
  | signed negative hours minutes =>
    exact ⟨(if negative then '-' else '+') :: (twoDigits hours ++ [':', digitChar (minutes / 10)]),
      digitChar minutes, by simp [text, twoDigits], isBlank_digitChar _⟩

theorem Form.trimmed_core (form : Form) (moment : Moment) : Trimmed isBlank (form.core moment) := by
  constructor
  · intro c hc
    simp only [core, fourDigits, List.cons_append, List.head?_cons, Option.mem_some_iff] at hc
    rw [← hc]
    exact isBlank_digitChar _
  · intro c hc
    obtain ⟨front, last, hzone, hlast⟩ := form.zone.exists_last
    have hend : (form.core moment).getLast? = some last := by
      simp [core, hzone, List.getLast?_append, List.getLast?_cons]
    rw [hend, Option.mem_some_iff] at hc
    rw [← hc]
    exact hlast

/-- What is written in a form reads as the moment down to its last place, with the offset of the
form. -/
theorem read?_write (form : Form) (moment : Moment) :
    read? (form.write moment) = some ⟨moment.cut form.places, some form.zone.micros⟩ := by
  have htrimmed : trimList isBlank (form.write moment).toList = form.core moment := by
    rw [Form.write, String.toList_ofList]
    exact trimList_surrounded form.blank_before form.blank_after (form.trimmed_core moment)
      (by simp [Form.core, fourDigits])
  rw [read?, htrimmed, form.encode_core, form.readOctets?_octets]

/-- Whatever its form, what shows an instant at an offset from universal time is of that instant. -/
theorem universal?_write {instant shown : Moment} {form : Form}
    (h : (shown.micros : Int) = instant.micros + form.zone.micros) :
    Reading.universal? ⟨shown.cut form.places, some form.zone.micros⟩ =
      some (instant.cut form.places) := by
  -- The offset is whole minutes, so that on both sides the same is cut off.
  have hshown := shown.micros_cut form.places
  have hinstant := instant.micros_cut form.places
  rw [micro_eq_of_shifted h] at hshown
  show (shown.cut form.places).back? form.zone.micros = some (instant.cut form.places)
  rw [Moment.back?_eq_some_iff]
  omega

end Iso

end StreamAudit.Calendar
