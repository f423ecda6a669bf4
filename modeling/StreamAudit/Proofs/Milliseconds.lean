import StreamAudit.Proofs.Calendar.IsoInstant
import StreamAudit.Proofs.Number.Rounding
import StreamAudit.Proofs.Rollup.StampedLabels

/-!
Labels of milliseconds. A number of milliseconds is divided by a thousand as a double and cut into
whole seconds and microseconds; however the quotient is rounded, the whole seconds are those that
have passed, on both sides of 1970 (`split?_millis`). So a number of milliseconds has the label of
its second, the text that shows the milliseconds has the same one, and it does not matter which of
them a bucket has for its key (`label_of_millis`).
-/

set_option autoImplicit false
set_option relaxedAutoImplicit false

namespace StreamAudit

open StreamAudit.Calendar StreamAudit.Number

namespace Stamp

/-! ### Seconds and microseconds of a quotient -/

section Quotient

open Binary64

/-- A quotient by a thousand that is no whole number has the integer part it should have, and its
fraction is further from both ends than roundings reach. -/
theorem parts_near {count units : Nat}
    (hlow : 2 ^ 16 * (units * 1000) ≤ 2 ^ 16 * (count * unit) + 1000 * unit)
    (hhigh : 2 ^ 16 * (count * unit) ≤ 2 ^ 16 * (units * 1000) + 1000 * unit)
    (hrest : count % 1000 ≠ 0) :
    units / unit = count / 1000 ∧
      2 * unit ≤ units % unit * 1000000 ∧ units % unit * 1000000 ≤ 999998 * unit := by
  have hcount : count * unit = 1000 * (count / 1000 * unit) + count % 1000 * unit := by
    rw [← Nat.mul_assoc, ← Nat.add_mul, Nat.div_add_mod]
  have hlowest : 1 * unit ≤ count % 1000 * unit :=
    Nat.mul_le_mul_right unit (Nat.pos_of_ne_zero hrest)
  have hhighest : count % 1000 * unit ≤ 999 * unit := Nat.mul_le_mul_right unit (by omega)
  have hpos := unit_pos
  rw [hcount] at hlow hhigh
  have hwhole : units / unit = count / 1000 := by
    rw [Nat.div_eq_iff hpos]
    omega
  have hfraction := Nat.div_add_mod' units unit
  rw [hwhole] at hfraction
  omega

/-- The seconds and the microseconds that are found for a number of milliseconds of one sign. -/
theorem exists_parts (negative : Bool) {count : Nat} (h : count < 2 ^ 38 * 1000) :
    ∃ micros, (ofRatio negative count 1000).truncate? = some (signed negative (count / 1000)) ∧
      ((ofRatio negative count 1000).fraction.scale 1000000).round? =
        some (signed negative micros) ∧
      micros < 1000000 ∧ (micros = 0 ↔ count % 1000 = 0) := by
  have hpos := unit_pos
  obtain ⟨units, hunits, hlow, hhigh, hwhole⟩ :=
    @exists_ofRatio negative count 1000 38 (by decide) h
  have hshort : units % unit * 1000000 < 2 ^ 20 * unit := by
    have := Nat.mod_lt units hpos
    omega
  obtain ⟨millionths, hmillionths, habove, hbelow, hnone⟩ :=
    @exists_ofRatio_unit negative (units % unit * 1000000) 20 (by decide) hshort
  refine ⟨roundEven millionths unit, ?_⟩
  rw [hunits, truncate?_finite, scale_fraction_finite, hmillionths, round?_finite]
  by_cases hrest : count % 1000 = 0
  · have hunits : units = count / 1000 * unit := hwhole _ (by omega)
    have hfraction : units % unit = 0 := by rw [hunits, Nat.mul_mod_left]
    have hzero : roundEven millionths unit = 0 := by
      have hnothing := roundEven_mul_left hpos 0
      rw [Nat.mul_zero] at hnothing
      rw [hnone (by rw [hfraction, Nat.zero_mul]), hnothing]
    have hseconds : units / unit = count / 1000 := by rw [hunits, Nat.mul_div_cancel _ hpos]
    rw [hzero, hseconds]
    exact ⟨rfl, rfl, by decide, iff_of_true rfl hrest⟩
  · obtain ⟨hseconds, hfirst, hlast⟩ := parts_near hlow hhigh hrest
    -- One more rounding, to millionths, moves the fraction by less than one of them.
    have hleast : 1 ≤ roundEven millionths unit := le_roundEven hpos (by omega)
    have hmost : roundEven millionths unit ≤ 999999 := roundEven_le hpos (by omega)
    rw [hseconds]
    exact ⟨rfl, rfl, Nat.lt_succ_of_le hmost, iff_of_false (by omega) hrest⟩

theorem split?_eq {seconds : Binary64} {whole micros : Int}
    (hwhole : seconds.truncate? = some whole)
    (hmicros : (seconds.fraction.scale 1000000).round? = some micros) : split? seconds =
      if 1000000 ≤ micros then some (whole + 1, (micros - 1000000).toNat)
      else if micros < 0 then some (whole - 1, (micros + 1000000).toNat)
        else some (whole, micros.toNat) := by
  rw [split?, hwhole, hmicros]
  rfl

/-- Of milliseconds, on both sides of 1970, the seconds that are found are those that have
passed. -/
theorem split?_millis (millis : Int) (h : millis.natAbs < 2 ^ 38 * 1000) :
    ∃ micros < 1000000, split? (ofRatio (millis < 0) millis.natAbs 1000) =
      some (millis / 1000, micros) := by
  obtain ⟨micros, hwhole, hmicros, hlt, hzero⟩ := exists_parts (millis < 0) h
  rw [split?_eq hwhole hmicros]
  by_cases hbefore : millis < 0
  · have hsigned : ∀ n : Nat, signed (millis < 0) n = -(n : Int) :=
      fun n ↦ if_pos (decide_eq_true hbefore)
    rw [hsigned, hsigned, if_neg (by omega)]
    by_cases hrest : micros = 0
    · have hseconds : -((millis.natAbs / 1000 : Nat) : Int) = millis / 1000 := by omega
      rw [hrest, if_neg (by decide), hseconds]
      exact ⟨0, by decide, rfl⟩
    · -- the whole seconds are counted towards 1970, and the second has begun one before
      have hseconds : -((millis.natAbs / 1000 : Nat) : Int) - 1 = millis / 1000 := by omega
      rw [if_pos (by omega), hseconds]
      exact ⟨_, by omega, rfl⟩
  · have hsigned : ∀ n : Nat, signed (millis < 0) n = n := fun n ↦ if_neg (by simpa using hbefore)
    have hseconds : ((millis.natAbs / 1000 : Nat) : Int) = millis / 1000 := by omega
    rw [hsigned, hsigned, if_neg (by omega), if_neg (by omega), hseconds, Int.toNat_natCast]
    exact ⟨micros, hlt, rfl⟩

end Quotient

end Stamp

/-! ### Seconds of moments -/

namespace Calendar.Moment

theorem micros_toSecond (moment : Moment) :
    moment.toSecond.micros = moment.micros / 1000000 * 1000000 := by
  have hmicro := moment.time.micro_lt
  unfold toSecond TimeOfDay.toSecond micros TimeOfDay.micros microsPerDay
  simp only
  omega

/-- Moments of one second are cut down to the same moment. -/
theorem toSecond_eq_of_micros {moment other : Moment}
    (h : moment.micros / 1000000 = other.micros / 1000000) :
    moment.toSecond = other.toSecond := by
  have hmicros : moment.toSecond.micros = other.toSecond.micros := by
    rw [micros_toSecond, micros_toSecond, h]
  have hfound := ofMicros?_micros other.toSecond
  rw [← hmicros, ofMicros?_micros] at hfound
  exact Option.some.inj hfound

end Calendar.Moment

namespace Stamp

/-! ### The label of milliseconds -/

/-- The seconds of the calendar are far from the limits of the clock. -/
theorem clock_reaches :
    secondAt (1900 - yearSpan) ≤ -1000000000000 ∧ 1000000000000 ≤ secondAt (1900 + yearSpan) := by
  decide

variable {millis : Int} {instant : Moment}
    (h : (instant.micros : Int) = Moment.epoch + millis * 1000)
include h

/-- Milliseconds are turned into a moment of the second to which they lead. -/
theorem exists_atSeconds_millis :
    ∃ moment, atSeconds (.ofRatio (millis < 0) millis.natAbs 1000) = .ok moment ∧
      moment.toSecond = instant.toSecond := by
  have htime := instant.time.micros_lt
  have hfirst := instant.date.number_pos
  have hlast := instant.date.number_le_final
  have hfinal : Date.final.number = 3652059 := by decide
  have hepoch : Moment.epoch = 719163 * Moment.microsPerDay := rfl
  have hcount : instant.micros = instant.date.number * Moment.microsPerDay + instant.time.micros :=
    rfl
  obtain ⟨hclockFirst, hclockLast⟩ := clock_reaches
  unfold Moment.microsPerDay at htime hepoch hcount
  obtain ⟨micros, hlt, hsplit⟩ := split?_millis millis (by omega)
  have hword : ¬ (millis / 1000 < -wordLimit ∨ wordLimit < millis / 1000) := by
    unfold wordLimit
    omega
  have hclock :
      ¬ (millis / 1000 < secondAt (1900 - yearSpan) ∨
        secondAt (1900 + yearSpan) ≤ millis / 1000) := by
    omega
  have hinside : (Moment.microsPerDay : Int) ≤ Moment.epoch + millis / 1000 * 1000000 + micros ∧
      (Moment.epoch : Int) + millis / 1000 * 1000000 + micros <
        ((Date.final.number + 1) * Moment.microsPerDay : Nat) := by
    unfold Moment.microsPerDay
    omega
  obtain ⟨moment, hmoment⟩ := Moment.exists_ofMicros?_iff.mpr hinside
  refine ⟨moment, ?_, Moment.toSecond_eq_of_micros ?_⟩
  · rw [atSeconds, hsplit]
    simp only [if_neg hword, if_neg hclock, hmoment]
  · rw [Moment.ofMicros?_eq_some_iff] at hmoment
    omega

/-- Milliseconds have the label of their second. -/
theorem label_int_millis :
    label (.int millis) = .ok (Precision.second.render instant.toSecond) := by
  obtain ⟨moment, hmoment, hsecond⟩ := exists_atSeconds_millis h
  have hlabel : label (.int millis) = .ok (Precision.second.render moment) :=
    label_of_moment? (by rw [moment?, hmoment]; rfl)
  rw [hlabel, ← Precision.render_floor, Precision.floor, hsecond]

end Stamp

/-! ### Keys of buckets -/

namespace Stamp

theorem millis_places_le : 3 ≤ 6 := by
  decide

/-- Day and time of day to the millisecond, in universal time. -/
def millisForm : Iso.Form where
  mark := 'T'
  places := 3
  zone := .letter
  places_le := millis_places_le

/-- The text that shows the milliseconds of a moment has the label of their second. -/
theorem label_write_millis (instant : Moment) :
    label (.text (millisForm.write instant)) = .ok (Precision.second.render instant.toSecond) := by
  have hshift : (instant.micros : Int) = instant.micros + millisForm.zone.micros :=
    (Int.add_zero _).symm
  have hlabel : label (.text (millisForm.write instant)) =
      .ok (Precision.second.render (instant.cut millisForm.places)) :=
    label_of_moment?
      (by rw [moment?, Iso.read?_write, Option.bind_some, Iso.universal?_write hshift])
  rw [hlabel]
  rfl

end Stamp

namespace Backend.SearchIndex

/-- Whether a bucket has a moment for its key: as a number of milliseconds, as a text that shows
them, or as both. -/
inductive Keyed (millis : Int) (instant : Moment) (bucket : Json.Members) : Prop where
  | number (hkey : bucket.get? "key" = some (.int millis))
      (htext : bucket.get? "key_as_string" = none)
  | text (hkey : bucket.get? "key" = none)
      (htext : bucket.get? "key_as_string" = some (.text (Stamp.millisForm.write instant)))
  | both (hkey : bucket.get? "key" = some (.int millis))
      (htext : bucket.get? "key_as_string" = some (.text (Stamp.millisForm.write instant)))

/-- An answer with some buckets. -/
def answerOf (buckets : List Json) : Json :=
  .object [("aggregations", .object [(keyField, .object [("buckets", .list buckets)])])]

theorem points_answerOf (buckets : List Json) : points (answerOf buckets) = buckets.mapM point := by
  cases buckets <;> rfl

variable {millis : Int} {instant : Moment} {bucket other : Json.Members}

/-- However its key is written, a bucket has the point of its second. -/
theorem point_of_keyed (h : (instant.micros : Int) = Moment.epoch + millis * 1000)
    (hkeyed : Keyed millis instant bucket) : point (.object bucket) = (do
      let count ← integer (← child "value" ((bucket.get? "count").getD .null))
      let delay ← integer (← child "value" ((bucket.get? "delay").getD .null))
      pure ⟨.text (Precision.second.render instant.toSecond), count, delay⟩) := by
  have hlabel : Stamp.label ((bucket.get? "key_as_string").getD ((bucket.get? "key").getD .null)) =
      .ok (Precision.second.render instant.toSecond) := by
    cases hkeyed with
    | number hkey htext =>
      rw [htext, hkey]
      exact Stamp.label_int_millis h
    | text hkey htext | both hkey htext =>
      rw [htext]
      exact Stamp.label_write_millis instant
  rw [point, Json.members?]
  simp only [hlabel]
  rfl

/-- In an answer, a bucket may be replaced by another one with the same point. -/
theorem points_congr (h : point (.object bucket) = point (.object other))
    (before after : List Json) :
    points (answerOf (before ++ .object bucket :: after)) =
      points (answerOf (before ++ .object other :: after)) := by
  rw [points_answerOf, points_answerOf, List.mapM_append, List.mapM_append, List.mapM_cons,
    List.mapM_cons, h]

end Backend.SearchIndex

namespace Stamp

open Backend

/-- A number of milliseconds since 1970 has the label of the second that has begun by then, and so
has the text that shows the same milliseconds. In an answer of an index it does not matter which of
them is the key of a bucket, or whether both are. -/
theorem label_of_millis {millis : Int} {instant : Moment}
    (h : (instant.micros : Int) = Moment.epoch + millis * 1000) :
    ((instant.toSecond.micros : Int) = Moment.epoch + millis / 1000 * 1000000 ∧
      label (.int millis) = .ok (Precision.second.render instant.toSecond)) ∧
    label (.text (millisForm.write instant)) = label (.int millis) ∧
    ∀ bucket other : Json.Members, SearchIndex.Keyed millis instant bucket →
      SearchIndex.Keyed millis instant other →
      bucket.get? "count" = other.get? "count" → bucket.get? "delay" = other.get? "delay" →
        SearchIndex.point (.object bucket) = SearchIndex.point (.object other) ∧
        ∀ before after,
          SearchIndex.points (SearchIndex.answerOf (before ++ .object bucket :: after)) =
          SearchIndex.points (SearchIndex.answerOf (before ++ .object other :: after)) := by
  refine ⟨⟨?_, label_int_millis h⟩, ?_, fun bucket other hbucket hother hcount hdelay ↦ ?_⟩
  · have hepoch : Moment.epoch % 1000000 = 0 := by decide
    rw [Moment.micros_toSecond]
    omega
  · rw [label_write_millis, label_int_millis h]
  · have hpoint : SearchIndex.point (.object bucket) = SearchIndex.point (.object other) := by
      rw [SearchIndex.point_of_keyed h hbucket, SearchIndex.point_of_keyed h hother, hcount, hdelay]
    exact ⟨hpoint, SearchIndex.points_congr hpoint⟩

namespace BeforeEpoch

/-- The last millisecond before 1970. -/
def instant : Moment where
  date := .ofParts 1969 12 31
  time := .ofMicros 86399999000

/-- What a bucket counts. -/
def totals : Json.Members :=
  [("count", .object [("value", .int 2)]), ("delay", .object [("value", .int 7)])]

/-- The bucket with the number for its key. -/
def numbered : Json.Members :=
  ("key", .int (-1)) :: totals

/-- The bucket with the text for its key. -/
def written : Json.Members :=
  ("key_as_string", .text (millisForm.write instant)) :: totals

/-- One millisecond before 1970 it is still the second before, and both keys give its point. -/
theorem labelled_before_epoch : (instant.micros : Int) = Moment.epoch + (-1) * 1000 ∧
    millisForm.write instant = "1969-12-31T23:59:59.999Z" ∧
    label (.int (-1)) = .ok "1969-12-31 23:59:59" ∧
    label (.text "1969-12-31T23:59:59.999Z") = .ok "1969-12-31 23:59:59" ∧
    (SearchIndex.Keyed (-1) instant numbered ∧ SearchIndex.Keyed (-1) instant written) ∧
    SearchIndex.point (.object numbered) = SearchIndex.point (.object written) := by
  have hinstant : (instant.micros : Int) = Moment.epoch + (-1) * 1000 := by decide +kernel
  have hwrite : millisForm.write instant = "1969-12-31T23:59:59.999Z" := by decide +kernel
  have hrender : Precision.second.render instant.toSecond = "1969-12-31 23:59:59" := by
    decide +kernel
  have hnumbered : SearchIndex.Keyed (-1) instant numbered := .number rfl rfl
  have hwritten : SearchIndex.Keyed (-1) instant written := .text rfl rfl
  obtain ⟨⟨-, hlabel⟩, hsame, hpoints⟩ := label_of_millis hinstant
  rw [hrender] at hlabel
  rw [hwrite, hlabel] at hsame
  exact ⟨hinstant, hwrite, hlabel, hsame, ⟨hnumbered, hwritten⟩,
    (hpoints numbered written hnumbered hwritten rfl rfl).1⟩

end BeforeEpoch

end Stamp

end StreamAudit
