import StreamAudit.Proofs.Backend.Grouping
import StreamAudit.Proofs.Relabel
import StreamAudit.Proofs.Rollup.Exactness

/-!
Rolling up at two bucket sizes. A label of a second, an hour or a day begins with the label that the
same moment has at every coarser size, and is read at that size as it (`relabel?_render`). So the
labels at the coarser size are the fronts of those at the finer one, in the order of their moments,
and what stands under a coarse label is what stands under the finer labels that begin with it
(`sum_pointsAt`). Counts therefore add up, and rolling the finer report up once more finds the same
counts; average delays lie between those of their parts (`rolled_from_finer`).
-/

set_option autoImplicit false
set_option relaxedAutoImplicit false

namespace StreamAudit

open StreamAudit.Calendar StreamAudit.Text

namespace Text

/-- Texts compare as their first characters do, if these differ. -/
theorem lt_of_take_lt (n : Nat) {s t : List Char} (h : s.take n < t.take n) : s < t := by
  induction n generalizing s t with
  | zero => simp at h
  | succ n ih =>
    cases s with
    | nil =>
      cases t with
      | nil => simp at h
      | cons d t => exact List.nil_lt_cons d t
    | cons c s =>
      cases t with
      | nil => simp at h
      | cons d t =>
        rw [List.take_succ_cons, List.take_succ_cons, List.cons_lt_cons_iff] at h
        exact List.cons_lt_cons_iff.mpr (h.imp_right (And.imp_right ih))

end Text

namespace Precision

/-- The first characters of a text, as many as a label of the precision has. -/
def front (precision : Precision) (text : String) : String :=
  String.ofList (text.toList.take precision.width)

variable {coarse fine : Precision} {moment : Moment}

/-- A label of a moment begins with the coarser labels of the moment. -/
theorem front_render (hwidth : coarse.width ≤ fine.width) (hyear : 1000 ≤ moment.date.year) :
    coarse.front (fine.render moment) = coarse.render moment := by
  rw [front, toList_render fine hyear, List.take_take, min_eq_left hwidth,
    ← toList_render coarse hyear, String.ofList_toList]

/-- The label of a moment has no blanks around it. -/
theorem trimmed_render (precision : Precision) (hyear : 1000 ≤ moment.date.year) :
    Trimmed isBlank (precision.render moment).toList := by
  rw [toList_render precision hyear]
  cases precision with
  | second => exact moment.trimmed_secondText
  | hour =>
    constructor
    · exact moment.trimmed_secondText.1
    · intro c hc
      obtain rfl : digitChar moment.time.hour = c := by
        simpa [Moment.secondText, width, fourDigits, twoDigits] using hc
      exact isBlank_digitChar _
  | day =>
    constructor
    · exact moment.trimmed_secondText.1
    · intro c hc
      obtain rfl : digitChar moment.date.day = c := by
        simpa [Moment.secondText, width, fourDigits, twoDigits] using hc
      exact isBlank_digitChar _

/-- The label of a moment is read at every coarser precision as a label of the same moment. -/
theorem relabel?_render (hwidth : coarse.width ≤ fine.width) (hyear : 1000 ≤ moment.date.year) :
    coarse.relabel? (.text (fine.render moment)) = some (coarse.render moment) := by
  rw [relabel?, read?, trimList_eq_self isBlank (trimmed_render fine hyear),
    toList_render fine hyear, List.take_take, min_eq_left hwidth, readAll?_take, Option.map_some,
    render_floor]

/-! ### Where a bucket starts -/

theorem micro_floor (precision : Precision) (moment : Moment) :
    (precision.floor moment).time.micro = 0 := by
  cases precision <;> rfl

theorem year_floor (precision : Precision) (moment : Moment) :
    (precision.floor moment).date.year = moment.date.year := by
  cases precision <;> rfl

theorem floor_floor (precision : Precision) (moment : Moment) :
    precision.floor (precision.floor moment) = precision.floor moment := by
  cases precision <;> rfl

/-- Moments whose labels are in ascending order are in order as far as their labels show them. -/
theorem floor_lt_floor (precision : Precision) {first second : Moment}
    (hfirst : 1000 ≤ first.date.year) (hsecond : 1000 ≤ second.date.year)
    (h : precision.render first < precision.render second) :
    precision.floor first < precision.floor second := by
  have hlabels : (precision.render first).toList < (precision.render second).toList := h
  rw [← render_floor precision first, ← render_floor precision second,
    toList_render precision (by rwa [year_floor]), toList_render precision (by rwa [year_floor]),
    ← Moment.toList_text, ← Moment.toList_text] at hlabels
  exact (Moment.text_lt_text_iff (micro_floor precision first) (micro_floor precision second)).mp
    (lt_of_take_lt precision.width hlabels)

end Precision

namespace Rollup

/-- Whether the keys of all points are labels of seconds, from the year 1000 on. -/
def KeyedBySeconds (points : List Point) : Prop :=
  ∀ point ∈ points, ∃ moment : Moment, 1000 ≤ moment.date.year ∧
    point.key = .text (Precision.second.render moment)

/-- The finer buckets that go into a coarser one. -/
def partsOf (coarse : Precision) (label : String) (buckets : List Bucket) : List Bucket :=
  buckets.filter fun bucket ↦ coarse.front bucket.label = label

/-- Whether some buckets are the finer ones put together: their labels are the fronts of the finer
labels and stand for moments in order, and each counts what its parts count. -/
structure Gathers (coarse : Precision) (finer coarser : List Bucket) : Prop where
  mem_labels : ∀ label, label ∈ coarser.map Bucket.label ↔
    ∃ bucket ∈ finer, coarse.front bucket.label = label
  chronological : ∃ moments : List Moment, moments.Pairwise (· < ·) ∧
    (∀ moment ∈ moments, 1000 ≤ moment.date.year ∧ coarse.floor moment = moment) ∧
      coarser.map Bucket.label = moments.map coarse.render
  count_eq : ∀ bucket ∈ coarser,
    bucket.count = ((partsOf coarse bucket.label finer).map Bucket.count).sum

/-- A report read as a series once more, whatever delays it is given. -/
def again (delayOf : Bucket → Int) (report : Report) : Series where
  auditId := report.auditId
  nodeType := report.nodeType
  points := report.buckets.map fun bucket ↦ ⟨.text bucket.label, bucket.count, delayOf bucket⟩

section Keyed

variable {fine coarse : Precision} {points : List Point}

/-- A point has a label at both sizes, the coarser one being the front of the finer one and read
from it. -/
theorem exists_label (hkeyed : KeyedBySeconds points) (hwidth : coarse.width ≤ fine.width)
    {point : Point} (hpoint : point ∈ points) : ∃ label, fine.relabel? point.key = some label ∧
      coarse.relabel? point.key = some (coarse.front label) ∧
      coarse.relabel? (.text label) = some (coarse.front label) := by
  obtain ⟨moment, hyear, hkey⟩ := hkeyed point hpoint
  rw [hkey]
  refine ⟨fine.render moment, fine.relabel?_render_second hyear, ?_, ?_⟩
  · rw [coarse.relabel?_render_second hyear, Precision.front_render hwidth hyear]
  · rw [Precision.relabel?_render hwidth hyear, Precision.front_render hwidth hyear]

theorem mem_labels_iff (hkeyed : KeyedBySeconds points) (hwidth : coarse.width ≤ fine.width)
    {label : String} :
    label ∈ labels coarse points ↔ ∃ text ∈ labels fine points, coarse.front text = label := by
  simp only [mem_labels]
  constructor
  · rintro ⟨point, hpoint, hlabel⟩
    obtain ⟨text, htext, hfront, -⟩ := exists_label hkeyed hwidth hpoint
    exact ⟨text, ⟨point, hpoint, htext⟩, Option.some.inj (hfront.symm.trans hlabel)⟩
  · rintro ⟨text, ⟨point, hpoint, htext⟩, rfl⟩
    obtain ⟨other, hother, hfront, -⟩ := exists_label hkeyed hwidth hpoint
    obtain rfl : other = text := Option.some.inj (hother.symm.trans htext)
    exact ⟨point, hpoint, hfront⟩

/-- A label that occurs is read at every coarser size as its own front. -/
theorem relabel?_of_mem_labels (hkeyed : KeyedBySeconds points) (hwidth : coarse.width ≤ fine.width)
    {text : String} (htext : text ∈ labels fine points) :
    coarse.relabel? (.text text) = some (coarse.front text) := by
  obtain ⟨point, hpoint, hlabel⟩ := mem_labels.mp htext
  obtain ⟨other, hother, -, hread⟩ := exists_label hkeyed hwidth hpoint
  rwa [← Option.some.inj (hother.symm.trans hlabel)]

/-- What stands under a label is what stands under the finer labels that begin with it. -/
theorem sum_pointsAt (hkeyed : KeyedBySeconds points) (hwidth : coarse.width ≤ fine.width)
    (value : Point → Int) (label : String) :
    ((pointsAt coarse label points).map value).sum =
      (((labels fine points).filter fun text ↦ coarse.front text = label).map fun text ↦
        ((pointsAt fine text points).map value).sum).sum := by
  let labelOf (point : Point) : String := (fine.relabel? point.key).getD ""
  have hnodup : ((labels fine points).filter fun text ↦ coarse.front text = label).Nodup :=
    (Ascending.nodup_ofList _).filter _
  have hrows : ∀ point ∈ pointsAt coarse label points,
      labelOf point ∈ (labels fine points).filter fun text ↦ coarse.front text = label := by
    intro point hpoint
    obtain ⟨hmem, hlabel⟩ := List.mem_filter.mp hpoint
    obtain ⟨text, htext, hfront, -⟩ := exists_label hkeyed hwidth hmem
    have hsame : labelOf point = text := by simp [labelOf, htext]
    rw [hsame, List.mem_filter, decide_eq_true_eq]
    exact ⟨mem_labels.mpr ⟨point, hmem, htext⟩,
      Option.some.inj (hfront.symm.trans (of_decide_eq_true hlabel))⟩
  rw [← Backend.sum_map_filter labelOf value hnodup hrows]
  refine congrArg List.sum (List.map_congr_left fun text htext ↦ ?_)
  have hprefix : coarse.front text = label := of_decide_eq_true (List.mem_filter.mp htext).2
  rw [pointsAt, pointsAt, List.filter_filter]
  refine congrArg (fun part ↦ (part.map value).sum) (List.filter_congr fun point hpoint ↦ ?_)
  obtain ⟨other, hother, hfront, -⟩ := exists_label hkeyed hwidth hpoint
  by_cases hsame : other = text
  · simp [labelOf, hother, hfront, hsame, hprefix]
  · simp [labelOf, hother, hsame]

theorem partsOf_report (series : Series) (label : String) :
    partsOf coarse label (report fine series).buckets =
      ((labels fine series.points).filter fun text ↦ coarse.front text = label).map
        (bucketAt fine series.points) := by
  rw [partsOf, buckets_report, List.filter_map]
  rfl

end Keyed

/-- The label of a moment is the label of the moment at which its bucket starts. -/
theorem exists_start {precision : Precision} {points : List Point} (hkeyed : KeyedBySeconds points)
    {label : String} (hlabel : label ∈ labels precision points) :
    ∃ moment : Moment, 1000 ≤ moment.date.year ∧ precision.floor moment = moment ∧
      precision.render moment = label := by
  obtain ⟨point, hpoint, hread⟩ := mem_labels.mp hlabel
  obtain ⟨moment, hyear, hkey⟩ := hkeyed point hpoint
  rw [hkey, precision.relabel?_render_second hyear, Option.some.injEq] at hread
  exact ⟨precision.floor moment, by rwa [Precision.year_floor], precision.floor_floor moment,
    by rw [Precision.render_floor, hread]⟩

/-- Labels in ascending order stand for starts of buckets in order of time. -/
theorem exists_starts {precision : Precision} {texts : List String}
    (hsorted : Ascending.Sorted texts)
    (hstart : ∀ text ∈ texts, ∃ moment : Moment, 1000 ≤ moment.date.year ∧
      precision.floor moment = moment ∧ precision.render moment = text) :
    ∃ moments : List Moment, moments.Pairwise (· < ·) ∧
      (∀ moment ∈ moments, 1000 ≤ moment.date.year ∧ precision.floor moment = moment) ∧
        texts = moments.map precision.render := by
  induction texts with
  | nil => exact ⟨[], List.Pairwise.nil, by simp, rfl⟩
  | cons text rest ih =>
    obtain ⟨hbefore, hrest⟩ := List.pairwise_cons.mp hsorted
    obtain ⟨hfirst, hothers⟩ := List.forall_mem_cons.mp hstart
    obtain ⟨moment, hyear, hfloor, rfl⟩ := hfirst
    obtain ⟨moments, hpairwise, hfloors, rfl⟩ := ih hrest hothers
    refine ⟨moment :: moments, List.pairwise_cons.mpr ⟨fun other hother ↦ ?_, hpairwise⟩,
      List.forall_mem_cons.mpr ⟨⟨hyear, hfloor⟩, hfloors⟩, rfl⟩
    obtain ⟨hlater, hsame⟩ := hfloors other hother
    have hlt := precision.floor_lt_floor hyear hlater (hbefore _ (List.mem_map_of_mem hother))
    rwa [hfloor, hsame] at hlt

section Reports

variable {fine coarse : Precision} {series : Series}

theorem gathers_report (hkeyed : KeyedBySeconds series.points)
    (hwidth : coarse.width ≤ fine.width) :
    Gathers coarse (report fine series).buckets (report coarse series).buckets := by
  constructor
  case mem_labels =>
    intro label
    rw [labels_buckets, mem_labels_iff hkeyed hwidth, ← labels_buckets fine series]
    simp only [List.mem_map, exists_exists_and_eq_and]
  case chronological =>
    rw [labels_buckets]
    exact exists_starts (Ascending.sorted_ofList _) fun label hlabel ↦ exists_start hkeyed hlabel
  case count_eq =>
    intro bucket hbucket
    rw [buckets_report] at hbucket
    obtain ⟨label, -, rfl⟩ := List.mem_map.mp hbucket
    rw [partsOf_report, List.map_map]
    exact sum_pointsAt hkeyed hwidth Point.count label

/-- Rolling up the finer report finds the labels and counts of rolling up the series. -/
theorem report_again (hkeyed : KeyedBySeconds series.points) (hwidth : coarse.width ≤ fine.width)
    (delayOf : Bucket → Int) :
    (report coarse (again delayOf (report fine series))).buckets.map
      (fun bucket ↦ (bucket.label, bucket.count)) =
      (report coarse series).buckets.map (fun bucket ↦ (bucket.label, bucket.count)) := by
  have hread : ∀ bucket ∈ (report fine series).buckets,
      coarse.relabel? (.text bucket.label) = some (coarse.front bucket.label) := by
    intro bucket hbucket
    refine relabel?_of_mem_labels hkeyed hwidth ?_
    rw [← labels_buckets]
    exact List.mem_map_of_mem hbucket
  have hlabels : labels coarse (again delayOf (report fine series)).points =
      labels coarse series.points := by
    refine Ascending.ascending_ext (Ascending.sorted_ofList _) (Ascending.sorted_ofList _)
      fun label ↦ ?_
    rw [← labels_buckets coarse series, (gathers_report hkeyed hwidth).mem_labels label]
    simp only [mem_labels, again, List.mem_map, exists_exists_and_eq_and]
    refine exists_congr fun bucket ↦ and_congr_right fun hbucket ↦ ?_
    rw [hread bucket hbucket, Option.some.injEq]
  have hpoints : ∀ label, countAt coarse label (again delayOf (report fine series)).points =
      ((partsOf coarse label (report fine series).buckets).map Bucket.count).sum := by
    intro label
    rw [countAt, pointsAt, again, List.filter_map, List.map_map, partsOf]
    refine congrArg (fun part ↦ (part.map Bucket.count).sum)
      (List.filter_congr fun bucket hbucket ↦ ?_)
    simp [hread bucket hbucket]
  rw [buckets_report, buckets_report, List.map_map, List.map_map, hlabels]
  refine List.map_congr_left fun label hlabel ↦ Prod.ext rfl ?_
  have hmem : bucketAt coarse series.points label ∈ (report coarse series).buckets := by
    rw [buckets_report]
    exact List.mem_map_of_mem hlabel
  exact (hpoints label).trans ((gathers_report hkeyed hwidth).count_eq _ hmem).symm

/-- Where every point counts something, an average delay lies between those of two parts of its
bucket. -/
theorem exists_parts_around (hkeyed : KeyedBySeconds series.points)
    (hwidth : coarse.width ≤ fine.width) (hcounts : ∀ point ∈ series.points, 0 < point.count)
    {bucket : Bucket} (hbucket : bucket ∈ (report coarse series).buckets) :
    ∃ low ∈ partsOf coarse bucket.label (report fine series).buckets,
      ∃ high ∈ partsOf coarse bucket.label (report fine series).buckets,
        low.delay ≤ bucket.delay ∧ bucket.delay ≤ high.delay := by
  rw [buckets_report] at hbucket
  obtain ⟨label, hlabel, rfl⟩ := List.mem_map.mp hbucket
  let texts := (labels fine series.points).filter fun text ↦ coarse.front text = label
  have hne : texts.map (tallyAt fine series.points) ≠ [] := by
    obtain ⟨text, htext, hfront⟩ := (mem_labels_iff hkeyed hwidth).mp hlabel
    refine List.ne_nil_of_mem
      (List.mem_map_of_mem (List.mem_filter.mpr ⟨htext, decide_eq_true hfront⟩))
  have hpositive : ∀ tally ∈ texts.map (tallyAt fine series.points), 0 < tally.count := by
    refine List.forall_mem_map.mpr fun text htext ↦ ?_
    obtain ⟨point, hpoint, hread⟩ := mem_labels.mp (List.mem_filter.mp htext).1
    refine List.sum_pos _ (List.forall_mem_map.mpr fun other hother ↦ ?_) ?_
    · exact hcounts other (List.mem_filter.mp hother).1
    · exact List.ne_nil_of_mem
        (List.mem_map_of_mem (List.mem_filter.mpr ⟨hpoint, decide_eq_true hread⟩))
  have hparts : partsOf coarse label (report fine series).buckets =
      (texts.map (tallyAt fine series.points)).map Tally.bucket := by
    rw [partsOf_report, List.map_map]
    rfl
  have hdelay : (bucketAt coarse series.points label).delay =
      averageDelay ((texts.map (tallyAt fine series.points)).map Tally.delay).sum
        ((texts.map (tallyAt fine series.points)).map Tally.count).sum := by
    rw [List.map_map, List.map_map]
    exact congrArg₂ averageDelay (sum_pointsAt hkeyed hwidth Point.delay label)
      (sum_pointsAt hkeyed hwidth Point.count label)
  obtain ⟨low, hlow, high, hhigh, hbounds⟩ := exists_averages_around hne hpositive
  rw [← hdelay] at hbounds
  refine ⟨low.bucket, ?_, high.bucket, ?_, hbounds⟩
  · exact hparts ▸ List.mem_map_of_mem hlow
  · exact hparts ▸ List.mem_map_of_mem hhigh

/-- Rolling a series of seconds up at two bucket sizes. The buckets of the coarser size are those of
the finer one put together, in the order of time; rolling up the finer report gives the same labels
and counts, whatever delays it is given; and if every point counts something, each average delay
lies between two of those that go into it. -/
theorem rolled_from_finer {fine coarse : Granularity}
    (hfiner : coarse.precision.width < fine.precision.width) {series : Series}
    (hkeyed : KeyedBySeconds series.points) :
    Gathers coarse.precision (report fine.precision series).buckets
      (report coarse.precision series).buckets ∧
      (∀ delayOf : Bucket → Int,
        (report coarse.precision (again delayOf (report fine.precision series))).buckets.map
            (fun bucket ↦ (bucket.label, bucket.count)) =
          (report coarse.precision series).buckets.map
            (fun bucket ↦ (bucket.label, bucket.count))) ∧
      ((∀ point ∈ series.points, 0 < point.count) →
        ∀ bucket ∈ (report coarse.precision series).buckets,
          ∃ low ∈ partsOf coarse.precision bucket.label (report fine.precision series).buckets,
            ∃ high ∈ partsOf coarse.precision bucket.label (report fine.precision series).buckets,
              low.delay ≤ bucket.delay ∧ bucket.delay ≤ high.delay) :=
  ⟨gathers_report hkeyed hfiner.le, report_again hkeyed hfiner.le,
    fun hcounts _ hbucket ↦ exists_parts_around hkeyed hfiner.le hcounts hbucket⟩

end Reports

namespace TwoHours

/-- A minute of the first day of 2024. -/
def minuteAt (hour : Fin 24) (minute : Fin 60) : Moment where
  date := .newYear
  time := { TimeOfDay.midnight with
    hour := hour, minute := minute, hour_lt := hour.isLt, minute_lt := minute.isLt }

/-- Points of three minutes in two hours, one of the minutes twice. -/
def series : Series where
  auditId := "6"
  nodeType := none
  points :=
    [⟨.text (Precision.second.render (minuteAt 10 45)), 1, 7⟩,
      ⟨.text (Precision.second.render (minuteAt 9 0)), 2, -5⟩,
      ⟨.text (Precision.second.render (minuteAt 10 15)), 3, -20⟩,
      ⟨.text (Precision.second.render (minuteAt 10 45)), 1, 4⟩]

theorem keyed_series : KeyedBySeconds series.points := by
  simp only [KeyedBySeconds, series, List.forall_mem_cons]
  exact ⟨⟨minuteAt 10 45, by decide, rfl⟩, ⟨minuteAt 9 0, by decide, rfl⟩,
    ⟨minuteAt 10 15, by decide, rfl⟩, ⟨minuteAt 10 45, by decide, rfl⟩, nofun⟩

theorem buckets_minute : (report Precision.second series).buckets =
    [⟨"2024-01-01 09:00:00", 2, -2⟩, ⟨"2024-01-01 10:15:00", 3, -6⟩,
      ⟨"2024-01-01 10:45:00", 2, 5⟩] := by
  decide +kernel

theorem buckets_hour : (report Precision.hour series).buckets =
    [⟨"2024-01-01 09", 2, -2⟩, ⟨"2024-01-01 10", 5, -1⟩] := by
  decide +kernel

/-- The minutes go into their hours, and the average delay of the later hour lies between those of
its two minutes. -/
theorem minutes_rolled_to_hours :
    Gathers .hour
        [⟨"2024-01-01 09:00:00", 2, -2⟩, ⟨"2024-01-01 10:15:00", 3, -6⟩,
          ⟨"2024-01-01 10:45:00", 2, 5⟩]
        [⟨"2024-01-01 09", 2, -2⟩, ⟨"2024-01-01 10", 5, -1⟩] ∧
      ∃ low ∈ partsOf .hour "2024-01-01 10" (report Precision.second series).buckets,
        ∃ high ∈ partsOf .hour "2024-01-01 10" (report Precision.second series).buckets,
          low.delay ≤ -1 ∧ -1 ≤ high.delay := by
  obtain ⟨hgathers, -, haround⟩ := @rolled_from_finer .minute .hour (by decide) series keyed_series
  have hcounts : ∀ point ∈ series.points, 0 < point.count := by decide
  have hbetween := haround hcounts ⟨"2024-01-01 10", 5, -1⟩
    (by rw [Granularity.precision, buckets_hour]; decide)
  rw [Granularity.precision, Granularity.precision, buckets_minute, buckets_hour] at hgathers
  exact ⟨hgathers, hbetween⟩

end TwoHours

end Rollup

end StreamAudit
