import Mathlib.Data.List.Induction
import StreamAudit.Store.Sources

/-!
The history of the audit sources. Registrations add a row each and remove none. What becomes of a
source depends on the registrations after it alone: it goes offline if one of them names its url and
then carries the operator and the stamp of the last one that did, and nothing else about it changes
(`outlives_fate`). Numbers only grow, and the source in use is always the one that was registered
last (`history_of_registrations`). A source of neither status goes offline like any other, and its
row is stamped (`Shared.rewritten_by_retirement`).
-/

set_option autoImplicit false
set_option relaxedAutoImplicit false

namespace StreamAudit.Store.Sources

open StreamAudit.Calendar

/-- A registration of a source by an operator, with what the clock shows to it. -/
structure Registration where
  request : SourceRequest
  operator : String
  stamps : Stamps
deriving DecidableEq

namespace Registration

/-- Whether a registration takes the sources at a url offline. An empty url names none. -/
def Replaces (registration : Registration) (url : String) : Prop :=
  url ≠ "" ∧ registration.request.offlineUrl = some url

instance (registration : Registration) (url : String) : Decidable (registration.Replaces url) :=
  inferInstanceAs (Decidable (_ ∧ _))

/-- The row that a registration adds to a table. -/
def row (registration : Registration) (table : Table Source) : Row Source :=
  (register registration.request registration.operator registration.stamps table).1

/-- The table after a registration. -/
def enter (registration : Registration) (table : Table Source) : Table Source :=
  (register registration.request registration.operator registration.stamps table).2

/-- The source that a registration adds. -/
def source (registration : Registration) : Source :=
  sourceOf registration.request registration.operator registration.stamps

/-- What a registration makes of a source that is there already. -/
def age (registration : Registration) (source : Source) : Source :=
  if registration.Replaces source.url then
    { source with
      status := .offline
      modifier := some registration.operator
      modifyTime := registration.stamps.offlined }
  else source

theorem takeOffline_eq_age {registration : Registration} {url : String} (hurl : url ≠ "")
    (hoffline : registration.request.offlineUrl = some url) (source : Source) :
    takeOffline url registration.operator registration.stamps.offlined source =
      registration.age source := by
  have hnames : registration.Replaces source.url ↔ source.url = url := by
    rw [Replaces, hoffline, Option.some.injEq]
    constructor
    · exact fun h ↦ h.2.symm
    · rintro rfl
      exact ⟨hurl, rfl⟩
  rw [takeOffline, age]
  simp only [hnames]

theorem age_of_not_replaces {registration : Registration} {source : Source}
    (h : ¬ registration.Replaces source.url) : registration.age source = source :=
  if_neg h

/-- A registration ages the rows that are there and puts its own one after them. -/
theorem enter_eq (registration : Registration) (table : Table Source) :
    registration.enter table =
      (table.map fun row ↦ { row with data := registration.age row.data }) ++
        [registration.row table] := by
  have hrows : withOffline registration.request.offlineUrl registration.operator
      registration.stamps.offlined table = table.map fun row ↦
        { row with data := registration.age row.data } := by
    have hkept : (∀ url, ¬ registration.Replaces url) →
        (table.map fun row ↦ { row with data := registration.age row.data }) = table := by
      intro hnone
      simp only [age_of_not_replaces (hnone _), List.map_id']
    rcases hoffline : registration.request.offlineUrl with _ | url
    · rw [withOffline, hkept]
      rintro url ⟨-, hnamed⟩
      rw [hoffline] at hnamed
      cases hnamed
    · by_cases hurl : url = ""
      · rw [withOffline, if_pos hurl, hkept]
        rintro other ⟨hother, hnamed⟩
        rw [hoffline, Option.some.injEq] at hnamed
        exact hother (hnamed.symm.trans hurl)
      · rw [withOffline, if_neg hurl]
        simp only [takeOffline_eq_age hurl hoffline]
  rw [enter, register, hrows, row, register]

theorem length_enter (registration : Registration) (table : Table Source) :
    (registration.enter table).length = table.length + 1 := by
  rw [enter_eq, List.length_append, List.length_map, List.length_singleton]

theorem getElem?_enter (registration : Registration) {table : Table Source} {place : Nat}
    (h : place < table.length) : (registration.enter table)[place]? =
      table[place]?.map fun row ↦ { row with data := registration.age row.data } := by
  rw [enter_eq, List.getElem?_append_left (by rwa [List.length_map]), List.getElem?_map]

theorem getElem?_enter_length (registration : Registration) (table : Table Source) :
    (registration.enter table)[table.length]? = some (registration.row table) := by
  rw [enter_eq, List.getElem?_append_right (by simp), List.length_map, Nat.sub_self]
  rfl

/-- The new number comes after all others. -/
theorem id_lt_row (registration : Registration) {table : Table Source} (hordered : table.Ordered) :
    ∀ other ∈ table, other.id < (registration.row table).id := by
  cases table using List.reverseRecOn with
  | nil => simp
  | append_singleton earlier last =>
    have hnext : (registration.row (earlier ++ [last])).id = last.id + 1 := by
      simp [row, register, Table.nextId]
    intro other hother
    rw [hnext]
    rcases List.mem_append.mp hother with hearlier | hlast
    · have hlt := (List.pairwise_append.mp hordered).2.2 other hearlier last List.mem_cons_self
      omega
    · rw [List.mem_singleton.mp hlast]
      omega

theorem ordered_enter (registration : Registration) {table : Table Source}
    (hordered : table.Ordered) :
    (registration.enter table).Ordered := by
  rw [enter_eq]
  refine List.pairwise_append.mpr ⟨List.pairwise_map.mpr hordered, List.pairwise_singleton _ _, ?_⟩
  simp only [List.mem_map, List.mem_singleton]
  rintro _ ⟨other, hother, rfl⟩ _ rfl
  exact registration.id_lt_row hordered other hother

theorem online?_enter (registration : Registration) {table : Table Source}
    (hordered : table.Ordered) :
    online? (registration.enter table) = some (registration.row table) := by
  have hkept := (registration.ordered_enter hordered).sublist
    (List.filter_sublist (p := fun row ↦ row.data.status == .online))
  rw [online?, Table.byId_of_ordered hkept, enter_eq, List.filter_append]
  exact List.getLast?_concat

end Registration

/-- The table after some registrations, one after another. -/
def after (registrations : List Registration) (table : Table Source) : Table Source :=
  registrations.foldl (fun reached registration ↦ registration.enter reached) table

theorem after_append (first second : List Registration) (table : Table Source) :
    after (first ++ second) table = after second (after first table) :=
  List.foldl_append

/-! ### What becomes of one source -/

/-- What some registrations make of a source that was there before them. -/
def fate (later : List Registration) (source : Source) : Source :=
  later.foldl (fun reached registration ↦ registration.age reached) source

/-- The last of some registrations that takes the sources at a url offline. -/
def lastReplacing? (registrations : List Registration) (url : String) : Option Registration :=
  registrations.reverse.find? fun registration ↦ registration.Replaces url

/-- How a source has outlived the registrations after it: it is online if it was and none of them
named its url, offline if one did, its modifier and the moment of its last change are the operator
and the stamp of the last one that did, and the rest of it is as it was. -/
structure Outlives (later : List Registration) (source now : Source) : Prop where
  online_iff : now.status = .online ↔
    source.status = .online ∧ ∀ registration ∈ later, ¬ registration.Replaces source.url
  offline_of_named : (∃ registration ∈ later, registration.Replaces source.url) →
    now.status = .offline
  modifier_eq : now.modifier =
    ((lastReplacing? later source.url).map fun registration ↦ some registration.operator).getD
      source.modifier
  modifyTime_eq : now.modifyTime =
    ((lastReplacing? later source.url).map fun registration ↦ registration.stamps.offlined).getD
      source.modifyTime
  others_eq : now =
    { source with status := now.status, modifier := now.modifier, modifyTime := now.modifyTime }
  eq_of_unnamed : (∀ registration ∈ later, ¬ registration.Replaces source.url) → now = source

theorem fate_concat (later : List Registration) (last : Registration) (source : Source) :
    fate (later ++ [last]) source = last.age (fate later source) :=
  List.foldl_append

theorem lastReplacing?_concat (later : List Registration) (last : Registration) (url : String) :
    lastReplacing? (later ++ [last]) url =
      if last.Replaces url then some last else lastReplacing? later url := by
  rw [lastReplacing?, List.reverse_concat, List.find?_cons]
  by_cases h : last.Replaces url
  · simp [h]
  · simp [h, lastReplacing?]

theorem outlives_fate (later : List Registration) (source : Source) :
    Outlives later source (fate later source) := by
  induction later using List.reverseRecOn with
  | nil => exact ⟨by simp [fate], by simp, rfl, rfl, rfl, fun _ ↦ rfl⟩
  | append_singleton later last ih =>
    have hurl : (fate later source).url = source.url := by
      rw [ih.others_eq]
    have hlast : (∀ registration ∈ later ++ [last], ¬ registration.Replaces source.url) ↔
        (∀ registration ∈ later, ¬ registration.Replaces source.url) ∧
          ¬ last.Replaces source.url := by
      simp [or_imp, forall_and]
    rw [fate_concat]
    by_cases hnamed : last.Replaces source.url
    · have haged : last.age (fate later source) =
          { fate later source with
            status := .offline
            modifier := some last.operator
            modifyTime := last.stamps.offlined } :=
        if_pos (by rwa [hurl])
      rw [haged]
      refine ⟨?_, fun _ ↦ rfl, ?_, ?_, ?_, fun hnone ↦ absurd hnamed (hlast.mp hnone).2⟩
      · rw [hlast]
        simp [hnamed]
      · rw [lastReplacing?_concat, if_pos hnamed]
        rfl
      · rw [lastReplacing?_concat, if_pos hnamed]
        rfl
      · have hothers := ih.others_eq
        generalize fate later source = reached at hothers ⊢
        rw [hothers]
    · rw [Registration.age_of_not_replaces (by rwa [hurl])]
      refine ⟨?_, ?_, ?_, ?_, ih.others_eq, fun hnone ↦ ih.eq_of_unnamed (hlast.mp hnone).1⟩
      · rw [ih.online_iff, hlast, and_iff_left hnamed]
      · rintro ⟨registration, hmem, hreplaces⟩
        rcases List.mem_append.mp hmem with hlater | hsame
        · exact ih.offline_of_named ⟨registration, hlater, hreplaces⟩
        · exact absurd (List.mem_singleton.mp hsame ▸ hreplaces) hnamed
      · rw [lastReplacing?_concat, if_neg hnamed, ih.modifier_eq]
      · rw [lastReplacing?_concat, if_neg hnamed, ih.modifyTime_eq]

/-! ### What becomes of the table -/

theorem length_after (registrations : List Registration) (table : Table Source) :
    (after registrations table).length = table.length + registrations.length := by
  induction registrations generalizing table with
  | nil => rfl
  | cons first rest ih =>
    have hrest : (after rest (first.enter table)).length = _ := ih _
    rw [after, List.foldl_cons, ← after, hrest, first.length_enter, List.length_cons]
    omega

/-- Every row stays where it is, with its number, and meets its fate. -/
theorem getElem?_after (registrations : List Registration) {table : Table Source} {place : Nat}
    (h : place < table.length) : (after registrations table)[place]? =
      table[place]?.map fun row ↦ { row with data := fate registrations row.data } := by
  induction registrations generalizing table with
  | nil => simp [after, fate]
  | cons first rest ih =>
    have hplace : place < (first.enter table).length := by
      rw [first.length_enter]
      omega
    have hrest : (after rest (first.enter table))[place]? = _ := ih hplace
    rw [after, List.foldl_cons, ← after, hrest, first.getElem?_enter h, Option.map_map]
    rfl

theorem ordered_after (registrations : List Registration) {table : Table Source}
    (hordered : table.Ordered) : (after registrations table).Ordered := by
  induction registrations generalizing table with
  | nil => exact hordered
  | cons first rest ih => exact ih (first.ordered_enter hordered)

/-- After any registrations every row is where it was, or in the place of its registration, as the
later registrations leave it. All numbers ascend, the new ones after the old ones, and the source in
use is the last one registered, even if its registration named its own url. -/
theorem history_of_registrations (registrations : List Registration) {table : Table Source}
    (hordered : table.Ordered) :
    (after registrations table).length = table.length + registrations.length ∧
      (∀ (place : Nat) (row : Row Source), table[place]? = some row →
        ∃ now : Row Source, (after registrations table)[place]? = some now ∧
          now.id = row.id ∧ Outlives registrations row.data now.data) ∧
      (∀ earlier registration later, registrations = earlier ++ registration :: later →
        ∃ now : Row Source, (after registrations table)[table.length + earlier.length]? = some now ∧
          now.id = (registration.row (after earlier table)).id ∧
            Outlives later registration.source now.data) ∧
      (after registrations table).Ordered ∧
      ∀ earlier last, registrations = earlier ++ [last] →
        online? (after registrations table) = some (last.row (after earlier table)) := by
  refine ⟨length_after registrations table, ?_, ?_, ordered_after registrations hordered, ?_⟩
  · intro place row hrow
    have hplace := (List.getElem?_eq_some_iff.mp hrow).1
    have hnow := getElem?_after registrations hplace
    rw [hrow, Option.map_some] at hnow
    exact ⟨_, hnow, rfl, outlives_fate registrations row.data⟩
  · rintro earlier registration later rfl
    -- The row is the last one at the end of its own registration.
    have hplace : table.length + earlier.length <
      (registration.enter (after earlier table)).length := by
      rw [registration.length_enter, length_after]
      omega
    have hnew := registration.getElem?_enter_length (after earlier table)
    rw [length_after] at hnew
    have hnow := getElem?_after later hplace
    rw [hnew, Option.map_some] at hnow
    rw [after_append]
    exact ⟨_, hnow, rfl, outlives_fate later _⟩
  · rintro earlier last rfl
    rw [after_append]
    exact last.online?_enter (ordered_after earlier hordered)

/-! ### Sources that share a url -/

namespace Shared

/-- Two sources at one url, one of them in use, and one elsewhere with a status of its own. -/
def table : Table Source :=
  [⟨3, { name := "a", type := "CLICKHOUSE", url := "u" }⟩,
    ⟨5, { name := "b", type := "CLICKHOUSE", url := "u", status := .offline }⟩,
    ⟨9, { name := "c", type := "CLICKHOUSE", url := "w", status := .other 7 }⟩]

/-- A second of the first day of Unix time. -/
def time (second : Nat) : Moment :=
  ⟨Moment.unixStart.date, .ofMicros (second * 1000000)⟩

/-- A registration that names its own url. -/
def renewal : Registration :=
  ⟨{ name := "d", type := "CLICKHOUSE", url := "u", offlineUrl := some "u" }, "ann",
    ⟨time 1, time 2, time 3⟩⟩

/-- A registration that takes nothing offline. -/
def addition : Registration :=
  ⟨{ name := "e", type := "CLICKHOUSE", url := "v" }, "bob", ⟨time 4, time 5, time 6⟩⟩

/-- A registration in place of that one, at the same url. -/
def replacement : Registration :=
  ⟨{ name := "f", type := "CLICKHOUSE", url := "v", offlineUrl := some "v" }, "cat",
    ⟨time 7, time 8, time 9⟩⟩

/-- The three registrations in order. -/
def registrations : List Registration :=
  [renewal, addition, replacement]

/-- The renewed source stays online and the replaced ones do not, which carry the operators and
stamps of those that replaced them; the replacement is in use. -/
theorem history_of_shared : table.Ordered ∧
    (∃ now : Row Source, (after registrations table)[0]? = some now ∧ now.id = 3 ∧
      now.data.status ≠ .online ∧ now.data.modifier = some "ann" ∧
      now.data.modifyTime = time 1) ∧
    (∃ now : Row Source, (after registrations table)[3]? = some now ∧ now.id = 10 ∧
      now.data.status = .online) ∧
    (∃ now : Row Source, (after registrations table)[4]? = some now ∧ now.id = 11 ∧
      now.data.status ≠ .online ∧ now.data.modifier = some "cat" ∧
      now.data.createTime = time 5 ∧ now.data.modifyTime = time 7) ∧
    online? (after registrations table) = some ⟨12, replacement.source⟩ := by
  have hordered : table.Ordered := by
    simp [table, Table.Ordered]
  obtain ⟨-, hold, hnew, -, hlast⟩ := history_of_registrations registrations hordered
  obtain ⟨first, hfirst, hfirstId, hfirstFate⟩ := hold 0 _ rfl
  obtain ⟨renewed, hrenewed, hrenewedId, hrenewedFate⟩ :=
    hnew [] renewal [addition, replacement] rfl
  obtain ⟨added, hadded, haddedId, haddedFate⟩ := hnew [renewal] addition [replacement] rfl
  have haddedTime : added.data.createTime = time 5 := by
    rw [haddedFate.others_eq]
    rfl
  refine ⟨hordered,
    ⟨first, hfirst, hfirstId, ?_, hfirstFate.modifier_eq, hfirstFate.modifyTime_eq⟩,
    ⟨renewed, hrenewed, hrenewedId, ?_⟩,
    ⟨added, hadded, haddedId, ?_, haddedFate.modifier_eq, haddedTime, haddedFate.modifyTime_eq⟩, ?_⟩
  · rw [Ne, hfirstFate.online_iff]
    decide
  · rw [hrenewedFate.online_iff]
    decide
  · rw [Ne, haddedFate.online_iff]
    decide
  · exact hlast [renewal, addition] replacement rfl

/-- A registration in place of the source elsewhere. -/
def retirement : Registration :=
  ⟨{ name := "g", type := "CLICKHOUSE", url := "x", offlineUrl := some "w" }, "dan",
    ⟨time 10, time 11, time 12⟩⟩

/-- A source that was not online before changes in more than its modifier when it is replaced. -/
theorem rewritten_by_retirement : ∃ row now : Row Source, table[2]? = some row ∧
    (retirement.enter table)[2]? = some now ∧ now.id = row.id ∧ row.data.status ≠ .online ∧
    now.data.status ≠ row.data.status ∧ now.data.modifyTime ≠ row.data.modifyTime :=
  ⟨_, _, rfl, rfl, rfl, by decide, by decide, by decide⟩

end Shared

end StreamAudit.Store.Sources
