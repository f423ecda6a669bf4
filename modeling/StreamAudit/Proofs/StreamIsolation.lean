import Mathlib.Tactic.ByContra
import StreamAudit.Topology

/-!
How far the topology of a stream depends on other streams. The group, the sources and the first sink
are read from the rows of the stream alone. A sink that is named by its number is read from the
whole table, so rows of other streams show through exactly where a look-up is answered with a number
that none of the stream's own sinks has (`isolated_iff`).
-/

set_option autoImplicit false
set_option relaxedAutoImplicit false

namespace StreamAudit.Topology

open StreamAudit.Number StreamAudit.Store

/-- The rows of a group. -/
def groupRows (groupId : String) (table : Table Group) : Table Group :=
  table.filter fun row ↦ row.data.groupId == groupId

/-- The rows of a stream. -/
def streamRows (groupId streamId : String) (table : Table Endpoint) : Table Endpoint :=
  table.filter fun row ↦ row.data.groupId == groupId && row.data.streamId == streamId

/-- Whether two databases hold the same about a stream: the same row of its group, and the same
sinks and sources of the stream. Their other rows may differ in any way. -/
structure SameStream (groupId streamId : String) (first second : Database) : Prop where
  groups : first.groups.map (groupRows groupId) = second.groups.map (groupRows groupId)
  sinks : first.sinks.map (streamRows groupId streamId) =
    second.sinks.map (streamRows groupId streamId)
  streamSources : first.streamSources.map (streamRows groupId streamId) =
    second.streamSources.map (streamRows groupId streamId)

/-- Whether the sinks of a database are in ascending order of their numbers. -/
def SinksOrdered (database : Database) : Prop :=
  ∀ sinks, database.sinks = some sinks → Table.Ordered sinks

/-- Whether a number is the one of a sink of a stream. -/
def OwnSink (database : Database) (groupId streamId : String) (number : Int) : Prop :=
  ∃ sinks, database.sinks = some sinks ∧ ∃ row ∈ streamRows groupId streamId sinks, row.id = number

variable {groupId streamId : String}

theorem find?_group (groupId : String) (table : Table Group) :
    (table.find? fun row ↦ row.data.groupId == groupId) = (groupRows groupId table).head? := by
  rw [groupRows, List.head?_filter]

theorem ofStream_eq (groupId streamId : String) (table : Table Endpoint) :
    ofStream groupId streamId table =
      (Table.byId (streamRows groupId streamId table)).map Row.data :=
  rfl

theorem streamRows_streamRows (groupId streamId : String) (table : Table Endpoint) :
    streamRows groupId streamId (streamRows groupId streamId table) =
      streamRows groupId streamId table := by
  unfold streamRows
  simp only [List.filter_filter, Bool.and_self]

/-- A numbered sink of the stream is found among the sinks of the stream. -/
theorem find?_own {sinks : Table Endpoint} (hordered : Table.Ordered sinks) {number : Int}
    (hown : ∃ row ∈ streamRows groupId streamId sinks, row.id = number) :
    (sinks.find? fun row ↦ row.id == number) =
      (streamRows groupId streamId sinks).find? fun row ↦ row.id == number := by
  obtain ⟨row, hrow, rfl⟩ := hown
  have hall : row ∈ sinks := (List.mem_filter.mp hrow).1
  have hrest : Table.Ordered (streamRows groupId streamId sinks) :=
    hordered.sublist List.filter_sublist
  rw [Table.find?_of_mem hordered hall, Table.find?_of_mem hrest hrow]

/-! ### What a look-up reads -/

/-- The topology of what was read: the rows of the group, the reported sink, and the sources in
order. -/
def assemble (groupId : String) (groups : Option (Table Group))
    (reported : Option (Except Fault (Option Endpoint))) (sources : Option (Table Endpoint)) :
    Except Fault Topology :=
  match groups with
  | none => .error .noTable
  | some rows =>
    match rows.head? with
    | none => .error (.noGroup groupId)
    | some group =>
      match reported with
      | none => .error .noTable
      | some (.error fault) => .error fault
      | some (.ok sink) =>
        match sources with
        | none => .error .noTable
        | some rows =>
          .ok ⟨group.data.mode, sink.map Endpoint.type, rows.map fun row ↦ row.data.type⟩

theorem lookup_eq (database : Database) (groupId streamId : String) (sinkId : Option Int) :
    lookup database groupId streamId sinkId =
      assemble groupId (database.groups.map (groupRows groupId))
        (database.sinks.map fun sinks ↦ reportedSink sinks groupId streamId sinkId)
        ((database.streamSources.map (streamRows groupId streamId)).map Table.byId) := by
  unfold lookup assemble
  cases database.groups with
  | none => rfl
  | some groups =>
    simp only [present, find?_group, Option.map_some, bind, Except.bind]
    cases (groupRows groupId groups).head? with
    | none => rfl
    | some group =>
      cases database.sinks with
      | none => rfl
      | some sinks =>
        simp only [Option.map_some]
        cases reportedSink sinks groupId streamId sinkId with
        | error fault => rfl
        | ok sink =>
          cases database.streamSources with
          | none => rfl
          | some sources =>
            simp only [ofStream_eq, List.map_map]
            rfl

/-- A topology without its sink. -/
def withoutSink (topology : Topology) : Topology :=
  { topology with sinkType := none }

/-- Whatever sink is found, the rest of the topology is the same. -/
theorem map_withoutSink_assemble (groupId : String) (groups : Option (Table Group))
    (reported : Option (Except Fault (Option Endpoint))) (sources : Option (Table Endpoint)) :
    (assemble groupId groups reported sources).map withoutSink =
      assemble groupId groups (reported.map fun sink ↦ sink.map fun _ ↦ none) sources := by
  unfold assemble
  cases groups with
  | none => rfl
  | some rows =>
    simp only
    cases rows.head? with
    | none => rfl
    | some group =>
      rcases reported with _ | fault | sink
      · rfl
      · rfl
      · cases sources <;> rfl

/-- Whether a sink can be read at all does not depend on the sinks. -/
theorem reportedSink_map (sinks : Table Endpoint) (sinkId : Option Int) :
    ((reportedSink sinks groupId streamId sinkId).map fun _ ↦ (none : Option Endpoint)) =
      if sinkId.all fitsWord then .ok none else .error .numberTooLarge := by
  cases sinkId with
  | none => rfl
  | some number =>
    unfold reportedSink
    simp only [Option.all_some]
    split <;> rfl

section SameStream

variable {first second : Database} (h : SameStream groupId streamId first second)

include h

/-- All but the sink is confined to the stream. -/
theorem lookup_withoutSink (sinkId : Option Int) :
    (lookup first groupId streamId sinkId).map withoutSink =
      (lookup second groupId streamId sinkId).map withoutSink := by
  have hblank : ∀ sinks : Option (Table Endpoint),
      ((sinks.map fun rows ↦ reportedSink rows groupId streamId sinkId).map
        fun sink ↦ sink.map fun _ ↦ (none : Option Endpoint)) =
      (sinks.map (streamRows groupId streamId)).map
        fun _ ↦ if sinkId.all fitsWord then .ok none else .error .numberTooLarge := by
    intro sinks
    cases sinks with
    | none => rfl
    | some rows => simp only [Option.map_some, reportedSink_map]
  rw [lookup_eq, lookup_eq, map_withoutSink_assemble, map_withoutSink_assemble, hblank, hblank,
    h.groups, h.sinks, h.streamSources]

/-- A look-up is confined to the stream if the sink is found among the sinks of the stream. -/
theorem lookup_congr {sinkId : Option Int} {find : Table Endpoint → Except Fault (Option Endpoint)}
    (hfirst : ∀ sinks, first.sinks = some sinks →
      reportedSink sinks groupId streamId sinkId = find (streamRows groupId streamId sinks))
    (hsecond : ∀ sinks, second.sinks = some sinks →
      reportedSink sinks groupId streamId sinkId = find (streamRows groupId streamId sinks)) :
    lookup first groupId streamId sinkId = lookup second groupId streamId sinkId := by
  have hreads : ∀ database : Database, (∀ sinks, database.sinks = some sinks →
      reportedSink sinks groupId streamId sinkId = find (streamRows groupId streamId sinks)) →
        (database.sinks.map fun sinks ↦ reportedSink sinks groupId streamId sinkId) =
          (database.sinks.map (streamRows groupId streamId)).map find := by
    intro database hreads
    cases hsinks : database.sinks with
    | none => rfl
    | some sinks => simp only [Option.map_some, hreads sinks hsinks]
  rw [lookup_eq, lookup_eq, hreads first hfirst, hreads second hsecond, h.groups, h.sinks,
    h.streamSources]

/-- A look-up that fails does so whatever other streams hold. -/
theorem lookup_error {sinkId : Option Int} {fault : Fault}
    (hfails : lookup first groupId streamId sinkId = .error fault) :
    lookup second groupId streamId sinkId = .error fault := by
  have hrest := lookup_withoutSink h sinkId
  rw [hfails] at hrest
  cases hsecond : lookup second groupId streamId sinkId with
  | error other =>
    rw [hsecond] at hrest
    exact hrest.symm
  | ok topology =>
    rw [hsecond] at hrest
    cases hrest

theorem ownSink_of_sameStream {number : Int} (hown : OwnSink first groupId streamId number) :
    OwnSink second groupId streamId number := by
  obtain ⟨sinks, hsinks, row, hrow, hnumber⟩ := hown
  have hsame := h.sinks
  rw [hsinks, Option.map_some] at hsame
  obtain ⟨others, hothers, hrows⟩ := Option.map_eq_some_iff.mp hsame.symm
  exact ⟨others, hothers, row, hrows ▸ hrow, hnumber⟩

end SameStream

/-! ### Whose sinks show through -/

/-- Whether no row of another stream can change what is looked up for a stream. -/
def Isolated (database : Database) (groupId streamId : String) (sinkId : Option Int) : Prop :=
  ∀ other, SinksOrdered other → SameStream groupId streamId database other →
    lookup other groupId streamId sinkId = lookup database groupId streamId sinkId

/-- Whether a number that is asked for, as far as it is answered, is the one of a sink of the
stream. -/
def NamesOwnSink (database : Database) (groupId streamId : String) (sinkId : Option Int) : Prop :=
  ∀ number, sinkId = some number →
    (∃ topology, lookup database groupId streamId (some number) = .ok topology) →
      OwnSink database groupId streamId number

/-- The first sink of a stream among the stream's own sinks. -/
def firstSink? (sinks : Table Endpoint) : Except Fault (Option Endpoint) :=
  .ok ((Table.byId sinks).map Row.data).head?

theorem reportedSink_none (groupId streamId : String) (sinks : Table Endpoint) :
    reportedSink sinks groupId streamId none = firstSink? (streamRows groupId streamId sinks) := by
  rw [reportedSink, ofStream_eq, firstSink?]

/-- The sink of a stream that is found for a number among the stream's own sinks. -/
def ownSink? (number : Int) (sinks : Table Endpoint) : Except Fault (Option Endpoint) :=
  if fitsWord number then .ok ((sinks.find? fun row ↦ row.id == number).map Row.data)
  else .error .numberTooLarge

theorem reportedSink_of_ownSink {database : Database} (hordered : SinksOrdered database)
    {number : Int} (hown : OwnSink database groupId streamId number) :
    ∀ sinks, database.sinks = some sinks →
      reportedSink sinks groupId streamId (some number) =
        ownSink? number (streamRows groupId streamId sinks) := by
  intro sinks hsinks
  obtain ⟨others, hothers, hrow⟩ := hown
  rw [hsinks, Option.some.injEq] at hothers
  subst hothers
  rw [reportedSink, ownSink?, find?_own (hordered sinks hsinks) hrow]

/-- A look-up that names no sink, fails, or names a sink of the stream is confined to the stream. -/
theorem isolated_of_namesOwnSink {database : Database} (hordered : SinksOrdered database)
    {sinkId : Option Int} (hnames : NamesOwnSink database groupId streamId sinkId) :
    Isolated database groupId streamId sinkId := by
  intro other hother hsame
  cases sinkId with
  | none =>
    have hreads : ∀ sinks, reportedSink sinks groupId streamId none =
        firstSink? (streamRows groupId streamId sinks) := reportedSink_none groupId streamId
    exact (lookup_congr hsame (fun sinks _ ↦ hreads sinks) fun sinks _ ↦ hreads sinks).symm
  | some number =>
    cases hlookup : lookup database groupId streamId (some number) with
    | error fault => exact lookup_error hsame hlookup
    | ok topology =>
      have hown := hnames number rfl ⟨topology, hlookup⟩
      have hother' := ownSink_of_sameStream hsame hown
      rw [← hlookup]
      exact (lookup_congr hsame (reportedSink_of_ownSink hordered hown)
        (reportedSink_of_ownSink hother hother')).symm

/-- The sink of a topology is the one that was found. -/
theorem sinkType_of_lookup {database : Database} {sinkId : Option Int} {topology : Topology}
    (h : lookup database groupId streamId sinkId = .ok topology) :
    ∃ sinks sink, database.sinks = some sinks ∧
      reportedSink sinks groupId streamId sinkId = .ok sink ∧
      topology.sinkType = sink.map Endpoint.type := by
  rw [lookup_eq] at h
  unfold assemble at h
  cases hgroups : database.groups with
  | none => simp [hgroups] at h
  | some groups =>
    cases hgroup : (groupRows groupId groups).head? with
    | none => simp [hgroups, hgroup] at h
    | some group =>
      cases hsinks : database.sinks with
      | none => simp [hgroups, hgroup, hsinks] at h
      | some sinks =>
        cases hsink : reportedSink sinks groupId streamId sinkId with
        | error fault => simp [hgroups, hgroup, hsinks, hsink] at h
        | ok sink =>
          cases hsources : database.streamSources with
          | none => simp [hgroups, hgroup, hsinks, hsink, hsources] at h
          | some sources =>
            simp only [hgroups, hgroup, hsinks, hsink, hsources, Option.map_some,
              Except.ok.injEq] at h
            exact ⟨sinks, sink, rfl, hsink, by rw [← h]⟩

theorem eq_find?_of_reportedSink {sinks : Table Endpoint} {number : Int} {sink : Option Endpoint}
    (h : reportedSink sinks groupId streamId (some number) = .ok sink) :
    sink = (sinks.find? fun row ↦ row.id == number).map Row.data := by
  unfold reportedSink at h
  simp only at h
  split at h
  · exact (Except.ok.inj h).symm
  · cases h

/-- The database with other sinks. -/
def withSinks (database : Database) (sinks : Table Endpoint) : Database :=
  { database with sinks := some sinks }

/-- A sink of another stream. -/
def foreignSink (streamId : String) (number : Int) : Row Endpoint :=
  ⟨number, ⟨"", streamId ++ "'", "FOREIGN"⟩⟩

theorem streamRows_place_foreignSink (groupId streamId : String) (number : Int)
    (sinks : Table Endpoint) :
    streamRows groupId streamId (Table.place (foreignSink streamId number) sinks) =
      streamRows groupId streamId sinks := by
  refine Table.filter_place ?_ sinks
  have hne : streamId ++ "'" ≠ streamId := by
    intro heq
    have hlength := congrArg String.length heq
    simp at hlength
  simp [foreignSink, hne]

theorem sameStream_withSinks {database : Database} {sinks others : Table Endpoint}
    (hsinks : database.sinks = some sinks)
    (hrows : streamRows groupId streamId others = streamRows groupId streamId sinks) :
    SameStream groupId streamId database (withSinks database others) where
  groups := rfl
  sinks := by
    rw [hsinks, Option.map_some, ← hrows]
    rfl
  streamSources := rfl

/-- An isolated look-up by a number reports what the number finds among any sinks that hold the same
about the stream. -/
theorem sinkType_of_isolated {database : Database} {number : Int} {topology : Topology}
    (hisolated : Isolated database groupId streamId (some number))
    (hlookup : lookup database groupId streamId (some number) = .ok topology)
    {sinks others : Table Endpoint} (hsinks : database.sinks = some sinks)
    (hothers : others.Ordered)
    (hrows : streamRows groupId streamId others = streamRows groupId streamId sinks) :
    topology.sinkType =
      ((others.find? fun row ↦ row.id == number).map Row.data).map Endpoint.type := by
  have hordered : SinksOrdered (withSinks database others) := by
    rintro _ ⟨⟩
    exact hothers
  have hsame := hisolated _ hordered (sameStream_withSinks hsinks hrows)
  rw [hlookup] at hsame
  obtain ⟨_, sink, ⟨⟩, hsink, htype⟩ := sinkType_of_lookup hsame
  rw [htype, eq_find?_of_reportedSink hsink]

/-- A number that is answered but names no sink of the stream answers with whatever other streams
put there. -/
theorem namesOwnSink_of_isolated {database : Database} (hordered : SinksOrdered database)
    {sinkId : Option Int} (hisolated : Isolated database groupId streamId sinkId) :
    NamesOwnSink database groupId streamId sinkId := by
  rintro number rfl ⟨topology, hlookup⟩
  obtain ⟨sinks, _, hsinks, _, _⟩ := sinkType_of_lookup hlookup
  by_contra hforeign
  have hfresh : ∀ row ∈ streamRows groupId streamId sinks, row.id ≠ number :=
    fun row hrow hnumber ↦ hforeign ⟨sinks, hsinks, row, hrow, hnumber⟩
  have hown : Table.Ordered (streamRows groupId streamId sinks) :=
    (hordered sinks hsinks).sublist List.filter_sublist
  have hplaced : Table.Ordered
      (Table.place (foreignSink streamId number) (streamRows groupId streamId sinks)) :=
    Table.ordered_place hown hfresh
  have habsent : (streamRows groupId streamId sinks).find? (fun row ↦ row.id == number) = none := by
    rw [List.find?_eq_none]
    intro row hrow
    simp [hfresh row hrow]
  have hpresent :
      (Table.place (foreignSink streamId number) (streamRows groupId streamId sinks)).find?
      (fun row ↦ row.id == number) = some (foreignSink streamId number) :=
    Table.find?_of_mem hplaced (Table.mem_place.mpr (Or.inl rfl))
  -- Without any other sink the number finds nothing; a sink of another stream is found once it is
  -- there.
  have hnone := sinkType_of_isolated hisolated hlookup hsinks hown (streamRows_streamRows _ _ sinks)
  have hsome := sinkType_of_isolated hisolated hlookup hsinks hplaced (by
    rw [streamRows_place_foreignSink, streamRows_streamRows])
  rw [habsent] at hnone
  rw [hnone, hpresent] at hsome
  cases hsome

/-- Where the number names a sink of the stream, if any is named and answered, the reported sink is
one of the stream. -/
theorem reported_of_namesOwnSink {database : Database} (hordered : SinksOrdered database)
    {sinkId : Option Int} (hnames : NamesOwnSink database groupId streamId sinkId)
    {topology : Topology} (hlookup : lookup database groupId streamId sinkId = .ok topology)
    {type : String} (htype : topology.sinkType = some type) :
    ∃ sinks, database.sinks = some sinks ∧
      ∃ row ∈ streamRows groupId streamId sinks, row.data.type = type := by
  obtain ⟨sinks, sink, hsinks, hsink, hreported⟩ := sinkType_of_lookup hlookup
  refine ⟨sinks, hsinks, ?_⟩
  rw [htype] at hreported
  obtain ⟨endpoint, rfl, rfl⟩ := Option.map_eq_some_iff.mp hreported.symm
  cases sinkId with
  | none =>
    rw [reportedSink_none, firstSink?, Except.ok.injEq] at hsink
    obtain ⟨row, hrow, rfl⟩ := List.mem_map.mp (List.mem_of_head? hsink)
    exact ⟨row, (Table.perm_byId _).mem_iff.mp hrow, rfl⟩
  | some number =>
    obtain ⟨others, hothers, own, hown, rfl⟩ := hnames number rfl ⟨topology, hlookup⟩
    rw [hsinks, Option.some.injEq] at hothers
    subst hothers
    have hfound := eq_find?_of_reportedSink hsink
    rw [Table.find?_of_mem (hordered sinks hsinks) (List.mem_filter.mp hown).1, Option.map_some,
      Option.some.injEq] at hfound
    exact ⟨own, hown, by rw [hfound]⟩

/-- Other streams are without influence on a look-up exactly if it names no sink, is not answered,
or names a sink of the stream itself; and then the reported sink is one of the stream. -/
theorem isolated_iff {database : Database} (hordered : SinksOrdered database)
    (groupId streamId : String) (sinkId : Option Int) :
    (Isolated database groupId streamId sinkId ↔ NamesOwnSink database groupId streamId sinkId) ∧
      (NamesOwnSink database groupId streamId sinkId →
        ∀ topology, lookup database groupId streamId sinkId = .ok topology →
          ∀ type, topology.sinkType = some type → ∃ sinks, database.sinks = some sinks ∧
            ∃ row ∈ streamRows groupId streamId sinks, row.data.type = type) :=
  ⟨⟨namesOwnSink_of_isolated hordered, isolated_of_namesOwnSink hordered⟩,
    fun hnames _ hlookup _ htype ↦ reported_of_namesOwnSink hordered hnames hlookup htype⟩

namespace Sample

/-- Two groups, and some sinks. -/
def database (sinks : Table Endpoint) : Database :=
  { Database.empty with
    groups := some [⟨1, { groupId := "g1" }⟩, ⟨2, { groupId := "g2" }⟩]
    sinks := some sinks }

/-- A sink of a stream of the second group. -/
def sinkOfOther : Row Endpoint :=
  ⟨7, ⟨"g2", "s9", "HIVE"⟩⟩

theorem sinksOrdered_database (row : Row Endpoint) : SinksOrdered (database [row]) := by
  rintro _ ⟨⟩
  exact List.pairwise_singleton _ row

/-- The stream of the sink may ask for it by its number. -/
theorem isolated_for_own_stream : SinksOrdered (database [sinkOfOther]) ∧
    lookup (database [sinkOfOther]) "g2" "s9" (some 7) = .ok ⟨"standard", some "HIVE", []⟩ ∧
      Isolated (database [sinkOfOther]) "g2" "s9" (some 7) := by
  have hordered := sinksOrdered_database sinkOfOther
  refine ⟨hordered, rfl, (isolated_iff hordered "g2" "s9" (some 7)).1.mpr ?_⟩
  rintro _ ⟨⟩ _
  exact ⟨[sinkOfOther], rfl, sinkOfOther, List.mem_cons_self, rfl⟩

/-- Asked for by its number, the sink of the other stream shows through. -/
theorem other_stream_shows_through :
    SameStream "g1" "s1" (database []) (database [sinkOfOther]) ∧
      SinksOrdered (database []) ∧ SinksOrdered (database [sinkOfOther]) ∧
        lookup (database []) "g1" "s1" (some 7) = .ok ⟨"standard", none, []⟩ ∧
        lookup (database [sinkOfOther]) "g1" "s1" (some 7) = .ok ⟨"standard", some "HIVE", []⟩ ∧
        lookup (database []) "g1" "s1" (some 7) ≠
          lookup (database [sinkOfOther]) "g1" "s1" (some 7) := by
  have hsame : SameStream "g1" "s1" (database []) (database [sinkOfOther]) := ⟨rfl, rfl, rfl⟩
  have hempty : SinksOrdered (database []) := by
    rintro _ ⟨⟩
    exact List.Pairwise.nil
  have hwithout : lookup (database []) "g1" "s1" (some 7) = .ok ⟨"standard", none, []⟩ := rfl
  have hwith : lookup (database [sinkOfOther]) "g1" "s1" (some 7) =
      .ok ⟨"standard", some "HIVE", []⟩ := rfl
  refine ⟨hsame, hempty, sinksOrdered_database sinkOfOther, hwithout, hwith, ?_⟩
  rw [hwithout, hwith]
  intro heq
  cases heq

end Sample

end StreamAudit.Topology
