import StreamAudit.Proofs.SelectionPolicy

/-!
Labelling the audit ids that were selected for a stream. The types of the labels are found out apart
from the selection. Where both ask for the same keys all of them are cached by then, so that
labelling is answered without a look-up and labels nothing but selected ids. They differ for a
stream whose ends are tracked as a pair and that has a source but no sink: its source is labelled
though it was not selected. There labelling goes well only if the item of the source happens to be
cached and its audit id to be selected (`labels_within_iff`).
-/

set_option autoImplicit false
set_option relaxedAutoImplicit false

namespace StreamAudit.Selection

open StreamAudit.ItemStore StreamAudit.Registry StreamAudit.Text

/-! ### The keys of the labels -/

/-- The type that labels what was received. -/
def receivedType? (topology : Topology) : Option String :=
  if topology.isPaired then topology.sourceType? else topology.sinkType

/-- The keys of the labels of a stream. -/
def labelKeys (topology : Topology) : List ItemKey :=
  (keyOf? topology.sinkType .sent).toList ++ (keyOf? (receivedType? topology) .received).toList

theorem nodeTypes_eq (store : ItemStore) (topology : Topology) :
    nodeTypes store topology = (do
      let sent ← resolve store topology.sinkType .sent
      let received ← resolve store (receivedType? topology) .received
      pure (label received (receivedType? topology) (label sent topology.sinkType []))) :=
  rfl

/-- Whether the labels of a stream ask for a source that its selection leaves out. -/
def LabelsUnselected (topology : Topology) : Prop :=
  topology.isPaired = true ∧ topology.sinkType = none ∧
    ∃ type, topology.sourceType? = some type ∧ strip type ≠ ""

theorem labelKeys_subset {topology : Topology} (h : ¬ LabelsUnselected topology) :
    ∀ key ∈ labelKeys topology, key ∈ endKeys topology := by
  intro key hkey
  unfold labelKeys receivedType? at hkey
  unfold endKeys
  cases hsink : topology.sinkType with
  | some sink => rwa [hsink] at hkey
  | none =>
    -- Without a sink only a source could have a key, and `h` leaves it none.
    rw [hsink] at hkey
    rcases List.mem_append.mp hkey with hsent | hreceived
    · cases hsent
    · obtain ⟨type, htype, hvoid, -⟩ := mem_keyOf?_iff.mp hreceived
      cases hpaired : topology.isPaired with
      | false => simp [hpaired] at htype
      | true => exact absurd ⟨hpaired, hsink, type, by simpa [hpaired] using htype, hvoid⟩ h

/-- Then the source is the only type that is labelled. -/
theorem keys_of_unselected {topology : Topology} (h : LabelsUnselected topology) :
    ∃ type, topology.sourceType? = some type ∧ strip type ≠ "" ∧
      receivedType? topology = some type ∧
      keyOf? (receivedType? topology) .received = some ⟨type, .received⟩ ∧
        labelKeys topology = [⟨type, .received⟩] := by
  obtain ⟨hpaired, hsink, type, htype, hvoid⟩ := h
  have hreceived : receivedType? topology = some type := by
    rw [receivedType?, if_pos hpaired, htype]
  have hkey : keyOf? (receivedType? topology) .received = some ⟨type, .received⟩ :=
    Option.mem_toList.mp (mem_keyOf?_iff.mpr ⟨type, hreceived, hvoid, rfl⟩)
  refine ⟨type, htype, hvoid, hreceived, hkey, ?_⟩
  rw [labelKeys, hsink, hkey]
  rfl

/-! ### Labels from the cache -/

/-- Labelling an audit id adds no other one. -/
theorem eq_or_mem_of_mem_keys_label {auditId? type? : Option String} {labels : Dictionary String}
    {auditId : String} (h : auditId ∈ (label auditId? type? labels).keys) :
    auditId? = some auditId ∨ auditId ∈ labels.keys := by
  unfold label at h
  split at h
  · split_ifs at h with hempty
    · exact Or.inr h
    · rw [Dictionary.keys_set] at h
      split_ifs at h with hold
      · exact Or.inr h
      · rcases List.mem_append.mp h with hmem | hnew
        · exact Or.inr hmem
        · rw [List.mem_singleton.mp hnew]
          exact Or.inl rfl
  · exact Or.inr h

theorem mem_keys_label {auditId type : String} (hauditId : auditId ≠ "") (htype : type ≠ "")
    (labels : Dictionary String) : auditId ∈ (label (some auditId) (some type) labels).keys := by
  have hnonempty : ¬ (auditId = "" ∨ type = "") := not_or.mpr ⟨hauditId, htype⟩
  simp only [label, if_neg hnonempty, Dictionary.keys_set]
  split_ifs with hold
  · exact hold
  · simp

/-- The audit id that is cached for a key, if there is a key. -/
def cachedId? (registry : Registry) (key? : Option ItemKey) : Option String :=
  (key?.bind registry.get?).map Item.auditId

theorem resolve_of_cached {store : ItemStore} {registry : Registry} {type? : Option String}
    {direction : Direction}
    (hcached : ∀ key ∈ (keyOf? type? direction).toList, ∃ item, registry.get? key = some item) :
    (resolve store type? direction).run registry =
      (.ok (cachedId? registry (keyOf? type? direction)), registry) := by
  rw [resolve_run]
  cases hkey : keyOf? type? direction with
  | none => rfl
  | some key =>
    obtain ⟨item, hitem⟩ := hcached key (by rw [hkey]; simp)
    simp [fetch_of_cached hitem, cachedId?, hitem, Except.map]

/-- The labels of a stream by what is cached. -/
def cachedLabels (registry : Registry) (topology : Topology) : Dictionary String :=
  label (cachedId? registry (keyOf? (receivedType? topology) .received)) (receivedType? topology)
    (label (cachedId? registry (keyOf? topology.sinkType .sent)) topology.sinkType [])

/-- Where all keys of the labels are cached, labelling is answered from the cache alone. -/
theorem nodeTypes_of_cached (store : ItemStore) {registry : Registry} {topology : Topology}
    (hcached : ∀ key ∈ labelKeys topology, ∃ item, registry.get? key = some item) :
    (nodeTypes store topology).run registry = (.ok (cachedLabels registry topology), registry) := by
  have hsent := @resolve_of_cached store registry topology.sinkType .sent
    fun key hkey ↦ hcached key (List.mem_append_left _ hkey)
  have hreceived := @resolve_of_cached store registry (receivedType? topology) .received
    fun key hkey ↦ hcached key (List.mem_append_right _ hkey)
  rw [nodeTypes_eq, bind_run_ok hsent, bind_run_ok hreceived]
  rfl

theorem exists_of_cachedId? {registry : Registry} {key? : Option ItemKey} {auditId : String}
    (h : cachedId? registry key? = some auditId) :
    ∃ key ∈ key?.toList, ∃ item, registry.get? key = some item ∧ item.auditId = auditId := by
  obtain ⟨item, hitem, hauditId⟩ := Option.map_eq_some_iff.mp h
  obtain ⟨key, hkey, hget⟩ := Option.bind_eq_some_iff.mp hitem
  exact ⟨key, Option.mem_toList.mpr hkey, item, hget, hauditId⟩

theorem cached_of_mem_cachedLabels {registry : Registry} {topology : Topology} {auditId : String}
    (h : auditId ∈ (cachedLabels registry topology).keys) :
    ∃ key ∈ labelKeys topology, ∃ item, registry.get? key = some item ∧ item.auditId = auditId := by
  rcases eq_or_mem_of_mem_keys_label h with hreceived | hrest
  · obtain ⟨key, hkey, hitem⟩ := exists_of_cachedId? hreceived
    exact ⟨key, List.mem_append_right _ hkey, hitem⟩
  · rcases eq_or_mem_of_mem_keys_label hrest with hsent | hnil
    · obtain ⟨key, hkey, hitem⟩ := exists_of_cachedId? hsent
      exact ⟨key, List.mem_append_left _ hkey, hitem⟩
    · cases hnil

/-! ### Labelling after a selection -/

/-- Whether labelling is answered without a look-up and labels only some audit ids. -/
def LabelsWithin (store : ItemStore) (topology : Topology) (ids : List String)
    (registry : Registry) :
    Prop :=
  ∃ labels later, (nodeTypes store topology).run registry = (.ok labels, later) ∧
    later.lookups = registry.lookups ∧ ∀ auditId ∈ labels.keys, auditId ∈ ids

theorem labelsWithin_of_cached (store : ItemStore) {registry : Registry} {topology : Topology}
    {ids : List String}
    (hcached : ∀ key ∈ labelKeys topology, ∃ item, registry.get? key = some item ∧
      item.auditId ∈ ids) :
    LabelsWithin store topology ids registry := by
  refine ⟨_, registry, nodeTypes_of_cached store fun key hkey ↦ ?_, rfl, fun auditId hauditId ↦ ?_⟩
  · obtain ⟨item, hitem, -⟩ := hcached key hkey
    exact ⟨item, hitem⟩
  · obtain ⟨key, hkey, item, hitem, rfl⟩ := cached_of_mem_cachedLabels hauditId
    obtain ⟨other, hother, hmem⟩ := hcached key hkey
    rwa [Option.some.inj (hitem.symm.trans hother)]

/-- A source that is labelled without having been selected must be cached to be labelled within the
audit ids that were selected. -/
theorem cached_of_labelsWithin {store : ItemStore} {registry : Registry} {topology : Topology}
    {ids : List String} (hwithin : LabelsWithin store topology ids registry)
    (hunselected : LabelsUnselected topology) :
    ∃ type item, topology.sourceType? = some type ∧ registry.get? ⟨type, .received⟩ = some item ∧
      (item.auditId ≠ "" → item.auditId ∈ ids) := by
  obtain ⟨labels, later, hrun, hlookups, hlabels⟩ := hwithin
  obtain ⟨type, htype, hvoid, hreceived, hkey, hkeys⟩ := keys_of_unselected hunselected
  have hsent : (resolve store topology.sinkType .sent).run registry = (.ok none, registry) := by
    rw [hunselected.2.1]
    rfl
  cases hget : registry.get? ⟨type, .received⟩ with
  | none =>
    -- The look-up of the source stays on record, whatever comes of it.
    have hgrown := lookups_fetch store hget
    have hresolve : (resolve store (receivedType? topology) .received).run registry =
        ((fetch store ⟨type, .received⟩ registry).1.map some,
          (fetch store ⟨type, .received⟩ registry).2) := by
      rw [resolve_run, hkey]
    rw [nodeTypes_eq, bind_run_ok hsent, bind_run, hresolve] at hrun
    generalize fetch store ⟨type, .received⟩ registry = outcome at hgrown hrun
    obtain ⟨_ | auditId, last⟩ := outcome
    · cases hrun
    · cases hrun
      rw [hlookups] at hgrown
      simp at hgrown
  | some item =>
    refine ⟨type, item, htype, hget, fun hauditId ↦ hlabels _ ?_⟩
    have hcached : ∀ key ∈ labelKeys topology, ∃ item, registry.get? key = some item := by
      intro key hmem
      rw [hkeys, List.mem_singleton] at hmem
      exact ⟨item, hmem ▸ hget⟩
    rw [nodeTypes_of_cached store hcached] at hrun
    obtain rfl : cachedLabels registry topology = labels := Except.ok.inj (congrArg Prod.fst hrun)
    have hfound : cachedId? registry (keyOf? (receivedType? topology) .received) =
        some item.auditId := by
      rw [hkey, cachedId?, Option.bind_some, hget, Option.map_some]
    have hnonempty : type ≠ "" := fun hempty ↦ hvoid (by rw [hempty]; rfl)
    rw [cachedLabels, hfound, hreceived]
    exact mem_keys_label hauditId hnonempty _

/-- After a selection labelling is answered without a look-up and labels selected audit ids alone,
unless it asks for a source that was not selected; and then it does so just if the item of the
source is cached and its audit id is among the selected ones. -/
theorem labels_within_iff {items : List Item} (hunique : UniqueKeys items)
    (hpresent : ∀ item ∈ items, strip item.auditId ≠ "") {registry later : Registry}
    (hmirrors : Mirrors (ofItems items) registry) {defaults : Defaults} {topology : Topology}
    {isPrivileged : Bool} {ids : List String}
    (hselected : (auditIds (ofItems items) defaults (caseOf topology isPrivileged)).run registry =
      (.ok ids, later)) :
    LabelsWithin (ofItems items) topology ids later ↔
      (LabelsUnselected topology → ∃ type item, topology.sourceType? = some type ∧
        later.get? ⟨type, .received⟩ = some item ∧ item.auditId ∈ ids) := by
  have hpassed := passes_auditIds hunique defaults topology isPrivileged registry hmirrors
  rw [hselected] at hpassed
  cases hpassed with
  | answered _ _ hlater hextends hcached hgives =>
    have hheld : ∀ key item, later.get? key = some item → Holds items key item.auditId :=
      fun key item hitem ↦ holds_of_first? (Except.ok.inj (hlater key item hitem))
    constructor
    · intro hwithin hunselected
      obtain ⟨type, item, htype, hitem, hmem⟩ := cached_of_labelsWithin hwithin hunselected
      refine ⟨type, item, htype, hitem, hmem fun hempty ↦ ?_⟩
      exact hpresent ⟨⟨type, .received⟩, item.auditId⟩ (hheld _ _ hitem) (by rw [hempty]; rfl)
    · intro hlucky
      refine labelsWithin_of_cached (ofItems items) fun key hkey ↦ ?_
      by_cases hunselected : LabelsUnselected topology
      · obtain ⟨type, item, htype, hitem, hmem⟩ := hlucky hunselected
        obtain ⟨type', htype', -, -, -, hkeys⟩ := keys_of_unselected hunselected
        obtain rfl := Option.some.inj (htype.symm.trans htype')
        rw [hkeys, List.mem_singleton] at hkey
        exact ⟨item, hkey ▸ hitem, hmem⟩
      · have hend := labelKeys_subset hunselected key hkey
        obtain ⟨item, hitem⟩ := hcached key (List.mem_append_left _ hend)
        have hholds := hheld key item hitem
        have hgathered : Gathered items defaults topology isPrivileged item.auditId :=
          Or.inr ⟨key, hend, hholds⟩
        exact ⟨item, hitem,
          (hgives.2 _).mpr ⟨hpresent ⟨key, item.auditId⟩ hholds, Or.inl hgathered⟩⟩

/-! ### A pair with and without its sink -/

namespace Sample

/-- What the proxy and a sink sent, and what a source received. -/
def items : List Item :=
  [⟨⟨proxyType, .sent⟩, "6"⟩, ⟨⟨"HIVE", .sent⟩, "10"⟩, ⟨⟨"KAFKA", .received⟩, "11"⟩]

/-- No audit ids for any role. -/
def defaults : Defaults :=
  ⟨[], []⟩

/-- A source and a sink that are tracked as a pair. -/
def pair : Topology :=
  { mode := Topology.pairedMode, sinkType := some "HIVE", sourceTypes := ["KAFKA"] }

/-- A source that is tracked as a pair but has no sink. -/
def halfPair : Topology :=
  { mode := Topology.pairedMode, sourceTypes := ["FILE"] }

/-- What is cached after the audit ids of a stream were selected. -/
def selectedRegistry (topology : Topology) : Registry :=
  ((auditIds (ofItems items) defaults (caseOf topology false)).run {}).2

/-- Both ends of the pair are selected and labelled. -/
theorem pair_labels_within : UniqueKeys items ∧ (∀ item ∈ items, strip item.auditId ≠ "") ∧
    (auditIds (ofItems items) defaults (caseOf pair false)).run {} =
      (.ok ["10", "11"], selectedRegistry pair) ∧
    LabelsWithin (ofItems items) pair ["10", "11"] (selectedRegistry pair) := by
  have hunique : UniqueKeys items := by decide
  have hpresent : ∀ item ∈ items, strip item.auditId ≠ "" := by decide
  have hselected : (auditIds (ofItems items) defaults (caseOf pair false)).run {} =
      (.ok ["10", "11"], selectedRegistry pair) := rfl
  have hiff := labels_within_iff hunique hpresent (mirrors_empty _) hselected
  exact ⟨hunique, hpresent, hselected, hiff.mpr fun h ↦ nomatch h.2.1⟩

/-- Without a sink the selection is answered with what the proxy sent, and then labelling ends with
the source, which the selection did not ask for. -/
theorem half_pair_fails : UniqueKeys items ∧ (∀ item ∈ items, strip item.auditId ≠ "") ∧
    (auditIds (ofItems items) defaults (caseOf halfPair false)).run {} =
      (.ok ["6"], selectedRegistry halfPair) ∧
    ((nodeTypes (ofItems items) halfPair).run (selectedRegistry halfPair)).1 =
      .error (.unsupported ⟨"FILE", .received⟩) ∧
    ¬ LabelsWithin (ofItems items) halfPair ["6"] (selectedRegistry halfPair) := by
  have hfails : ((nodeTypes (ofItems items) halfPair).run (selectedRegistry halfPair)).1 =
      .error (.unsupported ⟨"FILE", .received⟩) := rfl
  refine ⟨by decide, by decide, rfl, hfails, ?_⟩
  rintro ⟨labels, later, hrun, -⟩
  rw [hrun] at hfails
  cases hfails

end Sample

end StreamAudit.Selection
