import StreamAudit.Proofs.Registry.Needs
import StreamAudit.Selection

/-!
Which audit ids are selected for a stream. The ids of the role are gathered first, then those of the
two ends of the stream; where all sources push, and agents would be reported, also what the proxy
received. A selection needs exactly the keys of what it gathers, in that order (`neededKeys`): it is
answered if they are all configured, with the ids gathered that are not blank, and otherwise it ends
with the first key that is missing (`selected_by_policy`).
-/

set_option autoImplicit false
set_option relaxedAutoImplicit false

namespace StreamAudit.Selection

open StreamAudit.ItemStore StreamAudit.Registry StreamAudit.Text

/-! ### The policy -/

section Policy

variable (items : List Item) (defaults : Defaults) (topology : Topology) (isPrivileged : Bool)

/-- The audit ids of the role. -/
def roleIds : List String :=
  if isPrivileged then defaults.adminIds else defaults.userIds

/-- The keys of the two ends of a stream: without a sink what the proxy sent, with one what the sink
sent and what the other end received, which is the first source where the ends are tracked as a
pair. -/
def endKeys : List ItemKey :=
  match topology.sinkType with
  | none => [⟨proxyType, .sent⟩]
  | some sink =>
    (keyOf? (some sink) .sent).toList ++
      (keyOf? (if topology.isPaired then topology.sourceType? else some sink) .received).toList

/-- Whether no source goes through an agent. -/
def AllPush : Prop :=
  ∀ type ∈ topology.sourceTypes, type = Topology.pushType

instance : Decidable (AllPush topology) :=
  inferInstanceAs (Decidable (∀ type ∈ topology.sourceTypes, type = Topology.pushType))

/-- The audit ids of the role and of the two ends, blank ones among them. -/
def Gathered (auditId : String) : Prop :=
  auditId ∈ roleIds defaults isPrivileged ∨ ∃ key ∈ endKeys topology, Holds items key auditId

instance (auditId : String) : Decidable (Gathered items defaults topology isPrivileged auditId) :=
  inferInstanceAs (Decidable (_ ∈ _ ∨ ∃ key ∈ endKeys topology, _))

/-- The key of what the agents received. -/
def agentReceived : ItemKey :=
  ⟨agentType, .received⟩

/-- The key of what the proxy received. -/
def proxyReceived : ItemKey :=
  ⟨proxyType, .received⟩

/-- Whether agents would be reported although no source uses one. -/
def FallsBack : Prop :=
  AllPush topology ∧ ∃ item ∈ items, item.key = agentReceived ∧
    Gathered items defaults topology isPrivileged item.auditId

instance : Decidable (FallsBack items defaults topology isPrivileged) :=
  inferInstanceAs (Decidable (_ ∧ ∃ item ∈ items, _))

/-- The keys that the proxy is reported by in place of the agents. -/
def proxyKeys : List ItemKey :=
  (if AllPush topology then [agentReceived] else []) ++
    if FallsBack items defaults topology isPrivileged then [proxyReceived] else []

/-- All keys that a selection needs, in the order in which it needs them. -/
def neededKeys : List ItemKey :=
  endKeys topology ++ proxyKeys items defaults topology isPrivileged

/-- The audit ids that a stream is reported by. -/
def Reported (auditId : String) : Prop :=
  strip auditId ≠ "" ∧ (Gathered items defaults topology isPrivileged auditId ∨
    FallsBack items defaults topology isPrivileged ∧ Holds items proxyReceived auditId)

end Policy

/-! ### The selection step by step -/

/-- Whether the audit ids of a list are those with a property. -/
def Collects (holds : String → Prop) (gathered : List (Option String)) : Prop :=
  ∀ auditId, some auditId ∈ gathered ↔ holds auditId

theorem keyOf?_agent : keyOf? (some agentType) .received = some agentReceived := by
  decide

theorem keyOf?_proxy (direction : Direction) :
    keyOf? (some proxyType) direction = some ⟨proxyType, direction⟩ := by
  cases direction <;> decide

theorem allPush_iff (topology : Topology) : topology.allPush = true ↔ AllPush topology := by
  simp [Topology.allPush, AllPush]

theorem received_caseOf (topology : Topology) (isPrivileged : Bool) (sink : String) :
    (if (caseOf topology isPrivileged).isPaired then (caseOf topology isPrivileged).source
      else some sink) = if topology.isPaired then topology.sourceType? else some sink := by
  unfold caseOf
  cases topology.isPaired <;> rfl

theorem mem_present {auditId : String} {gathered : List (Option String)} :
    auditId ∈ present gathered ↔ strip auditId ≠ "" ∧ some auditId ∈ gathered := by
  rw [present, Ascending.mem_ofList, List.mem_filter, List.mem_filterMap, Ne, strip_eq_empty_iff,
    and_comm]
  simp

section Steps

variable {items : List Item} (hunique : UniqueKeys items) {defaults : Defaults}
    {topology : Topology}
  {isPrivileged : Bool} {gathered : List (Option String)}

include hunique

theorem passes_addEnds {holds : String → Prop} (hgathered : Collects holds gathered) :
    Passes items (endKeys topology)
      (Collects fun auditId ↦ holds auditId ∨ ∃ key ∈ endKeys topology, Holds items key auditId)
      (addEnds (ofItems items) (caseOf topology isPrivileged) gathered) := by
  unfold addEnds endKeys
  have hsink : (caseOf topology isPrivileged).sink = topology.sinkType := rfl
  rw [hsink]
  cases topology.sinkType with
  | none =>
    have hsent := passes_resolve hunique (some proxyType) .sent
    rw [keyOf?_proxy] at hsent
    simp only [bind_pure_comp]
    refine passes_map hsent fun sent hsent auditId ↦ ?_
    rw [List.mem_append, hgathered, List.mem_singleton, eq_some_iff_of_isIdOf hunique hsent]
    rfl
  | some sink =>
    simp only [bind_pure_comp, received_caseOf]
    refine passes_bind (passes_resolve hunique (some sink) .sent) fun sent hsent ↦ ?_
    refine passes_map (passes_resolve hunique _ .received) fun received hreceived auditId ↦ ?_
    simp only [List.mem_append, hgathered auditId, List.mem_cons, List.not_mem_nil, or_false,
      eq_some_iff_of_isIdOf hunique hsent, eq_some_iff_of_isIdOf hunique hreceived, or_and_right,
      exists_or]

/-- Agents are reported exactly if the selection falls back. -/
theorem agent_mem_iff
    (hgathered : Collects (Gathered items defaults topology isPrivileged) gathered)
    (hall : AllPush topology) {agent : Option String}
    (hagent : IsIdOf items (some agentReceived) agent) :
    agent ∈ gathered ↔ FallsBack items defaults topology isPrivileged := by
  obtain ⟨auditId, rfl, hholds⟩ := hagent
  rw [hgathered]
  constructor
  · intro hauditId
    exact ⟨hall, _, hholds, rfl, hauditId⟩
  · rintro ⟨-, item, hitem, hkey, hgiven⟩
    have hsame : Holds items agentReceived item.auditId := hkey ▸ hitem
    rwa [eq_of_holds hunique hholds hsame]

theorem passes_addProxy
    (hgathered : Collects (Gathered items defaults topology isPrivileged) gathered) :
    Passes items (proxyKeys items defaults topology isPrivileged)
      (Collects fun auditId ↦ Gathered items defaults topology isPrivileged auditId ∨
        FallsBack items defaults topology isPrivileged ∧ Holds items proxyReceived auditId)
      (addProxy (ofItems items) (caseOf topology isPrivileged) gathered) := by
  unfold addProxy proxyKeys
  have hpush : (caseOf topology isPrivileged).allPush = true ↔ AllPush topology :=
    allPush_iff topology
  simp only [hpush]
  by_cases hall : AllPush topology
  · rw [if_pos hall, if_pos hall]
    have hagent := passes_resolve hunique (some agentType) .received
    rw [keyOf?_agent] at hagent
    refine passes_bind hagent fun agent hagent ↦ ?_
    simp only [agent_mem_iff hunique hgathered hall hagent]
    split_ifs with hfalls
    · have hproxy := passes_resolve hunique (some proxyType) .received
      rw [keyOf?_proxy] at hproxy
      simp only [bind_pure_comp]
      refine passes_map hproxy fun received hreceived auditId ↦ ?_
      rw [List.mem_append, hgathered, List.mem_singleton, eq_some_iff_of_isIdOf hunique hreceived]
      simp [hfalls, proxyReceived]
    · refine passes_pure fun auditId ↦ ?_
      rw [hgathered]
      simp [hfalls]
  · have hfalls : ¬ FallsBack items defaults topology isPrivileged := fun h ↦ hall h.1
    rw [if_neg hall, if_neg hall, if_neg hfalls]
    refine passes_pure fun auditId ↦ ?_
    rw [hgathered]
    simp [hfalls]

/-- A selection passes on the keys that it needs. -/
theorem passes_auditIds (defaults : Defaults) (topology : Topology) (isPrivileged : Bool) :
    Passes items (neededKeys items defaults topology isPrivileged)
      (fun ids ↦ Ascending.Sorted ids ∧
        ∀ auditId, auditId ∈ ids ↔ Reported items defaults topology isPrivileged auditId)
      (auditIds (ofItems items) defaults (caseOf topology isPrivileged)) := by
  have hrole : Collects (· ∈ roleIds defaults isPrivileged)
      (((caseOf topology isPrivileged).defaults defaults).map some) := by
    intro auditId
    rw [List.mem_map]
    exact ⟨fun ⟨other, hother, heq⟩ ↦ Option.some.inj heq ▸ hother, fun h ↦ ⟨auditId, h, rfl⟩⟩
  refine passes_bind (passes_addEnds hunique hrole) fun gathered hgathered ↦ ?_
  refine passes_map (passes_addProxy hunique hgathered) fun all hall ↦ ?_
  refine ⟨Ascending.sorted_ofList _, fun auditId ↦ ?_⟩
  rw [mem_present, hall, Reported]

end Steps

/-! ### What is selected -/

/-- What a selection answers through a registry. -/
def selected (items : List Item) (registry : Registry) (defaults : Defaults) (topology : Topology)
    (isPrivileged : Bool) : Except Fault (List String) :=
  ((auditIds (ofItems items) defaults (caseOf topology isPrivileged)).run registry).1

/-- Through any mirror of items with unique keys a selection is answered exactly if all keys that it
needs are configured; then it consists of the audit ids that the stream is reported by, and
otherwise it ends with the first of the keys that is missing. -/
theorem selected_by_policy {items : List Item} (hunique : UniqueKeys items) {registry : Registry}
    (hmirrors : Mirrors (ofItems items) registry) (defaults : Defaults) (topology : Topology)
    (isPrivileged : Bool) :
    ((∃ ids, selected items registry defaults topology isPrivileged = .ok ids) ↔
        ∀ key ∈ neededKeys items defaults topology isPrivileged, Configured items key) ∧
      (∀ ids, selected items registry defaults topology isPrivileged = .ok ids →
        Ascending.Sorted ids ∧
          ∀ auditId, auditId ∈ ids ↔ Reported items defaults topology isPrivileged auditId) ∧
      ∀ fault, selected items registry defaults topology isPrivileged = .error fault ↔
        ∃ key, firstMissing? items (neededKeys items defaults topology isPrivileged) = some key ∧
          fault = .unsupported key := by
  have hpassed := passes_auditIds hunique defaults topology isPrivileged registry hmirrors
  unfold selected
  rw [← firstMissing?_eq_none_iff]
  generalize (auditIds (ofItems items) defaults (caseOf topology isPrivileged)).run registry =
    outcome at hpassed ⊢
  cases hpassed with
  | answered ids later hmirrors hextends hcached hgives =>
    have hnone := firstMissing?_of_cached hmirrors hcached
    refine ⟨⟨fun _ ↦ hnone, fun _ ↦ ⟨ids, rfl⟩⟩, fun other hother ↦ ?_, fun fault ↦ ⟨nofun, ?_⟩⟩
    · exact Except.ok.inj hother ▸ hgives
    · rintro ⟨key, hkey, -⟩
      rw [hnone] at hkey
      cases hkey
  | missing key later hmissing =>
    refine ⟨⟨nofun, fun hnone ↦ ?_⟩, nofun, fun fault ↦ ⟨fun hfault ↦ ?_, ?_⟩⟩
    · rw [hmissing] at hnone
      cases hnone
    · exact ⟨key, hmissing, (Except.error.inj hfault).symm⟩
    · rintro ⟨other, hother, rfl⟩
      rw [Option.some.inj (hmissing.symm.trans hother)]

/-! ### A sink that shares its audit id with the agents -/

namespace Shared

/-- What the sink received counts under the audit id of the agents. -/
def items : List Item :=
  [⟨⟨"HIVE", .sent⟩, "10"⟩, ⟨⟨"HIVE", .received⟩, "3"⟩, ⟨agentReceived, "3"⟩, ⟨proxyReceived, "5"⟩]

/-- Blank ids and one with a blank in front. -/
def defaults : Defaults :=
  ⟨[], ["", " 7", "\u3000"]⟩

/-- A stream with the sink and without sources. -/
def topology : Topology :=
  { sinkType := some "HIVE" }

/-- The selection falls back for the sake of the sink alone. -/
theorem selected_of_shared : UniqueKeys items ∧
    selected items {} defaults topology false = .ok [" 7", "10", "3", "5"] ∧
      ∀ auditId, auditId ∈ [" 7", "10", "3", "5"] ↔
        Reported items defaults topology false auditId := by
  have hunique : UniqueKeys items := by decide
  have hselected : selected items {} defaults topology false = .ok [" 7", "10", "3", "5"] := rfl
  have hpolicy := selected_by_policy hunique (mirrors_empty _) defaults topology false
  exact ⟨hunique, hselected, (hpolicy.2.1 _ hselected).2⟩

end Shared

end StreamAudit.Selection
