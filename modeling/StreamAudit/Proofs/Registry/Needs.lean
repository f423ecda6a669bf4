import StreamAudit.Proofs.Registry.Mirror
import StreamAudit.Proofs.Text.Blank

/-!
What a reading needs of the configuration. A reading that needs some keys, in order, is answered
exactly if all of them are configured, and then they are cached; otherwise it ends with the first
one that is missing (`Passes`). The needs of one reading after another are the keys of the first and
then those of the second (`passes_bind`).
-/

set_option autoImplicit false
set_option relaxedAutoImplicit false

namespace StreamAudit.Registry

open StreamAudit.ItemStore StreamAudit.Text

/-- Whether items give a key an audit id. -/
def Holds (items : List Item) (key : ItemKey) (auditId : String) : Prop :=
  ⟨key, auditId⟩ ∈ items

/-- Whether items give a key any audit id. -/
def Configured (items : List Item) (key : ItemKey) : Prop :=
  ∃ item ∈ items, item.key = key

instance (items : List Item) (key : ItemKey) (auditId : String) :
    Decidable (Holds items key auditId) :=
  inferInstanceAs (Decidable (_ ∈ items))

instance (items : List Item) (key : ItemKey) : Decidable (Configured items key) :=
  inferInstanceAs (Decidable (∃ item ∈ items, item.key = key))

/-- The first of some keys that is not configured. -/
def firstMissing? (items : List Item) (keys : List ItemKey) : Option ItemKey :=
  keys.find? fun key ↦ !decide (Configured items key)

section Keys

variable {items : List Item} {keys more : List ItemKey} {key : ItemKey}

theorem firstMissing?_eq_none_iff :
    firstMissing? items keys = none ↔ ∀ key ∈ keys, Configured items key := by
  simp [firstMissing?]

theorem firstMissing?_append :
    firstMissing? items (keys ++ more) = (firstMissing? items keys).or (firstMissing? items more) :=
  List.find?_append

theorem firstMissing?_singleton (h : ¬ Configured items key) :
    firstMissing? items [key] = some key := by
  simp [firstMissing?, h]

theorem configured_iff_exists_holds :
    Configured items key ↔ ∃ auditId, Holds items key auditId := by
  constructor
  · rintro ⟨item, hitem, rfl⟩
    exact ⟨item.auditId, hitem⟩
  · rintro ⟨auditId, hholds⟩
    exact ⟨⟨key, auditId⟩, hholds, rfl⟩

theorem holds_of_first? {item : Item} (h : first? items key = some item) :
    Holds items key item.auditId := by
  obtain ⟨hmem, rfl⟩ := first?_eq_some h
  exact hmem

/-- Among items with unique keys a key has one audit id. -/
theorem eq_of_holds (hunique : UniqueKeys items) {first second : String}
    (hfirst : Holds items key first) (hsecond : Holds items key second) : first = second := by
  have hfound : first? items key = some ⟨key, first⟩ := first?_of_mem hunique hfirst
  have hfound' : first? items key = some ⟨key, second⟩ := first?_of_mem hunique hsecond
  exact congrArg Item.auditId (Option.some.inj (hfound.symm.trans hfound'))

theorem not_configured_of_first? (h : first? items key = none) : ¬ Configured items key := by
  rintro ⟨item, hitem, rfl⟩
  have hnone := List.find?_eq_none.mp h item hitem
  simp at hnone

end Keys

theorem mem_keyOf?_iff {type? : Option String} {direction : Direction} {key : ItemKey} :
    key ∈ (keyOf? type? direction).toList ↔
      ∃ type, type? = some type ∧ strip type ≠ "" ∧ key = ⟨type, direction⟩ := by
  rw [Option.mem_toList, keyOf?, Option.map_eq_some_iff]
  simp only [Option.filter_eq_some_iff, Bool.not_eq_true', ← Bool.not_eq_true, ← strip_eq_empty_iff,
    and_assoc, eq_comm (a := key)]

/-! ### Readings with needs -/

section Reading

variable {α β : Type} {items : List Item}

/-- What comes of a reading that needs some keys. -/
inductive Passed (items : List Item) (keys : List ItemKey) (gives : α → Prop)
    (registry : Registry) :
    Except Fault α × Registry → Prop where
  | answered (result : α) (later : Registry) (hmirrors : Mirrors (ofItems items) later)
      (hextends : Extends registry later)
        (hcached : ∀ key ∈ keys, ∃ item, later.get? key = some item)
      (hgives : gives result) : Passed items keys gives registry (.ok result, later)
  | missing (key : ItemKey) (later : Registry) (hmissing : firstMissing? items keys = some key) :
    Passed items keys gives registry (.error (.unsupported key), later)

/-- Whether a reading needs just some keys, in order, and has a property of its results. -/
def Passes (items : List Item) (keys : List ItemKey) (gives : α → Prop) (read : Reading α) : Prop :=
  ∀ registry, Mirrors (ofItems items) registry →
    Passed items keys gives registry (read.run registry)

/-- Keys that are cached in a mirror are configured. -/
theorem firstMissing?_of_cached {keys : List ItemKey} {registry : Registry}
    (hmirrors : Mirrors (ofItems items) registry)
    (hcached : ∀ key ∈ keys, ∃ item, registry.get? key = some item) :
    firstMissing? items keys = none := by
  refine firstMissing?_eq_none_iff.mpr fun key hkey ↦ ?_
  obtain ⟨item, hitem⟩ := hcached key hkey
  have hholds := holds_of_first? (Except.ok.inj (hmirrors key item hitem))
  exact configured_iff_exists_holds.mpr ⟨item.auditId, hholds⟩

theorem passes_pure {gives : α → Prop} {result : α} (h : gives result) :
    Passes items [] gives (pure result : Reading α) :=
  fun registry hregistry ↦ .answered result registry hregistry (.refl registry) (by simp) h

theorem passes_bind {keys more : List ItemKey} {gives : α → Prop} {gives' : β → Prop}
    {read : Reading α} {next : α → Reading β} (hread : Passes items keys gives read)
    (hnext : ∀ result, gives result → Passes items more gives' (next result)) :
    Passes items (keys ++ more) gives' (read >>= next) := by
  intro registry hregistry
  have hfirst := hread registry hregistry
  rw [bind_run]
  generalize read.run registry = outcome at hfirst ⊢
  cases hfirst with
  | missing key later hmissing =>
    exact .missing key later (by rw [firstMissing?_append, hmissing, Option.some_or])
  | answered result later hmirrors hextends hcached hgives =>
    have hconfigured := firstMissing?_of_cached hmirrors hcached
    have hsecond := hnext result hgives later hmirrors
    simp only
    generalize (next result).run later = outcome at hsecond ⊢
    cases hsecond with
    | missing key last hmissing =>
      exact .missing key last (by rw [firstMissing?_append, hconfigured, Option.none_or, hmissing])
    | answered result' last hmirrors' hextends' hcached' hgives' =>
      refine .answered result' last hmirrors' (hextends.trans hextends') (fun key hkey ↦ ?_) hgives'
      rcases List.mem_append.mp hkey with hold | hnew
      · obtain ⟨item, hitem⟩ := hcached key hold
        exact ⟨item, hextends' key item hitem⟩
      · exact hcached' key hnew

theorem passes_map {keys : List ItemKey} {gives : α → Prop} {gives' : β → Prop} {read : Reading α}
    {f : α → β} (hread : Passes items keys gives read)
    (hf : ∀ result, gives result → gives' (f result)) :
    Passes items keys gives' (f <$> read) := by
  rw [map_eq_pure_bind, ← List.append_nil keys]
  exact passes_bind hread fun result hresult ↦ passes_pure (hf result hresult)

/-- Whether an audit id is the one of a key; where there is no key there is none. -/
def IsIdOf (items : List Item) (key? : Option ItemKey) (auditId? : Option String) : Prop :=
  match key? with
  | none => auditId? = none
  | some key => ∃ auditId, auditId? = some auditId ∧ Holds items key auditId

theorem eq_some_iff_of_isIdOf (hunique : UniqueKeys items) {key? : Option ItemKey}
    {auditId? : Option String} (h : IsIdOf items key? auditId?) {auditId : String} :
    some auditId = auditId? ↔ ∃ key ∈ key?.toList, Holds items key auditId := by
  cases key? with
  | none => simp [show auditId? = none from h]
  | some key =>
    obtain ⟨found, rfl, hfound⟩ := h
    simp only [Option.toList_some, List.mem_singleton, exists_eq_left, Option.some.injEq]
    constructor
    · rintro rfl
      exact hfound
    · intro hholds
      exact eq_of_holds hunique hholds hfound

/-- A type that has a key needs the key, and gives the audit id of the key. -/
theorem passes_resolve (hunique : UniqueKeys items) (type? : Option String)
    (direction : Direction) :
    Passes items (keyOf? type? direction).toList (IsIdOf items (keyOf? type? direction))
      (resolve (ofItems items) type? direction) := by
  intro registry hregistry
  rw [resolve_run]
  cases keyOf? type? direction with
  | none => exact .answered none registry hregistry (.refl registry) (by simp) rfl
  | some key =>
    have hmirrors := mirrors_fetch (within_ofItems hunique) key hregistry
    have hextends := extends_fetch (ofItems items) key registry
    have hanswer := fetch_eq_answer key hregistry
    simp only [Option.toList_some]
    rcases hfind : first? items key with _ | item
    · have hmissing : (fetch (ofItems items) key registry).1 = .error (.unsupported key) :=
        hanswer.trans (answer_of_absent (congrArg Except.ok hfind))
      rw [hmissing]
      exact .missing key _ (firstMissing?_singleton (not_configured_of_first? hfind))
    · have hfound : (fetch (ofItems items) key registry).1 = .ok item.auditId :=
        hanswer.trans (answer_of_found (congrArg Except.ok hfind))
      obtain ⟨cached, hget, _⟩ := cached_of_fetch hfound
      rw [hfound]
      refine .answered _ _ hmirrors hextends (fun other hother ↦ ?_) ⟨_, rfl, holds_of_first? hfind⟩
      exact ⟨cached, List.mem_singleton.mp hother ▸ hget⟩

end Reading

end StreamAudit.Registry
