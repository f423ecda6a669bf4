import StreamAudit.Proofs.Registry.Mirror

/-!
How long a resolved audit id stays the same, and how often a key is looked up for it. The store may
be another one at every use of the registry, and may be out of reach. What is cached outlives
everything but a clear, and is replaced by nothing but a refresh that succeeds (`get?_after_use`),
so a resolved audit id is given again without a look-up until then. A key that was found is cached
at once, and therefore not looked up again before the next clear: of its look-ups in between only
the last one can have found it (`stable_between_resets`).
-/

set_option autoImplicit false
set_option relaxedAutoImplicit false

namespace StreamAudit.Registry

/-- What a registry is asked for. -/
inductive Ask where
  | refresh
  | clear
  | get (key : ItemKey)
  | resolve (type? : Option String) (direction : Direction)
deriving DecidableEq, Repr

/-- One use of a registry, with the store as it is found at that moment. -/
structure Use where
  store : ItemStore
  ask : Ask

/-- A look-up of a key, with what the store answered. -/
structure Lookup where
  key : ItemKey
  answer : Except Fault (Option Item)

/-- Whether a look-up found an item. The others failed or found nothing. -/
def Lookup.Found (lookup : Lookup) : Prop :=
  ∃ item, lookup.answer = .ok (some item)

namespace Use

/-- Whether a use drops everything cached. -/
def Clears (use : Use) : Prop :=
  use.ask = .clear

/-- Whether a use is a refresh that succeeds. -/
def Reloads (use : Use) : Prop :=
  use.ask = .refresh ∧ ∃ items, use.store.all = .ok items

/-- The registry after a use. -/
def after (use : Use) (registry : Registry) : Registry :=
  match use.ask with
  | .refresh => (refresh use.store registry).2
  | .clear => registry.clear
  | .get _ => registry
  | .resolve type? direction => ((Registry.resolve use.store type? direction).run registry).2

/-- The look-up that a use needs: that of a key to resolve that is not cached. -/
def lookup? (use : Use) (registry : Registry) : Option Lookup :=
  match use.ask with
  | .resolve type? direction =>
    (keyOf? type? direction).bind fun key ↦
      if registry.get? key = none then some ⟨key, use.store.find key⟩ else none
  | _ => none

end Use

/-- The registry after some uses, one after another. -/
def after (uses : List Use) (registry : Registry) : Registry :=
  uses.foldl (fun reached use ↦ use.after reached) registry

/-- The look-ups of some uses, in order. -/
def lookupsOf : List Use → Registry → List Lookup
  | [], _ => []
  | use :: rest, registry => (use.lookup? registry).toList ++ lookupsOf rest (use.after registry)

theorem after_append (first second : List Use) (registry : Registry) :
    after (first ++ second) registry = after second (after first registry) :=
  List.foldl_append

/-! ### One use -/

/-- A load replaces items but drops none. -/
theorem isSome_get?_load {registry : Registry} {key : ItemKey} (items : List Item)
    (h : (registry.get? key).isSome = true) : ((registry.load items).get? key).isSome = true := by
  induction items generalizing registry with
  | nil => exact h
  | cons item rest ih =>
    have hput : ((registry.put item.key item).get? key).isSome = true := by
      rw [get?_put]
      split
      · rfl
      · exact h
    exact ih hput

theorem lookups_load (registry : Registry) (items : List Item) :
    (registry.load items).lookups = registry.lookups := by
  induction items generalizing registry with
  | nil => rfl
  | cons item rest ih =>
    exact (ih (registry.put item.key item)).trans (lookups_put registry item.key item)

section Resolve

variable {store : ItemStore} {type? : Option String} {direction : Direction} {registry : Registry}

/-- Resolving a type replaces nothing that is cached. -/
theorem extends_resolve (store : ItemStore) (type? : Option String) (direction : Direction)
    (registry : Registry) : Extends registry ((resolve store type? direction).run registry).2 := by
  rw [resolve_run]
  cases keyOf? type? direction with
  | none => exact Extends.refl registry
  | some key => exact extends_fetch store key registry

/-- A type that was resolved has a key, and the item of the key is cached. -/
theorem cached_of_resolve {auditId : String}
    (h : ((resolve store type? direction).run registry).1 = .ok (some auditId)) :
    ∃ key item, keyOf? type? direction = some key ∧
      ((resolve store type? direction).run registry).2.get? key = some item ∧
      item.auditId = auditId := by
  rw [resolve_run] at h ⊢
  cases hkey : keyOf? type? direction with
  | none =>
    rw [hkey] at h
    cases h
  | some key =>
    rw [hkey] at h
    obtain ⟨found, hfound, hsame⟩ := exists_of_map_eq_ok h
    obtain rfl := Option.some.inj hsame
    obtain ⟨item, hitem, hid⟩ := cached_of_fetch hfound
    exact ⟨key, item, rfl, hitem, hid⟩

/-- A type whose item is cached is resolved without a look-up. -/
theorem resolve_run_of_cached {key : ItemKey} {item : Item}
    (hkey : keyOf? type? direction = some key) (hitem : registry.get? key = some item)
    (store : ItemStore) :
    (resolve store type? direction).run registry = (.ok (some item.auditId), registry) := by
  rw [resolve_run, hkey]
  simp only [fetch_of_cached hitem]
  rfl

end Resolve

section Use

variable {use : Use} {registry : Registry} {key : ItemKey}

/-- Only a clear drops an item, and only a refresh that succeeds can replace it. -/
theorem get?_after_use {item : Item} (hclears : ¬ use.Clears) (hreloads : ¬ use.Reloads)
    (h : registry.get? key = some item) : (use.after registry).get? key = some item := by
  obtain ⟨store, ask⟩ := use
  cases ask with
  | refresh =>
    cases hall : store.all with
    | ok items => exact absurd ⟨rfl, items, hall⟩ hreloads
    | error fault =>
      rw [Use.after, refresh, hall]
      exact h
  | clear => exact absurd rfl hclears
  | get other => exact h
  | resolve type? direction => exact extends_resolve store type? direction registry key item h

theorem isSome_get?_after_use (hclears : ¬ use.Clears) (h : (registry.get? key).isSome = true) :
    ((use.after registry).get? key).isSome = true := by
  by_cases hreloads : use.Reloads
  · obtain ⟨hask, items, hitems⟩ := hreloads
    rw [Use.after, hask]
    simp only [refresh, hitems]
    exact isSome_get?_load items h
  · obtain ⟨item, hitem⟩ := Option.isSome_iff_exists.mp h
    rw [get?_after_use hclears hreloads hitem]
    rfl

/-- What a use looks up is not cached before, and if it is found it is cached afterwards. -/
theorem of_lookup? {lookup : Lookup} (h : use.lookup? registry = some lookup) :
    registry.get? lookup.key = none ∧
      (lookup.Found → ((use.after registry).get? lookup.key).isSome = true) := by
  obtain ⟨store, ask⟩ := use
  cases ask with
  | refresh => cases h
  | clear => cases h
  | get other => cases h
  | resolve type? direction =>
    obtain ⟨key, hkey, hlookup⟩ := Option.bind_eq_some_iff.mp h
    obtain ⟨habsent, hsame⟩ := Option.ite_none_right_eq_some.mp hlookup
    obtain rfl := Option.some.inj hsame
    refine ⟨habsent, ?_⟩
    rintro ⟨item, hitem⟩
    have hfetch : (fetch store key registry).1 = .ok item.auditId := by
      simp only [fetch, habsent]
      rw [show store.find key = .ok (some item) from hitem]
    obtain ⟨cached, hcached, -⟩ := cached_of_fetch hfetch
    have hrun : (⟨store, .resolve type? direction⟩ : Use).after registry =
        (fetch store key registry).2 := by
      simp only [Use.after, resolve_run, hkey]
    rw [hrun, hcached]
    rfl

/-- The registry remembers the look-up of a use, and no other one. -/
theorem lookups_after_use (use : Use) (registry : Registry) :
    (use.after registry).lookups =
      registry.lookups ++ (use.lookup? registry).toList.map Lookup.key := by
  obtain ⟨store, ask⟩ := use
  cases ask with
  | refresh =>
    simp only [Use.after, Use.lookup?, refresh, Option.toList_none, List.map_nil, List.append_nil]
    cases store.all with
    | ok items => exact lookups_load registry items
    | error fault => rfl
  | clear => exact (List.append_nil _).symm
  | get other => exact (List.append_nil _).symm
  | resolve type? direction =>
    simp only [Use.after, Use.lookup?, resolve_run]
    cases keyOf? type? direction with
    | none => exact (List.append_nil _).symm
    | some key =>
      cases hget : registry.get? key with
      | none =>
        simp only [Option.bind_some, hget, if_true]
        exact lookups_fetch store hget
      | some item =>
        simp only [Option.bind_some, hget, fetch_of_cached hget]
        exact (List.append_nil _).symm

end Use

/-! ### Any number of uses -/

section Uses

variable {registry : Registry} {key : ItemKey}

/-- The registry remembers the look-ups of all uses in order. -/
theorem lookups_after (uses : List Use) (registry : Registry) :
    (after uses registry).lookups =
      registry.lookups ++ (lookupsOf uses registry).map Lookup.key := by
  induction uses generalizing registry with
  | nil => exact (List.append_nil _).symm
  | cons use rest ih =>
    have hrest : (after rest (use.after registry)).lookups = _ := ih (use.after registry)
    rw [after, List.foldl_cons, ← after, hrest, lookups_after_use, lookupsOf, List.map_append,
      List.append_assoc]

/-- An item stays cached until the next clear or refresh that succeeds. -/
theorem get?_after {uses : List Use} (hkeeps : ∀ use ∈ uses, ¬ use.Clears ∧ ¬ use.Reloads)
    {item : Item} (h : registry.get? key = some item) :
    (after uses registry).get? key = some item := by
  induction uses generalizing registry with
  | nil => exact h
  | cons use rest ih =>
    obtain ⟨⟨hclears, hreloads⟩, hrest⟩ := List.forall_mem_cons.mp hkeeps
    exact ih hrest (get?_after_use hclears hreloads h)

/-- A key that is cached is not looked up before the next clear. -/
theorem not_looked_up_of_cached {uses : List Use} (hclears : ∀ use ∈ uses, ¬ use.Clears)
    (h : (registry.get? key).isSome = true) :
    ∀ lookup ∈ lookupsOf uses registry, lookup.key ≠ key := by
  induction uses generalizing registry with
  | nil => simp [lookupsOf]
  | cons use rest ih =>
    obtain ⟨hfirst, hrest⟩ := List.forall_mem_cons.mp hclears
    intro lookup hlookup
    rcases List.mem_append.mp hlookup with hnow | hlater
    · rintro rfl
      rw [(of_lookup? (Option.mem_toList.mp hnow)).1] at h
      cases h
    · exact ih hrest (isSome_get?_after_use hfirst h) lookup hlater

/-- Until the next clear no look-up of a key follows one that found it. -/
theorem pairwise_lookupsOf {uses : List Use} (hclears : ∀ use ∈ uses, ¬ use.Clears)
    (registry : Registry) :
    (lookupsOf uses registry).Pairwise fun earlier later ↦ earlier.key = later.key →
      ¬ earlier.Found := by
  induction uses generalizing registry with
  | nil => exact List.Pairwise.nil
  | cons use rest ih =>
    obtain ⟨-, hrest⟩ := List.forall_mem_cons.mp hclears
    refine List.pairwise_append.mpr ⟨?_, ih hrest (use.after registry), ?_⟩
    · cases use.lookup? registry with
      | none => exact List.Pairwise.nil
      | some lookup => exact List.pairwise_singleton _ _
    · intro earlier hearlier later hlater hsame hfound
      have hcached := (of_lookup? (Option.mem_toList.mp hearlier)).2 hfound
      exact not_looked_up_of_cached hrest hcached later hlater hsame.symm

end Uses

/-- A resolved audit id stays the same, and is given without a look-up, until the next clear or
refresh that succeeds. In a run without a clear at most one look-up of a key finds it, and this is
the last one of the key; what the registry remembers are all look-ups of the run. -/
theorem stable_between_resets (registry : Registry) (before stretch : List Use) :
    (∀ store type? direction auditId,
      ((resolve store type? direction).run (after before registry)).1 = .ok (some auditId) →
      (∀ use ∈ stretch, ¬ use.Clears ∧ ¬ use.Reloads) →
        ∀ laterStore reached,
          reached = after (before ++ ⟨store, .resolve type? direction⟩ :: stretch) registry →
          (resolve laterStore type? direction).run reached = (.ok (some auditId), reached)) ∧
      (after (before ++ stretch) registry).lookups = (after before registry).lookups ++
        (lookupsOf stretch (after before registry)).map Lookup.key ∧
      ((∀ use ∈ stretch, ¬ use.Clears) → ∀ key earlier found later,
        ((lookupsOf stretch (after before registry)).filter fun lookup ↦ lookup.key = key) =
          earlier ++ found :: later →
        found.Found → later = [] ∧ ∀ other ∈ earlier, ¬ other.Found) := by
  refine ⟨?_, ?_, ?_⟩
  · rintro store type? direction auditId hresolved hkeeps laterStore _ rfl
    obtain ⟨key, item, hkey, hitem, rfl⟩ := cached_of_resolve hresolved
    have hlater := get?_after hkeeps hitem
    rw [after_append]
    exact resolve_run_of_cached hkey hlater laterStore
  · rw [after_append, lookups_after]
  · intro hclears key earlier found later hlookups hfound
    have hkey : ∀ lookup ∈ earlier ++ found :: later, lookup.key = key := by
      intro lookup hlookup
      rw [← hlookups] at hlookup
      exact of_decide_eq_true (List.mem_filter.mp hlookup).2
    have hpairs := (pairwise_lookupsOf hclears (after before registry)).filter
      fun lookup ↦ decide (lookup.key = key)
    rw [hlookups] at hpairs
    obtain ⟨-, hlast, hfirst⟩ := List.pairwise_append.mp hpairs
    have hfoundKey := hkey found (by simp)
    constructor
    · refine List.eq_nil_iff_forall_not_mem.mpr fun other hother ↦ ?_
      have hotherKey := hkey other (by simp [hother])
      exact (List.pairwise_cons.mp hlast).1 other hother (hfoundKey.trans hotherKey.symm) hfound
    · intro other hother
      have hotherKey := hkey other (by simp [hother])
      exact hfirst other hother found List.mem_cons_self (hotherKey.trans hfoundKey.symm)

/-! ### A store that falters -/

namespace Faltering

/-- What is looked up. -/
def key : ItemKey :=
  ⟨"HIVE", .sent⟩

/-- The look-up of it in a store. -/
def lookUp (store : ItemStore) : Use :=
  ⟨store, .resolve (some key.type) key.direction⟩

/-- A store with an audit id. -/
def store : ItemStore :=
  .ofItems [⟨key, "10"⟩]

/-- The store with another one in its place. -/
def replaced : ItemStore :=
  .ofItems [⟨key, "11"⟩]

/-- A refresh that fails, and uses of the store after its rows were replaced. -/
def stretch : List Use :=
  [⟨.unreachable, .refresh⟩, lookUp replaced, ⟨replaced, .get key⟩]

theorem stretch_keeps : ∀ use ∈ stretch, ¬ use.Clears ∧ ¬ use.Reloads := by
  simp [stretch, lookUp, Use.Clears, Use.Reloads, ItemStore.unreachable]

/-- The first look-up fails and the second one finds the audit id, which is then given again
although the store holds another one. -/
theorem stable_of_faltering :
    ((resolve store (some key.type) key.direction).run (after [lookUp .unreachable] {})).1 =
        .ok (some "10") ∧
      (∀ use ∈ stretch, ¬ use.Clears ∧ ¬ use.Reloads) ∧
      ((resolve replaced (some key.type) key.direction).run
        (after ([lookUp .unreachable] ++ lookUp store :: stretch) {})).1 = .ok (some "10") ∧
      ∃ failed found, lookupsOf (lookUp .unreachable :: lookUp store :: stretch) {} =
        [failed, found] ∧ found.Found ∧ ¬ failed.Found := by
  have hresolved : ((resolve store (some key.type) key.direction).run
      (after [lookUp .unreachable] {})).1 = .ok (some "10") := rfl
  obtain ⟨hstable, -, -⟩ := stable_between_resets {} [lookUp .unreachable] stretch
  obtain ⟨-, -, hlookups⟩ :=
    stable_between_resets {} [] (lookUp .unreachable :: lookUp store :: stretch)
  have hclears : ∀ use ∈ lookUp .unreachable :: lookUp store :: stretch, ¬ use.Clears := by
    simp [stretch, lookUp, Use.Clears]
  have hfound : (⟨key, .ok (some ⟨key, "10"⟩)⟩ : Lookup).Found := ⟨_, rfl⟩
  have hagain := hstable store _ _ "10" hresolved stretch_keeps replaced _ rfl
  refine ⟨hresolved, stretch_keeps, congrArg Prod.fst hagain, _, _, rfl, hfound, ?_⟩
  exact (hlookups hclears key [_] _ [] rfl hfound).2 _ List.mem_cons_self

end Faltering

end StreamAudit.Registry
