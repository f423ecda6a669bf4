import StreamAudit.Proofs.Calls
import StreamAudit.Registry

/-!
A registry mirrors a store if everything cached is what the store holds. Refreshes and look-ups keep
it so, whether they are answered or not, and also where only a part of the store can be reached
(`mirrors_refresh`, `keeps_mirrors`). What is read through a registry that mirrors the store does
not depend on what happens to be cached (`answer_eq_of_mirrors`), and nothing cached is replaced by
a look-up (`extends_fetch`).
-/

set_option autoImplicit false
set_option relaxedAutoImplicit false

namespace StreamAudit

open StreamAudit.Store StreamAudit.Text

namespace ItemStore

/-- Whether all that a store answers with is held by another one too. -/
structure Within (part store : ItemStore) : Prop where
  find : ∀ key item, part.find key = .ok (some item) → store.find key = .ok (some item)
  all : ∀ items, part.all = .ok items → ∀ item ∈ items, store.find item.key = .ok (some item)

/-- What a store says about a key if nothing is cached. -/
def answer (store : ItemStore) (key : ItemKey) : Except Fault String :=
  match store.find key with
  | .ok (some item) => .ok item.auditId
  | .ok none => .error (.unsupported key)
  | .error fault => .error fault

theorem answer_of_found {store : ItemStore} {key : ItemKey} {item : Item}
    (h : store.find key = .ok (some item)) : store.answer key = .ok item.auditId := by
  rw [answer, h]

theorem answer_of_absent {store : ItemStore} {key : ItemKey} (h : store.find key = .ok none) :
    store.answer key = .error (.unsupported key) := by
  rw [answer, h]

theorem answer_of_failed {store : ItemStore} {key : ItemKey} {fault : Fault}
    (h : store.find key = .error fault) : store.answer key = .error fault := by
  rw [answer, h]

/-- Whether no two items have the same key. -/
def UniqueKeys (items : List Item) : Prop :=
  items.Pairwise fun first second ↦ first.key ≠ second.key

instance (items : List Item) : Decidable (UniqueKeys items) :=
  inferInstanceAs (Decidable (items.Pairwise _))

theorem first?_eq_some {items : List Item} {key : ItemKey} {item : Item}
    (h : first? items key = some item) : item ∈ items ∧ item.key = key :=
  ⟨List.mem_of_find?_eq_some h, by simpa using List.find?_some h⟩

/-- An item of a list with unique keys is the one that is found for its key. -/
theorem first?_of_mem {items : List Item} (hunique : UniqueKeys items) {item : Item}
    (hitem : item ∈ items) : first? items item.key = some item := by
  induction items with
  | nil => simp at hitem
  | cons head rest ih =>
    have hparts := List.pairwise_cons.mp hunique
    rw [first?, List.find?_cons]
    rcases List.mem_cons.mp hitem with rfl | hmem
    · rw [beq_self_eq_true]
    · rw [beq_eq_false_iff_ne.mpr (hparts.1 item hmem)]
      exact ih hparts.2 hmem

theorem within_ofItems {items : List Item} (hunique : UniqueKeys items) :
    (ofItems items).Within (ofItems items) where
  find := fun _ _ h ↦ h
  all := by
    intro found hfound item hitem
    cases hfound
    exact congrArg Except.ok (first?_of_mem hunique hitem)

/-- A missing table answers with nothing. -/
theorem within_missing (store : ItemStore) : (ofTable none).Within store where
  find := fun _ _ h ↦ nomatch h
  all := fun _ h ↦ nomatch h

theorem within_ofTable {table : Option (Table Item)}
    (hunique : ∀ rows, table = some rows → UniqueKeys (rows.map Row.data)) :
    (ofTable table).Within (ofTable table) := by
  cases table with
  | none => exact within_missing _
  | some rows => exact within_ofItems (hunique rows rfl)

end ItemStore

namespace Registry

/-- Whether everything cached is what a store holds. -/
def Mirrors (store : ItemStore) (registry : Registry) : Prop :=
  ∀ key item, registry.get? key = some item → store.find key = .ok (some item)

/-- Whether everything cached in a registry is cached in a later one. -/
def Extends (registry later : Registry) : Prop :=
  ∀ key item, registry.get? key = some item → later.get? key = some item

theorem Extends.refl (registry : Registry) : Extends registry registry :=
  fun _ _ h ↦ h

theorem Extends.trans {first second third : Registry} (h : Extends first second)
    (h' : Extends second third) : Extends first third :=
  fun key item hitem ↦ h' key item (h key item hitem)

theorem get?_empty (key : ItemKey) : ({} : Registry).get? key = none := by
  obtain ⟨type, _ | _⟩ := key <;> rfl

theorem get?_clear (registry : Registry) (key : ItemKey) : registry.clear.get? key = none := by
  obtain ⟨type, _ | _⟩ := key <;> rfl

theorem lookups_put (registry : Registry) (key : ItemKey) (item : Item) :
    (registry.put key item).lookups = registry.lookups := by
  obtain ⟨type, _ | _⟩ := key <;> rfl

section Mirrors

variable {store : ItemStore} {registry : Registry}

theorem mirrors_empty (store : ItemStore) : Mirrors store {} := by
  intro key item h
  rw [get?_empty] at h
  cases h

theorem mirrors_clear (store : ItemStore) (registry : Registry) : Mirrors store registry.clear := by
  intro key item h
  rw [get?_clear] at h
  cases h

theorem mirrors_put (h : Mirrors store registry) {key : ItemKey} {item : Item}
    (hitem : store.find key = .ok (some item)) : Mirrors store (registry.put key item) := by
  intro other found hfound
  rw [get?_put] at hfound
  split at hfound
  · rename_i heq
    rw [heq, hitem, hfound]
  · exact h other found hfound

theorem mirrors_load (h : Mirrors store registry) {items : List Item}
    (hitems : ∀ item ∈ items, store.find item.key = .ok (some item)) :
    Mirrors store (registry.load items) := by
  induction items generalizing registry with
  | nil => exact h
  | cons item rest ih =>
    have hput := mirrors_put h (hitems item List.mem_cons_self)
    exact ih hput fun other hother ↦ hitems other (List.mem_cons_of_mem item hother)

/-- A refresh from the store, or from the part of it that can be reached, keeps the mirror. -/
theorem mirrors_refresh {part : ItemStore} (hpart : part.Within store)
    (h : Mirrors store registry) :
    Mirrors store (refresh part registry).2 := by
  unfold refresh
  cases hall : part.all with
  | error fault => exact h
  | ok items => exact mirrors_load h (hpart.all items hall)

end Mirrors

/-! ### One look-up -/

/-- The registry that also remembers that a key was looked up. -/
def noting (registry : Registry) (key : ItemKey) : Registry :=
  { registry with lookups := registry.lookups ++ [key] }

theorem get?_noting (registry : Registry) (key other : ItemKey) :
    (registry.noting key).get? other = registry.get? other := by
  obtain ⟨type, _ | _⟩ := other <;> rfl

/-- All that can come of looking a key up, with what is cached afterwards. -/
inductive Fetched (store : ItemStore) (key : ItemKey) (registry : Registry) :
    Except Fault String × Registry → Prop where
  | cached (item : Item) (h : registry.get? key = some item) :
    Fetched store key registry (.ok item.auditId, registry)
  | failed (fault : Fault) (h : registry.get? key = none) (hfind : store.find key = .error fault) :
    Fetched store key registry (.error fault, registry.noting key)
  | absent (h : registry.get? key = none) (hfind : store.find key = .ok none) :
    Fetched store key registry (.error (.unsupported key), registry.noting key)
  | found (item : Item) (h : registry.get? key = none) (hfind : store.find key = .ok (some item)) :
    Fetched store key registry (.ok item.auditId, (registry.noting key).put key item)

theorem fetched (store : ItemStore) (key : ItemKey) (registry : Registry) :
    Fetched store key registry (fetch store key registry) := by
  unfold fetch
  cases hget : registry.get? key with
  | some item => exact .cached item hget
  | none =>
    rcases hfind : store.find key with fault | _ | item
    · exact .failed fault hget hfind
    · exact .absent hget hfind
    · exact .found item hget hfind

section Fetch

variable {store : ItemStore} {key : ItemKey} {registry : Registry}

theorem fetch_of_cached {item : Item} (h : registry.get? key = some item) :
    fetch store key registry = (.ok item.auditId, registry) := by
  rw [fetch, h]

theorem mirrors_noting {store : ItemStore} (h : Mirrors store registry) (key : ItemKey) :
    Mirrors store (registry.noting key) := by
  intro other item hitem
  rw [get?_noting] at hitem
  exact h other item hitem

/-- A look-up in a part of the store keeps the mirror of the store. -/
theorem mirrors_fetch {part : ItemStore} (hpart : part.Within store) (key : ItemKey)
    (h : Mirrors store registry) : Mirrors store (fetch part key registry).2 := by
  have hfetched := fetched part key registry
  generalize fetch part key registry = outcome at hfetched ⊢
  cases hfetched with
  | cached item hget => exact h
  | failed fault hget hfind => exact mirrors_noting h key
  | absent hget hfind => exact mirrors_noting h key
  | found item hget hfind => exact mirrors_put (mirrors_noting h key) (hpart.find key item hfind)

/-- A look-up replaces nothing that is cached. -/
theorem extends_fetch (store : ItemStore) (key : ItemKey) (registry : Registry) :
    Extends registry (fetch store key registry).2 := by
  intro other item hitem
  have hfetched := fetched store key registry
  generalize fetch store key registry = outcome at hfetched ⊢
  cases hfetched with
  | cached found hget => exact hitem
  | failed fault hget hfind => rwa [get?_noting]
  | absent hget hfind => rwa [get?_noting]
  | found new hget hfind =>
    have hne : other ≠ key := by
      rintro rfl
      rw [hget] at hitem
      cases hitem
    rw [get?_put, if_neg hne, get?_noting, hitem]

/-- What is not cached is looked up, and this is remembered. -/
theorem lookups_fetch (store : ItemStore) (h : registry.get? key = none) :
    (fetch store key registry).2.lookups = registry.lookups ++ [key] := by
  have hfetched := fetched store key registry
  generalize fetch store key registry = outcome at hfetched ⊢
  cases hfetched with
  | cached item hget => rw [h] at hget; cases hget
  | failed fault hget hfind => rfl
  | absent hget hfind => rfl
  | found item hget hfind => rw [lookups_put, noting]

/-- Through a mirror of the store a look-up gives what the store says. -/
theorem fetch_eq_answer (key : ItemKey) (h : Mirrors store registry) :
    (fetch store key registry).1 = store.answer key := by
  have hfetched := fetched store key registry
  generalize fetch store key registry = outcome at hfetched ⊢
  cases hfetched with
  | cached item hget => exact (ItemStore.answer_of_found (h key item hget)).symm
  | failed fault hget hfind => exact (ItemStore.answer_of_failed hfind).symm
  | absent hget hfind => exact (ItemStore.answer_of_absent hfind).symm
  | found item hget hfind => exact (ItemStore.answer_of_found hfind).symm

/-- What was looked up with an answer is cached. -/
theorem cached_of_fetch {auditId : String} (h : (fetch store key registry).1 = .ok auditId) :
    ∃ item, (fetch store key registry).2.get? key = some item ∧ item.auditId = auditId := by
  have hfetched := fetched store key registry
  generalize fetch store key registry = outcome at h hfetched ⊢
  cases hfetched with
  | cached item hget => exact ⟨item, hget, Except.ok.inj h⟩
  | failed fault hget hfind => cases h
  | absent hget hfind => cases h
  | found item hget hfind => exact ⟨item, by rw [get?_put, if_pos rfl], Except.ok.inj h⟩

end Fetch

/-! ### Readings -/

/-- The key of a type in a direction; a type that is missing or blank has none. -/
def keyOf? (type? : Option String) (direction : Direction) : Option ItemKey :=
  (type?.filter fun type ↦ !isVoid type).map fun type ↦ ⟨type, direction⟩

theorem resolve_run (store : ItemStore) (type? : Option String) (direction : Direction)
    (registry : Registry) : (resolve store type? direction).run registry =
      match keyOf? type? direction with
      | none => (.ok none, registry)
      | some key => ((fetch store key registry).1.map some, (fetch store key registry).2) := by
  cases type? with
  | none => rfl
  | some type =>
    unfold resolve keyOf?
    simp only [Option.filter_some]
    cases isVoid type with
    | true => rfl
    | false =>
      simp only [Bool.false_eq_true, if_false, Bool.not_false, if_true, Option.map_some]
      rw [map_eq_pure_bind, bind_run, ExceptT.run_mk]
      rcases fetch store ⟨type, direction⟩ registry with ⟨_ | auditId, later⟩ <;> rfl

/-- Readings that touch the registry by looking types up alone. -/
inductive LooksUp (store : ItemStore) : {α : Type} → Reading α → Prop where
  | pure {α : Type} (result : α) : LooksUp store (pure result : Reading α)
  | resolve (type? : Option String) (direction : Direction) :
    LooksUp store (resolve store type? direction)
  | bind {α β : Type} {read : Reading α} {next : α → Reading β} (hread : LooksUp store read)
    (hnext : ∀ result, LooksUp store (next result)) : LooksUp store (read >>= next)

theorem LooksUp.map {store : ItemStore} {α β : Type} {read : Reading α} (f : α → β)
    (h : LooksUp store read) : LooksUp store (f <$> read) := by
  rw [map_eq_pure_bind]
  exact .bind h fun result ↦ .pure (f result)

section Reading

variable {store part : ItemStore} {α : Type} {read : Reading α}

/-- What every look-up keeps is kept by a reading. -/
theorem LooksUp.keeps {holds : Registry → Prop}
    (hfetch : ∀ key registry, holds registry → holds (fetch store key registry).2)
    (h : LooksUp store read) : Keeps holds read := by
  induction h with
  | pure result => exact keeps_pure result
  | resolve type? direction =>
    intro registry hregistry
    rw [resolve_run]
    cases keyOf? type? direction with
    | none => exact hregistry
    | some key => exact hfetch key registry hregistry
  | bind hread hnext ih ihnext => exact keeps_bind ih ihnext

/-- Two registries between which no look-up tells a difference give the same answer to a reading. -/
theorem LooksUp.agrees (alike : Registry → Registry → Prop)
    (hfetch : ∀ key first second, alike first second →
      (fetch store key first).1 = (fetch store key second).1 ∧
        alike (fetch store key first).2 (fetch store key second).2)
    (h : LooksUp store read) {first second : Registry} (halike : alike first second) :
    (read.run first).1 = (read.run second).1 ∧ alike (read.run first).2 (read.run second).2 := by
  induction h generalizing first second with
  | pure result => exact ⟨rfl, halike⟩
  | resolve type? direction =>
    rw [resolve_run, resolve_run]
    cases keyOf? type? direction with
    | none => exact ⟨rfl, halike⟩
    | some key =>
      obtain ⟨hanswers, hlater⟩ := hfetch key first second halike
      exact ⟨congrArg (Except.map some) hanswers, hlater⟩
  | @bind α β read next hread hnext ih ihnext =>
    obtain ⟨hsame, hlater⟩ := ih halike
    rw [bind_run, bind_run]
    rcases hrun : read.run first with ⟨_ | result, later⟩ <;>
      rcases hrun' : read.run second with ⟨_ | result', later'⟩ <;>
        rw [hrun, hrun'] at hsame hlater
    · exact ⟨congrArg Except.error (Except.error.inj hsame), hlater⟩
    · cases hsame
    · cases hsame
    · obtain rfl := Except.ok.inj hsame
      exact ihnext result hlater

/-- A reading from a part of the store keeps the mirror of the store. -/
theorem keeps_mirrors (hpart : part.Within store) (h : LooksUp part read) :
    Keeps (Mirrors store) read :=
  h.keeps fun key _ hregistry ↦ mirrors_fetch hpart key hregistry

/-- Two mirrors of one store give the same answer, whatever each of them has cached. -/
theorem answer_eq_of_mirrors (hstore : store.Within store) (h : LooksUp store read)
    {first second : Registry} (hfirst : Mirrors store first) (hsecond : Mirrors store second) :
    (read.run first).1 = (read.run second).1 := by
  let bothMirror (first second : Registry) : Prop := Mirrors store first ∧ Mirrors store second
  refine (h.agrees bothMirror (fun key first second hboth ↦ ⟨?_, ?_⟩) ⟨hfirst, hsecond⟩).1
  · exact (fetch_eq_answer key hboth.1).trans (fetch_eq_answer key hboth.2).symm
  · exact ⟨mirrors_fetch hstore key hboth.1, mirrors_fetch hstore key hboth.2⟩

end Reading

end Registry

end StreamAudit
