import Mathlib.Data.Finset.Card
import Mathlib.Logic.Function.Basic
import StreamAudit.Proofs.Dictionary
import StreamAudit.Proofs.Registry.Stability

/-!
A registry as one finite map. A registry keeps two shelves and fills them in two ways, all at once
and item by item. What can be observed of it is nevertheless what one map from keys to items shows,
which a refresh overrides by the rows that are listed, a look-up extends by one row, and a clear
empties (`Ledger.ask`). The two stay in step through every event, be it a question, a change of the
rows or an outage of the store (`inStep`), so they give the same observations along every run
(`observed_as_one_map`).
-/

set_option autoImplicit false
set_option relaxedAutoImplicit false

namespace StreamAudit

open StreamAudit.ItemStore

namespace Registry

/-! ### The store and what happens to it -/

/-- The rows of a store, and what goes wrong when they are listed or looked up. -/
structure Supply where
  rows : List Item
  listingFault : Option Fault := none
  lookupFault : Option Fault := none

/-- The rows of a key, in order. -/
def rowsOf (rows : List Item) (key : ItemKey) : List Item :=
  rows.filter fun row ↦ row.key == key

/-- The answers of the store. -/
def Supply.store (supply : Supply) : ItemStore where
  all :=
    match supply.listingFault with
    | some fault => .error fault
    | none => .ok supply.rows
  find key :=
    match supply.lookupFault with
    | some fault => .error fault
    | none => .ok (first? supply.rows key)

/-- What happens to a registry or to the store that it reads from. -/
inductive Event where
  | ask (ask : Ask)
  | restock (rows : List Item)
  | outage (listingFault lookupFault : Option Fault)

/-- The store after an event. -/
def Event.supplyAfter (event : Event) (supply : Supply) : Supply :=
  match event with
  | .ask _ => supply
  | .restock rows => { supply with rows }
  | .outage listingFault lookupFault => { supply with listingFault, lookupFault }

/-- What a question is answered with. -/
inductive Reply where
  | done
  | reloaded (succeeded : Bool)
  | cached (item? : Option Item)
  | resolved (answer : Except Fault (Option String))

/-- What can be observed after an event: the reply, the number of cached items, and all keys that
were looked up so far. -/
structure Observation where
  reply : Reply
  size : Nat
  lookups : List ItemKey

/-! ### Caches that are asked -/

/-- A cache of items, by what it replies and becomes when it is asked and by what it shows. -/
structure Keeper (σ : Type) where
  ask : Supply → Ask → σ → Reply × σ
  size : σ → Nat
  lookups : σ → List ItemKey

namespace Keeper

variable {σ τ : Type}

/-- What a cache replies to an event, and what it is afterwards. -/
def handle (keeper : Keeper σ) (supply : Supply) (event : Event) (state : σ) : Reply × σ :=
  match event with
  | .ask ask => keeper.ask supply ask state
  | .restock _ | .outage _ _ => (.done, state)

/-- What is observed of a cache along a run. -/
def trace (keeper : Keeper σ) : List Event → Supply → σ → List Observation
  | [], _, _ => []
  | event :: rest, supply, state =>
    let outcome := keeper.handle supply event state
    ⟨outcome.1, keeper.size outcome.2, keeper.lookups outcome.2⟩ ::
      keeper.trace rest (event.supplyAfter supply) outcome.2

/-- The cache after a run. -/
def reached (keeper : Keeper σ) : List Event → Supply → σ → σ
  | [], _, state => state
  | event :: rest, supply, state =>
    keeper.reached rest (event.supplyAfter supply) (keeper.handle supply event state).2

/-- A relation under which two caches show the same and which every question keeps, with the same
reply. -/
structure InStep (first : Keeper σ) (second : Keeper τ) (relates : σ → τ → Prop) : Prop where
  size_eq : ∀ {state other}, relates state other → first.size state = second.size other
  lookups_eq : ∀ {state other}, relates state other → first.lookups state = second.lookups other
  ask : ∀ supply ask {state other}, relates state other →
    (first.ask supply ask state).1 = (second.ask supply ask other).1 ∧
      relates (first.ask supply ask state).2 (second.ask supply ask other).2

section InStep

variable {first : Keeper σ} {second : Keeper τ} {relates : σ → τ → Prop} {state : σ} {other : τ}

theorem InStep.handle (h : InStep first second relates) (hstate : relates state other)
    (supply : Supply) (event : Event) :
    (first.handle supply event state).1 = (second.handle supply event other).1 ∧
      relates (first.handle supply event state).2 (second.handle supply event other).2 := by
  cases event with
  | ask ask => exact h.ask supply ask hstate
  | restock rows => exact ⟨rfl, hstate⟩
  | outage listingFault lookupFault => exact ⟨rfl, hstate⟩

/-- Caches in step give the same observations along every run, and stay in step. -/
theorem InStep.run (h : InStep first second relates) (events : List Event) (supply : Supply)
    (hstate : relates state other) :
    first.trace events supply state = second.trace events supply other ∧
      relates (first.reached events supply state) (second.reached events supply other) := by
  induction events generalizing supply state other with
  | nil => exact ⟨rfl, hstate⟩
  | cons event rest ih =>
    obtain ⟨hreply, hlater⟩ := h.handle hstate supply event
    obtain ⟨htrace, hreached⟩ := ih (event.supplyAfter supply) hlater
    refine ⟨?_, hreached⟩
    simp only [trace]
    rw [hreply, h.size_eq hlater, h.lookups_eq hlater, htrace]

end InStep

end Keeper

/-! ### The registry as a cache -/

/-- What a registry replies when it is asked. -/
def Use.reply (use : Use) (registry : Registry) : Reply :=
  match use.ask with
  | .refresh => .reloaded (refresh use.store registry).1
  | .clear => .done
  | .get key => .cached (registry.get? key)
  | .resolve type? direction =>
    .resolved ((Registry.resolve use.store type? direction).run registry).1

/-- The cache that a registry is. -/
def keeper : Keeper Registry where
  ask supply ask registry :=
    ((⟨supply.store, ask⟩ : Use).reply registry, (⟨supply.store, ask⟩ : Use).after registry)
  size := size
  lookups := lookups

/-! ### One map -/

/-- Finitely many items, each under its own key. -/
structure ItemMap where
  keys : Finset ItemKey
  entry : ItemKey → Option Item
  mem_keys : ∀ key, key ∈ keys ↔ (entry key).isSome = true
  key_of_entry : ∀ key item, entry key = some item → item.key = key

theorem mem_rowsOf {rows : List Item} {key : ItemKey} {row : Item} :
    row ∈ rowsOf rows key ↔ row ∈ rows ∧ row.key = key := by
  simp [rowsOf]

theorem isSome_getLast?_rowsOf {rows : List Item} {key : ItemKey} :
    (rowsOf rows key).getLast?.isSome = true ↔ key ∈ rows.map Item.key := by
  simp [rowsOf]

theorem head?_rowsOf (rows : List Item) (key : ItemKey) :
    (rowsOf rows key).head? = first? rows key :=
  List.head?_filter

namespace ItemMap

/-- The map without items. -/
def empty : ItemMap where
  keys := ∅
  entry _ := none
  mem_keys := by simp
  key_of_entry := by simp

/-- The map with the last row of each key that has any, and with all other items as they were. -/
def overriddenBy (map : ItemMap) (rows : List Item) : ItemMap where
  keys := (rows.map Item.key).toFinset ∪ map.keys
  entry key := (rowsOf rows key).getLast?.or (map.entry key)
  mem_keys key := by
    rw [Option.isSome_or, Bool.or_eq_true, isSome_getLast?_rowsOf, Finset.mem_union,
      List.mem_toFinset, map.mem_keys]
  key_of_entry key item h := by
    rcases Option.or_eq_some_iff.mp h with hrow | ⟨-, hold⟩
    · exact (mem_rowsOf.mp (List.mem_of_getLast? hrow)).2
    · exact map.key_of_entry key item hold

/-- The map with one more item. -/
def gaining (map : ItemMap) (item : Item) : ItemMap where
  keys := insert item.key map.keys
  entry := Function.update map.entry item.key (some item)
  mem_keys key := by
    by_cases hkey : key = item.key
    · simp [hkey]
    · simp [hkey, map.mem_keys]
  key_of_entry key found h := by
    by_cases hkey : key = item.key
    · subst hkey
      rw [Function.update_self, Option.some.injEq] at h
      rw [h]
    · rw [Function.update_of_ne hkey] at h
      exact map.key_of_entry key found h

theorem entry_gaining (map : ItemMap) (item : Item) (key : ItemKey) :
    (map.gaining item).entry key = if key = item.key then some item else map.entry key :=
  Function.update_apply map.entry item.key (some item) key

end ItemMap

/-- A map of items with the keys that were looked up for it. -/
structure Ledger where
  map : ItemMap := .empty
  lookups : List ItemKey := []

namespace Ledger

/-- The audit id of a key, from the map or else from the first row of the key, which the map
gains. -/
def fetch (supply : Supply) (key : ItemKey) (ledger : Ledger) : Except Fault String × Ledger :=
  match ledger.map.entry key with
  | some item => (.ok item.auditId, ledger)
  | none =>
    let noted := { ledger with lookups := ledger.lookups ++ [key] }
    match supply.lookupFault, (rowsOf supply.rows key).head? with
    | some fault, _ => (.error fault, noted)
    | none, none => (.error (.unsupported key), noted)
    | none, some row => (.ok row.auditId, { noted with map := ledger.map.gaining row })

/-- How one map replies and changes. A refresh that fails, a look-up that fails or finds nothing and
a blank type leave it as it was. -/
def ask (supply : Supply) (ask : Ask) (ledger : Ledger) : Reply × Ledger :=
  match ask with
  | .clear => (.done, { ledger with map := .empty })
  | .get key => (.cached (ledger.map.entry key), ledger)
  | .refresh =>
    match supply.listingFault with
    | some _ => (.reloaded false, ledger)
    | none => (.reloaded true, { ledger with map := ledger.map.overriddenBy supply.rows })
  | .resolve type? direction =>
    match keyOf? type? direction with
    | none => (.resolved (.ok none), ledger)
    | some key => (.resolved ((ledger.fetch supply key).1.map some), (ledger.fetch supply key).2)

/-- The cache that one map is. -/
def keeper : Keeper Ledger where
  ask := ask
  size ledger := ledger.map.keys.card
  lookups := lookups

end Ledger

/-! ### Both in step -/

/-- Whether no shelf has two items of one type. -/
structure Shelved (registry : Registry) : Prop where
  sent : registry.sent.keys.Nodup
  received : registry.received.keys.Nodup

theorem Shelved.put {registry : Registry} (h : Shelved registry) (key : ItemKey) (item : Item) :
    Shelved (registry.put key item) := by
  obtain ⟨type, _ | _⟩ := key
  · exact ⟨Dictionary.nodup_keys_set h.sent type item, h.received⟩
  · exact ⟨h.sent, Dictionary.nodup_keys_set h.received type item⟩

theorem Shelved.load {registry : Registry} (h : Shelved registry) (items : List Item) :
    Shelved (registry.load items) := by
  induction items generalizing registry with
  | nil => exact h
  | cons item rest ih => exact ih (h.put item.key item)

/-- A load caches the last row of each key, and leaves the other items as they were. -/
theorem get?_load (registry : Registry) (items : List Item) (key : ItemKey) :
    (registry.load items).get? key = (rowsOf items key).getLast?.or (registry.get? key) := by
  induction items generalizing registry with
  | nil => rfl
  | cons item rest ih =>
    have hload : (registry.load (item :: rest)).get? key =
        (rowsOf rest key).getLast?.or ((registry.put item.key item).get? key) := ih _
    rw [hload, get?_put]
    -- A row of the key counts only until a later one replaces it.
    by_cases hkey : item.key = key
    · have hrows : rowsOf (item :: rest) key = item :: rowsOf rest key := by simp [rowsOf, hkey]
      rw [hrows, if_pos hkey.symm, List.getLast?_cons]
      cases (rowsOf rest key).getLast? <;> rfl
    · have hrows : rowsOf (item :: rest) key = rowsOf rest key := by simp [rowsOf, hkey]
      rw [hrows, if_neg (Ne.symm hkey)]

/-- Whether a map holds what a registry has cached, and both were looked up for the same keys. -/
structure Represents (registry : Registry) (ledger : Ledger) : Prop where
  get?_eq : ∀ key, registry.get? key = ledger.map.entry key
  shelved : Shelved registry
  lookups_eq : registry.lookups = ledger.lookups

/-- The keys of all cached items, direction by direction. -/
def keyList (registry : Registry) : List ItemKey :=
  (registry.sent.keys.map fun type ↦ ⟨type, .sent⟩) ++ registry.received.keys.map fun type ↦
    ⟨type, .received⟩

theorem mem_keyList {registry : Registry} {key : ItemKey} :
    key ∈ keyList registry ↔ (registry.get? key).isSome = true := by
  obtain ⟨type, _ | _⟩ := key <;> simp [keyList, get?, shelf, Dictionary.mem_keys_iff]

theorem Shelved.nodup_keyList {registry : Registry} (h : Shelved registry) :
    (keyList registry).Nodup := by
  refine List.nodup_append.mpr ⟨h.sent.map ?_, h.received.map ?_, ?_⟩
  · exact fun first second heq ↦ congrArg ItemKey.type heq
  · exact fun first second heq ↦ congrArg ItemKey.type heq
  · simp

namespace Represents

variable {registry : Registry} {ledger : Ledger}

theorem size_eq (h : Represents registry ledger) : registry.size = ledger.map.keys.card := by
  have hkeys : (keyList registry).toFinset = ledger.map.keys := by
    ext key
    rw [List.mem_toFinset, mem_keyList, h.get?_eq, ledger.map.mem_keys]
  rw [← hkeys, List.toFinset_card_of_nodup h.shelved.nodup_keyList]
  simp [keyList, size, Dictionary.keys]

theorem empty : Represents {} {} :=
  ⟨get?_empty, ⟨List.nodup_nil, List.nodup_nil⟩, rfl⟩

theorem clear (h : Represents registry ledger) :
    Represents registry.clear { ledger with map := .empty } :=
  ⟨get?_clear registry, ⟨List.nodup_nil, List.nodup_nil⟩, h.lookups_eq⟩

theorem load (h : Represents registry ledger) (rows : List Item) :
    Represents (registry.load rows) { ledger with map := ledger.map.overriddenBy rows } where
  get?_eq key := by rw [get?_load, h.get?_eq, ItemMap.overriddenBy]
  shelved := h.shelved.load rows
  lookups_eq := (lookups_load registry rows).trans h.lookups_eq

theorem noting (h : Represents registry ledger) (key : ItemKey) :
    Represents (registry.noting key) { ledger with lookups := ledger.lookups ++ [key] } where
  get?_eq other := (get?_noting registry key other).trans (h.get?_eq other)
  shelved := ⟨h.shelved.sent, h.shelved.received⟩
  lookups_eq := congrArg (· ++ [key]) h.lookups_eq

theorem put (h : Represents registry ledger) {key : ItemKey} {item : Item} (hkey : item.key = key) :
    Represents (registry.put key item) { ledger with map := ledger.map.gaining item } where
  get?_eq other := by
    subst hkey
    exact (get?_put registry item.key other item).trans (by rw [h.get?_eq, ItemMap.entry_gaining])
  shelved := h.shelved.put key item
  lookups_eq := (lookups_put registry key item).trans h.lookups_eq

/-- A look-up gives the same and leaves both in step. -/
theorem fetch (h : Represents registry ledger) (supply : Supply) (key : ItemKey) :
    (Registry.fetch supply.store key registry).1 = (ledger.fetch supply key).1 ∧
      Represents (Registry.fetch supply.store key registry).2 (ledger.fetch supply key).2 := by
  have hnoting := h.noting key
  simp only [Registry.fetch, Ledger.fetch, h.get?_eq]
  cases ledger.map.entry key with
  | some item => exact ⟨rfl, h⟩
  | none =>
    simp only [Supply.store, head?_rowsOf]
    cases supply.lookupFault with
    | some fault => exact ⟨rfl, hnoting⟩
    | none =>
      cases hrow : first? supply.rows key with
      | none => exact ⟨rfl, hnoting⟩
      | some row => exact ⟨rfl, hnoting.put (first?_eq_some hrow).2⟩

theorem refresh (h : Represents registry ledger) (supply : Supply) :
    (Reply.reloaded (Registry.refresh supply.store registry).1) = (ledger.ask supply .refresh).1 ∧
      Represents (Registry.refresh supply.store registry).2 (ledger.ask supply .refresh).2 := by
  simp only [Registry.refresh, Supply.store, Ledger.ask]
  cases supply.listingFault with
  | some fault => exact ⟨rfl, h⟩
  | none => exact ⟨rfl, h.load supply.rows⟩

end Represents

/-- Whatever is asked, both reply the same and stay in step. -/
theorem inStep : keeper.InStep Ledger.keeper Represents where
  size_eq := Represents.size_eq
  lookups_eq := Represents.lookups_eq
  ask := by
    intro supply ask registry ledger h
    cases ask with
    | refresh => exact h.refresh supply
    | clear => exact ⟨rfl, h.clear⟩
    | get key => exact ⟨congrArg Reply.cached (h.get?_eq key), h⟩
    | resolve type? direction =>
      simp only [keeper, Ledger.keeper, Use.reply, Use.after, Ledger.ask, resolve_run]
      cases keyOf? type? direction with
      | none => exact ⟨rfl, h⟩
      | some key =>
        obtain ⟨hanswer, hlater⟩ := h.fetch supply key
        exact ⟨congrArg (fun answer ↦ Reply.resolved (Except.map some answer)) hanswer, hlater⟩

/-- Along every run from an empty registry, with rows that change and a store that is out of reach
at times, the replies, the number of cached items and the look-ups are those of one map; in the end
the registry has cached exactly the items of the map, and every one under its own type and
direction. -/
theorem observed_as_one_map (supply : Supply) (events : List Event) :
    keeper.trace events supply {} = Ledger.keeper.trace events supply {} ∧
      (∀ key, (keeper.reached events supply {}).get? key =
        (Ledger.keeper.reached events supply {}).map.entry key) ∧
      ∀ key item, (keeper.reached events supply {}).get? key = some item → item.key = key := by
  obtain ⟨htrace, hreached⟩ := inStep.run events supply Represents.empty
  refine ⟨htrace, hreached.get?_eq, ?_⟩
  intro key item hitem
  rw [hreached.get?_eq] at hitem
  exact ItemMap.key_of_entry _ key item hitem

/-- Of two rows of a key the last one is cached, and it stays when the rows are gone. -/
example :
    let key : ItemKey := ⟨"HIVE", .sent⟩
    (keeper.trace [.ask .refresh, .restock [], .ask .refresh, .ask (.get key)]
        ⟨[⟨key, "10"⟩, ⟨key, "11"⟩], none, none⟩ {}).map Observation.reply =
      [.reloaded true, .done, .reloaded true, .cached (some ⟨key, "11"⟩)] := rfl

end Registry

end StreamAudit
