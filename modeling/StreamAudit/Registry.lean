import StreamAudit.Dictionary
import StreamAudit.Fault
import StreamAudit.Store.Database
import StreamAudit.Text.Blank

/-!
The registry of audit items: a cache of the item store with one shelf for each direction. It is
filled as a whole by a refresh and item by item when a key is missing; it also keeps the keys that
it had to look up. Nothing is remembered of a look-up that failed or found no item.
-/

set_option autoImplicit false
set_option relaxedAutoImplicit false

namespace StreamAudit

open StreamAudit.Store StreamAudit.Text

/-- What the registry reads from: a list of all items, and a look-up by key. -/
structure ItemStore where
  all : Except Fault (List Item)
  find : ItemKey → Except Fault (Option Item)

namespace ItemStore

/-- The first item of a key. -/
def first? (items : List Item) (key : ItemKey) : Option Item :=
  items.find? fun item ↦ item.key == key

/-- A store that holds the given items in order. -/
def ofItems (items : List Item) : ItemStore where
  all := .ok items
  find key := .ok (first? items key)

/-- A store that cannot be reached. -/
def unreachable : ItemStore where
  all := .error .unreachable
  find _ := .error .unreachable

/-- The store of a table, which may be missing. -/
def ofTable : Option (Table Item) → ItemStore
  | some table => ofItems (table.map Row.data)
  | none => ⟨.error .noTable, fun _ ↦ .error .noTable⟩

end ItemStore

/-- The cached items by type, one shelf for each direction, and the keys looked up so far. -/
structure Registry where
  sent : Dictionary Item := []
  received : Dictionary Item := []
  lookups : List ItemKey := []

namespace Registry

/-- The items of a direction. -/
def shelf (registry : Registry) : Direction → Dictionary Item
  | .sent => registry.sent
  | .received => registry.received

/-- The cached item of a key. -/
def get? (registry : Registry) (key : ItemKey) : Option Item :=
  (registry.shelf key.direction).get? key.type

/-- Puts an item under a key. -/
def put (registry : Registry) (key : ItemKey) (item : Item) : Registry :=
  match key.direction with
  | .sent => { registry with sent := registry.sent.set key.type item }
  | .received => { registry with received := registry.received.set key.type item }

/-- The number of cached items. -/
def size (registry : Registry) : Nat :=
  registry.sent.length + registry.received.length

/-- Drops all cached items. -/
def clear (registry : Registry) : Registry :=
  { registry with sent := [], received := [] }

/-- Caches every item under its own key. -/
def load (registry : Registry) (items : List Item) : Registry :=
  items.foldl (fun loaded item ↦ loaded.put item.key item) registry

/-- Reloads the items of the store, and says whether that went well. -/
def refresh (store : ItemStore) (registry : Registry) : Bool × Registry :=
  match store.all with
  | .ok items => (true, registry.load items)
  | .error _ => (false, registry)

/-- The audit id of a key, from the cache or else from the store. -/
def fetch (store : ItemStore) (key : ItemKey) (registry : Registry) :
    Except Fault String × Registry :=
  match registry.get? key with
  | some item => (.ok item.auditId, registry)
  | none =>
    let logged := { registry with lookups := registry.lookups ++ [key] }
    match store.find key with
    | .error fault => (.error fault, logged)
    | .ok none => (.error (.unsupported key), logged)
    | .ok (some item) => (.ok item.auditId, logged.put key item)

/-- Computations that read the registry and may fail; what was cached before a failure stays
cached. -/
abbrev Reading :=
  ExceptT Fault (StateM Registry)

/-- The audit id of a type and a direction; a blank type has none. -/
def resolve (store : ItemStore) (type? : Option String) (direction : Direction) :
    Reading (Option String) :=
  match type? with
  | none => pure none
  | some type =>
    if isVoid type then pure none
    else some <$> ExceptT.mk (fun registry ↦ fetch store ⟨type, direction⟩ registry)

theorem get?_put (registry : Registry) (key other : ItemKey) (item : Item) :
    (registry.put key item).get? other = if other = key then some item
      else registry.get? other := by
  obtain ⟨type, direction⟩ := key
  obtain ⟨otherType, otherDirection⟩ := other
  cases direction <;> cases otherDirection <;> simp [put, get?, shelf, Dictionary.get?_set]

end Registry

end StreamAudit
