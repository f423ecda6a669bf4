import StreamAudit.Proofs.Registry.Mirror

/-!
The view that a registry gives of a store: what is cached under a key, or else what the store
answers. A look-up answers by the view and leaves it as it was (`fetch_eq_view`, `view_fetch`), so a
reading never changes what a later one is answered, and two readings in a row are answered as if
both came first (`seen_bind`). This needs nothing of the store or of the cache, not even that they
agree.
-/

set_option autoImplicit false
set_option relaxedAutoImplicit false

namespace StreamAudit.Registry

/-- What is said about a key, by what is cached or else by the store. -/
def view (store : ItemStore) (registry : Registry) (key : ItemKey) : Except Fault String :=
  match registry.get? key with
  | some item => .ok item.auditId
  | none => store.answer key

section Fetch

variable {store : ItemStore} {registry : Registry}

theorem view_of_cached {key : ItemKey} {item : Item} (h : registry.get? key = some item) :
    view store registry key = .ok item.auditId := by
  rw [view, h]

theorem view_of_uncached {key : ItemKey} (h : registry.get? key = none) :
    view store registry key = store.answer key := by
  rw [view, h]

theorem view_noting (key : ItemKey) : view store (registry.noting key) = view store registry := by
  funext other
  rw [view, view, get?_noting]

theorem fetch_eq_view (key : ItemKey) : (fetch store key registry).1 = view store registry key := by
  have hfetched := fetched store key registry
  generalize fetch store key registry = outcome at hfetched ⊢
  cases hfetched with
  | cached item hget => exact (view_of_cached hget).symm
  | failed fault hget hfind =>
    exact ((view_of_uncached hget).trans (ItemStore.answer_of_failed hfind)).symm
  | absent hget hfind =>
    exact ((view_of_uncached hget).trans (ItemStore.answer_of_absent hfind)).symm
  | found item hget hfind =>
    exact ((view_of_uncached hget).trans (ItemStore.answer_of_found hfind)).symm

/-- What a look-up caches is what the store answered before. -/
theorem view_fetch (key : ItemKey) :
    view store (fetch store key registry).2 = view store registry := by
  have hfetched := fetched store key registry
  generalize fetch store key registry = outcome at hfetched ⊢
  cases hfetched with
  | cached item hget => rfl
  | failed fault hget hfind => exact view_noting key
  | absent hget hfind => exact view_noting key
  | found item hget hfind =>
    funext other
    by_cases hother : other = key
    · subst hother
      have hnew : ((registry.noting other).put other item).get? other = some item := by
        rw [get?_put, if_pos rfl]
      rw [view_of_cached hnew, view_of_uncached hget, ItemStore.answer_of_found hfind]
    · rw [view, view, get?_put, if_neg hother, get?_noting]

end Fetch

/-! ### Readings -/

section Reading

variable {store : ItemStore} {α β : Type} {read : Reading α}

/-- What a reading is answered on a registry. -/
def seen (registry : Registry) (read : Reading α) : Except Fault α :=
  (read.run registry).1

/-- A reading leaves the view as it was. -/
theorem view_run (h : LooksUp store read) (registry : Registry) :
    view store (read.run registry).2 = view store registry := by
  have hkeeps : Keeps (fun later ↦ view store later = view store registry) read :=
    h.keeps fun key later hlater ↦ (view_fetch key).trans hlater
  exact hkeeps registry rfl

/-- Readings are answered by the view alone. -/
theorem seen_congr (h : LooksUp store read) {first second : Registry}
    (hview : view store first = view store second) : seen first read = seen second read := by
  refine (h.agrees (fun first second ↦ view store first = view store second) ?_ hview).1
  intro key first second hsame
  refine ⟨?_, by rw [view_fetch, view_fetch, hsame]⟩
  rw [fetch_eq_view, fetch_eq_view, hsame]

/-- A reading after another one is answered as if it came first. -/
theorem seen_bind (hread : LooksUp store read) {next : α → Reading β}
    (hnext : ∀ result, LooksUp store (next result)) (registry : Registry) :
    seen registry (read >>= next) = (seen registry read).bind fun result ↦
      seen registry (next result) := by
  have hlater := view_run hread registry
  unfold seen
  rw [bind_run]
  generalize read.run registry = outcome at hlater ⊢
  rcases outcome with ⟨_ | result, later⟩
  · rfl
  · exact seen_congr (hnext result) hlater

theorem seen_map (f : α → β) (read : Reading α) (registry : Registry) :
    seen registry (f <$> read) = (seen registry read).map f := by
  unfold seen
  rw [map_eq_pure_bind, bind_run]
  rcases read.run registry with ⟨_ | result, later⟩ <;> rfl

end Reading

end StreamAudit.Registry
