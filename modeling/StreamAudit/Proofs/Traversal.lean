/-!
Lists that are gone through with a function which may have no value. Where it has one for every
member, the whole has one, and it is found member by member.
-/

set_option autoImplicit false
set_option relaxedAutoImplicit false

namespace StreamAudit

variable {α β : Type}

theorem mapM_eq_some {f : α → Option β} {g : α → β} {xs : List α} (h : ∀ x ∈ xs, f x = some (g x)) :
    xs.mapM f = some (xs.map g) := by
  induction xs with
  | nil => rfl
  | cons x rest ih =>
    obtain ⟨hx, hrest⟩ := List.forall_mem_cons.mp h
    rw [List.mapM_cons, hx, ih hrest]
    rfl

theorem mapM_map_eq_some {write : α → β} {read? : β → Option α} (h : ∀ x, read? (write x) = some x)
    (xs : List α) : (xs.map write).mapM read? = some xs := by
  induction xs with
  | nil => rfl
  | cons x rest ih =>
    rw [List.map_cons, List.mapM_cons, h, ih]
    rfl

theorem filterM_map_eq_some {write : α → β} {f : β → Option Bool} {keeps : α → Bool} {xs : List α}
    (h : ∀ x ∈ xs, f (write x) = some (keeps x)) :
    (xs.map write).filterM f = some ((xs.filter keeps).map write) := by
  have hgo : ∀ kept : List β, (xs.map write).filterAuxM f kept =
      some (((xs.filter keeps).map write).reverse ++ kept) := by
    induction xs with
    | nil => exact fun kept ↦ rfl
    | cons x rest ih =>
      intro kept
      obtain ⟨hx, hrest⟩ := List.forall_mem_cons.mp h
      rw [List.map_cons, List.filterAuxM, hx]
      cases hkeeps : keeps x
      · rw [List.filter_cons_of_neg (by simp [hkeeps])]
        exact ih hrest kept
      · rw [List.filter_cons_of_pos hkeeps, List.map_cons, List.reverse_cons, List.append_assoc]
        exact ih hrest (write x :: kept)
  rw [List.filterM, hgo []]
  simp

theorem filterM_eq_self {f : α → Option Bool} {xs : List α} (h : ∀ x ∈ xs, f x = some true) :
    xs.filterM f = some xs := by
  have hall : (xs.map id).filterM f = some ((xs.filter fun _ ↦ true).map id) :=
    filterM_map_eq_some h
  rwa [List.map_id, List.map_id, List.filter_eq_self.mpr fun _ _ ↦ rfl] at hall

/-- Places that are not looked at leave no trace. -/
theorem mapM_zipIdx {f : α × Nat → Option β} {g : α → Option β} {xs : List α}
    (h : ∀ x ∈ xs, ∀ place, f (x, place) = g x) : xs.zipIdx.mapM f = xs.mapM g := by
  have hfrom : ∀ start, (xs.zipIdx start).mapM f = xs.mapM g := by
    induction xs with
    | nil => exact fun _ ↦ rfl
    | cons x rest ih =>
      intro start
      obtain ⟨hx, hrest⟩ := List.forall_mem_cons.mp h
      rw [List.zipIdx_cons, List.mapM_cons, List.mapM_cons, hx, ih hrest]
  exact hfrom 0

theorem map_filter_zipIdx (keeps : α → Bool) (f : α → β) (xs : List α) :
    (xs.zipIdx.filter fun x ↦ keeps x.1).map (fun x ↦ f x.1) = (xs.filter keeps).map f := by
  have hfilter := List.filter_map (f := Prod.fst) (p := keeps) (l := xs.zipIdx)
  rw [List.zipIdx_map_fst] at hfilter
  rw [hfilter, List.map_map]
  rfl

/-- What is known of the members beforehand stands beside what is found. -/
theorem mapM_beside {γ : Type} (f : α → Option β) (known : α → γ) (xs : List α) :
    xs.mapM (fun x ↦ (f x).map fun y ↦ (y, known x)) =
      (xs.mapM f).map fun ys ↦ ys.zip (xs.map known) := by
  induction xs with
  | nil => rfl
  | cons x rest ih =>
    rw [List.mapM_cons, List.mapM_cons, ih]
    cases f x with
    | none => rfl
    | some y => cases rest.mapM f <;> rfl

/-- Keys that are looked up among pairs with keys of their own find what stands beside them. -/
theorem mapM_lookup_fst [BEq α] [LawfulBEq α] {pairs : List (α × β)}
    (h : (pairs.map Prod.fst).Nodup) :
    (pairs.map Prod.fst).mapM (fun key ↦ pairs.lookup key) = some (pairs.map Prod.snd) := by
  rw [List.mapM_map]
  refine mapM_eq_some fun pair hpair ↦ ?_
  obtain ⟨front, back, hpairs⟩ := List.append_of_mem hpair
  rw [hpairs, List.map_append, List.map_cons, List.nodup_append] at h
  rw [Function.comp, List.lookup_eq_some_iff]
  refine ⟨front, back, hpairs, fun other hother ↦ bne_iff_ne.mpr fun heq ↦ ?_⟩
  exact h.2.2 other.1 (List.mem_map_of_mem hother) pair.1 List.mem_cons_self heq.symm

theorem length_of_mapM {f : α → Option β} {xs : List α} {ys : List β} (h : xs.mapM f = some ys) :
    ys.length = xs.length := by
  induction xs generalizing ys with
  | nil =>
    cases h
    rfl
  | cons x rest ih =>
    rw [List.mapM_cons] at h
    obtain ⟨y, -, hrest⟩ := Option.bind_eq_some_iff.mp h
    obtain ⟨others, hothers, hys⟩ := Option.bind_eq_some_iff.mp hrest
    cases hys
    rw [List.length_cons, List.length_cons, ih hothers]

/-- Going through what was found member by member is going through the members. -/
theorem bind_mapM {γ : Type} (f : α → Option β) (g : β → Option γ) (xs : List α) :
    (xs.mapM f).bind (fun ys ↦ ys.mapM g) = xs.mapM fun x ↦ (f x).bind g := by
  induction xs with
  | nil => rfl
  | cons x rest ih =>
    simp only [List.mapM_cons, Option.bind_eq_bind, Option.pure_def, ← ih]
    cases hx : f x with
    | none => rfl
    | some y =>
      cases hy : g y <;> cases rest.mapM f <;> simp [hy]

end StreamAudit
