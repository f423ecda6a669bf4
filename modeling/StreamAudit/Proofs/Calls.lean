import StreamAudit.Fault

/-!
Computations that may stop, with and without a state. What a computation gives back comes from steps
that all went well (`exists_of_bind_eq_ok`), a pass over a list stops with the fault of its first
step that does not (`mapM_eq_error`), and a property of every result (`returns_bind`) or of the
state (`keeps_bind`) is shown step by step.
-/

set_option autoImplicit false
set_option relaxedAutoImplicit false

namespace StreamAudit

section Stopping

variable {ε α β : Type}

theorem exists_of_map_eq_ok {found : Except ε α} {f : α → β} {result : β}
    (h : found.map f = .ok result) : ∃ value, found = .ok value ∧ f value = result := by
  cases found with
  | error fault => cases h
  | ok value => exact ⟨value, rfl, Except.ok.inj h⟩

theorem exists_of_bind_eq_ok {found : Except ε α} {next : α → Except ε β} {result : β}
    (h : found.bind next = .ok result) : ∃ value, found = .ok value ∧ next value = .ok result := by
  cases found with
  | error fault => cases h
  | ok value => exact ⟨value, rfl, h⟩

/-- What every step of a fold keeps holds of its result. -/
theorem holds_of_foldlM {step : β → α → Except ε β} {holds : β → Prop}
    (hstep : ∀ state x later, holds state → step state x = .ok later → holds later) {xs : List α}
    {state later : β} (hstate : holds state) (h : xs.foldlM step state = .ok later) :
    holds later := by
  induction xs generalizing state with
  | nil => exact Except.ok.inj h ▸ hstate
  | cons x rest ih =>
    rw [List.foldlM_cons] at h
    obtain ⟨next, hnext, h⟩ := exists_of_bind_eq_ok h
    exact ih (hstep state x next hstate hnext) h

variable {f : α → Except ε β}

/-- What a pass over a list gathers comes from its elements. -/
theorem exists_of_mem_mapM {xs : List α} {ys : List β} (h : xs.mapM f = .ok ys) :
    ∀ y ∈ ys, ∃ x ∈ xs, f x = .ok y := by
  induction xs generalizing ys with
  | nil =>
    cases h
    simp
  | cons x rest ih =>
    rw [List.mapM_cons] at h
    obtain ⟨first, hfirst, h⟩ := exists_of_bind_eq_ok h
    obtain ⟨others, hothers, h⟩ := exists_of_bind_eq_ok h
    cases h
    intro y hy
    rcases List.mem_cons.mp hy with rfl | hmem
    · exact ⟨x, List.mem_cons_self, hfirst⟩
    · obtain ⟨x', hx', hy'⟩ := ih hothers y hmem
      exact ⟨x', List.mem_cons_of_mem x hx', hy'⟩

/-- A pass gathers the result of every element. -/
theorem exists_mem_of_mapM {xs : List α} {ys : List β} (h : xs.mapM f = .ok ys) :
    ∀ x ∈ xs, ∃ y ∈ ys, f x = .ok y := by
  induction xs generalizing ys with
  | nil => simp
  | cons first rest ih =>
    rw [List.mapM_cons] at h
    obtain ⟨result, hresult, h⟩ := exists_of_bind_eq_ok h
    obtain ⟨others, hothers, h⟩ := exists_of_bind_eq_ok h
    cases h
    intro x hx
    rcases List.mem_cons.mp hx with rfl | hmem
    · exact ⟨result, List.mem_cons_self, hresult⟩
    · obtain ⟨y, hy, hx⟩ := ih hothers x hmem
      exact ⟨y, List.mem_cons_of_mem result hy, hx⟩

/-- A pass whose steps all go well gathers their results. -/
theorem mapM_eq_ok {g : α → β} {xs : List α} (h : ∀ x ∈ xs, f x = .ok (g x)) :
    xs.mapM f = .ok (xs.map g) := by
  induction xs with
  | nil => rfl
  | cons x rest ih =>
    have hfirst := h x List.mem_cons_self
    have hrest := ih fun other hother ↦ h other (List.mem_cons_of_mem x hother)
    rw [List.mapM_cons, hfirst, hrest]
    rfl

end Stopping

section Stateful

variable {σ α β : Type}

theorem get_run (state : σ) : (get : ExceptT Fault (StateM σ) σ).run state = (.ok state, state) :=
  rfl

theorem lift_run (result : Except Fault α) (state : σ) :
    (liftM result : ExceptT Fault (StateM σ) α).run state = (result, state) := by
  cases result <;> rfl

/-- One call after another: the second one starts where the first one left the state. -/
theorem bind_run (call : ExceptT Fault (StateM σ) α) (next : α → ExceptT Fault (StateM σ) β)
    (state : σ) :
    (call >>= next).run state =
      match call.run state with
      | (.ok result, later) => (next result).run later
      | (.error fault, later) => (.error fault, later) := by
  rw [ExceptT.run_bind]
  change StateT.bind (ExceptT.run call) _ state = _
  unfold StateT.bind
  rcases ExceptT.run call state with ⟨_ | result, later⟩ <;> rfl

theorem bind_run_ok {call : ExceptT Fault (StateM σ) α} {state later : σ} {result : α}
    (h : call.run state = (.ok result, later)) (next : α → ExceptT Fault (StateM σ) β) :
    (call >>= next).run state = (next result).run later := by
  rw [bind_run, h]

theorem bind_run_error {call : ExceptT Fault (StateM σ) α} {state later : σ} {fault : Fault}
    (h : call.run state = (.error fault, later)) (next : α → ExceptT Fault (StateM σ) β) :
    (call >>= next).run state = (.error fault, later) := by
  rw [bind_run, h]

/-- Whether all results of a call have a property. -/
def Returns (holds : α → Prop) (call : ExceptT Fault (StateM σ) α) : Prop :=
  ∀ state result, (call.run state).1 = .ok result → holds result

theorem returns_pure {holds : α → Prop} {result : α} (h : holds result) :
    Returns holds (pure result : ExceptT Fault (StateM σ) α) := by
  intro state other hother
  cases hother
  exact h

theorem returns_bind {first : α → Prop} {second : β → Prop} {call : ExceptT Fault (StateM σ) α}
    {next : α → ExceptT Fault (StateM σ) β} (hcall : Returns first call)
    (hnext : ∀ result, first result → Returns second (next result)) :
    Returns second (call >>= next) := by
  intro state result hresult
  rw [bind_run] at hresult
  have hfirst := hcall state
  rcases hrun : call.run state with ⟨_ | between, later⟩
  · rw [hrun] at hresult
    cases hresult
  · rw [hrun] at hresult hfirst
    exact hnext between (hfirst between rfl) later result hresult

theorem returns_any (call : ExceptT Fault (StateM σ) α) : Returns (fun _ ↦ True) call :=
  fun _ _ _ ↦ trivial

/-- Whether a call keeps a property of the state, be it answered or not. -/
def Keeps (holds : σ → Prop) (call : ExceptT Fault (StateM σ) α) : Prop :=
  ∀ state, holds state → holds (call.run state).2

variable {holds : σ → Prop}

theorem keeps_pure (result : α) : Keeps holds (pure result : ExceptT Fault (StateM σ) α) :=
  fun _ hstate ↦ hstate

theorem keeps_get : Keeps holds (get : ExceptT Fault (StateM σ) σ) :=
  fun _ hstate ↦ hstate

theorem keeps_lift (result : Except Fault α) :
    Keeps holds (liftM result : ExceptT Fault (StateM σ) α) := by
  intro state hstate
  rwa [lift_run]

theorem keeps_bind {call : ExceptT Fault (StateM σ) α} {next : α → ExceptT Fault (StateM σ) β}
    (hcall : Keeps holds call) (hnext : ∀ result, Keeps holds (next result)) :
    Keeps holds (call >>= next) := by
  intro state hstate
  have hlater := hcall state hstate
  rw [bind_run]
  rcases hrun : call.run state with ⟨_ | result, later⟩
  · rw [hrun] at hlater
    exact hlater
  · rw [hrun] at hlater
    exact hnext result later hlater

end Stateful

end StreamAudit
