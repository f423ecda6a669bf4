import Mathlib.Algebra.BigOperators.Group.List.Basic
import Mathlib.Algebra.Ring.Nat
import Mathlib.Data.List.Induction
import StreamAudit.FanOut
import StreamAudit.Proofs.FailurePolicy

/-!
The tasks of a request under every schedule. A turn moves one task one phase on
(`exists_next_of_task`), and keeps the account of the permits, of the calls and of the results
(`accounted_turn`), so that every schedule does (`accounted_run`). Each turn uses up one of a fixed
number of moves (`moves_turn`), and where no turn can be taken there is an answer
(`answer_of_stuck`): schedules end, and they end with the answer of the audit ids taken one after
another (`answered_by_schedules`).
-/

set_option autoImplicit false
set_option relaxedAutoImplicit false

namespace StreamAudit

open StreamAudit.Text

namespace FanOut

/-! ### Phases -/

namespace Phase

/-- The permits that a task holds. -/
def held : Phase → Nat
  | .waiting | .done _ => 0
  | _ => 1

/-- The number of calls that a task has made. -/
def called : Phase → Nat
  | .waiting | .admitted => 0
  | _ => 1

/-- The number of turns that a task has before it. -/
def moves : Phase → Nat
  | .waiting => 4
  | .admitted => 3
  | .calling => 2
  | .settled _ => 1
  | .done _ => 0

/-- Whether a task that has a result has this one. -/
def Tells (result : Result) : Phase → Prop
  | .settled own | .done own => own = result
  | _ => True

variable {result : Result} {permits left : Nat} {phase later : Phase}

/-- All that a task does in one turn. -/
theorem next?_account (h : phase.next? result permits = some (later, left)) (auditId : String) :
    left + later.held = permits + phase.held ∧ later.moves + 1 = phase.moves ∧
      later.called = phase.called + (phase.calls auditId).length ∧
        (phase.Tells result → later.Tells result) := by
  cases phase with
  | waiting =>
    cases permits with
    | zero => cases h
    | succ permits =>
      cases h
      simp [held, moves, called, calls, Tells]
  | admitted =>
    cases h
    simp [held, moves, called, calls, Tells]
  | calling =>
    cases h
    simp [held, moves, called, calls, Tells]
  | settled own =>
    cases h
    simp [held, moves, called, calls, Tells]
  | done own => cases h

/-- A task stands still when it is done, or when it waits and there is no permit. -/
theorem next?_eq_none_iff : phase.next? result permits = none ↔
    (∃ own, phase = .done own) ∨ phase = .waiting ∧ permits = 0 := by
  cases phase with
  | waiting => cases permits <;> simp [next?]
  | done own => simp [next?]
  | _ => simp [next?]

theorem count_calls (auditId other : String) : (phase.calls auditId).count other =
    if other = auditId then (phase.calls auditId).length else 0 := by
  by_cases h : other = auditId
  · subst h
    cases phase <;> simp [calls]
  · cases phase <;> simp [calls, h, Ne.symm h]

end Phase

/-! ### Sums over the tasks -/

theorem place_self (phase : String → Phase) (auditId : String) (later : Phase) :
    place phase auditId later auditId = later :=
  if_pos rfl

theorem place_of_ne (phase : String → Phase) {auditId other : String} (h : other ≠ auditId)
    (later : Phase) :
    place phase auditId later other = phase other :=
  if_neg h

theorem place_place (phase : String → Phase) (auditId : String) (later last : Phase) :
    place (place phase auditId later) auditId last = place phase auditId last := by
  funext other
  by_cases h : other = auditId
  · rw [h, place_self, place_self]
  · rw [place_of_ne _ h, place_of_ne _ h, place_of_ne _ h]

/-- A sum over the tasks changes by what the one that is moved changes by. -/
theorem sum_place (weight : Phase → Nat) (phase : String → Phase) {auditIds : List String}
    (hnodup : auditIds.Nodup) {auditId : String} (hmem : auditId ∈ auditIds) (later : Phase) :
    (auditIds.map fun other ↦ weight (place phase auditId later other)).sum +
      weight (phase auditId) =
      (auditIds.map fun other ↦ weight (phase other)).sum + weight later := by
  induction auditIds with
  | nil => cases hmem
  | cons first rest ih =>
    obtain ⟨hfirst, hrest⟩ := List.nodup_cons.mp hnodup
    simp only [List.map_cons, List.sum_cons]
    by_cases heq : first = auditId
    · subst heq
      have hsame : ∀ other ∈ rest, weight (place phase first later other) =
        weight (phase other) := by
        intro other hother
        have hne : other ≠ first := ne_of_mem_of_not_mem hother hfirst
        rw [place_of_ne phase hne later]
      rw [List.map_congr_left hsame, place_self]
      omega
    · have htail := ih hrest ((List.mem_cons.mp hmem).resolve_left (Ne.symm heq))
      rw [place_of_ne phase heq later]
      omega

section Turns

variable {work : FanOut} {state later : State}

/-- The permits that the tasks hold. -/
def held (work : FanOut) (state : State) : Nat :=
  (work.auditIds.map fun auditId ↦ (state.phase auditId).held).sum

/-- The number of turns that are left. -/
def moves (work : FanOut) (state : State) : Nat :=
  (work.auditIds.map fun auditId ↦ (state.phase auditId).moves).sum + state.answer.isNone.toNat

/-- All that a turn of a task can do. -/
theorem exists_next_of_task {auditId : String} (h : work.turn? state (.task auditId) = some later) :
    auditId ∈ work.auditIds ∧ ∃ phase left,
      (state.phase auditId).next? (work.resultOf auditId) state.permits = some (phase, left) ∧
        later = state.move auditId (phase, left) := by
  simp only [turn?, Option.ite_none_right_eq_some, Option.map_eq_some_iff] at h
  obtain ⟨hmem, ⟨phase, left⟩, hnext, rfl⟩ := h
  exact ⟨hmem, phase, left, hnext, rfl⟩

theorem turn?_of_next {auditId : String} (hmem : auditId ∈ work.auditIds) {next : Phase × Nat}
    (h : (state.phase auditId).next? (work.resultOf auditId) state.permits = some next) :
    work.turn? state (.task auditId) = some (state.move auditId next) := by
  rw [turn?, if_pos hmem, h, Option.map_some]

/-- All that the turn of the request can do. -/
theorem exists_results_of_gather (h : work.turn? state .gather = some later) :
    state.answer = none ∧ ∃ results, work.gathered? state = some results ∧
      later = { state with answer := some (work.conclude results) } := by
  simp only [turn?, Option.ite_none_left_eq_some, Option.map_eq_some_iff] at h
  obtain ⟨hanswer, results, hresults, rfl⟩ := h
  exact ⟨Option.not_isSome_iff_eq_none.mp hanswer, results, hresults, rfl⟩

/-- The account of a state: permits are with the tasks or left, the calls are those that the tasks
have made, and whatever has a result has its own. An answer is drawn from the results of tasks that
are done. -/
structure Accounted (work : FanOut) (state : State) : Prop where
  permits : state.permits + work.held state = work.limit
  calls : ∀ auditId, state.calls.count auditId = (state.phase auditId).called
  outside : ∀ auditId, auditId ∉ work.auditIds → state.phase auditId = .waiting
  tells : ∀ auditId, (state.phase auditId).Tells (work.resultOf auditId)
  answer : ∀ answer, state.answer = some answer →
    (∀ auditId ∈ work.auditIds, state.phase auditId = .done (work.resultOf auditId)) ∧
      answer = work.conclude (work.auditIds.map work.resultOf)

theorem accounted_start (work : FanOut) : Accounted work work.start where
  permits := by simp [start, held, Phase.held]
  calls _ := rfl
  outside _ _ := rfl
  tells _ := trivial
  answer _ h := by cases h

/-- Results are gathered when all tasks are done, and in the order of the audit ids. -/
theorem gathered?_eq_some_iff
    (htells : ∀ auditId, (state.phase auditId).Tells (work.resultOf auditId))
    {results : List Result} : work.gathered? state = some results ↔
      (∀ auditId ∈ work.auditIds, state.phase auditId = .done (work.resultOf auditId)) ∧
        results = work.auditIds.map work.resultOf := by
  have hresult : ∀ auditId own, (state.phase auditId).result? = some own ↔
      state.phase auditId = .done (work.resultOf auditId) ∧ own = work.resultOf auditId := by
    intro auditId own
    have htell := htells auditId
    generalize state.phase auditId = phase at htell
    cases phase with
    | done result =>
      cases htell
      simp [Phase.result?, eq_comm]
    | _ => simp [Phase.result?]
  unfold gathered?
  induction work.auditIds generalizing results with
  | nil => simp [eq_comm]
  | cons auditId rest ih =>
    simp only [List.mapM_cons, Option.bind_eq_bind, Option.bind_eq_some_iff, Option.pure_def,
      Option.some.injEq, hresult, ih, List.forall_mem_cons, List.map_cons]
    constructor
    · rintro ⟨_, ⟨hdone, rfl⟩, _, ⟨hrest, rfl⟩, rfl⟩
      exact ⟨⟨hdone, hrest⟩, rfl⟩
    · rintro ⟨⟨hdone, hrest⟩, rfl⟩
      exact ⟨_, ⟨hdone, rfl⟩, _, ⟨hrest, rfl⟩, rfl⟩

/-- A turn keeps the account, whoever takes it. -/
theorem accounted_turn (hnodup : work.auditIds.Nodup) {turn : Turn}
    (h : work.turn? state turn = some later) (hstate : Accounted work state) :
    Accounted work later := by
  cases turn with
  | task auditId =>
    obtain ⟨hmem, phase, left, hnext, rfl⟩ := exists_next_of_task h
    obtain ⟨hpermits, -, hcalled, htells⟩ := Phase.next?_account hnext auditId
    constructor
    case permits =>
      have hsum := sum_place Phase.held state.phase hnodup hmem phase
      have hbefore := hstate.permits
      simp only [held, State.move] at hbefore ⊢
      omega
    case calls =>
      intro other
      simp only [State.move, List.count_append, hstate.calls, Phase.count_calls]
      by_cases hother : other = auditId
      · rw [hother, place_self, if_pos rfl, hcalled]
      · rw [place_of_ne _ hother, if_neg hother, Nat.add_zero]
    case outside =>
      intro other hother
      simp only [State.move, place_of_ne state.phase (ne_of_mem_of_not_mem hmem hother).symm]
      exact hstate.outside other hother
    case tells =>
      intro other
      by_cases hother : other = auditId
      · simp only [State.move, hother, place_self]
        exact htells (hstate.tells auditId)
      · simp only [State.move, place_of_ne state.phase hother]
        exact hstate.tells other
    case answer =>
      -- Once there is an answer no task can go on.
      intro answer hanswer
      have hdone := (hstate.answer answer hanswer).1 auditId hmem
      rw [hdone] at hnext
      cases hnext
  | gather =>
    obtain ⟨-, results, hresults, rfl⟩ := exists_results_of_gather h
    obtain ⟨hdone, rfl⟩ := (gathered?_eq_some_iff hstate.tells).mp hresults
    refine ⟨hstate.permits, hstate.calls, hstate.outside, hstate.tells, fun answer hanswer ↦ ?_⟩
    exact ⟨hdone, (Option.some.inj hanswer).symm⟩

/-- A turn uses up one of the moves that are left. -/
theorem moves_turn (hnodup : work.auditIds.Nodup) {turn : Turn}
    (h : work.turn? state turn = some later) :
    work.moves later + 1 = work.moves state := by
  cases turn with
  | task auditId =>
    obtain ⟨hmem, phase, left, hnext, rfl⟩ := exists_next_of_task h
    have hmoves := (Phase.next?_account hnext auditId).2.1
    have hsum := sum_place Phase.moves state.phase hnodup hmem phase
    simp only [moves, State.move]
    omega
  | gather =>
    obtain ⟨hanswer, results, -, rfl⟩ := exists_results_of_gather h
    simp [moves, hanswer]

/-- Where nobody can go on there is an answer, if there is a permit at all. -/
theorem answer_of_stuck (hlimit : 0 < work.limit) (hstate : Accounted work state)
    (hstuck : ∀ turn, work.turn? state turn = none) : state.answer.isSome = true := by
  by_contra hanswer
  have hphase : ∀ auditId ∈ work.auditIds, (∃ own, state.phase auditId = .done own) ∨
      state.phase auditId = .waiting ∧ state.permits = 0 := by
    intro auditId hmem
    have hnext := hstuck (.task auditId)
    rw [turn?, if_pos hmem] at hnext
    exact Phase.next?_eq_none_iff.mp (Option.map_eq_none_iff.mp hnext)
  -- No task holds a permit, so that all permits are left and no task can be waiting for one.
  have hheld : work.held state = 0 := by
    refine List.sum_eq_zero fun weight hweight ↦ ?_
    obtain ⟨auditId, hmem, rfl⟩ := List.mem_map.mp hweight
    obtain ⟨own, hdone⟩ | ⟨hwaiting, -⟩ := hphase auditId hmem
    · rw [hdone, Phase.held]
    · rw [hwaiting, Phase.held]
  have hpermits := hstate.permits
  have hdone : ∀ auditId ∈ work.auditIds, state.phase auditId = .done (work.resultOf auditId) := by
    intro auditId hmem
    obtain ⟨own, hdone⟩ | ⟨-, hnone⟩ := hphase auditId hmem
    · have htell := hstate.tells auditId
      rw [hdone] at htell ⊢
      exact congrArg Phase.done htell
    · omega
  have hgather := hstuck .gather
  rw [turn?, if_neg hanswer, (gathered?_eq_some_iff hstate.tells).mpr ⟨hdone, rfl⟩] at hgather
  cases hgather

end Turns

/-! ### Schedules -/

section Schedules

variable {work : FanOut} {state : State} {schedule : List Turn}

theorem run?_concat (work : FanOut) (schedule : List Turn) (turn : Turn) :
    work.run? (schedule ++ [turn]) = (work.run? schedule).bind fun state ↦
      work.turn? state turn := by
  rw [run?, List.foldlM_append]
  refine congrArg _ (funext fun state ↦ ?_)
  simp

/-- Every schedule keeps the account, and uses up one move with each of its turns. -/
theorem accounted_run (hnodup : work.auditIds.Nodup) (h : work.run? schedule = some state) :
    Accounted work state ∧ schedule.length + work.moves state = work.moves work.start := by
  induction schedule using List.reverseRecOn generalizing state with
  | nil =>
    cases h
    exact ⟨accounted_start work, Nat.zero_add _⟩
  | append_singleton schedule turn ih =>
    rw [run?_concat] at h
    obtain ⟨before, hbefore, hturn⟩ := Option.bind_eq_some_iff.mp h
    obtain ⟨haccounted, hlength⟩ := ih hbefore
    refine ⟨accounted_turn hnodup hturn haccounted, ?_⟩
    have hmoves := moves_turn hnodup hturn
    rw [List.length_append, List.length_singleton]
    omega

theorem moves_start (work : FanOut) : work.moves work.start = 4 * work.auditIds.length + 1 := by
  have hmoves : work.moves work.start = (work.auditIds.map fun _ ↦ 4).sum + 1 := rfl
  rw [hmoves, List.map_const', List.sum_replicate_nat, Nat.mul_comm]

theorem calling_le_held (phase : Phase) :
    (if phase.isCalling = true then 1 else 0) ≤ phase.held := by
  cases phase <;> simp [Phase.isCalling, Phase.held]

/-- A call that is in flight has a permit. -/
theorem inFlight_le_held (work : FanOut) (state : State) :
    work.inFlight state ≤ work.held state := by
  unfold inFlight held
  induction work.auditIds with
  | nil => simp
  | cons auditId rest ih =>
    have hfirst := calling_le_held (state.phase auditId)
    rw [List.countP_cons, List.map_cons, List.sum_cons]
    omega

/-- What holds wherever a schedule has led. -/
structure Orderly (work : FanOut) (state : State) : Prop where
  inFlight_le : work.inFlight state ≤ work.limit
  calls_nodup : state.calls.Nodup
  calls_subset : state.calls ⊆ work.auditIds
  finished : state.answer.isSome = true →
    (∀ auditId ∈ work.auditIds, ∃ result, state.phase auditId = .done result) ∧
      state.permits = work.limit ∧ state.calls.Perm work.auditIds

/-- A call was made exactly for the tasks that are past it. -/
theorem mem_calls_iff (hstate : Accounted work state) {auditId : String} :
    auditId ∈ state.calls ↔ (state.phase auditId).called = 1 := by
  rw [← List.one_le_count_iff, hstate.calls]
  cases state.phase auditId <;> simp [Phase.called]

theorem calls_nodup (hstate : Accounted work state) : state.calls.Nodup := by
  refine List.nodup_iff_count_le_one.mpr fun auditId ↦ ?_
  rw [hstate.calls]
  cases state.phase auditId <;> simp [Phase.called]

theorem orderly_of_accounted (hnodup : work.auditIds.Nodup) (hstate : Accounted work state) :
    Orderly work state where
  inFlight_le := by
    have hle := inFlight_le_held work state
    have hpermits := hstate.permits
    omega
  calls_nodup := calls_nodup hstate
  calls_subset := by
    intro auditId hcall
    by_contra hmem
    rw [mem_calls_iff hstate, hstate.outside auditId hmem] at hcall
    cases hcall
  finished := by
    intro hanswer
    obtain ⟨answer, hanswer⟩ := Option.isSome_iff_exists.mp hanswer
    have hdone := (hstate.answer answer hanswer).1
    refine ⟨fun auditId hmem ↦ ⟨_, hdone auditId hmem⟩, ?_, ?_⟩
    · have hheld : work.held state = 0 := by
        refine List.sum_eq_zero fun weight hweight ↦ ?_
        obtain ⟨auditId, hmem, rfl⟩ := List.mem_map.mp hweight
        rw [hdone auditId hmem, Phase.held]
      have hpermits := hstate.permits
      omega
    · refine (List.perm_ext_iff_of_nodup (calls_nodup hstate) hnodup).mpr fun auditId ↦ ?_
      rw [mem_calls_iff hstate]
      constructor
      · intro hcalled
        by_contra hmem
        rw [hstate.outside auditId hmem] at hcalled
        cases hcalled
      · intro hmem
        rw [hdone auditId hmem]
        rfl

/-- The answer that is drawn from all results is that of a pass over the audit ids. -/
theorem conclude_results (work : FanOut) : work.conclude (work.auditIds.map work.resultOf) =
    (work.service.allSeries work.request work.nodeTypes work.auditIds).map
      (List.map (Rollup.report work.request.granularity.precision)) := by
  rw [conclude, List.mapM_map]
  rfl

/-! ### One task after another -/

/-- All turns of one task. -/
def wholeTask (auditId : String) : List Turn :=
  List.replicate 4 (.task auditId)

/-- The schedule of tasks that run one after another. -/
def oneByOne (order : List String) : List Turn :=
  order.flatMap wholeTask ++ [.gather]

/-- A task that waits can run to its end if there is a permit, and then nothing else has changed. -/
theorem run_wholeTask {auditId : String} (hmem : auditId ∈ work.auditIds)
    (hwaiting : state.phase auditId = .waiting) (hpermits : 0 < state.permits) :
    (wholeTask auditId).foldlM work.turn? state = some { state with
      phase := place state.phase auditId (.done (work.resultOf auditId))
      calls := state.calls ++ [auditId] } := by
  obtain ⟨left, hleft⟩ := Nat.exists_eq_add_one.mpr hpermits
  let admitted := state.move auditId (.admitted, left)
  let calling := admitted.move auditId (.calling, left)
  let settled := calling.move auditId (.settled (work.resultOf auditId), left)
  have hphase : ∀ before next, (State.move before auditId next).phase auditId = next.1 :=
    fun before next ↦ place_self before.phase auditId next.1
  have hadmitted : work.turn? state (.task auditId) = some admitted :=
    turn?_of_next hmem (by rw [hwaiting, hleft]; rfl)
  have hcalling : work.turn? admitted (.task auditId) = some calling :=
    turn?_of_next hmem (by rw [hphase]; rfl)
  have hsettled : work.turn? calling (.task auditId) = some settled :=
    turn?_of_next hmem (by rw [hphase]; rfl)
  have hdone : work.turn? settled (.task auditId) =
      some (settled.move auditId (.done (work.resultOf auditId), left + 1)) :=
    turn?_of_next hmem (by rw [hphase]; rfl)
  have hturns : (wholeTask auditId).foldlM work.turn? state =
      some (settled.move auditId (.done (work.resultOf auditId), left + 1)) := by
    simp only [wholeTask, List.replicate, List.foldlM_cons, List.foldlM_nil, Option.bind_eq_bind,
      hadmitted, hcalling, hsettled, hdone, Option.bind_some]
    rfl
  rw [hturns]
  simp only [settled, calling, admitted, State.move, place_place, place_self, hwaiting, hleft,
    Phase.calls, List.append_nil]

/-- Tasks that wait can run one after another, in any order. -/
theorem run_wholeTasks {order : List String} (hnodup : order.Nodup)
    (hsubset : order ⊆ work.auditIds) (hwaiting : ∀ auditId ∈ order, state.phase auditId = .waiting)
    (hpermits : 0 < state.permits) :
    ∃ later, (order.flatMap wholeTask).foldlM work.turn? state = some later ∧
      later.answer = state.answer ∧
      (∀ auditId ∈ order, later.phase auditId = .done (work.resultOf auditId)) ∧
        ∀ auditId, auditId ∉ order → later.phase auditId = state.phase auditId := by
  induction order generalizing state with
  | nil => exact ⟨state, rfl, rfl, by simp, fun _ _ ↦ rfl⟩
  | cons auditId rest ih =>
    obtain ⟨hfirst, hrest⟩ := List.nodup_cons.mp hnodup
    obtain ⟨hmem, hothers⟩ := List.cons_subset.mp hsubset
    have hrun := run_wholeTask hmem (hwaiting auditId List.mem_cons_self) hpermits
    set moved : State := { state with
      phase := place state.phase auditId (.done (work.resultOf auditId))
      calls := state.calls ++ [auditId] } with hmoved
    have hkept : ∀ other, other ≠ auditId → moved.phase other = state.phase other :=
      fun other hne ↦ place_of_ne state.phase hne _
    have hwaitingRest : ∀ other ∈ rest, moved.phase other = .waiting := by
      intro other hother
      rw [hkept other (ne_of_mem_of_not_mem hother hfirst)]
      exact hwaiting other (List.mem_cons_of_mem auditId hother)
    obtain ⟨later, hlater, hanswer, hdone, hsame⟩ := ih hrest hothers hwaitingRest hpermits
    refine ⟨later, ?_, hanswer, ?_, ?_⟩
    · rw [List.flatMap_cons, List.foldlM_append, hrun, Option.bind_eq_bind,
        Option.bind_some, hlater]
    · refine List.forall_mem_cons.mpr ⟨?_, hdone⟩
      rw [hsame auditId hfirst]
      exact place_self state.phase auditId _
    · intro other hother
      rw [List.mem_cons, not_or] at hother
      rw [hsame other hother.2, hkept other hother.1]

/-- Tasks can be done in any order, one after another, and then there is an answer. -/
theorem exists_run_oneByOne (hnodup : work.auditIds.Nodup) (hlimit : 0 < work.limit)
    {order : List String} (horder : order.Perm work.auditIds) :
    ∃ state, work.run? (oneByOne order) = some state ∧ state.answer.isSome = true := by
  have hwaiting : ∀ auditId ∈ order, work.start.phase auditId = .waiting := fun _ _ ↦ rfl
  obtain ⟨later, hlater, hanswer, hdone, -⟩ :=
    run_wholeTasks (horder.nodup_iff.mpr hnodup) horder.subset hwaiting hlimit
  have haccounted := (accounted_run hnodup hlater).1
  have hgathered := (gathered?_eq_some_iff haccounted.tells).mpr
    ⟨fun auditId hmem ↦ hdone auditId (horder.mem_iff.mpr hmem), rfl⟩
  have hgather : work.turn? later .gather =
      some { later with answer := some (work.conclude (work.auditIds.map work.resultOf)) } := by
    rw [turn?, hanswer, hgathered]
    rfl
  have hrun : work.run? (oneByOne order) = work.turn? later .gather := by
    rw [oneByOne, run?_concat, run?, hlater, Option.bind_some]
  exact ⟨_, hrun.trans hgather, rfl⟩

end Schedules

/-- Under every schedule the calls in flight are never more than the permits, every audit id is
called for exactly once before there is an answer, failing ones included, nothing is answered before
all tasks are done and have given their permits back, and the answer is that of the audit ids taken
one after another. Schedules end, and only with an answer, and the tasks can be done in any
order. -/
theorem answered_by_schedules {service : Service} {request : Request} {caller : Caller}
    {plan : List String × Dictionary String} (hplanned : service.planned request caller = .ok plan)
    {limit : Nat} (hlimit : 1 ≤ limit) :
    (∀ schedule state, (ofPlan service request plan limit).run? schedule = some state →
      Orderly (ofPlan service request plan limit) state ∧
        (∀ answer, state.answer = some answer →
          answer = (service.answered request caller).map Prod.snd) ∧
        schedule.length ≤ 4 * plan.1.length + 1 ∧
        ((∀ turn, (ofPlan service request plan limit).turn? state turn = none) →
          state.answer.isSome = true)) ∧
      ∀ order, order.Perm plan.1 → ∃ state,
        (ofPlan service request plan limit).run? (oneByOne order) = some state ∧
          state.answer.isSome = true := by
  have hnodup : (ofPlan service request plan limit).auditIds.Nodup :=
    (Service.sorted_of_planned hplanned).nodup
  refine ⟨fun schedule state hrun ↦ ?_, fun order horder ↦ exists_run_oneByOne hnodup hlimit horder⟩
  obtain ⟨hstate, hmoves⟩ := accounted_run hnodup hrun
  refine ⟨orderly_of_accounted hnodup hstate, ?_, ?_, answer_of_stuck hlimit hstate⟩
  · intro answer hanswer
    rw [(hstate.answer answer hanswer).2, conclude_results, Service.answered_eq, hplanned]
    cases hfound : service.allSeries request plan.2 plan.1
      <;> simp [ofPlan, hfound, Except.map, Except.bind]
  · have hstart := moves_start (ofPlan service request plan limit)
    have hlength : (ofPlan service request plan limit).auditIds.length = plan.1.length := rfl
    omega

/-! ### Two permits for three tasks -/

namespace Overtaking

/-- The tasks of three audit ids, of which two fail, with two permits. -/
def work : FanOut :=
  ofPlan Competing.service Competing.request (["3", "5", "7"], []) 2

/-- The last audit id breaks down before the second one fails, and the first one waits for its
permit. -/
def schedule : List Turn :=
  [.task "7", .task "5", .task "7", .task "7", .task "5", .task "7", .task "3", .task "3",
    .task "5", .task "3", .task "5", .task "3", .gather]

/-- The failure of the second audit id is raised all the same, and only after every task is done. -/
theorem answered_after_overtaking : Competing.service.planned Competing.request Competing.caller =
      .ok (["3", "5", "7"], []) ∧
    ∃ state, work.run? schedule = some state ∧ Orderly work state ∧
      state.answer = some (.error (.failed (.reported "down"))) ∧
        ∀ answer, state.answer = some answer → answer =
          (Competing.service.answered Competing.request Competing.caller).map Prod.snd := by
  have hplanned : Competing.service.planned Competing.request Competing.caller =
      .ok (["3", "5", "7"], []) := rfl
  have hschedules := (answered_by_schedules hplanned (by decide : 1 ≤ 2)).1 schedule
  refine ⟨hplanned, _, rfl, (hschedules _ rfl).1, rfl, (hschedules _ rfl).2.1⟩

end Overtaking

end FanOut

end StreamAudit
