import Mathlib.Data.List.Forall2
import StreamAudit.Proofs.Backend.SearchIndex
import StreamAudit.Proofs.Text.FixedWidth

/-!
Which indices a run over some days asks about, and in which order. Days about which no call errs are
passed one after another, and what they answer is put in front of what the days after them come to
(`queryDays_append`). So a run has either read every day or stopped at the first one about which a
call erred, and then it has no points and has asked about no later day (`readsAll_of_not_errs`,
`stops_of_errs`). The name of an index writes its day in eight digits from the year 1000 on
(`indexName_eq_compactName_iff`).
-/

set_option autoImplicit false
set_option relaxedAutoImplicit false

namespace StreamAudit.Backend.SearchIndex

open StreamAudit.Calendar StreamAudit.Text

/-! ### Names -/

/-- The name of an index by its day in eight digits, four of them for the year. -/
def compactName (day : Date) (auditId : String) : String :=
  String.ofList (padded 4 day.year ++ twoDigits day.month ++ twoDigits day.day) ++ "_" ++ auditId

theorem toDigits_eq_padded_iff {n : Nat} (h : n < 10000) :
    Nat.toDigits 10 n = padded 4 n ↔ 1000 ≤ n := by
  constructor
  · intro heq
    by_contra hsmall
    have hpadded : (padded 4 n).length = 4 := by
      rw [padded_eq_fourDigits h]
      rfl
    have hlength : (Nat.toDigits 10 n).length ≤ 3 :=
      (Nat.length_toDigits_le_iff (by decide) (by decide)).mpr (by omega)
    rw [heq, hpadded] at hlength
    omega
  · intro hlow
    rw [padded_eq_fourDigits h, toDigits_eq_fourDigits hlow h]

/-- Only the years before 1000 are written with fewer digits. -/
theorem indexName_eq_compactName_iff {day : Date} {auditId : String} :
    indexName day auditId = compactName day auditId ↔ 1000 ≤ day.year := by
  have hyear : day.year < 10000 := Nat.lt_succ_of_le day.year_mem.2
  rw [← toDigits_eq_padded_iff hyear, indexName, compactName]
  constructor
  · intro h
    have hlists := congrArg String.toList h
    simpa using hlists
  · intro h
    rw [h]

/-! ### Calls -/

/-- Whether an index is known to exist. -/
def Cluster.holds (cluster : Cluster) (index : String) : Bool :=
  match cluster.existence index with
  | .ok found => found
  | .error _ => false

/-- Whether a call about an index errs. Only what is known to exist is searched. -/
def Cluster.Errs (cluster : Cluster) (index : String) : Prop :=
  (∃ error, cluster.existence index = .error error) ∨
    cluster.existence index = .ok true ∧ ∃ error, cluster.search index = .error error

/-- Whether the search of an index is answered with some points. -/
def Cluster.Gives (cluster : Cluster) (index : String) (found : List Point) : Prop :=
  ∃ answer, cluster.search index = .ok answer ∧ points answer = .ok found

/-- Whether calls err in no way but those that the client knows, and every index that exists gives
an answer that can be read, if any. -/
structure Cluster.Regular (cluster : Cluster) : Prop where
  existence : ∀ index error, cluster.existence index = .error error → error = .client
  search : ∀ index error, cluster.existence index = .ok true → cluster.search index = .error error →
    error = .client
  answers : ∀ index answer, cluster.existence index = .ok true → cluster.search index = .ok answer →
    ∃ found, points answer = .ok found

/-- The trace after some more indices were passed without an error. -/
def Trace.past (cluster : Cluster) (trace : Trace) (indices : List String) : Trace :=
  ⟨trace.checked ++ indices, trace.searched ++ indices.filter cluster.holds⟩

theorem Trace.past_append (cluster : Cluster) (trace : Trace) (first second : List String) :
    trace.past cluster (first ++ second) = (trace.past cluster first).past cluster second := by
  simp [past, List.filter_append]

section Runs

variable {cluster : Cluster} (hregular : cluster.Regular) {auditId : String}

include hregular

/-- An index about which no call errs is missing or gives points. -/
theorem missing_or_gives {index : String} (h : ¬ cluster.Errs index) :
    cluster.existence index = .ok false ∨
      cluster.existence index = .ok true ∧ ∃ found, cluster.Gives index found := by
  rcases hexistence : cluster.existence index with error | _ | _
  · exact absurd (Or.inl ⟨error, hexistence⟩) h
  · exact .inl rfl
  · rcases hsearch : cluster.search index with error | answer
    · exact absurd (Or.inr ⟨hexistence, error, hsearch⟩) h
    · obtain ⟨found, hfound⟩ := hregular.answers index answer hexistence hsearch
      exact .inr ⟨rfl, found, answer, hsearch, hfound⟩

/-- Days without an error are passed: what they give stands in front of what the other days come
to. -/
theorem queryDays_append (trace : Trace) {before : List Date}
    (hbefore : ∀ day ∈ before, ¬ cluster.Errs (indexName day auditId)) (rest : List Date) :
    ∃ parts, List.Forall₂ cluster.Gives
        ((before.map fun day ↦ indexName day auditId).filter cluster.holds) parts ∧
      queryDays cluster auditId trace (before ++ rest) =
        ((queryDays cluster auditId
            (trace.past cluster (before.map fun day ↦ indexName day auditId)) rest).1,
          (queryDays cluster auditId
            (trace.past cluster (before.map fun day ↦ indexName day auditId)) rest).2.map
              (parts.flatten ++ ·)) := by
  induction before generalizing trace with
  | nil =>
    refine ⟨[], .nil, ?_⟩
    have htrace : trace.past cluster [] = trace := by simp [Trace.past]
    rw [List.nil_append, List.map_nil, htrace]
    rcases queryDays cluster auditId trace rest with ⟨reached, _ | found⟩ <;> rfl
  | cons day before ih =>
    have hlater : ∀ other ∈ before, ¬ cluster.Errs (indexName other auditId) :=
      fun other hother ↦ hbefore other (List.mem_cons_of_mem day hother)
    rw [List.cons_append, List.map_cons, ← List.singleton_append, Trace.past_append, queryDays]
    rcases missing_or_gives hregular (hbefore day List.mem_cons_self) with
      hmissing | ⟨hexists, found, answer, hsearch, hfound⟩
    · have hheld : cluster.holds (indexName day auditId) = false := by rw [Cluster.holds, hmissing]
      have hpast : trace.past cluster [indexName day auditId] =
          { trace with checked := trace.checked ++ [indexName day auditId] } := by
        simp [Trace.past, hheld]
      obtain ⟨parts, hparts, hrun⟩ := ih (trace.past cluster [indexName day auditId]) hlater
      refine ⟨parts, ?_, ?_⟩
      · rwa [List.singleton_append, List.filter_cons_of_neg (by simp [hheld])]
      · simp only [hmissing]
        rw [← hpast, hrun]
    · have hheld : cluster.holds (indexName day auditId) = true := by rw [Cluster.holds, hexists]
      have hpast : trace.past cluster [indexName day auditId] =
          ⟨trace.checked ++ [indexName day auditId],
            trace.searched ++ [indexName day auditId]⟩ := by
        simp [Trace.past, hheld]
      obtain ⟨parts, hparts, hrun⟩ := ih (trace.past cluster [indexName day auditId]) hlater
      refine ⟨found :: parts, ?_, ?_⟩
      · rw [List.singleton_append, List.filter_cons_of_pos hheld]
        exact .cons ⟨answer, hsearch, hfound⟩ hparts
      · simp only [hexists, hsearch, hfound]
        rw [← hpast, hrun]
        generalize queryDays cluster auditId _ rest = result
        obtain ⟨reached, _ | others⟩ := result
        · rfl
        · simp [Except.map]

/-- A day about which a call errs ends the run. -/
theorem queryDays_of_errs (trace : Trace) {day : Date} (h : cluster.Errs (indexName day auditId))
    (later : List Date) : queryDays cluster auditId trace (day :: later) =
      (trace.past cluster [indexName day auditId],
        .error (.failed (.searchIndex (indexName day auditId)))) := by
  rw [queryDays]
  rcases h with ⟨error, herror⟩ | ⟨hexists, error, herror⟩
  · obtain rfl := hregular.existence _ _ herror
    simp [herror, Trace.past, Cluster.holds, refusal]
  · obtain rfl := hregular.search _ _ hexists herror
    simp [hexists, herror, Trace.past, Cluster.holds, refusal]

end Runs

/-! ### Whole runs -/

/-- Whether a run has read some indices whole: it has asked about each of them in order, searched
those that exist, and joined what they gave. -/
structure ReadsAll (cluster : Cluster) (indices : List String) (run : Trace × Outcome) : Prop where
  checked : run.1.checked = indices
  searched : run.1.searched = indices.filter cluster.holds
  joined : ∃ parts, List.Forall₂ cluster.Gives run.1.searched parts ∧ run.2 = .ok parts.flatten

/-- Whether a run has stopped at an index: no call about those before it erred, and it has asked
about no later one and searched none. -/
structure StopsAt (cluster : Cluster) (indices : List String) (index : String)
    (run : Trace × Outcome) :
    Prop where
  first : ∃ before after, indices = before ++ index :: after ∧
    (∀ other ∈ before, ¬ cluster.Errs other) ∧ cluster.Errs index ∧
    run.1.checked = before ++ [index] ∧ run.1.searched = (before ++ [index]).filter cluster.holds
  failed : run.2 = .error (.failed (.searchIndex index))

/-- The indices of the days of a query. -/
def indicesOf (query : Query) : List String :=
  (Date.upTo query.first query.last).map fun day ↦ indexName day query.auditId

section Queries

variable {cluster : Cluster} (hregular : cluster.Regular) {query : Query}
    (hlast : query.last ≠ Date.final)

theorem run_eq_queryDays (cluster : Cluster) {query : Query} (hlast : query.last ≠ Date.final) :
    run cluster query = queryDays cluster query.auditId {} (Date.upTo query.first query.last) := by
  obtain ⟨after, hafter, -⟩ := Date.exists_next? hlast
  rw [run]
  rcases queryDays cluster query.auditId {} (Date.upTo query.first query.last)
    with ⟨trace, _ | points⟩
  · rfl
  · simp [hafter]

include hregular hlast

theorem readsAll_of_not_errs (h : ∀ index ∈ indicesOf query, ¬ cluster.Errs index) :
    ReadsAll cluster (indicesOf query) (run cluster query) := by
  have hdays : ∀ day ∈ Date.upTo query.first query.last,
      ¬ cluster.Errs (indexName day query.auditId) :=
    fun day hday ↦ h _ (List.mem_map_of_mem hday)
  obtain ⟨parts, hparts, hrun⟩ := queryDays_append hregular {} hdays []
  rw [List.append_nil, ← run_eq_queryDays cluster hlast] at hrun
  rw [hrun]
  exact ⟨List.nil_append _, List.nil_append _, parts, hparts,
    congrArg Except.ok (List.append_nil _)⟩

theorem stops_of_errs (h : ∃ index ∈ indicesOf query, cluster.Errs index) :
    ∃ index, StopsAt cluster (indicesOf query) index (run cluster query) := by
  classical
  obtain ⟨index, hmem, herrs⟩ := h
  obtain ⟨day, hday, rfl⟩ := List.mem_map.mp hmem
  let errs (day : Date) : Bool := decide (cluster.Errs (indexName day query.auditId))
  obtain ⟨first, hfind⟩ : ∃ first, (Date.upTo query.first query.last).find? errs = some first :=
    Option.isSome_iff_exists.mp (List.find?_isSome.mpr ⟨day, hday, decide_eq_true herrs⟩)
  obtain ⟨hdecided, before, after, hdays, hothers⟩ := List.find?_eq_some_iff_append.mp hfind
  have hfirst : cluster.Errs (indexName first query.auditId) := of_decide_eq_true hdecided
  have hbefore : ∀ other ∈ before, ¬ cluster.Errs (indexName other query.auditId) := by
    intro other hother
    simpa [errs] using hothers other hother
  obtain ⟨parts, hparts, hrun⟩ := queryDays_append hregular {} hbefore (first :: after)
  rw [← hdays, ← run_eq_queryDays cluster hlast, queryDays_of_errs hregular _ hfirst,
    ← Trace.past_append] at hrun
  refine ⟨indexName first query.auditId, ⟨before.map fun day ↦ indexName day query.auditId,
    after.map fun day ↦ indexName day query.auditId, ?_, ?_, hfirst, ?_, ?_⟩, ?_⟩
  · rw [indicesOf, hdays, List.map_append, List.map_cons]
  · intro other hother
    obtain ⟨earlier, hearlier, rfl⟩ := List.mem_map.mp hother
    exact hbefore earlier hearlier
  · rw [hrun]
    exact List.nil_append _
  · rw [hrun]
    exact List.nil_append _
  · rw [hrun]
    rfl

end Queries

end StreamAudit.Backend.SearchIndex
