import StreamAudit.Backend.SearchIndex
import StreamAudit.Proofs.Calendar.Walk
import StreamAudit.Proofs.Calls

/-!
What the search index answers. The trace of a run is only written, so the outcome is that of asking
the index of each day in order and joining the points (`queryDays_outcome`). An answered query can
therefore be cut between any two of its days (`run_cut`).
-/

set_option autoImplicit false
set_option relaxedAutoImplicit false

namespace StreamAudit.Backend.SearchIndex

open StreamAudit.Calendar

/-- What the index of a day contributes to a query. -/
def dayOutcome (cluster : Cluster) (auditId : String) (day : Date) : Outcome :=
  let index := indexName day auditId
  match cluster.existence index with
  | .error error => .error (refusal index error)
  | .ok false => .ok []
  | .ok true =>
    match cluster.search index with
    | .error error => .error (refusal index error)
    | .ok answer => (points answer).mapError fun cause ↦ .broken (.malformed cause)

/-- The outcome of some days is that of each of them in order. -/
theorem queryDays_outcome (cluster : Cluster) (auditId : String) (trace : Trace)
    (days : List Date) :
    (queryDays cluster auditId trace days).2 =
      (days.mapM (dayOutcome cluster auditId)).map List.flatten := by
  induction days generalizing trace with
  | nil => rfl
  | cons day later ih =>
    rw [List.mapM_cons, queryDays, dayOutcome]
    rcases cluster.existence (indexName day auditId) with error | _ | _
    · rfl
    · simp only [ih]
      cases later.mapM (dayOutcome cluster auditId) <;> rfl
    · rcases cluster.search (indexName day auditId) with error | answer
      · rfl
      · rcases hpoints : points answer with cause | found
        · simp only [hpoints]
          rfl
        · simp only [hpoints]
          have hlater := ih { trace with
            checked := trace.checked ++ [indexName day auditId]
            searched := trace.searched ++ [indexName day auditId] }
          generalize queryDays cluster auditId _ later = rest at hlater ⊢
          obtain ⟨reached, outcome⟩ := rest
          obtain rfl : outcome = _ := hlater
          cases later.mapM (dayOutcome cluster auditId) <;> rfl

/-- A range of days is answered if each of its days is, and the day after its last one exists. -/
theorem run_eq_ok_iff {cluster : Cluster} {query : Query} {found : List Point} :
    (run cluster query).2 = .ok found ↔
      ¬ (query.first ≤ query.last ∧ query.last = Date.final) ∧ ∃ parts,
        (Date.upTo query.first query.last).mapM (dayOutcome cluster query.auditId) = .ok parts ∧
          parts.flatten = found := by
  have houtcome := queryDays_outcome cluster query.auditId {} (Date.upTo query.first query.last)
  rw [← Date.next?_eq_none_iff, run]
  generalize queryDays cluster query.auditId {} _ = reached at houtcome ⊢
  obtain ⟨trace, outcome⟩ := reached
  obtain rfl : outcome = _ := houtcome
  cases (Date.upTo query.first query.last).mapM (dayOutcome cluster query.auditId) with
  | error refusal => simp [Except.map]
  | ok parts =>
    simp only [Except.map]
    by_cases hbeyond : query.first ≤ query.last ∧ query.last.next? = none
    · simp [hbeyond]
    · simp [hbeyond]

/-- What is answered for a range of days is what is answered for the days up to one of them,
followed by what is answered for the others. -/
theorem run_cut {cluster : Cluster} {query : Query} {mid after : Date} {found : List Point}
    (hafter : mid.next? = some after) (hfirst : query.first ≤ mid)
    (hlast : mid.number < query.last.number) (h : (run cluster query).2 = .ok found) : ∃ front back,
      (run cluster { query with last := mid }).2 = .ok front ∧
        (run cluster { query with first := after }).2 = .ok back ∧ found = front ++ back := by
  obtain ⟨hends, parts, hparts, rfl⟩ := run_eq_ok_iff.mp h
  have hrange : query.first ≤ query.last := Date.le_of_le_of_lt hfirst hlast
  rw [Date.upTo_cut hafter hfirst hlast, List.mapM_append] at hparts
  obtain ⟨front, hfront, hparts⟩ := exists_of_bind_eq_ok hparts
  obtain ⟨back, hback, hparts⟩ := exists_of_bind_eq_ok hparts
  obtain rfl := Except.ok.inj hparts
  refine ⟨front.flatten, back.flatten, run_eq_ok_iff.mpr ⟨?_, front, hfront, rfl⟩,
    run_eq_ok_iff.mpr ⟨?_, back, hback, rfl⟩, List.flatten_append⟩
  · exact fun hfinal ↦ Date.ne_final_of_lt hlast hfinal.2
  · exact fun hfinal ↦ hends ⟨hrange, hfinal.2⟩

end StreamAudit.Backend.SearchIndex
