import DocumentRules.History.Memo

/-!
# The queries that a memo lets through

An inquiry with a memo puts the queries that it would put without one, less those that the memo
holds by then (`transcript_remembering`). A query that the memo does not hold at first it lets
through once if the query succeeds (`count_asked_of_ok`), and every time if it fails
(`count_asked_of_error`).
-/

set_option autoImplicit false
set_option relaxedAutoImplicit false

namespace DocumentRules.History

namespace Memo

/-- The queries of a list that reach the backend past a memo, which holds every one that has
succeeded on the way. -/
def asked (backend : Backend) (memo : Memo) : List Query → List Query
  | [] => []
  | query :: rest =>
    match memo.get? query with
    | some _ => memo.asked backend rest
    | none => query :: (memo.record query (backend query)).asked backend rest

theorem asked_cons_of_get? {backend : Backend} {memo : Memo} {query : Query} {paths : PathSet}
    (h : memo.get? query = some paths) (rest : List Query) :
    memo.asked backend (query :: rest) = memo.asked backend rest := by
  simp only [asked, h]

theorem asked_cons_of_get?_eq_none {backend : Backend} {memo : Memo} {query : Query}
    (h : memo.get? query = none) (rest : List Query) :
    memo.asked backend (query :: rest) =
      query :: (memo.record query (backend query)).asked backend rest := by
  simp only [asked, h]

/-- What a memo holds it still holds after a further record. -/
theorem get?_record_of_ne {memo : Memo} {query other : Query} (hne : other ≠ query)
    (answer : Answer) : (memo.record query answer).get? other = memo.get? other := by
  rw [get?_record]
  cases answer with
  | ok paths => exact if_neg hne
  | error failure => rfl

/-- A query that the memo holds does not reach the backend. -/
theorem count_asked_of_get? (backend : Backend) {memo : Memo} {query : Query} {paths : PathSet}
    (h : memo.get? query = some paths) (queries : List Query) :
    (memo.asked backend queries).count query = 0 := by
  induction queries generalizing memo with
  | nil => rfl
  | cons first rest ih =>
    cases hfirst : memo.get? first with
    | some held => rw [asked_cons_of_get? hfirst, ih h]
    | none =>
      have hne : query ≠ first := by
        rintro rfl
        rw [h] at hfirst
        exact nomatch hfirst
      rw [asked_cons_of_get?_eq_none hfirst, List.count_cons_of_ne hne.symm,
        ih ((get?_record_of_ne hne _).trans h)]

/-- Assumes: a query that the memo does not hold and that succeeds. It reaches the backend once, if
it is put at all. -/
theorem count_asked_of_ok {backend : Backend} {query : Query} {paths : PathSet}
    (h : backend query = .ok paths) {memo : Memo} (hmemo : memo.get? query = none)
    (queries : List Query) :
    (memo.asked backend queries).count query = min (queries.count query) 1 := by
  induction queries generalizing memo with
  | nil => rfl
  | cons first rest ih =>
    by_cases heq : query = first
    · subst heq
      have hheld : (memo.record query (backend query)).get? query = some paths := by
        rw [get?_record, h]
        exact if_pos rfl
      rw [asked_cons_of_get?_eq_none hmemo, List.count_cons_self, List.count_cons_self,
        count_asked_of_get? backend hheld]
      exact (Nat.min_eq_right (Nat.le_add_left 1 _)).symm
    · rw [List.count_cons_of_ne (Ne.symm heq)]
      cases hfirst : memo.get? first with
      | some held => rw [asked_cons_of_get? hfirst, ih hmemo]
      | none =>
        rw [asked_cons_of_get?_eq_none hfirst, List.count_cons_of_ne (Ne.symm heq),
          ih ((get?_record_of_ne heq _).trans hmemo)]

/-- Assumes: a memo that holds answers of the backend only. A query that fails reaches the backend
every time. -/
theorem count_asked_of_error {backend : Backend} {memo : Memo} (hmemo : memo.Faithful backend)
    {query : Query} {failure : Failure} (h : backend query = .error failure)
    (queries : List Query) : (memo.asked backend queries).count query = queries.count query := by
  induction queries generalizing memo with
  | nil => rfl
  | cons first rest ih =>
    cases hfirst : memo.get? first with
    | some held =>
      have hne : query ≠ first := by
        rintro rfl
        rw [hmemo _ _ hfirst] at h
        exact nomatch h
      rw [asked_cons_of_get? hfirst, ih hmemo, List.count_cons_of_ne hne.symm]
    | none =>
      rw [asked_cons_of_get?_eq_none hfirst, List.count_cons, List.count_cons,
        ih (hmemo.record first)]

/-- Assumes: a memo that holds answers of the backend only. A query that it does not hold reaches
the backend exactly when it is put at all. -/
theorem mem_asked_iff {backend : Backend} {memo : Memo} (hmemo : memo.Faithful backend)
    {query : Query} (h : memo.get? query = none) (queries : List Query) :
    query ∈ memo.asked backend queries ↔ query ∈ queries := by
  rw [← List.count_pos_iff, ← List.count_pos_iff]
  cases hanswer : backend query with
  | ok paths => rw [count_asked_of_ok hanswer h, Nat.lt_min, and_iff_left Nat.one_pos]
  | error failure => rw [count_asked_of_error hmemo hanswer]

end Memo

namespace Inquiry

variable {α : Type}

/-- Assumes: a memo that holds answers of the backend only. With the memo an inquiry puts those of
its queries that the memo lets through. -/
theorem transcript_remembering {backend : Backend} {memo : Memo} (h : memo.Faithful backend)
    (inquiry : Inquiry α) :
    (inquiry.remembering memo).transcript backend =
      memo.asked backend (inquiry.transcript backend) := by
  induction inquiry generalizing memo with
  | done result => rfl
  | ask query next ih =>
    cases hget : memo.get? query with
    | some paths =>
      simp only [remembering, hget, transcript, Memo.asked_cons_of_get? hget]
      rw [ih _ h, h query paths hget]
    | none =>
      simp only [remembering, hget, transcript, Memo.asked_cons_of_get?_eq_none hget]
      rw [ih _ (h.record query)]

end Inquiry

end DocumentRules.History
