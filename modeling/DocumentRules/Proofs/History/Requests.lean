import DocumentRules.History.Memo
import Mathlib.Data.List.Dedup

/-!
# One memo for many requests

A memo may serve any number of requests, put to a history whose answers change from one request to
the next. `Memo.exchanges` is the record of such a series: for each request the answers that the
history gave, which are none if it was not asked, and the answer to the request.
`memo_serves_first_success` reads the memo off this record. It holds the first path set that the
history gave for each query (`get?_after_eq`), one entry for each query that has succeeded
(`size_after_eq`), and nothing that was put in for one query shows under another
(`get?_after_congr`).
-/

set_option autoImplicit false
set_option relaxedAutoImplicit false

namespace DocumentRules.History

open Collection

/-- A query, and the history that it is put to as it is at that moment. -/
structure Request where
  query : Query
  backend : Backend

/-- The record of one request. -/
structure Exchange where
  query : Query
  /-- The answers that the history gave. -/
  given : List Answer
  /-- The answer to the request. -/
  answer : Answer

/-- Whether the answer to the request is a path set. -/
def Exchange.succeeded (exchange : Exchange) : Bool := exchange.answer.isOk

namespace Memo

/-! ### Serving requests -/

/-- A query that is looked up in a memo before it is put to the history. -/
def lookUp (memo : Memo) (query : Query) : Inquiry (Answer × Memo) :=
  (Inquiry.query query).remembering memo

/-- The record of a request that a memo serves. -/
def exchange (memo : Memo) (request : Request) : Exchange where
  query := request.query
  given := ((memo.lookUp request.query).transcript request.backend).map request.backend
  answer := ((memo.lookUp request.query).answer request.backend).1

/-- The memo after it has served a request. -/
def next (memo : Memo) (request : Request) : Memo :=
  ((memo.lookUp request.query).answer request.backend).2

/-- The memo after it has served some requests. -/
def after (memo : Memo) (requests : List Request) : Memo := requests.foldl next memo

/-- The records of some requests that a memo serves one after the other. -/
def exchanges : Memo → List Request → List Exchange
  | _, [] => []
  | memo, request :: rest => memo.exchange request :: (memo.next request).exchanges rest

variable {memo : Memo} {request : Request} {paths : PathSet}

theorem exchange_of_get? (h : memo.get? request.query = some paths) :
    memo.exchange request = ⟨request.query, [], .ok paths⟩ := by
  simp only [exchange, lookUp, Inquiry.query, Inquiry.remembering, h, Inquiry.transcript,
    Inquiry.answer, List.map_nil]

theorem exchange_of_get?_eq_none (h : memo.get? request.query = none) :
    memo.exchange request =
      ⟨request.query, [request.backend request.query], request.backend request.query⟩ := by
  simp only [exchange, lookUp, Inquiry.query, Inquiry.remembering, h, Inquiry.transcript,
    Inquiry.answer, List.map_cons, List.map_nil]

theorem next_of_get? (h : memo.get? request.query = some paths) : memo.next request = memo := by
  simp only [next, lookUp, Inquiry.query, Inquiry.remembering, h, Inquiry.answer]

theorem next_of_get?_eq_none (h : memo.get? request.query = none) :
    memo.next request = memo.record request.query (request.backend request.query) := by
  simp only [next, lookUp, Inquiry.query, Inquiry.remembering, h, Inquiry.answer]

/-- A request adds the path set that the history has for it, unless there is one already. -/
theorem get?_next (memo : Memo) (request : Request) (query : Query) :
    (memo.next request).get? query =
      if query = request.query then (memo.get? query).or (request.backend query).toOption
      else memo.get? query := by
  by_cases heq : query = request.query
  · subst heq
    rw [if_pos rfl]
    cases hget : memo.get? request.query with
    | some paths => rw [next_of_get? hget, hget, Option.some_or]
    | none =>
      rw [next_of_get?_eq_none hget, get?_record, Option.none_or]
      cases request.backend request.query <;> simp [hget, Except.toOption]
  · rw [if_neg heq]
    cases hget : memo.get? request.query with
    | some paths => rw [next_of_get? hget]
    | none =>
      rw [next_of_get?_eq_none hget, get?_record]
      cases request.backend request.query <;> simp [heq]

/-! ### What the memo holds -/

/-- The answers that the history gave to a query in the course of a record. -/
def givenFor (record : List Exchange) (query : Query) : List Answer :=
  (record.filter fun exchange ↦ exchange.query = query).flatMap Exchange.given

/-- The first path set among some answers. -/
def firstSuccess? (answers : List Answer) : Option PathSet := answers.findSome? Except.toOption

theorem givenFor_cons (exchange : Exchange) (record : List Exchange) (query : Query) :
    givenFor (exchange :: record) query =
      (if exchange.query = query then exchange.given else []) ++ givenFor record query := by
  unfold givenFor
  by_cases h : exchange.query = query <;> simp [h]

/-- A request adds the path set that the history gave for it. -/
theorem get?_next_eq_or (memo : Memo) (request : Request) (query : Query) :
    (memo.next request).get? query = (memo.get? query).or
      (firstSuccess? (if request.query = query then (memo.exchange request).given else [])) := by
  rw [get?_next]
  by_cases heq : query = request.query
  · subst heq
    rw [if_pos rfl, if_pos rfl]
    cases hget : memo.get? request.query with
    | some paths => rw [Option.some_or, Option.some_or]
    | none =>
      rw [exchange_of_get?_eq_none hget]
      cases request.backend request.query <;> rfl
  · rw [if_neg heq, if_neg (Ne.symm heq)]
    exact (Option.or_none).symm

/-- Requests add the first path set that the history gave for each query. -/
theorem get?_after (memo : Memo) (requests : List Request) (query : Query) :
    (memo.after requests).get? query =
      (memo.get? query).or (firstSuccess? (givenFor (memo.exchanges requests) query)) := by
  induction requests generalizing memo with
  | nil => exact (Option.or_none).symm
  | cons request rest ih =>
    have hquery : (memo.exchange request).query = request.query := rfl
    have hfirst := ih (memo.next request)
    rw [get?_next_eq_or, Option.or_assoc] at hfirst
    rw [exchanges, givenFor_cons, hquery, firstSuccess?, List.findSome?_append]
    exact hfirst

/-- A memo that was empty at first holds the first path set that the history gave for each query. -/
theorem get?_after_eq (requests : List Request) (query : Query) :
    (empty.after requests).get? query =
      firstSuccess? (givenFor (empty.exchanges requests) query) := by
  rw [get?_after, get?_empty, Option.none_or]

/-- Assumes: two memos that hold the same for a query. They still do after the same requests. -/
theorem get?_after_congr {first second : Memo} {query : Query}
    (h : first.get? query = second.get? query) (requests : List Request) :
    (first.after requests).get? query = (second.after requests).get? query := by
  induction requests generalizing first second with
  | nil => exact h
  | cons request rest ih =>
    refine ih ?_
    rw [get?_next, get?_next, h]

theorem exchange_congr {first second : Memo}
    (h : first.get? request.query = second.get? request.query) :
    first.exchange request = second.exchange request := by
  cases hget : second.get? request.query with
  | some paths => rw [exchange_of_get? hget, exchange_of_get? (h.trans hget)]
  | none => rw [exchange_of_get?_eq_none hget, exchange_of_get?_eq_none (h.trans hget)]

/-! ### Which requests have succeeded -/

theorem isSome_get?_next_iff (memo : Memo) (request : Request) (query : Query) :
    ((memo.next request).get? query).isSome ↔ (memo.get? query).isSome ∨
      (request.query = query ∧ (memo.exchange request).succeeded = true) := by
  rw [get?_next]
  by_cases heq : query = request.query
  · subst heq
    rw [if_pos rfl]
    cases hget : memo.get? request.query with
    | some paths => simp
    | none =>
      rw [exchange_of_get?_eq_none hget]
      cases request.backend request.query <;>
        simp [Exchange.succeeded, Except.isOk, Except.toBool, Except.toOption]
  · rw [if_neg heq]
    exact (or_iff_left fun h ↦ heq h.1.symm).symm

/-- A memo that was empty at first holds a path set for exactly the queries that have succeeded. -/
theorem isSome_get?_after_iff (memo : Memo) (requests : List Request) (query : Query) :
    ((memo.after requests).get? query).isSome ↔ (memo.get? query).isSome ∨
      ∃ exchange ∈ memo.exchanges requests,
        exchange.query = query ∧ exchange.succeeded = true := by
  induction requests generalizing memo with
  | nil => simp [after, exchanges]
  | cons request rest ih =>
    have hquery : (memo.exchange request).query = request.query := rfl
    have hrest := ih (memo.next request)
    rw [isSome_get?_next_iff, or_assoc] at hrest
    rw [exchanges, List.exists_mem_cons_iff, hquery]
    exact hrest

theorem mem_map_fst_given_iff (memo : Memo) (query : Query) :
    query ∈ memo.given.map Prod.fst ↔ (memo.get? query).isSome := by
  rw [get?, List.lookup_isSome_iff, List.mem_map]
  exact exists_congr fun entry ↦ and_congr_right fun _ ↦
    ⟨fun h ↦ beq_iff_eq.mpr h.symm, fun h ↦ (beq_iff_eq.mp h).symm⟩

/-- A memo has at most one entry for each query. -/
theorem nodup_given_after (memo : Memo) (h : (memo.given.map Prod.fst).Nodup)
    (requests : List Request) : ((memo.after requests).given.map Prod.fst).Nodup := by
  induction requests generalizing memo with
  | nil => exact h
  | cons request rest ih =>
    refine ih (memo.next request) ?_
    cases hget : memo.get? request.query with
    | some paths => rwa [next_of_get? hget]
    | none =>
      rw [next_of_get?_eq_none hget]
      cases request.backend request.query with
      | error failure => exact h
      | ok paths =>
        refine List.nodup_cons.mpr ⟨fun hmem ↦ ?_, h⟩
        rw [mem_map_fst_given_iff, hget] at hmem
        cases hmem

/-- A memo that was empty at first has one entry for each query that has succeeded. -/
theorem size_after_eq (requests : List Request) :
    (empty.after requests).size =
      (((empty.exchanges requests).filter Exchange.succeeded).map Exchange.query).dedup.length := by
  have hnodup : ((empty.after requests).given.map Prod.fst).Nodup :=
    nodup_given_after empty List.nodup_nil requests
  have hperm : ((empty.after requests).given.map Prod.fst).Perm
      (((empty.exchanges requests).filter Exchange.succeeded).map Exchange.query).dedup := by
    refine (List.perm_ext_iff_of_nodup hnodup (List.nodup_dedup _)).mpr fun query ↦ ?_
    rw [mem_map_fst_given_iff, isSome_get?_after_iff, List.mem_dedup]
    simp only [get?_empty, Option.isSome_none, Bool.false_eq_true, false_or, List.mem_map,
      List.mem_filter, and_assoc, and_comm (a := Exchange.query _ = query)]
  rw [size, ← List.length_map, hperm.length_eq]

theorem exchanges_append_singleton (memo : Memo) (past : List Request) (request : Request) :
    memo.exchanges (past ++ [request]) =
      memo.exchanges past ++ [(memo.after past).exchange request] := by
  induction past generalizing memo with
  | nil => rfl
  | cons first rest ih => exact congrArg (memo.exchange first :: ·) (ih (memo.next first))

/-- The memo of a series of requests, put to a history that may change between any two of them, and
the record of one more request.

The answer is the first path set that the history gave for the query, and if it gave none the answer
that it has at present. The history is asked unless a request for the same query has succeeded
before. There are as many entries in the memo as different queries have succeeded. A request for
another range or another commit makes no difference to the record: it is the same as without it. -/
theorem memo_serves_first_success (past : List Request) (request : Request) :
    let memo := empty.after past
    let record := empty.exchanges past
    let exchange := memo.exchange request
    empty.exchanges (past ++ [request]) = record ++ [exchange] ∧
    (exchange.answer = match firstSuccess? (givenFor record request.query) with
      | some paths => .ok paths
      | none => request.backend request.query) ∧
    (exchange.given =
      if ∃ earlier ∈ record, earlier.query = request.query ∧ earlier.succeeded = true then []
      else [request.backend request.query]) ∧
    memo.size = ((record.filter Exchange.succeeded).map Exchange.query).dedup.length ∧
    ∀ front other back, past = front ++ other :: back →
      other.query.range ≠ request.query.range ∨ other.query.commit ≠ request.query.commit →
      exchange = (empty.after (front ++ back)).exchange request := by
  intro memo record exchange
  have hget : memo.get? request.query = firstSuccess? (givenFor record request.query) :=
    get?_after_eq past request.query
  have hsome := isSome_get?_after_iff empty past request.query
  rw [get?_empty, Option.isSome_none, Bool.false_eq_true, false_or] at hsome
  refine ⟨exchanges_append_singleton empty past request, ?_, ?_, size_after_eq past, ?_⟩
  · rw [← hget]
    cases hheld : memo.get? request.query with
    | some paths => exact congrArg Exchange.answer (exchange_of_get? hheld)
    | none => exact congrArg Exchange.answer (exchange_of_get?_eq_none hheld)
  · cases hheld : memo.get? request.query with
    | some paths =>
      rw [if_pos (hsome.mp (Option.isSome_iff_exists.mpr ⟨paths, hheld⟩))]
      exact congrArg Exchange.given (exchange_of_get? hheld)
    | none =>
      rw [if_neg fun h ↦ Option.isSome_iff_ne_none.mp (hsome.mpr h) hheld]
      exact congrArg Exchange.given (exchange_of_get?_eq_none hheld)
  · rintro front other back rfl hother
    have hne : request.query ≠ other.query := fun heq ↦ by
      rw [heq] at hother
      exact hother.elim (absurd rfl) (absurd rfl)
    refine exchange_congr ?_
    have hafter : memo = ((empty.after front).next other).after back := by
      simp only [memo, after, List.foldl_append, List.foldl_cons]
    have hwithout : empty.after (front ++ back) = (empty.after front).after back :=
      List.foldl_append
    rw [hafter, hwithout]
    refine get?_after_congr ?_ back
    rw [get?_next, if_neg hne]

/-- A history that fails, then gives a path, fails again and then gives another path. The fourth
request gets the first path without the history being asked, and the memo has one entry. -/
theorem memo_serves_first_success_changing :
    let query : Query := ⟨.own, "c1"⟩
    let silent : Backend := fun asked ↦ .error (.unknownCommit asked.commit)
    let telling : String → Backend := fun path _ ↦ .ok (SortedSet.ofList [path])
    let past : List Request := [⟨query, silent⟩, ⟨query, telling "a"⟩, ⟨query, silent⟩]
    let exchange := (empty.after past).exchange ⟨query, telling "b"⟩
    exchange.answer = .ok (SortedSet.ofList ["a"]) ∧ exchange.given = [] ∧
      (empty.after past).size = 1 := by
  intro query silent telling past exchange
  obtain ⟨-, hanswer, hgiven, hsize, -⟩ := memo_serves_first_success past ⟨query, telling "b"⟩
  exact ⟨hanswer, hgiven.trans (if_pos (by decide)), hsize⟩

end Memo

end DocumentRules.History
