import DocumentRules.History.Inquiry

/-!
# Remembered answers

For the length of a run the path sets that a history has given may be remembered, so that the same
query is put to it once. A failure is not remembered: the query is put again. `Inquiry.remembering`
turns an inquiry into one that looks at its memo first; what it comes to under a backend is
unchanged as long as the memo holds answers of that backend (`answer_remembering`).
-/

set_option autoImplicit false
set_option relaxedAutoImplicit false

namespace DocumentRules.History

/-- The path sets that have been given so far, the latest first. -/
structure Memo where
  given : List (Query × PathSet)

namespace Memo

/-- The memo that holds nothing. -/
def empty : Memo := ⟨[]⟩

/-- The path set remembered for a query. -/
def get? (memo : Memo) (query : Query) : Option PathSet := memo.given.lookup query

/-- The memo after an answer to a query that it did not hold. -/
def record (memo : Memo) (query : Query) : Answer → Memo
  | .ok paths => ⟨(query, paths) :: memo.given⟩
  | .error _ => memo

/-- The number of remembered path sets. -/
def size (memo : Memo) : Nat := memo.given.length

@[simp] theorem get?_empty (query : Query) : empty.get? query = none := rfl

theorem get?_record (memo : Memo) (query other : Query) (answer : Answer) :
    (memo.record query answer).get? other =
      match answer with
      | .ok paths => if other = query then some paths else memo.get? other
      | .error _ => memo.get? other := by
  cases answer with
  | ok paths =>
    by_cases h : other = query
    · simp [record, get?, h]
    · simp [record, get?, h, List.lookup_cons, beq_eq_false_iff_ne.mpr h]
  | error failure => rfl

/-- A memo that holds nothing but answers of a backend. -/
def Faithful (memo : Memo) (backend : Backend) : Prop :=
  ∀ query paths, memo.get? query = some paths → backend query = .ok paths

theorem faithful_empty (backend : Backend) : empty.Faithful backend := by
  intro query paths h
  simp at h

theorem Faithful.record {memo : Memo} {backend : Backend} (h : memo.Faithful backend)
    (query : Query) : (memo.record query (backend query)).Faithful backend := by
  intro other paths hget
  rw [get?_record] at hget
  split at hget
  · rename_i given hgiven
    split at hget
    · rename_i heq
      rw [heq, hgiven, Option.some.inj hget]
    · exact h other paths hget
  · exact h other paths hget

end Memo

namespace Inquiry

variable {α : Type}

/-- The inquiry that asks for nothing its memo holds and remembers what it is given. -/
def remembering : Memo → Inquiry α → Inquiry (α × Memo)
  | memo, .done result => .done (result, memo)
  | memo, .ask query next =>
    match memo.get? query with
    | some paths => (next (.ok paths)).remembering memo
    | none => .ask query fun answer ↦ (next answer).remembering (memo.record query answer)

/-- Assumes: a memo that holds answers of the backend only. Looking at it first changes nothing
about what the inquiry comes to. -/
theorem answer_remembering {backend : Backend} {memo : Memo} (h : memo.Faithful backend)
    (inquiry : Inquiry α) :
    ((inquiry.remembering memo).answer backend).1 = inquiry.answer backend := by
  induction inquiry generalizing memo with
  | done result => rfl
  | ask query next ih =>
    simp only [remembering, answer]
    split
    · rename_i paths hget
      rw [ih _ h, h query paths hget]
    · exact ih _ (h.record query)

end Inquiry

end DocumentRules.History
