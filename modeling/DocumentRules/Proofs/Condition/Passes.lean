import DocumentRules.Proofs.Condition.Stance

/-!
# What passes keep and where they end

A pass does not change where a sequence of terms leads (`through?_pass`), in either direction: a
sequence is well structured exactly when the result of a pass is. A pass makes progress where two
truth values meet around a connective or one stands alone in brackets (`HasRedex`), and a
well-structured sequence that is longer than one term and has no unresolved term has such a place
(`hasRedex_of_wellStructured`). Passes therefore end in a single truth value exactly on the
well-structured sequences without unresolved terms (`settle_eq_truth_iff`).
-/

set_option autoImplicit false
set_option relaxedAutoImplicit false

namespace DocumentRules.Condition

/-! ### Repeated passes -/

/-- Assumes: two bounds that are not below the number of terms. They allow as many passes as are
made, so it makes no difference which of them is used. -/
theorem settleWithin_congr {first second : Nat} {terms : List Term} (hfirst : terms.length ≤ first)
    (hsecond : terms.length ≤ second) : settleWithin first terms = settleWithin second terms := by
  induction first generalizing second terms with
  | zero =>
    obtain rfl : terms = [] := List.length_eq_zero_iff.mp (by omega)
    cases second <;> rfl
  | succ first ih =>
    cases second with
    | zero =>
      obtain rfl : terms = [] := List.length_eq_zero_iff.mp (by omega)
      rfl
    | succ second =>
      unfold settleWithin
      split
      · exact ih (by omega) (by omega)
      · rfl

/-- A sequence that a pass shortens settles as the result of the pass does. -/
theorem settle_of_length_lt {terms : List Term} (h : (pass terms).length < terms.length) :
    settle terms = settle (pass terms) := by
  obtain ⟨bound, hbound⟩ : ∃ bound, terms.length = bound + 1 := ⟨terms.length - 1, by omega⟩
  have hstep : settleWithin (bound + 1) terms = settleWithin bound (pass terms) := if_pos h
  rw [settle, hbound, hstep]
  exact settleWithin_congr (by omega) (Nat.le_refl _)

/-- A sequence that a pass does not shorten is settled. -/
theorem settle_of_length_eq {terms : List Term} (h : (pass terms).length = terms.length) :
    settle terms = terms := by
  unfold settle
  cases hlength : terms.length with
  | zero => rfl
  | succ bound => exact if_neg (by omega)

/-- A sequence is settled or a pass shortens it. -/
theorem settle_eq_self_or_length_pass_lt (terms : List Term) :
    settle terms = terms ∨ (pass terms).length < terms.length := by
  rcases Nat.eq_or_lt_of_le (length_pass_le terms) with heq | hlt
  · exact Or.inl (settle_of_length_eq heq)
  · exact Or.inr hlt

/-- A pass shortens no sequence of a single term. -/
theorem one_lt_length_of_length_pass_lt {terms : List Term}
    (h : (pass terms).length < terms.length) : 1 < terms.length := by
  match terms with
  | [] => exact absurd h (Nat.lt_irrefl _)
  | [term] => cases term <;> exact absurd h (Nat.lt_irrefl _)
  | _ :: _ :: _ => exact Nat.succ_lt_succ (Nat.succ_pos _)

@[simp] theorem settle_singleton (term : Term) : settle [term] = [term] :=
  settle_of_length_eq (by cases term <;> rfl)

/-- A single truth value reduces to itself. -/
@[simp] theorem reduceTerms_truth (value : Bool) : reduceTerms [.truth value] = value := by
  rw [reduceTerms, settle_singleton]
  cases value <;> rfl

/-- Terms that settle as one truth value reduce to it. -/
theorem reduceTerms_of_settle {terms : List Term} {value : Bool}
    (h : settle terms = [.truth value]) : reduceTerms terms = value := by
  rw [reduceTerms, h]
  cases value <;> rfl

/-- Assumes: a property that every pass keeps. The settled sequence has it if the sequence had
it. -/
theorem settle_induction (property : List Term → Prop)
    (hpass : ∀ terms, property terms → property (pass terms)) {terms : List Term}
    (h : property terms) : property (settle terms) := by
  have hwithin : ∀ bound terms, property terms → property (settleWithin bound terms) := by
    intro bound
    induction bound with
    | zero => exact fun terms hterms ↦ hterms
    | succ bound ih =>
      intro terms hterms
      unfold settleWithin
      split
      · exact ih _ (hpass _ hterms)
      · exact hterms
  exact hwithin _ _ h

/-! ### The stance is kept -/

/-- A pass does not change where the terms lead from any stance. -/
theorem through?_pass (stance : Stance) (terms : List Term) :
    stance.through? ((pass terms).map Term.symbol) = stance.through? (terms.map Term.symbol) := by
  fun_induction pass terms generalizing stance with
  | case1 value rest ih =>
    cases stance <;> simp [Term.symbol, Stance.after?, ih]
  | case2 left joint right rest ih =>
    cases stance <;> simp [Term.symbol, Stance.after?, ih]
  | case3 term rest _ _ ih =>
    simp [ih]
  | case4 => rfl

theorem wellStructured_pass (terms : List Term) :
    WellStructured ((pass terms).map Term.symbol) ↔ WellStructured (terms.map Term.symbol) := by
  rw [WellStructured, through?_pass, WellStructured]

/-- The settled sequence is well structured exactly when the sequence is. -/
theorem wellStructured_settle (terms : List Term) :
    WellStructured ((settle terms).map Term.symbol) ↔ WellStructured (terms.map Term.symbol) := by
  refine settle_induction (fun other ↦ WellStructured (other.map Term.symbol) ↔
    WellStructured (terms.map Term.symbol)) (fun other hother ↦ ?_) Iff.rfl
  rw [wellStructured_pass]
  exact hother

/-- A sequence without unresolved terms. -/
def IsResolved (terms : List Term) : Prop := Term.unresolved ∉ terms

theorem isResolved_cons (term : Term) (terms : List Term) :
    IsResolved (term :: terms) ↔ term ≠ .unresolved ∧ IsResolved terms := by
  simp [IsResolved, eq_comm]

theorem isResolved_append (front back : List Term) :
    IsResolved (front ++ back) ↔ IsResolved front ∧ IsResolved back := by
  simp [IsResolved]

theorem isResolved_pass {terms : List Term} (h : IsResolved terms) : IsResolved (pass terms) := by
  unfold IsResolved at h ⊢
  fun_induction pass terms <;> simp_all

/-! ### Progress -/

/-- Somewhere in the sequence a truth value stands alone in brackets, or two truth values stand
around a connective. -/
inductive HasRedex : List Term → Prop where
  | bracketed (value : Bool) (rest : List Term) :
      HasRedex (.opening :: .truth value :: .closing :: rest)
  | joined (left : Bool) (joint : Connective) (right : Bool) (rest : List Term) :
      HasRedex (.truth left :: .connective joint :: .truth right :: rest)
  | later (term : Term) {rest : List Term} (h : HasRedex rest) : HasRedex (term :: rest)

/-- A pass shortens a sequence that has a place to fold. -/
theorem length_pass_lt {terms : List Term} (h : HasRedex terms) :
    (pass terms).length < terms.length := by
  fun_induction pass terms with
  | case1 value rest ih =>
    have hle := length_pass_le rest
    simp only [List.length_cons]
    omega
  | case2 left joint right rest ih =>
    have hle := length_pass_le rest
    simp only [List.length_cons]
    omega
  | case3 term rest hbracketed hjoined ih =>
    cases h with
    | bracketed value rest => exact (hbracketed value rest rfl rfl).elim
    | joined left joint right rest => exact (hjoined left joint right rest rfl rfl).elim
    | later _ h => exact Nat.succ_lt_succ (ih h)
  | case4 => cases h

/-- Assumes: resolved terms after an opening bracket that stand in turn and close all brackets. The
last bracket that opens is followed by a truth value, and this one by a closing bracket or by a
connective and another truth value, so there is a place to fold. -/
theorem hasRedex_of_opening (depth : Nat) {terms : List Term} (hresolved : IsResolved terms)
    (h : (Stance.wanting (depth + 1)).through? (terms.map Term.symbol) = some (.satisfied 0)) :
    HasRedex (.opening :: terms) := by
  match terms with
  | [] => simp at h
  | .unresolved :: _ => exact (hresolved List.mem_cons_self).elim
  | .closing :: _ | .connective _ :: _ => simp [Term.symbol, Stance.after?] at h
  | .opening :: rest =>
    have hrest : IsResolved rest := fun hmem ↦ hresolved (List.mem_cons_of_mem _ hmem)
    exact .later _ (hasRedex_of_opening (depth + 1) hrest
      (by simpa [Term.symbol, Stance.after?] using h))
  | .truth value :: [] | .truth value :: .opening :: _ | .truth value :: .truth _ :: _
  | .truth value :: .unresolved :: _ | .truth value :: .connective _ :: []
  | .truth value :: .connective _ :: .closing :: _
  | .truth value :: .connective _ :: .connective _ :: _ =>
    simp [Term.symbol, Stance.after?] at h
  | .truth value :: .closing :: rest => exact .bracketed value rest
  | .truth left :: .connective joint :: .truth right :: rest =>
    exact .later _ (.joined left joint right rest)
  | .truth _ :: .connective _ :: .unresolved :: _ => exact (hresolved (by simp)).elim
  | .truth _ :: .connective _ :: .opening :: rest =>
    have hrest : IsResolved rest := fun hmem ↦ hresolved (by simp [hmem])
    exact .later _ (.later _ (.later _ (hasRedex_of_opening (depth + 1) hrest
      (by simpa [Term.symbol, Stance.after?] using h))))

/-- Assumes: well-structured resolved terms, more than one. A pass can fold some of them. -/
theorem hasRedex_of_wellStructured {terms : List Term} (hresolved : IsResolved terms)
    (h : WellStructured (terms.map Term.symbol)) (hlength : 1 < terms.length) :
    HasRedex terms := by
  unfold WellStructured at h
  match terms with
  | .unresolved :: _ => exact (hresolved List.mem_cons_self).elim
  | .closing :: _ | .connective _ :: _ => simp [Term.symbol, Stance.after?] at h
  | .opening :: rest =>
    exact hasRedex_of_opening 0 (fun hmem ↦ hresolved (List.mem_cons_of_mem _ hmem))
      (by simpa [Term.symbol, Stance.after?] using h)
  | .truth _ :: .opening :: _ | .truth _ :: .truth _ :: _ | .truth _ :: .unresolved :: _
  | .truth _ :: .closing :: _ | .truth _ :: .connective _ :: []
  | .truth _ :: .connective _ :: .closing :: _
  | .truth _ :: .connective _ :: .connective _ :: _ =>
    simp [Term.symbol, Stance.after?] at h
  | .truth left :: .connective joint :: .truth right :: rest => exact .joined left joint right rest
  | .truth _ :: .connective _ :: .unresolved :: _ => exact (hresolved (by simp)).elim
  | .truth _ :: .connective _ :: .opening :: rest =>
    exact .later _ (.later _ (hasRedex_of_opening 0 (fun hmem ↦ hresolved (by simp [hmem]))
      (by simpa [Term.symbol, Stance.after?] using h)))

/-! ### Where passes end -/

/-- Well-structured resolved terms settle as one truth value. -/
theorem exists_settle_eq_truth {terms : List Term} (hresolved : IsResolved terms)
    (h : WellStructured (terms.map Term.symbol)) : ∃ value, settle terms = [.truth value] := by
  have hsettled : IsResolved (settle terms) :=
    settle_induction IsResolved (fun _ ↦ isResolved_pass) hresolved
  have hstructured := (wellStructured_settle terms).mpr h
  have hshort : ¬ 1 < (settle terms).length := by
    intro hlong
    have hlt := length_pass_lt (hasRedex_of_wellStructured hsettled hstructured hlong)
    rw [length_pass_settle] at hlt
    exact Nat.lt_irrefl _ hlt
  match hterms : settle terms with
  | [] => simp [hterms, WellStructured] at hstructured
  | _ :: _ :: _ => simp [hterms] at hshort
  | [.truth value] => exact ⟨value, rfl⟩
  | [.unresolved] => simp [hterms, IsResolved] at hsettled
  | [.opening] | [.closing] | [.connective _] =>
    simp [hterms, WellStructured, Term.symbol, Stance.after?] at hstructured

/-- Terms that settle as one truth value are well structured, whatever else is among them. -/
theorem wellStructured_of_settle {terms : List Term} {value : Bool}
    (h : settle terms = [.truth value]) : WellStructured (terms.map Term.symbol) := by
  rw [← wellStructured_settle, h]
  rfl

/-- An unresolved term outlives every pass. -/
theorem unresolved_mem_pass {terms : List Term} (h : Term.unresolved ∈ terms) :
    Term.unresolved ∈ pass terms := by
  fun_induction pass terms with
  | case1 value rest ih => simp_all
  | case2 left joint right rest ih => simp_all
  | case3 term rest _ _ ih =>
    rcases List.mem_cons.mp h with rfl | h
    · exact List.mem_cons_self
    · exact List.mem_cons_of_mem _ (ih h)
  | case4 => exact h

/-- Passes end in a single truth value exactly on the well-structured sequences without unresolved
terms. -/
theorem settle_eq_truth_iff (terms : List Term) :
    (∃ value, settle terms = [.truth value]) ↔
      IsResolved terms ∧ WellStructured (terms.map Term.symbol) := by
  constructor
  · rintro ⟨value, h⟩
    refine ⟨fun hmem ↦ ?_, wellStructured_of_settle h⟩
    have hsettled := settle_induction (Term.unresolved ∈ ·) (fun _ ↦ unresolved_mem_pass) hmem
    simp [h] at hsettled
  · rintro ⟨hresolved, hstructured⟩
    exact exists_settle_eq_truth hresolved hstructured

end DocumentRules.Condition
