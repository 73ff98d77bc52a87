import DocumentRules.Proofs.Condition.Passes

/-!
# A pass over a group

Only a truth value that stands alone in brackets is folded together with them. As long as a group
has more than one term, a pass changes the terms between its brackets as it would change them alone,
and the terms on either side of it as if these ended there (`pass_group`).
-/

set_option autoImplicit false
set_option relaxedAutoImplicit false

namespace DocumentRules.Condition

/-- Assumes: a bracket with some terms before it, and unless it opens they do not end in an opening
bracket and a truth value. It is not folded together with any of them. -/
theorem pass_append_bracket {terms : List Term} {bracket : Term}
    (hbracket : bracket = .opening ∨ bracket = .closing)
    (h : bracket = .closing → ∀ front value, terms ≠ front ++ [.opening, .truth value])
    (rest : List Term) :
    pass (terms ++ bracket :: rest) = pass terms ++ pass (bracket :: rest) := by
  fun_induction pass terms with
  | case1 value tail ih =>
    have htail := ih fun hclosing front other heq ↦
      h hclosing (.opening :: .truth value :: .closing :: front) other (by rw [heq]; rfl)
    simp only [List.cons_append, pass, htail]
  | case2 left joint right tail ih =>
    have htail := ih fun hclosing front other heq ↦
      h hclosing (.truth left :: .connective joint :: .truth right :: front) other
        (by rw [heq]; rfl)
    simp only [List.cons_append, pass, htail]
  | case3 term tail hbracketed hjoined ih =>
    have htail := ih fun hclosing front other heq ↦
      h hclosing (term :: front) other (by rw [heq]; rfl)
    rw [List.cons_append, List.cons_append, ← htail]
    -- The term begins nothing that a pass folds, unless the bracket completes it.
    refine pass.eq_3 _ _ (fun value others hopening heq ↦ ?_)
      fun left joint right others hleft heq ↦ ?_
    · rcases tail with _ | ⟨second, _ | ⟨third, others'⟩⟩
      · obtain ⟨rfl, -⟩ := List.cons.inj heq
        simp at hbracket
      · simp only [List.cons_append, List.nil_append, List.cons.injEq] at heq
        obtain ⟨rfl, hclosing, -⟩ := heq
        exact h hclosing [] value (by rw [hopening]; rfl)
      · simp only [List.cons_append, List.cons.injEq] at heq
        obtain ⟨hsecond, hthird, -⟩ := heq
        exact hbracketed value others' hopening (by rw [hsecond, hthird])
    · rcases tail with _ | ⟨second, _ | ⟨third, others'⟩⟩
      · obtain ⟨rfl, -⟩ := List.cons.inj heq
        simp at hbracket
      · simp only [List.cons_append, List.nil_append, List.cons.injEq] at heq
        obtain ⟨-, rfl, -⟩ := heq
        simp at hbracket
      · simp only [List.cons_append, List.cons.injEq] at heq
        obtain ⟨hsecond, hthird, -⟩ := heq
        exact hjoined left joint right others' hleft (by rw [hsecond, hthird])
  | case4 => rfl

/-- Terms that lead to a stance at which nothing is due do not end in an opening bracket and a truth
value. -/
theorem ne_append_of_wellStructured {terms : List Term}
    (h : WellStructured (terms.map Term.symbol)) (front : List Term) (value : Bool) :
    terms ≠ front ++ [.opening, .truth value] := by
  rintro rfl
  rw [WellStructured, List.map_append, Stance.through?_append] at h
  obtain ⟨stance, -, hlast⟩ := Option.bind_eq_some_iff.mp h
  cases stance <;> simp [Term.symbol, Stance.after?] at hlast

/-- Assumes: well-structured terms, more than one. A pass leaves the bracket before them alone. -/
theorem pass_opening_append {terms : List Term} (h : WellStructured (terms.map Term.symbol))
    (hlength : 1 < terms.length) (rest : List Term) :
    pass (.opening :: (terms ++ rest)) = .opening :: pass (terms ++ rest) := by
  refine pass.eq_3 _ _ (fun value others _ heq ↦ ?_) fun _ _ _ _ hleft _ ↦ nomatch hleft
  match terms with
  | [] | [_] => simp at hlength
  | first :: second :: tail =>
    simp only [List.cons_append, List.cons.injEq] at heq
    obtain ⟨rfl, rfl, -⟩ := heq
    simp [WellStructured, Term.symbol, Stance.after?] at h

/-- Assumes: well-structured terms, more than one. A pass over a group of them changes the group,
what stands before it and what stands behind it as it would change each alone. -/
theorem pass_group {body : List Term} (h : WellStructured (body.map Term.symbol))
    (hlength : 1 < body.length) (front back : List Term) :
    pass (front ++ .opening :: (body ++ .closing :: back)) =
      pass front ++ .opening :: (pass body ++ .closing :: pass back) := by
  have hclosing := pass_append_bracket (.inr rfl) (fun _ ↦ ne_append_of_wellStructured h) back
  rw [pass_append_bracket (.inl rfl) (by simp), pass_opening_append h hlength, hclosing]
  rfl

end DocumentRules.Condition
