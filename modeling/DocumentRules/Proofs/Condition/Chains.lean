import DocumentRules.Proofs.Condition.Groups

/-!
# Chains with one connective

A chain is a row of operands, each a truth value or a group, with connectives between them. In which
order a pass joins its operands depends on when its groups collapse. This makes no difference as
long as all its connectives are the same: whatever a pass does to such a chain, it leaves a chain
with the same value (`Chain.pass_chain`), so the chain settles as what the connective makes of the
values of its operands (`Chain.settle_eq`).
-/

set_option autoImplicit false
set_option relaxedAutoImplicit false

namespace DocumentRules.Condition

theorem Connective.apply_assoc (joint : Connective) (first second third : Bool) :
    joint.apply (joint.apply first second) third =
      joint.apply first (joint.apply second third) := by
  cases joint with
  | and => exact Bool.and_assoc ..
  | or => exact Bool.or_assoc ..

/-! ### Operands -/

/-- Terms that stand for a truth value at the place of an operand: the value itself, or in brackets
terms that settle as the value. -/
inductive Operand : List Term → Bool → Prop where
  | truth (value : Bool) : Operand [.truth value] value
  | group {body : List Term} {value : Bool} (h : settle body = [.truth value]) :
      Operand (.opening :: (body ++ [.closing])) value

namespace Operand

variable {terms : List Term} {value : Bool}

theorem settle_eq (h : Operand terms value) : settle terms = [.truth value] := by
  cases h with
  | truth => exact settle_singleton _
  | group h => exact settle_group_alone h

theorem isResolved (h : Operand terms value) : IsResolved terms :=
  ((settle_eq_truth_iff terms).mp ⟨value, h.settle_eq⟩).1

/-- An operand leads from a stance at which one is due to a stance at which none is. -/
theorem through?_eq (h : Operand terms value) :
    (Stance.wanting 0).through? (terms.map Term.symbol) = some (.satisfied 0) :=
  wellStructured_of_settle h.settle_eq

/-- Resolved and well-structured terms in brackets are an operand. -/
theorem exists_group (hresolved : IsResolved terms)
    (h : (Stance.wanting 0).through? (terms.map Term.symbol) = some (.satisfied 0)) :
    ∃ inner, Operand (.opening :: (terms ++ [.closing])) inner := by
  obtain ⟨inner, hinner⟩ := exists_settle_eq_truth hresolved h
  exact ⟨inner, .group hinner⟩

/-- Assumes: terms in brackets that are an operand. A pass changes them as if they stood alone, and
leaves an operand with the same value. -/
theorem pass_group_append {body : List Term} (h : settle body = [.truth value]) :
    ∃ next, Operand next value ∧ ∀ rest,
      pass (.opening :: (body ++ [.closing]) ++ rest) = next ++ pass rest := by
  rcases settle_eq_self_or_length_pass_lt body with hsettled | hlt
  · obtain rfl : body = [.truth value] := hsettled.symm.trans h
    exact ⟨_, .truth value, fun rest ↦ rfl⟩
  · refine ⟨_, .group (settle_of_length_lt hlt ▸ h), fun rest ↦ ?_⟩
    rw [List.cons_append, List.append_assoc]
    refine (pass_group (wellStructured_of_settle h) (one_lt_length_of_length_pass_lt hlt) []
      rest).trans ?_
    rw [List.cons_append, List.append_assoc]
    rfl

end Operand

/-! ### Chains -/

/-- Operands with one and the same connective between them, and what it makes of their values. -/
inductive Chain (joint : Connective) : List Term → Bool → Prop where
  | last {operand : List Term} {value : Bool} (h : Operand operand value) :
      Chain joint operand value
  | join {operand rest : List Term} {value others : Bool} (h : Operand operand value)
      (hrest : Chain joint rest others) :
      Chain joint (operand ++ .connective joint :: rest) (joint.apply value others)

namespace Chain

variable {joint : Connective} {terms : List Term} {value : Bool}

/-- A chain goes on behind its last operand. -/
theorem append_operand (h : Chain joint terms value) {operand : List Term} {other : Bool}
    (hoperand : Operand operand other) :
    Chain joint (terms ++ .connective joint :: operand) (joint.apply value other) := by
  induction h with
  | last h => exact .join h (.last hoperand)
  | join h _ ih =>
    rw [List.append_assoc, List.cons_append, Connective.apply_assoc]
    exact .join h ih

theorem isResolved (h : Chain joint terms value) : IsResolved terms := by
  induction h with
  | last h => exact h.isResolved
  | join h _ ih =>
    rw [isResolved_append, isResolved_cons]
    exact ⟨h.isResolved, by simp, ih⟩

theorem wellStructured (h : Chain joint terms value) : WellStructured (terms.map Term.symbol) := by
  induction h with
  | last h => exact h.through?_eq
  | join h _ ih =>
    rw [WellStructured, List.map_append, Stance.through?_append, h.through?_eq]
    exact ih

/-- A pass keeps a chain and its value. -/
theorem pass_chain (h : Chain joint terms value) : Chain joint (pass terms) value := by
  induction hlength : terms.length using Nat.strongRecOn generalizing terms value with
  | _ length ih =>
    cases h with
    | last h =>
      cases h with
      | truth => exact .last (.truth value)
      | group h =>
        obtain ⟨next, hnext, hpass⟩ := Operand.pass_group_append h
        have halone := hpass []
        rw [List.append_nil] at halone
        rw [halone]
        simpa [pass] using Chain.last hnext
    | @join operand rest first others h hrest =>
      cases h with
      | group h =>
        obtain ⟨next, hnext, hpass⟩ := Operand.pass_group_append h
        rw [hpass]
        exact .join hnext (ih _ (by simp at hlength; omega) hrest rfl)
      | truth =>
        -- What a truth value is joined with depends on what the next operand is.
        cases hrest with
        | last hlast =>
          cases hlast with
          | truth => exact .last (.truth _)
          | group hlast =>
            exact .join (.truth first)
              (ih _ (by simp at hlength ⊢; omega) (.last (.group hlast)) rfl)
        | @join operand' rest' second others' hsecond hrest' =>
          cases hsecond with
          | truth =>
            rw [← Connective.apply_assoc]
            exact .join (.truth _) (ih _ (by simp at hlength; omega) hrest' rfl)
          | group hsecond =>
            exact .join (.truth first)
              (ih _ (by simp at hlength ⊢; omega) (.join (.group hsecond) hrest') rfl)

/-- A chain that is a truth value has this value. -/
theorem eq_of_singleton {final : Bool} (h : Chain joint [.truth final] value) : value = final := by
  generalize hterms : [Term.truth final] = terms at h
  cases h with
  | last h =>
    cases h with
    | truth => exact (Term.truth.inj (List.singleton_inj.mp hterms)).symm
    | group => exact nomatch hterms
  | join h => simp [List.singleton_eq_append_iff] at hterms

/-- A chain settles as its value. -/
theorem settle_eq (h : Chain joint terms value) : settle terms = [.truth value] := by
  obtain ⟨final, hfinal⟩ := exists_settle_eq_truth h.isResolved h.wellStructured
  have hsettled : Chain joint (settle terms) value :=
    settle_induction (Chain joint · value) (fun _ ↦ pass_chain) h
  rw [hfinal] at hsettled
  rw [hfinal, hsettled.eq_of_singleton]

end Chain

/-! ### A chain in brackets behind a truth value -/

/-- A truth value, a connective and a chain in brackets. -/
def joinBracketed (value : Bool) (joint : Connective) (terms : List Term) : List Term :=
  .truth value :: .connective joint :: .opening :: (terms ++ [.closing])

/-- Assumes: terms that settle as one truth value. In brackets behind a truth value and a connective
they settle as what the connective makes of the two. -/
theorem settle_joinBracketed {terms : List Term} {inner : Bool}
    (h : settle terms = [.truth inner]) (value : Bool) (joint : Connective) :
    settle (joinBracketed value joint terms) = [.truth (joint.apply value inner)] :=
  (Chain.join (.truth value) (.last (.group h))).settle_eq

/-- Assumes: terms that settle as one truth value. They reduce to what the connective makes of the
truth value in front and what they reduce to alone. -/
theorem reduceTerms_joinBracketed {terms : List Term} {inner : Bool}
    (h : settle terms = [.truth inner]) (value : Bool) (joint : Connective) :
    reduceTerms (joinBracketed value joint terms) = joint.apply value (reduceTerms terms) := by
  rw [reduceTerms_of_settle h, reduceTerms_of_settle (settle_joinBracketed h value joint)]

end DocumentRules.Condition
