import DocumentRules.Proofs.Condition.Agreement
import DocumentRules.Proofs.Condition.Groups
import DocumentRules.Proofs.Condition.Monotone

/-!
# Reductions side by side

Which neighbours a pass folds depends on what sort of terms they are and not on their truth values.
So two reductions of a condition, under different truth values for its operands, keep in step
(`InStep`). After as many passes their sequences have the same shape, and they stall in the same
pass or not at all (`stall?`). Where no operand is true in the first reduction and false in the
second, no truth value in the second ever falls behind the first either, and what is true in the
first is true in the second.

This holds of every condition, whether or not the structure check accepts it
(`reductions_keep_in_step`).
-/

set_option autoImplicit false
set_option relaxedAutoImplicit false

namespace DocumentRules.Condition

/-! ### Stalling -/

/-- The pass in which the reduction of some terms stalls, the first one being pass 0: more than one
term is left by then, and the pass does not shorten the sequence. -/
def stall? (terms : List Term) : Option Nat :=
  if 1 < (settle terms).length then some (passCount terms) else none

/-- A sequence that a pass does not shorten takes no passes. -/
theorem passCount_of_length_eq {terms : List Term} (h : (pass terms).length = terms.length) :
    passCount terms = 0 := by
  unfold passCount
  cases hlength : terms.length with
  | zero => rfl
  | succ bound => exact if_neg (by omega)

/-- Every pass that is counted shortens the sequence. -/
theorem length_iterate_pass_lt {terms : List Term} {count : Nat} (h : count < passCount terms) :
    (pass^[count + 1] terms).length < (pass^[count] terms).length := by
  have hfirst : (pass terms).length < terms.length := by
    refine Nat.lt_of_le_of_ne (length_pass_le terms) fun heq ↦ ?_
    rw [passCount_of_length_eq heq] at h
    exact Nat.not_lt_zero _ h
  induction count generalizing terms with
  | zero => exact hfirst
  | succ count ih =>
    rw [passCount_of_length_lt hfirst] at h
    have hlater := Nat.lt_of_succ_lt_succ h
    refine ih hlater (Nat.lt_of_le_of_ne (length_pass_le _) fun heq ↦ ?_)
    rw [passCount_of_length_eq heq] at hlater
    exact Nat.not_lt_zero _ hlater

/-- A pass after the last one that is counted leaves the sequence as long as it is. -/
theorem length_iterate_pass_eq (terms : List Term) :
    (pass^[passCount terms + 1] terms).length = (pass^[passCount terms] terms).length := by
  rw [Function.iterate_succ_apply', ← settle_eq_iterate_pass]
  exact length_pass_settle terms

/-- A reduction stalls in the first pass that does not shorten its sequence, if more than one term
is left. -/
theorem stall?_eq_some_iff {terms : List Term} {count : Nat} :
    stall? terms = some count ↔
      (∀ earlier < count, (pass^[earlier + 1] terms).length < (pass^[earlier] terms).length) ∧
        (pass^[count + 1] terms).length = (pass^[count] terms).length ∧
        1 < (pass^[count] terms).length := by
  rw [stall?, Option.ite_none_right_eq_some, Option.some.injEq, settle_eq_iterate_pass]
  constructor
  · rintro ⟨hleft, rfl⟩
    exact ⟨fun earlier ↦ length_iterate_pass_lt, length_iterate_pass_eq terms, hleft⟩
  · rintro ⟨hearlier, hlast, hleft⟩
    have hcount : passCount terms = count := by
      rcases Nat.lt_trichotomy (passCount terms) count with hlt | heq | hgt
      · exact absurd (length_iterate_pass_eq terms) (Nat.ne_of_lt (hearlier _ hlt))
      · exact heq
      · exact absurd hlast (Nat.ne_of_lt (length_iterate_pass_lt hgt))
    rw [hcount]
    exact ⟨hleft, rfl⟩

/-! ### Two reductions -/

/-- Two reductions keep in step: after as many passes their terms differ in truth values alone, none
of which is larger in the first, they stall in the same pass or not at all, and the second is true
if the first is. -/
structure InStep (lower upper : List Term) : Prop where
  below_iterate_pass : ∀ count, List.Forall₂ Term.Below (pass^[count] lower) (pass^[count] upper)
  stall?_eq : stall? lower = stall? upper
  reduceTerms_of : reduceTerms lower = true → reduceTerms upper = true

section Below

variable {lower upper : List Term}

theorem iterate_pass_below (h : List.Forall₂ Term.Below lower upper) (count : Nat) :
    List.Forall₂ Term.Below (pass^[count] lower) (pass^[count] upper) := by
  induction count with
  | zero => exact h
  | succ count ih =>
    rw [Function.iterate_succ_apply', Function.iterate_succ_apply']
    exact pass_below ih

/-- Terms that differ in truth values alone stall in the same pass. -/
theorem stall?_eq_of_below (h : List.Forall₂ Term.Below lower upper) :
    stall? lower = stall? upper := by
  have hlength (count : Nat) : (pass^[count] lower).length = (pass^[count] upper).length :=
    (iterate_pass_below h count).length_eq
  refine Option.ext fun count ↦ ?_
  simp only [stall?_eq_some_iff, hlength]

theorem inStep_of_below (h : List.Forall₂ Term.Below lower upper) : InStep lower upper :=
  ⟨iterate_pass_below h, stall?_eq_of_below h, reduceTerms_of_below h⟩

end Below

/-! ### Conditions -/

/-- A larger truth value for the operand makes the term of a token larger, if it makes any
difference. -/
theorem Token.assign_below (token : Token) {lower upper : Bool} (h : lower ≤ upper) :
    Term.Below (token.assign lower) (token.assign upper) := by
  cases token with
  | comparison _ | literal _ => exact .truth h
  | connective joint => exact .connective joint
  | opening => exact .opening
  | closing => exact .closing
  | error _ => exact .unresolved

/-- Assumes: truth values for the operands of a condition, none of which is larger than another for
the same operand. The terms differ in truth values alone, none of which is larger. -/
theorem assign_below {lower upper : Nat → Bool} {condition : Condition}
    (h : ∀ position < condition.length, lower position = true → upper position = true) :
    List.Forall₂ Term.Below (assign lower condition) (assign upper condition) := by
  unfold assign
  refine List.forall₂_iff_get.mpr ⟨by simp, fun position hlower hupper ↦ ?_⟩
  simp only [List.get_eq_getElem, List.getElem_mapIdx]
  rw [List.length_mapIdx] at hlower
  exact Token.assign_below _ (h position hlower)

/-- Two reductions of a condition keep in step if no operand, comparison or literal, is true in the
first and false in the second. In particular they do so under two ways of answering comparisons, of
which the second answers with true whatever the first does. -/
theorem reductions_keep_in_step (condition : Condition) :
    (∀ lower upper : Nat → Bool,
      (∀ position < condition.length, lower position = true → upper position = true) →
      InStep (assign lower condition) (assign upper condition)) ∧
    ∀ lower upper : Comparison → Bool,
      (∀ comparison ∈ condition.comparisons,
        lower comparison = true → upper comparison = true) →
      InStep (condition.map (Token.term fun statement ↦ .truth (lower statement)))
          (condition.map (Token.term fun statement ↦ .truth (upper statement))) ∧
        (reduceWith lower condition = true → reduceWith upper condition = true) := by
  refine ⟨fun lower upper h ↦ inStep_of_below (assign_below h), fun lower upper h ↦ ?_⟩
  have hbelow := inStep_of_below (answered_below h)
  exact ⟨hbelow, hbelow.reduceTerms_of⟩

/-- A condition that is true whether or not its first operand is. With a bracket behind it that was
not opened its reduction stalls in pass 3, again whether or not its first operand is true. -/
theorem reductions_keep_in_step_stalling :
    let condition : Condition :=
      [.opening, Token.within "A", .connective .or, Token.within "B", .closing, .connective .and,
        .literal true]
    let lower (position : Nat) : Bool := position != 1
    let unbalanced : Condition := condition ++ [.closing]
    (reduceTerms (assign lower condition) = true ∧
        reduceTerms (assign (fun _ ↦ true) condition) = true) ∧
      stall? (assign lower unbalanced) = some 3 ∧
      stall? (assign (fun _ ↦ true) unbalanced) = some 3 := by
  intro condition lower unbalanced
  have hlower : reduceTerms (assign lower condition) = true := by decide +kernel
  have hstalls : stall? (assign lower unbalanced) = some 3 := by decide +kernel
  have htrue (other : Condition) := (reductions_keep_in_step other).1 lower (fun _ ↦ true)
    fun _ _ _ ↦ rfl
  exact ⟨⟨hlower, (htrue condition).reduceTerms_of hlower⟩, hstalls,
    (htrue unbalanced).stall?_eq ▸ hstalls⟩

end DocumentRules.Condition
