import DocumentRules.Proofs.Condition.Brackets
import DocumentRules.Proofs.Condition.Matching
import Mathlib.Logic.Function.Iterate

/-!
# A group among other terms

A pass over a group and what stands around it changes all three as if each stood alone
(`pass_group`). What stands around a group therefore notices one thing of it besides its value: the
number of passes after which it collapses (`passCount`). `settle_group` says so. A group can be
replaced by its value in as many brackets as make the value appear in the same pass, whatever stands
around it.
-/

set_option autoImplicit false
set_option relaxedAutoImplicit false

namespace DocumentRules.Condition

/-! ### Counting passes -/

/-- The number of passes that shorten the sequence, among the first `bound`. -/
def passCountWithin : Nat → List Term → Nat
  | 0, _ => 0
  | bound + 1, terms =>
    if (pass terms).length < terms.length then passCountWithin bound (pass terms) + 1 else 0

/-- The number of passes that are made before the sequence is settled. -/
def passCount (terms : List Term) : Nat := passCountWithin terms.length terms

/-- Assumes: two bounds that are not below the number of terms. They count the same passes. -/
theorem passCountWithin_congr {first second : Nat} {terms : List Term}
    (hfirst : terms.length ≤ first) (hsecond : terms.length ≤ second) :
    passCountWithin first terms = passCountWithin second terms := by
  induction first generalizing second terms with
  | zero =>
    obtain rfl : terms = [] := List.length_eq_zero_iff.mp (by omega)
    cases second <;> rfl
  | succ first ih =>
    cases second with
    | zero =>
      obtain rfl : terms = [] := List.length_eq_zero_iff.mp (by omega)
      rfl
    | succ second =>
      unfold passCountWithin
      split
      · exact congrArg (· + 1) (ih (by omega) (by omega))
      · rfl

/-- A pass that shortens the sequence counts once. -/
theorem passCount_of_length_lt {terms : List Term} (h : (pass terms).length < terms.length) :
    passCount terms = passCount (pass terms) + 1 := by
  obtain ⟨bound, hbound⟩ : ∃ bound, terms.length = bound + 1 := ⟨terms.length - 1, by omega⟩
  have hstep : passCountWithin (bound + 1) terms = passCountWithin bound (pass terms) + 1 :=
    if_pos h
  rw [passCount, hbound, hstep, passCount]
  exact congrArg (· + 1) (passCountWithin_congr (by omega) (Nat.le_refl _))

/-- The passes that are counted are those that settle the sequence. -/
theorem settle_eq_iterate_pass (terms : List Term) :
    settle terms = pass^[passCount terms] terms := by
  have hwithin : ∀ bound terms, settleWithin bound terms =
      pass^[passCountWithin bound terms] terms := by
    intro bound
    induction bound with
    | zero => exact fun terms ↦ rfl
    | succ bound ih =>
      intro terms
      unfold settleWithin passCountWithin
      split
      · rw [Function.iterate_succ_apply]
        exact ih _
      · rfl
  exact hwithin _ _

/-! ### A truth value in brackets -/

/-- A truth value in nested brackets. -/
def bracketed : Nat → Bool → List Term
  | 0, value => [.truth value]
  | depth + 1, value => .opening :: (bracketed depth value ++ [.closing])

theorem wellStructured_map_symbol_bracketed (depth : Nat) (value : Bool) :
    WellStructured ((bracketed depth value).map Term.symbol) := by
  induction depth with
  | zero => rfl
  | succ depth ih => simpa [bracketed, Term.symbol] using wellStructured_bracketed ih

/-- A pass removes the innermost brackets. -/
theorem pass_bracketed (depth : Nat) (value : Bool) :
    pass (bracketed (depth + 1) value) = bracketed depth value := by
  induction depth with
  | zero => rfl
  | succ depth ih =>
    have hlength : 1 < (bracketed (depth + 1) value).length := by simp [bracketed]
    have hpass := pass_group (wellStructured_map_symbol_bracketed (depth + 1) value) hlength [] []
    rwa [ih] at hpass

theorem length_pass_bracketed_lt (depth : Nat) (value : Bool) :
    (pass (bracketed (depth + 1) value)).length < (bracketed (depth + 1) value).length := by
  rw [pass_bracketed]
  simp only [bracketed, List.length_cons, List.length_append]
  omega

/-- A truth value in brackets settles as the truth value. -/
theorem settle_bracketed (depth : Nat) (value : Bool) :
    settle (bracketed depth value) = [.truth value] := by
  induction depth with
  | zero => exact settle_singleton _
  | succ depth ih => rw [settle_of_length_lt (length_pass_bracketed_lt depth value),
      pass_bracketed, ih]

theorem append_bracketed_append (front back : List Term) (depth : Nat) (value : Bool) :
    front ++ bracketed (depth + 1) value ++ back =
      front ++ .opening :: (bracketed depth value ++ .closing :: back) := by
  simp [bracketed]

/-! ### What a group comes to -/

/-- Assumes: well-structured terms that a pass shortens. Among any other terms a group of them
settles as it does after a pass over all three. -/
theorem settle_group_of_length_lt {body : List Term} (h : WellStructured (body.map Term.symbol))
    (hlt : (pass body).length < body.length) (front back : List Term) :
    settle (front ++ .opening :: (body ++ .closing :: back)) =
      settle (pass front ++ .opening :: (pass body ++ .closing :: pass back)) := by
  have hpass := pass_group h (one_lt_length_of_length_pass_lt hlt) front back
  have hshorter : (pass (front ++ .opening :: (body ++ .closing :: back))).length <
      (front ++ .opening :: (body ++ .closing :: back)).length := by
    have hfront := length_pass_le front
    have hback := length_pass_le back
    rw [hpass]
    simp only [List.length_append, List.length_cons]
    omega
  rw [settle_of_length_lt hshorter, hpass]

/-- Assumes: terms that settle as one truth value. Among any other terms a group of them settles as
the truth value does in as many brackets as make it appear in the same pass. -/
theorem settle_group {body : List Term} {value : Bool} (h : settle body = [.truth value])
    (front back : List Term) :
    settle (front ++ .opening :: (body ++ .closing :: back)) =
      settle (front ++ bracketed (passCount body + 1) value ++ back) := by
  rw [append_bracketed_append]
  induction hlength : body.length using Nat.strongRecOn generalizing body front back with
  | _ length ih =>
    rcases settle_eq_self_or_length_pass_lt body with hsettled | hlt
    · obtain rfl : body = [.truth value] := hsettled.symm.trans h
      rfl
    · -- A pass takes both sides to the sides of the same equation for the shortened body.
      rw [passCount_of_length_lt hlt, settle_group_of_length_lt (wellStructured_of_settle h) hlt,
        settle_group_of_length_lt (wellStructured_map_symbol_bracketed _ _)
          (length_pass_bracketed_lt _ _), pass_bracketed]
      rw [settle_of_length_lt hlt] at h
      exact ih _ (hlength ▸ hlt) h (pass front) (pass back) rfl

/-- Terms that settle as one truth value do so in brackets. -/
theorem settle_group_alone {body : List Term} {value : Bool} (h : settle body = [.truth value]) :
    settle (.opening :: (body ++ [.closing])) = [.truth value] := by
  have hgroup := settle_group h [] []
  rwa [List.nil_append, List.nil_append, List.append_nil, settle_bracketed] at hgroup

end DocumentRules.Condition
