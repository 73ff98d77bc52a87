import DocumentRules.Proofs.Condition.Passes
import Mathlib.Data.List.Forall2

/-!
# Reduction is monotone

Neither connective ever turns a larger truth value into a smaller one, and which neighbours a pass
folds does not depend on truth values. Two sequences of terms that differ only in that some truth
values of the first are false where those of the second are true (`Term.Below`) therefore go through
passes of the same shape (`pass_below`) and settle in the same order (`settle_below`), and what
reduces to true still does when more answers are true (`reduceTerms_of_below`).
-/

set_option autoImplicit false
set_option relaxedAutoImplicit false

namespace DocumentRules.Condition

/-- Two terms that are the same but for a truth value, which may be larger in the second. -/
inductive Term.Below : Term → Term → Prop where
  | truth {lower upper : Bool} (h : lower ≤ upper) : Below (.truth lower) (.truth upper)
  | connective (joint : Connective) : Below (.connective joint) (.connective joint)
  | opening : Below .opening .opening
  | closing : Below .closing .closing
  | unresolved : Below .unresolved .unresolved

theorem Connective.apply_mono (joint : Connective) {left right left' right' : Bool}
    (hleft : left ≤ left') (hright : right ≤ right') :
    joint.apply left right ≤ joint.apply left' right' := by
  cases joint <;> revert hleft hright <;> revert left right left' right' <;> decide

/-- Assumes: terms that differ in truth values alone. A pass folds the same neighbours in both, and
the results again differ in truth values alone. -/
theorem pass_below {lower upper : List Term} (h : List.Forall₂ Term.Below lower upper) :
    List.Forall₂ Term.Below (pass lower) (pass upper) := by
  fun_induction pass lower generalizing upper with
  | case1 value rest ih =>
    rcases h with _ | ⟨⟨⟩, _ | ⟨⟨hvalue⟩, _ | ⟨⟨⟩, hrest⟩⟩⟩
    exact .cons (.truth hvalue) (ih hrest)
  | case2 left joint right rest ih =>
    rcases h with _ | ⟨⟨hleft⟩, _ | ⟨⟨⟩, _ | ⟨⟨hright⟩, hrest⟩⟩⟩
    exact .cons (.truth (joint.apply_mono hleft hright)) (ih hrest)
  | case3 term rest hbracketed hjoined ih =>
    rcases h with _ | ⟨hterm, hrest⟩
    rename_i term' rest'
    have hpass : pass (term' :: rest') = term' :: pass rest' := by
      refine pass.eq_3 term' rest' (fun value tail hopening htail ↦ ?_)
        fun left joint right tail hleft htail ↦ ?_
      · subst hopening htail
        rcases hterm
        rcases hrest with _ | ⟨⟨⟩, _ | ⟨⟨⟩, hrest⟩⟩
        exact hbracketed _ _ rfl rfl
      · subst hleft htail
        rcases hterm
        rcases hrest with _ | ⟨⟨⟩, _ | ⟨⟨⟩, hrest⟩⟩
        exact hjoined _ _ _ _ rfl rfl
    rw [hpass]
    exact .cons hterm (ih hrest)
  | case4 =>
    cases h
    exact .nil

/-- Assumes: terms that differ in truth values alone. They settle after as many passes, and what is
left of them differs in truth values alone. -/
theorem settle_below {lower upper : List Term} (h : List.Forall₂ Term.Below lower upper) :
    List.Forall₂ Term.Below (settle lower) (settle upper) := by
  have hwithin : ∀ bound lower upper, List.Forall₂ Term.Below lower upper →
      List.Forall₂ Term.Below (settleWithin bound lower) (settleWithin bound upper) := by
    intro bound
    induction bound with
    | zero => exact fun lower upper hbelow ↦ hbelow
    | succ bound ih =>
      intro lower upper hbelow
      have hpass := pass_below hbelow
      unfold settleWithin
      rw [hbelow.length_eq, hpass.length_eq]
      split
      · exact ih _ _ hpass
      · exact hbelow
  unfold settle
  rw [h.length_eq]
  exact hwithin _ _ _ h

/-- Terms that reduce to true still do when some of their truth values become true. -/
theorem reduceTerms_of_below {lower upper : List Term}
    (h : List.Forall₂ Term.Below lower upper) (hlower : reduceTerms lower = true) :
    reduceTerms upper = true := by
  have hsettle : settle lower = [.truth true] := by simpa [reduceTerms] using hlower
  have hbelow := settle_below h
  rw [hsettle] at hbelow
  rw [reduceTerms]
  generalize settle upper = remaining at hbelow ⊢
  rcases hbelow with _ | ⟨@⟨_, value, hvalue⟩, ⟨⟩⟩
  obtain rfl : value = true := hvalue rfl
  rfl

/-- Assumes: answers to the comparisons of a condition, each of which stays true in others. The
terms of the condition differ in truth values alone, none of which is larger under the first. -/
theorem answered_below {lower upper : Comparison → Bool} {condition : Condition}
    (h : ∀ comparison ∈ condition.comparisons, lower comparison = true → upper comparison = true) :
    List.Forall₂ Term.Below
      (condition.map (Token.term fun statement ↦ .truth (lower statement)))
      (condition.map (Token.term fun statement ↦ .truth (upper statement))) := by
  rw [List.forall₂_map_left_iff, List.forall₂_map_right_iff]
  refine List.forall₂_same.mpr fun token htoken ↦ ?_
  cases token with
  | comparison statement => exact .truth (h statement (List.mem_filterMap.mpr ⟨_, htoken, rfl⟩))
  | connective joint => exact .connective joint
  | opening => exact .opening
  | closing => exact .closing
  | literal value => exact .truth (Bool.le_refl value)
  | error message => exact .unresolved

/-- A condition that is true under some answers is true when every comparison that was answered with
true still is. -/
theorem reduceWith_mono {lower upper : Comparison → Bool} {condition : Condition}
    (h : ∀ comparison, lower comparison = true → upper comparison = true)
    (hlower : reduceWith lower condition = true) : reduceWith upper condition = true :=
  reduceTerms_of_below (answered_below fun comparison _ ↦ h comparison) hlower

end DocumentRules.Condition
