import DocumentRules.Proofs.Condition.Agreement
import DocumentRules.Proofs.Condition.Surroundings

/-!
# Replacing a group by what it reduces to

How a condition reduces depends on a group in it only through the value of the group and the pass in
which the value appears. So the group can be replaced by the value in as many brackets as make it
appear in the same pass. Without the brackets it can be replaced if no chain around the group, from
the one it stands in to that of the whole condition, has both connectives. `reduce_group` says both.

The second is not so in general (`reduce_literal_ne_reduce_group`). There is no precedence: a pass
joins neighbours as soon as they meet, and where both connectives stand in a chain, a group that
takes a pass to collapse is joined to what follows only after this has been joined to what follows
it.
-/

set_option autoImplicit false
set_option relaxedAutoImplicit false

namespace DocumentRules.Condition

/-- The terms of a condition, none of its comparisons answered. -/
def unanswered (condition : Condition) : List Term :=
  condition.map (Token.term fun _ ↦ .unresolved)

theorem reduce_eq_reduceTerms (condition : Condition) :
    reduce condition = reduceTerms (unanswered condition) := rfl

theorem unanswered_append (front back : Condition) :
    unanswered (front ++ back) = unanswered front ++ unanswered back :=
  List.map_append

theorem map_symbol_unanswered (condition : Condition) :
    (unanswered condition).map Term.symbol = condition.map Token.symbol := by
  rw [unanswered, List.map_map]
  exact List.map_congr_left fun token _ ↦ by cases token <;> rfl

/-- The terms of a condition of truth values, connectives and brackets are resolved. -/
theorem isResolved_unanswered {condition : Condition} (hcomparisons : condition.comparisons = [])
    (herror : condition.hasError = false) : IsResolved (unanswered condition) := by
  intro hmem
  obtain ⟨token, htoken, heq⟩ := List.mem_map.mp hmem
  cases token with
  | comparison statement =>
    have hstatement : statement ∈ condition.comparisons := List.mem_filterMap.mpr ⟨_, htoken, rfl⟩
    rw [hcomparisons] at hstatement
    exact nomatch hstatement
  | error message => exact List.any_eq_false.mp herror _ htoken rfl
  | connective _ | opening | closing | literal _ => exact nomatch heq

/-! ### Conditions with a group -/

/-- A condition with a group in it. -/
def withGroup (front body back : Condition) : Condition :=
  front ++ .opening :: (body ++ .closing :: back)

theorem unanswered_withGroup (front body back : Condition) :
    unanswered (withGroup front body back) =
      unanswered front ++ .opening :: (unanswered body ++ .closing :: unanswered back) := by
  simp [unanswered, withGroup, Token.term]

/-- A truth value in nested brackets. -/
def literalIn : Nat → Bool → Condition
  | 0, value => [.literal value]
  | depth + 1, value => .opening :: (literalIn depth value ++ [.closing])

theorem unanswered_literalIn (depth : Nat) (value : Bool) :
    unanswered (literalIn depth value) = bracketed depth value := by
  induction depth with
  | zero => rfl
  | succ depth ih => simp [literalIn, bracketed, ← ih, unanswered, Token.term]

/-- Assumes: an accepted condition of truth values, connectives and brackets, and a bracket in it
with its match. What stands between the two settles as what it reduces to, and what stands around
them leads to an operand and on from it to the end. -/
theorem settle_body_of_checkStructure {front body back : Condition}
    (hcomparisons : (withGroup front body back).comparisons = [])
    (herror : (withGroup front body back).hasError = false)
    (haccepted : checkStructure (withGroup front body back) = .ok ())
    (hbody : IsMatched (body.map Token.symbol)) :
    settle (unanswered body) = [.truth (reduce body)] ∧
      IsResolved (unanswered front) ∧ IsResolved (unanswered back) ∧
      ∃ depth, (Stance.wanting 0).through? ((unanswered front).map Term.symbol) =
          some (.wanting depth) ∧
        (Stance.satisfied depth).through? ((unanswered back).map Term.symbol) =
          some (.satisfied 0) := by
  have hresolved := isResolved_unanswered hcomparisons herror
  simp only [unanswered_withGroup, isResolved_append, isResolved_cons] at hresolved
  obtain ⟨hfront, -, hinner, -, hback⟩ := hresolved
  have hne : withGroup front body back ≠ [] := by simp [withGroup]
  have hstructured := (ne_nil_and_checkStructure_iff _).mp ⟨hne, haccepted⟩
  rw [withGroup, List.map_append, List.map_cons, List.map_append, List.map_cons] at hstructured
  obtain ⟨depth, hleads, hinside, hends⟩ := wellStructured_group hstructured hbody
  rw [← map_symbol_unanswered] at hleads hinside hends
  obtain ⟨value, hvalue⟩ := exists_settle_eq_truth hinner hinside
  obtain rfl : reduce body = value := reduceTerms_of_settle hvalue
  exact ⟨hvalue, hfront, hback, depth, hleads, hends⟩

/-- In an accepted condition of truth values, connectives and brackets, a group can be replaced by
what it reduces to in as many brackets as make this appear in the same pass, and by what it reduces
to without brackets if no chain around the group, from the one it stands in to that of the whole
condition, has both connectives. -/
theorem reduce_group {front body back : Condition}
    (hcomparisons : (withGroup front body back).comparisons = [])
    (herror : (withGroup front body back).hasError = false)
    (haccepted : checkStructure (withGroup front body back) = .ok ())
    (hbody : IsMatched (body.map Token.symbol)) :
    reduce (withGroup front body back) =
        reduce (front ++ literalIn (passCount (unanswered body) + 1) (reduce body) ++ back) ∧
      ((∀ chain ∈ chainsAround (unanswered front) (unanswered back), ¬ IsMixed chain) →
        reduce (withGroup front body back) = reduce (front ++ .literal (reduce body) :: back)) := by
  obtain ⟨hvalue, hfront, hback, depth, hleads, hends⟩ :=
    settle_body_of_checkStructure hcomparisons herror haccepted hbody
  refine ⟨?_, fun hunmixed ↦ ?_⟩
  · have hterms : unanswered (front ++ literalIn (passCount (unanswered body) + 1) (reduce body) ++
        back) = unanswered front ++ bracketed (passCount (unanswered body) + 1) (reduce body) ++
          unanswered back := by
      rw [unanswered_append, unanswered_append, unanswered_literalIn]
    rw [reduce_eq_reduceTerms, reduce_eq_reduceTerms, unanswered_withGroup, hterms, reduceTerms,
      reduceTerms, settle_group hvalue]
  · have hterms : unanswered (front ++ .literal (reduce body) :: back) =
        unanswered front ++ .truth (reduce body) :: unanswered back := unanswered_append ..
    rw [reduce_eq_reduceTerms, reduce_eq_reduceTerms, unanswered_withGroup, hterms, reduceTerms,
      reduceTerms, settle_group_of_not_isMixed hfront hback hleads hends hunmixed hvalue]

/-- A mixed chain that takes two passes is a group in the brackets of another group. No chain around
it is mixed, though a chain beside it is. -/
theorem reduce_group_nested :
    let front : Condition := [.opening, .literal false, .connective .or, .literal true,
      .connective .and, .literal false, .closing, .connective .or, .opening, .literal true,
      .connective .and]
    let body : Condition := [.literal false, .connective .or, .literal true, .connective .and,
      .opening, .literal true, .closing]
    let back : Condition := [.closing, .connective .or, .literal false]
    reduce body = true ∧ passCount (unanswered body) = 2 ∧
      chainsAround (unanswered front) (unanswered back) = [[.and], [.or, .or]] ∧
      reduce (withGroup front body back) = reduce (front ++ literalIn 3 true ++ back) ∧
      reduce (withGroup front body back) = reduce (front ++ .literal true :: back) := by
  intro front body back
  obtain ⟨hbracketed, hbare⟩ := @reduce_group front body back rfl rfl rfl (by decide)
  exact ⟨by decide, by decide, by decide, hbracketed, hbare (by decide)⟩

/-- A truth value in brackets at the head of a mixed chain cannot be replaced by the truth value: in
the first pass the brackets hold it back, and what follows is joined without it. -/
theorem reduce_literal_ne_reduce_group :
    let body : Condition := [.literal true]
    let back : Condition :=
      [.connective .or, .literal true, .connective .and, .literal false]
    (withGroup [] body back).comparisons = [] ∧ (withGroup [] body back).hasError = false ∧
      checkStructure (withGroup [] body back) = .ok () ∧ IsMatched (body.map Token.symbol) ∧
      reduce (withGroup [] body back) = true ∧
      reduce ([] ++ .literal (reduce body) :: back) = false := by
  decide

end DocumentRules.Condition
