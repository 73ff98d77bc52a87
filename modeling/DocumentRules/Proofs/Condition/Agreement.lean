import DocumentRules.Proofs.Condition.Passes

/-!
# The structure check and reduction agree

The structure check looks at a condition before any comparison is answered, and reduction brings the
answers to one truth value. `settle_assign_iff_checkStructure` says that they agree on what a
condition is. Whatever truth values the comparisons and the literals of a condition without error
tokens take, passes end in one truth value exactly when the condition is not empty and the structure
check accepts it. So no accepted condition is ever stuck on the way, and a condition that reduces to
true has been accepted.
-/

set_option autoImplicit false
set_option relaxedAutoImplicit false

namespace DocumentRules.Condition

/-- The term of a token when an operand takes a truth value. -/
def Token.assign (truth : Bool) : Token → Term
  | .comparison _ | .literal _ => .truth truth
  | .connective joint => .connective joint
  | .opening => .opening
  | .closing => .closing
  | .error _ => .unresolved

/-- The terms of a condition when the operand at each position takes the truth value given for the
position. -/
def assign (truths : Nat → Bool) (condition : Condition) : List Term :=
  condition.mapIdx fun position token ↦ token.assign (truths position)

@[simp] theorem Token.symbol_assign (truth : Bool) (token : Token) :
    (token.assign truth).symbol = token.symbol := by
  cases token <;> rfl

theorem map_symbol_assign (truths : Nat → Bool) (condition : Condition) :
    (assign truths condition).map Term.symbol = condition.map Token.symbol := by
  unfold assign
  refine List.ext_getElem (by simp) fun position _ _ ↦ ?_
  simp

theorem map_symbol_answered (answer : Comparison → Bool) (condition : Condition) :
    (condition.map (Token.term fun statement ↦ .truth (answer statement))).map Term.symbol =
      condition.map Token.symbol := by
  simp

/-- Terms assigned to a condition without error tokens are all resolved. -/
theorem isResolved_assign {condition : Condition} (herror : condition.hasError = false)
    (truths : Nat → Bool) : IsResolved (assign truths condition) := by
  intro hmem
  obtain ⟨position, hposition, heq⟩ := List.mem_mapIdx.mp hmem
  have hreadable : (condition[position]).isError = false := by
    have hall := List.any_eq_false.mp herror _ (List.getElem_mem hposition)
    simpa using hall
  cases htoken : condition[position] <;> rw [htoken] at heq hreadable <;>
    simp_all [Token.assign, Token.isError]

/-- The terms of a condition without error tokens are all resolved once its comparisons are
answered. -/
theorem isResolved_answered {condition : Condition} (herror : condition.hasError = false)
    (answer : Comparison → Bool) :
    IsResolved (condition.map (Token.term fun statement ↦ .truth (answer statement))) := by
  intro hmem
  obtain ⟨token, htoken, heq⟩ := List.mem_map.mp hmem
  have hreadable : token.isError = false := by
    have hall := List.any_eq_false.mp herror token htoken
    simpa using hall
  cases token <;> simp_all [Token.term, Token.isError]

/-- A condition is not empty and accepted exactly when its symbols are well structured. -/
theorem ne_nil_and_checkStructure_iff (condition : Condition) :
    (condition ≠ [] ∧ checkStructure condition = .ok ()) ↔
      WellStructured (condition.map Token.symbol) := by
  rw [checkStructure_eq_ok_iff]
  constructor
  · rintro ⟨hne, hempty | hstructured⟩
    · exact absurd hempty hne
    · exact hstructured
  · intro hstructured
    refine ⟨fun hempty ↦ ?_, Or.inr hstructured⟩
    rw [hempty] at hstructured
    exact not_wellStructured_nil hstructured

/-- A condition whose answers reduce to true has been accepted, whatever the answers and whether or
not a part of it could be read. -/
theorem checkStructure_of_reduceTerms {condition : Condition} {terms : List Term}
    (hsymbols : terms.map Term.symbol = condition.map Token.symbol)
    (h : reduceTerms terms = true) : checkStructure condition = .ok () := by
  have hsettle : settle terms = [.truth true] := by simpa [reduceTerms] using h
  have hstructured := wellStructured_of_settle hsettle
  rw [hsymbols] at hstructured
  exact ((ne_nil_and_checkStructure_iff condition).mpr hstructured).2

/-- A condition that reduces to true has no part that could not be read. -/
theorem hasError_of_reduceWith {answer : Comparison → Bool} {condition : Condition}
    (h : reduceWith answer condition = true) : condition.hasError = false := by
  have hsettle : settle (condition.map (Token.term fun statement ↦ .truth (answer statement))) =
      [.truth true] := by simpa [reduceWith, reduceTerms] using h
  obtain ⟨hresolved, -⟩ := (settle_eq_truth_iff _).mp ⟨true, hsettle⟩
  refine List.any_eq_false.mpr fun token htoken herror ↦ hresolved (List.mem_map.mpr ?_)
  refine ⟨token, htoken, ?_⟩
  cases token with
  | error message => rfl
  | comparison _ | connective _ | opening | closing | literal _ => cases herror

/-- Only the answers to its own comparisons matter to a condition. -/
theorem reduceWith_congr {first second : Comparison → Bool} {condition : Condition}
    (h : ∀ comparison ∈ condition.comparisons, first comparison = second comparison) :
    reduceWith first condition = reduceWith second condition := by
  unfold reduceWith
  refine congrArg reduceTerms (List.map_congr_left fun token htoken ↦ ?_)
  cases token with
  | comparison statement =>
    have hmem : statement ∈ condition.comparisons := List.mem_filterMap.mpr ⟨_, htoken, rfl⟩
    exact congrArg Term.truth (h statement hmem)
  | _ => rfl

/-- Whatever truth values the comparisons and literals of a condition without error tokens take, its
terms settle as one truth value exactly when it is not empty and the structure check accepts it.
Hence a condition that reduces to true, of itself or under answers to its comparisons, has been
accepted, and under no answers is an accepted condition stuck before one truth value is left. -/
theorem settle_assign_iff_checkStructure (condition : Condition) :
    (condition.hasError = false → ∀ truths : Nat → Bool,
      (∃ value, settle (assign truths condition) = [.truth value]) ↔
        condition ≠ [] ∧ checkStructure condition = .ok ()) ∧
    (reduce condition = true → checkStructure condition = .ok ()) ∧
    ∀ answer : Comparison → Bool,
      (reduceWith answer condition = true → checkStructure condition = .ok ()) ∧
      (condition.hasError = false → condition ≠ [] → checkStructure condition = .ok () →
        settle (condition.map (Token.term fun statement ↦ .truth (answer statement))) =
          [.truth (reduceWith answer condition)]) := by
  refine ⟨fun herror truths ↦ ?_, fun htrue ↦ ?_, fun answer ↦ ⟨fun htrue ↦ ?_, ?_⟩⟩
  · rw [settle_eq_truth_iff, map_symbol_assign, ne_nil_and_checkStructure_iff]
    exact and_iff_right (isResolved_assign herror truths)
  · refine checkStructure_of_reduceTerms ?_ htrue
    rw [List.map_map]
    exact List.map_congr_left fun token _ ↦ by cases token <;> rfl
  · exact checkStructure_of_reduceTerms (map_symbol_answered answer condition) htrue
  · intro herror hne haccepted
    obtain ⟨value, hvalue⟩ := exists_settle_eq_truth (isResolved_answered herror answer) (by
      rw [map_symbol_answered]
      exact (ne_nil_and_checkStructure_iff condition).mp ⟨hne, haccepted⟩)
    rw [reduceWith, reduceTerms, hvalue]
    cases value <;> rfl

/-- A group of two brackets around a mixed chain: it is accepted, it settles as a truth value under
any assignment, and a closing bracket in front of it makes both fail. -/
theorem settle_assign_iff_checkStructure_nested :
    let condition : Condition :=
      [.opening, .opening, .literal true, .closing, .connective .or, Token.within "Spec",
        .connective .and, .literal false, .closing]
    (condition.hasError = false ∧ condition ≠ [] ∧ checkStructure condition = .ok ()) ∧
      (∃ value, settle (assign (fun _ ↦ true) condition) = [.truth value]) ∧
      ¬ ∃ value, settle (assign (fun _ ↦ true) (.closing :: condition)) = [.truth value] := by
  intro condition
  have haccepted : condition ≠ [] ∧ checkStructure condition = .ok () :=
    ⟨List.cons_ne_nil _ _, rfl⟩
  refine ⟨⟨rfl, haccepted⟩, ?_, fun hvalue ↦ ?_⟩
  · exact ((settle_assign_iff_checkStructure condition).1 rfl _).mpr haccepted
  · have hrefused : checkStructure (.closing :: condition) = .ok () :=
      (((settle_assign_iff_checkStructure (.closing :: condition)).1 rfl _).mp hvalue).2
    exact nomatch hrefused

end DocumentRules.Condition
