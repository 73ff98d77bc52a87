import DocumentRules.Condition.Token

/-!
# Reduction

A condition whose comparisons have been answered is brought to one truth value by passes. A pass
reads the terms from left to right and never reads one twice: a bracketed truth value loses its
brackets, two truth values around a connective become one, and any other term stays as it is. There
is no precedence: which neighbours meet depends on the pass alone. Passes are made while they
shorten the sequence, and the condition is true when what remains is the single term `true`; a
sequence on which a pass makes no progress is malformed and counts as false.

`length_pass_le` says that a pass never lengthens a sequence, `length_pass_settle` that the
settled sequence is one on which a pass makes no progress.
-/

set_option autoImplicit false
set_option relaxedAutoImplicit false

namespace DocumentRules.Condition

/-- What reduction sees of a token. -/
inductive Term where
  | truth (value : Bool)
  | connective (joint : Connective)
  | opening
  | closing
  /-- A comparison that has not been answered, or an error. -/
  | unresolved
  deriving DecidableEq, Repr

/-- The term of a token, from the answer to it if it is a comparison. -/
def Token.term (answer : Comparison → Term) : Token → Term
  | .comparison statement => answer statement
  | .connective joint => .connective joint
  | .opening => .opening
  | .closing => .closing
  | .literal value => .truth value
  | .error _ => .unresolved

/-- One pass over the terms. -/
def pass : List Term → List Term
  | .opening :: .truth value :: .closing :: rest => .truth value :: pass rest
  | .truth left :: .connective joint :: .truth right :: rest =>
    .truth (joint.apply left right) :: pass rest
  | term :: rest => term :: pass rest
  | [] => []

theorem length_pass_le (terms : List Term) : (pass terms).length ≤ terms.length := by
  fun_induction pass terms <;> simp_all <;> omega

/-- Makes at most `bound` passes, and stops at the first that does not shorten the sequence. -/
def settleWithin : Nat → List Term → List Term
  | 0, terms => terms
  | bound + 1, terms =>
    if (pass terms).length < terms.length then settleWithin bound (pass terms) else terms

/-- The terms that remain when no pass shortens the sequence any more. -/
def settle (terms : List Term) : List Term := settleWithin terms.length terms

theorem length_pass_settleWithin {bound : Nat} {terms : List Term} (h : terms.length ≤ bound) :
    (pass (settleWithin bound terms)).length = (settleWithin bound terms).length := by
  induction bound generalizing terms with
  | zero =>
    obtain rfl : terms = [] := List.length_eq_zero_iff.mp (by omega)
    rfl
  | succ bound ih =>
    have hle := length_pass_le terms
    simp only [settleWithin]
    split
    · exact ih (by omega)
    · omega

/-- On a settled sequence a pass makes no progress. -/
theorem length_pass_settle (terms : List Term) :
    (pass (settle terms)).length = (settle terms).length :=
  length_pass_settleWithin (Nat.le_refl _)

/-- Whether the terms reduce to the single term `true`. -/
def reduceTerms (terms : List Term) : Bool := settle terms == [.truth true]

/-- Whether a condition without unanswered comparisons is true. A comparison is not answered
here, so a condition that has one reduces to false. -/
def reduce (condition : Condition) : Bool :=
  reduceTerms (condition.map (Token.term fun _ ↦ .unresolved))

/-- Whether a condition is true under the given answers to its comparisons. -/
def reduceWith (answer : Comparison → Bool) (condition : Condition) : Bool :=
  reduceTerms (condition.map (Token.term fun statement ↦ .truth (answer statement)))

end DocumentRules.Condition
