import DocumentRules.Condition.Reduction
import DocumentRules.History.Inquiry

/-!
# Answering a condition

A condition is evaluated by answering each of its comparisons, every one and in order, and reducing
the answers. Answering may put queries to a change history; `answer_inquireAll` says that under a
backend an evaluation is the reduction with the answers that the backend leads to.
-/

set_option autoImplicit false
set_option relaxedAutoImplicit false

namespace DocumentRules.Evaluation

open Condition History

/-- The term of a token, the answer to a comparison being inquired. -/
def inquireTerm (inquire : Comparison → Inquiry Bool) : Token → Inquiry Term
  | .comparison statement => do return .truth (← inquire statement)
  | .connective joint => return .connective joint
  | .opening => return .opening
  | .closing => return .closing
  | .literal value => return .truth value
  | .error _ => return .unresolved

/-- Whether a condition is true when its comparisons are answered by `inquire`. -/
def inquireAll (inquire : Comparison → Inquiry Bool) (condition : Condition) : Inquiry Bool := do
  return reduceTerms (← Inquiry.forEach (inquireTerm inquire) condition)

/-- Whether a condition is true, the empty one being true of everything. -/
def inquireCondition (inquire : Comparison → Inquiry Bool) (condition : Condition) : Inquiry Bool :=
  if condition.isEmpty then return true else inquireAll inquire condition

/-- The answer that a reduction sees, without a history. -/
def answerComparison (backend : Backend) (inquire : Comparison → Inquiry Bool)
    (comparison : Comparison) : Bool :=
  (inquire comparison).answer backend

theorem answer_inquireTerm (backend : Backend) (inquire : Comparison → Inquiry Bool)
    (token : Token) :
    (inquireTerm inquire token).answer backend =
      token.term fun comparison ↦ .truth (answerComparison backend inquire comparison) := by
  cases token <;>
    simp only [inquireTerm, Token.term, answerComparison, Inquiry.answer_bind, Inquiry.answer_pure]

/-- Under a backend an evaluation is the reduction with the answers the backend leads to. -/
theorem answer_inquireAll (backend : Backend) (inquire : Comparison → Inquiry Bool)
    (condition : Condition) :
    (inquireAll inquire condition).answer backend =
      reduceWith (answerComparison backend inquire) condition := by
  simp only [inquireAll, reduceWith, Inquiry.answer_bind, Inquiry.answer_pure,
    Inquiry.answer_forEach, answer_inquireTerm]

end DocumentRules.Evaluation
