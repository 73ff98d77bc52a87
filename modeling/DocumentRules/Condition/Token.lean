import DocumentRules.Condition.Field
import DocumentRules.Condition.Operator
import DocumentRules.Condition.Value

/-!
# Tokens and conditions

A condition is a flat sequence of tokens: comparisons, truth values, connectives and brackets, and
an error token for each part of a rule's text that could not be read. The empty condition holds of
everything. `Condition.render` writes a condition as text.
-/

set_option autoImplicit false
set_option relaxedAutoImplicit false

namespace DocumentRules.Condition

/-- A statement about one field of a document. -/
structure Comparison where
  field : Field
  operator : Operator
  value : Value
  deriving DecidableEq, Repr

/-- One element of a condition. -/
inductive Token where
  | comparison (comparison : Comparison)
  | connective (connective : Connective)
  | opening
  | closing
  | literal (truth : Bool)
  /-- A part of a rule's text that could not be read, with the reason. -/
  | error (message : String)
  deriving DecidableEq, Repr

namespace Comparison

/-- How a comparison is written: the value stands in quotation marks and is not escaped. -/
def render (comparison : Comparison) : String :=
  comparison.field.name ++ " " ++ comparison.operator.symbol ++ " \"" ++
    comparison.value.literal ++ "\""

end Comparison

namespace Token

/-- The comparison `path == bounds`. -/
def within (bounds : String) : Token :=
  .comparison ⟨Field.path, .equal, Value.ofText bounds⟩

/-- Whether the token marks a part that could not be read. -/
def isError : Token → Bool
  | .error _ => true
  | _ => false

/-- How a token is written. -/
def render : Token → String
  | .comparison statement => statement.render
  | .connective joint => joint.symbol
  | .opening => "("
  | .closing => ")"
  | .literal truth => truthWord truth
  | .error message => "<error: " ++ message ++ ">"

end Token

end DocumentRules.Condition

namespace DocumentRules

/-- A sequence of tokens, to be brought to one truth value. -/
abbrev Condition : Type := List Condition.Token

namespace Condition

/-- Whether some part of the condition could not be read. -/
def hasError (condition : Condition) : Bool := condition.any Token.isError

/-- The condition as text, its tokens separated by single spaces. -/
def render (condition : Condition) : String :=
  " ".intercalate (condition.map Token.render)

/-- The comparisons of the condition in order. -/
def comparisons (condition : Condition) : List Comparison :=
  condition.filterMap fun
    | .comparison comparison => some comparison
    | _ => none

end Condition

end DocumentRules
