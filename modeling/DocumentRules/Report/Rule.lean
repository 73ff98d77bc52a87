import DocumentRules.Condition.Token

/-!
# Rules

A rule is a condition on documents. It is drafted with two optional restrictions: an extension,
which turns the name of every field into that of a form field of the documents with the extension,
and bounds, a folder within which the rule applies. Expanding a draft builds both into the
condition: the names are scoped first, and bounds then put the condition in brackets behind
`path == bounds AND`. An expanded rule is only a condition, and stays as it is.
-/

set_option autoImplicit false
set_option relaxedAutoImplicit false

namespace DocumentRules.Report

open Condition

/-- A rule as it is written. -/
structure Draft where
  condition : Condition := []
  extensionScope? : Option String := none
  bounds? : Option String := none
  deriving DecidableEq, Repr

/-- A rule, before or after its restrictions were built into its condition. -/
inductive Rule where
  | draft (draft : Draft)
  | expanded (condition : Condition)
  deriving DecidableEq, Repr

/-- A token whose field, if it has one, is addressed in the forms of an extension. -/
def scopeToken (extension : String) : Token → Token
  | .comparison statement =>
    .comparison { statement with field := statement.field.inFormsOf extension }
  | token => token

/-- A condition whose fields are all addressed in the forms of an extension, if one is given. -/
def scopeCondition (extension? : Option String) (condition : Condition) : Condition :=
  match extension? with
  | some extension => condition.map (scopeToken extension)
  | none => condition

/-- A condition confined to a folder, if one is given. -/
def confine (bounds? : Option String) (condition : Condition) : Condition :=
  match bounds? with
  | none => condition
  | some bounds =>
    if condition.isEmpty then [Token.within bounds]
    else [Token.within bounds, .connective .and, .opening] ++ condition ++ [.closing]

namespace Draft

/-- The bounds in force: the draft's own, and otherwise those of what owns the rule. -/
def effectiveBounds? (draft : Draft) (owningBounds? : Option String) : Option String :=
  draft.bounds?.or owningBounds?

/-- The condition with the restrictions built in. -/
def expand (draft : Draft) (owningBounds? : Option String) : Condition :=
  confine (draft.effectiveBounds? owningBounds?)
    (scopeCondition draft.extensionScope? draft.condition)

end Draft

namespace Rule

/-- The condition of the rule, as it stands. -/
def condition : Rule → Condition
  | draft written => written.condition
  | expanded condition => condition

/-- Whether the restrictions are built in. -/
def isExpanded : Rule → Bool
  | draft _ => false
  | expanded _ => true

/-- The rule with its restrictions built in. -/
def expand (owningBounds? : Option String) : Rule → Rule
  | draft written => expanded (written.expand owningBounds?)
  | expanded condition => expanded condition

/-- The rule meant for the forms of an extension, unless it is expanded. -/
def withExtensionScope (extension : String) : Rule → Rule
  | draft written => draft { written with extensionScope? := some extension }
  | expanded condition => expanded condition

/-- The rule confined to a folder, unless it is expanded. -/
def withBounds (bounds : String) : Rule → Rule
  | draft written => draft { written with bounds? := some bounds }
  | expanded condition => expanded condition

@[simp] theorem isExpanded_expand (rule : Rule) (owningBounds? : Option String) :
    (rule.expand owningBounds?).isExpanded = true := by
  cases rule <;> rfl

/-- Expanding a rule again changes nothing, whatever the bounds. -/
@[simp] theorem expand_expand (rule : Rule) (first second : Option String) :
    (rule.expand first).expand second = rule.expand first := by
  cases rule <;> rfl

end Rule

end DocumentRules.Report
