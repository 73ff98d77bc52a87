import DocumentRules.Collection.SortedSet
import DocumentRules.Condition.Structure

/-!
# Validation

Before a rule is run its condition is validated. The default validator refuses a condition in which
some part could not be read, then one that is not well structured, then the first comparison that is
not legal for the kind of its field: a form field has to name a document type and a field of its
form, and the type has to be in the schema unless the schema is empty; a version has to carry a
commit when a history is bound; every other field allows equality and its negation alone.
-/

set_option autoImplicit false
set_option relaxedAutoImplicit false

namespace DocumentRules.Condition

open Collection

/-- Why a condition is refused. -/
inductive ConditionFault where
  /-- A part of the rule's text could not be read. -/
  | unreadable (message : String)
  /-- The tokens do not stand in turn. -/
  | structural (fault : StructureFault)
  /-- The name of a form field lacks an extension or a field. -/
  | malformedFormField (name : String)
  /-- The document type of a form field is not in the schema. -/
  | unknownExtension (name extension : String)
  /-- An ordering operator on a field without an order. -/
  | illegalOperator (field : String) (operator : Operator)
  /-- A version that carries no commit. -/
  | unresolvedCommit (literal : String)
  deriving DecidableEq, Repr

/-- The wording of a structural fault. -/
def StructureFault.message : StructureFault → String
  | .unbalancedGroups => "unbalanced brackets"
  | .emptyGroup position => "empty brackets at token " ++ toString position
  | .unexpectedToken position =>
    "unexpected token at " ++ toString position ++ ": expected an operator or ')'"
  | .danglingOperator position =>
    "operator at token " ++ toString position ++ " is missing an operand"

/-- The wording of a fault. -/
def ConditionFault.message : ConditionFault → String
  | .unreadable message => "rule text could not be scanned: " ++ message
  | .structural fault => fault.message
  | .malformedFormField name =>
    "form field '" ++ name ++ "' must be written as '<extension>.<subfield>'"
  | .unknownExtension name extension =>
    "form field '" ++ name ++ "' refers to unknown document type '" ++ extension ++ "'"
  | .illegalOperator field operator =>
    "operator '" ++ operator.symbol ++ "' cannot be used with field '" ++ field ++ "'"
  | .unresolvedCommit literal => "version '" ++ literal ++ "' does not name a known commit"

/-- What a validator knows of the project for which a rule is meant. -/
structure ValidationContext where
  /-- The document types whose forms may be addressed; any type if there is none. -/
  schema : SortedSet String
  /-- Whether a change history is bound. -/
  historyBound : Bool

/-- A judgement on conditions. -/
abbrev Validator : Type := ValidationContext → Condition → Except ConditionFault Unit

/-- Whether a comparison is legal for the kind of its field. -/
def Comparison.check (context : ValidationContext) (comparison : Comparison) :
    Except ConditionFault Unit :=
  let field := comparison.field
  match field.kind with
  | .formField =>
    match field.formParts? with
    | none => .error (.malformedFormField field.name)
    | some (extension, _) =>
      if context.schema.isEmpty || context.schema.contains extension then .ok ()
      else .error (.unknownExtension field.name extension)
  | .version =>
    if context.historyBound && comparison.value.commit?.isNone then
      .error (.unresolvedCommit comparison.value.literal)
    else .ok ()
  | .extension | .path | .enabled | .text | .caseText | .word | .caseWord =>
    if comparison.operator.mayEqual then .ok ()
    else .error (.illegalOperator field.name comparison.operator)

/-- The message of the first error token. -/
def firstError? (condition : Condition) : Option String :=
  condition.findSome? fun
    | .error message => some message
    | _ => none

/-- The verdict on the comparisons, the first illegal one if there is one. -/
def checkComparisons (context : ValidationContext) : List Comparison → Except ConditionFault Unit
  | [] => .ok ()
  | comparison :: rest =>
    match comparison.check context with
    | .error fault => .error fault
    | .ok () => checkComparisons context rest

/-- The default validator. -/
def validate : Validator := fun context condition ↦
  match firstError? condition with
  | some message => .error (.unreadable message)
  | none =>
    match checkStructure condition with
    | .error fault => .error (.structural fault)
    | .ok () => checkComparisons context condition.comparisons

/-- A validator that refuses nothing. -/
def acceptAll : Validator := fun _ _ ↦ .ok ()

end DocumentRules.Condition
