import DocumentRules.Condition.Token
import DocumentRules.Form.Fields

/-!
# Form comparisons

A form field is compared by what it holds. A text is equal to the value or not. In a check list
equality means that the item which the value names is checked, and an ordering operator compares the
number of checked items. A choice is compared by the place of the selected item among the items, and
an item that is not there comes before all of them; when neither side is an item, the label of the
selection is compared with the value. Radio buttons refuse a value that names no item.
-/

set_option autoImplicit false
set_option relaxedAutoImplicit false

namespace DocumentRules.Evaluation

open Condition Form

/-- The comparison of a check list with a value. -/
def compareChecks (boxes : CheckList) (operator : Operator) (value : Value) : Bool :=
  if operator.mayEqual then
    match boxes.resolve? value with
    | some index => operator.testEquality (boxes.isChecked index)
    | none => false
  else
    match value.toInt? with
    | some wanted => operator.test (compare (boxes.checkedCount : Int) wanted)
    | none => false

/-- The place of an item, below all places if there is none. -/
def ordinal : Option Nat → Int
  | some index => index
  | none => -1

/-- The comparison of a drop-down list with a value. -/
def compareDropDown (choice : Choice) (operator : Operator) (value : Value) : Bool :=
  let target? := choice.resolve? value
  if choice.selected?.isNone && target?.isNone then
    operator.testEquality (choice.selectedLabel == value.literal)
  else operator.test (compare (ordinal choice.selected?) (ordinal target?))

/-- The comparison of a group of radio buttons with a value. -/
def compareRadio (choice : Choice) (operator : Operator) (value : Value) : Bool :=
  (choice.resolve? value).isSome && compareDropDown choice operator value

/-- The comparison of a field's value with a value. -/
def compareFieldValue (operator : Operator) (value : Value) : FieldValue → Bool
  | .text content => operator.testEquality (content == value.literal)
  | .checks boxes => compareChecks boxes operator value
  | .dropDown choice => compareDropDown choice operator value
  | .radio choice => compareRadio choice operator value

/-- A form comparison for a document with an extension and a form. It holds only of a document that
has the extension which the field names and a value in the named field of its form. -/
def compareFormField (extension? : Option String) (form? : Option Form) (comparison : Comparison) :
    Bool :=
  match comparison.field.formParts? with
  | none => false
  | some (wanted, subfield) =>
    if extension? = some wanted then
      match form?.bind fun form ↦ form.get? subfield with
      | some fieldValue => compareFieldValue comparison.operator comparison.value fieldValue
      | none => false
    else false

end DocumentRules.Evaluation
