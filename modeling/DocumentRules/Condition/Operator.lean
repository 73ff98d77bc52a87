/-!
# Operators

A comparison relates a property of a document to a value by one of six operators, and comparisons
are joined by one of two connectives. Properties that have an order are compared by `Operator.test`,
the others by `Operator.testEquality`, under which the four ordering operators never hold.
-/

set_option autoImplicit false
set_option relaxedAutoImplicit false

namespace DocumentRules.Condition

/-- The relations that a comparison can state. -/
inductive Operator where
  | equal
  | notEqual
  | less
  | lessEqual
  | more
  | moreEqual
  deriving DecidableEq, Repr

namespace Operator

/-- Every operator. -/
def all : List Operator := [equal, notEqual, less, lessEqual, more, moreEqual]

/-- Whether the operator asks for equality or its absence, and not for an order. -/
def mayEqual : Operator → Bool
  | equal | notEqual => true
  | less | lessEqual | more | moreEqual => false

/-- Every operator may compare values that have an order. -/
def mayCompare (_operator : Operator) : Bool := true

/-- Whether the operator holds, from the order of its left side to its right side. -/
def test : Operator → Ordering → Bool
  | equal, order => order == .eq
  | notEqual, order => order != .eq
  | less, order => order == .lt
  | lessEqual, order => order != .gt
  | more, order => order == .gt
  | moreEqual, order => order != .lt

/-- Whether the operator holds between values that are equal or not and have no order. -/
def testEquality : Operator → Bool → Bool
  | equal, isEqual => isEqual
  | notEqual, isEqual => !isEqual
  | less, _ | lessEqual, _ | more, _ | moreEqual, _ => false

/-- How an operator is written. -/
def symbol : Operator → String
  | equal => "=="
  | notEqual => "!="
  | less => "<"
  | lessEqual => "<="
  | more => ">"
  | moreEqual => ">="

/-- The operator that is written so. -/
def ofSymbol? (text : String) : Option Operator :=
  all.find? fun operator ↦ operator.symbol == text

theorem ofSymbol?_symbol (operator : Operator) : ofSymbol? operator.symbol = some operator := by
  cases operator <;> decide

theorem testEquality_eq_false {operator : Operator} (h : operator.mayEqual = false)
    (isEqual : Bool) : operator.testEquality isEqual = false := by
  cases operator with
  | equal | notEqual => cases h
  | less | lessEqual | more | moreEqual => rfl

end Operator

/-- How two conditions are joined. -/
inductive Connective where
  | and
  | or
  deriving DecidableEq, Repr

namespace Connective

/-- The truth of a joined condition. -/
def apply : Connective → Bool → Bool → Bool
  | and, left, right => left && right
  | or, left, right => left || right

/-- How a connective is written. -/
def symbol : Connective → String
  | and => "AND"
  | or => "OR"

end Connective

end DocumentRules.Condition
