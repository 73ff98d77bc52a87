import DocumentRules.Text.Blank
import DocumentRules.Text.Integer

/-!
# Values

The right-hand side of a comparison is a text. It may also be read as a whole number or as a truth
value, and it may carry the commit that it stands for in a change history.
-/

set_option autoImplicit false
set_option relaxedAutoImplicit false

namespace DocumentRules.Condition

open Text

/-- A truth value as a word. -/
def truthWord (truth : Bool) : String := if truth then "true" else "false"

/-- The value that a field is compared with. -/
structure Value where
  literal : String
  commit? : Option String
  deriving DecidableEq, Repr

namespace Value

/-- A value that stands for no commit. -/
def ofText (literal : String) : Value := ⟨literal, none⟩

/-- A commit, written by its identifier. -/
def ofCommit (commit : String) : Value := ⟨commit, some commit⟩

/-- A whole number, written in decimal. -/
def ofInt (number : Int) : Value := ofText (toString number)

/-- A truth value, written as a word. -/
def ofBool (truth : Bool) : Value := ofText (truthWord truth)

/-- The value, standing for a commit. -/
def withCommit (value : Value) (commit : String) : Value := { value with commit? := some commit }

/-- Whether the text of the value is empty. -/
def isEmpty (value : Value) : Bool := value.literal.isEmpty

/-- The text of the value without the blanks around it. -/
def trimmed (value : Value) : List Char := trim value.literal.toList

/-- The whole number that the value can be read as. -/
def toInt? (value : Value) : Option Int := readInteger? value.trimmed

/-- The truth value that the value is read as: only the word `true`, its ASCII letters in either
case, is read as true. -/
def toBool (value : Value) : Bool := value.trimmed.map Char.toLower == ['t', 'r', 'u', 'e']

end Value

end DocumentRules.Condition
