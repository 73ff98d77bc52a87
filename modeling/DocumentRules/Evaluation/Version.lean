import DocumentRules.Condition.Token
import DocumentRules.History.Inquiry

/-!
# Version comparisons

A version comparison relates the resource path of a document to the commit that its value carries:
`==` asks whether the commit changed the path, `>` whether a later one did and `<` whether an
earlier one did. `>=` and `<=` ask about the commit itself first, and about the others only if it
did not change the path. A query that fails makes the comparison false.
-/

set_option autoImplicit false
set_option relaxedAutoImplicit false

namespace DocumentRules.Evaluation

open Condition History

/-- Whether a path is in an answer; nothing if the query failed. -/
def touched? (path : String) : Answer → Option Bool
  | .ok paths => some (paths.contains path)
  | .error _ => none

/-- Whether a path is among those that changed in a range; nothing if the query failed. -/
def inquireTouched (path commit : String) (range : Range) : Inquiry (Option Bool) := do
  return touched? path (← Inquiry.query ⟨range, commit⟩)

/-- Whether a path changed at a commit or, failing that, in a further range. -/
def inquireInclusive (path commit : String) (range : Range) : Inquiry (Option Bool) := do
  match ← inquireTouched path commit .own with
  | some false => inquireTouched path commit range
  | decided => return decided

/-- A comparison of a path's history with a commit; nothing if a query failed. -/
def inquireChange (path commit : String) : Operator → Inquiry (Option Bool)
  | .equal => inquireTouched path commit .own
  | .notEqual => do return (← inquireTouched path commit .own).map (!·)
  | .more => inquireTouched path commit .since
  | .less => inquireTouched path commit .before
  | .moreEqual => inquireInclusive path commit .since
  | .lessEqual => inquireInclusive path commit .before

/-- A version comparison for a document with a resource path, or without one. -/
def inquireVersion (resource? : Option String) (operator : Operator) (value : Value) :
    Inquiry Bool :=
  match resource?, value.commit? with
  | some path, some commit => do return (← inquireChange path commit operator).getD false
  | _, _ => return false

end DocumentRules.Evaluation
