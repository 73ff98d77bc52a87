import DocumentRules.Report.Rule

/-!
# Report entries

A report entry is a named list of rules, with bounds for the rules that have none of their own.
-/

set_option autoImplicit false
set_option relaxedAutoImplicit false

namespace DocumentRules.Report

/-- A named list of rules. -/
structure Entry where
  name : String := ""
  bounds? : Option String := none
  rules : List Rule := []
  deriving DecidableEq, Repr

namespace Entry

/-- The entry with one more rule at its end. -/
def push (entry : Entry) (rule : Rule) : Entry := { entry with rules := entry.rules ++ [rule] }

/-- The entry with bounds for the rules that have none. -/
def withBounds (entry : Entry) (bounds : String) : Entry := { entry with bounds? := some bounds }

/-- The entry with all its rules expanded. -/
def expandAll (entry : Entry) : Entry :=
  { entry with rules := entry.rules.map (Rule.expand entry.bounds?) }

end Entry

end DocumentRules.Report
