/-!
# Tables of character ranges

A character property is a table of closed ranges of code points in ascending order. `covers`
looks a code point up and stops at the first range that begins after it, so the common
characters, which have the small code points, are found in a few steps.
-/

set_option autoImplicit false
set_option relaxedAutoImplicit false

namespace DocumentRules.Text

/-- Closed ranges of code points, each after the one before it. -/
abbrev RangeTable : Type := List (Nat × Nat)

/-- Whether a code point lies in a range of the table. -/
def RangeTable.covers : RangeTable → Nat → Bool
  | [], _ => false
  | (first, last) :: rest, code =>
    if code < first then false
    else if code ≤ last then true
    else covers rest code

/-- A run of code points `first, first + step, …, last` that a case map moves to
`target, target + step, …`. -/
structure CaseRun where
  first : Nat
  last : Nat
  step : Nat
  target : Nat

/-- Runs in ascending order of their first code point. -/
abbrev CaseTable : Type := List CaseRun

/-- The code point to which a case map moves `code`: a code point in no run is its own image. -/
def CaseTable.image : CaseTable → Nat → Nat
  | [], code => code
  | run :: rest, code =>
    if code < run.first then code
    else if code ≤ run.last && (code - run.first) % run.step == 0 then
      run.target + (code - run.first)
    else image rest code

end DocumentRules.Text
