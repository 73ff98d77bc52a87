import DocumentRules.Condition.Token
import DocumentRules.Text.CaseFold
import DocumentRules.Text.Lowercase
import DocumentRules.Text.Search

/-!
# Search comparisons

A search comparison looks for its value in the content of a document: `==` asks whether the value is
there, and every other operator whether it is not. An empty value is always there. Without regard to
case a substring is sought among the lower-case forms of both texts, and a word up to case folding.

A word is sought by a pattern that a library compiles. The library may refuse the pattern, as it
does when the value is too large, but where it draws the line is its own affair (`PatternLibrary`).
A comparison whose pattern is refused fails whatever its operator.
-/

set_option autoImplicit false
set_option relaxedAutoImplicit false

namespace DocumentRules.Evaluation

open Condition Text

/-- The library that compiles the patterns of word searches. -/
class PatternLibrary where
  /-- Whether the pattern for a needle is accepted. -/
  accepts (caseMatters : Bool) (needle : String) : Bool

section

variable [PatternLibrary]

/-- Whether the needle stands in the content as a word, or nothing if its pattern is refused. -/
def findWord? (caseMatters : Bool) (content needle : String) : Option Bool :=
  if PatternLibrary.accepts caseMatters needle then
    let same := if caseMatters then (· == ·) else sameFolded
    some (occursAsWord same needle.toList content.toList)
  else none

/-- Whether a needle that is not empty stands in the content, by the kind of search; nothing if it
cannot be sought. -/
def find? (kind : FieldKind) (content needle : String) : Option Bool :=
  match kind with
  | .text => some (occursIn (lowercase needle.toList) (lowercase content.toList))
  | .caseText => some (occursIn needle.toList content.toList)
  | .word => findWord? false content needle
  | .caseWord => findWord? true content needle
  | .extension | .path | .enabled | .formField | .version => none

/-- A search comparison for a content. -/
def compareContent (kind : FieldKind) (content : String) (operator : Operator) (value : Value) :
    Bool :=
  let found? :=
    if value.isEmpty then (if kind.isSearch then some true else none)
    else find? kind content value.literal
  match found? with
  | some found => (operator == .equal) == found
  | none => false

end

/-- A library to run searches with. It accepts the pattern of a value of moderate length and refuses
that of a very long one, and where it draws the line between them is an estimate. -/
instance sizedPatterns : PatternLibrary where
  accepts caseMatters needle :=
    needle.utf8ByteSize * (if caseMatters then 32 else 80) ≤ 10 * 1024 * 1024

end DocumentRules.Evaluation
