import DocumentRules.Disk.Volume
import DocumentRules.Evaluation.NodeView
import DocumentRules.Settings.Settings

/-!
# Evaluating a file

A condition may be evaluated for a file on disk that is in no project. The file is named relative to
a root directory, or by a path that begins with the components of the root's own path; an absolute
path that does not is outside, and satisfies no condition but the empty one. If the root is given by
a relative path, a path within it that begins with the same components counts as one that begins
with the root. Every path, an absolute one too, begins with the empty root.

A file is always enabled and has no form. A `path` value names a directory beneath the root that has
to be there, and a file is within it when the components of its folder begin with those of the
value. A file that is not there, or is larger than the settings allow, fails every search.
-/

set_option autoImplicit false
set_option relaxedAutoImplicit false

namespace DocumentRules.Disk

open Text Condition History Evaluation

/-- A root directory in a file system, and how files are searched. -/
structure FileEvaluator where
  volume : Volume
  root : List Char
  settings : Settings := {}

namespace FileEvaluator

/-- The path of a file relative to the root, unless the file is outside. -/
def relative? (evaluator : FileEvaluator) (file : List Char) : Option (List Char) :=
  match stripBase? evaluator.root file with
  | some rest => some rest
  | none => if isAbsolute file then none else some file

/-- The content of a file, if it is there and not too large. Bytes that are not well-formed read as
replacement characters. -/
def content? (evaluator : FileEvaluator) (relative : List Char) : Option String :=
  (evaluator.volume.read? (joinPath evaluator.root relative)).bind fun content ↦
    if content.length ≤ evaluator.settings.maxTextBytes then
      some (String.ofList (decodeLossy content))
    else none

/-- The directory that a scope names, relative to the root. -/
def scopeTarget (scope : PathScope) : List Char := scope.target.dropWhile (· == '/')

/-- The `path` comparison for a file. -/
def compareScope (evaluator : FileEvaluator) (relative : List Char) (operator : Operator)
    (value : Value) : Bool :=
  match PathScope.parse? value with
  | none => true
  | some scope =>
    let target := scopeTarget scope
    if evaluator.volume.isDirectory (joinPath evaluator.root target) then
      operator.testEquality ((components target).isPrefixOf (folderComponents relative))
    else false

/-- The resource path under which a change history has a file. -/
def resourceOf (relative : List Char) : String := String.ofList (ofComponents (components relative))

variable [PatternLibrary]

/-- A comparison for a file, by its path relative to the root. -/
def inquireComparison (evaluator : FileEvaluator) (relative : List Char) (comparison : Comparison) :
    Inquiry Bool :=
  let operator := comparison.operator
  let value := comparison.value
  match comparison.field.kind with
  | .extension =>
    return compareExtension ((pathExtension? relative).map String.ofList) operator value
  | .path => return evaluator.compareScope relative operator value
  | .enabled => return compareEnabled true operator value
  | .formField => return false
  | .text | .caseText | .word | .caseWord =>
    return (evaluator.content? relative).any fun content ↦
      compareContent comparison.field.kind content operator value
  | .version => inquireVersion (some (resourceOf relative)) operator value

/-- A condition for a file. -/
def inquire (evaluator : FileEvaluator) (file : List Char) (condition : Condition) : Inquiry Bool :=
  match evaluator.relative? file with
  | none => return condition.isEmpty
  | some relative => inquireCondition (evaluator.inquireComparison relative) condition

/-- Whether a file satisfies a condition when the history is `backend`. -/
def satisfies (evaluator : FileEvaluator) (backend : Backend) (file : List Char)
    (condition : Condition) : Bool :=
  (evaluator.inquire file condition).answer backend

end FileEvaluator

end DocumentRules.Disk
