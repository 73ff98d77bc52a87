import DocumentRules.Collection.SortedSet

/-!
# Queries on a change history

A change history answers one kind of question: which resource paths changed in a range of commits
that is given relative to one of them. It may fail to answer, and why it failed is part of its
answer. A `Backend` is a history whose answer to a query does not change.
-/

set_option autoImplicit false
set_option relaxedAutoImplicit false

namespace DocumentRules.History

open Collection

/-- A range of commits relative to one commit. -/
inductive Range where
  /-- The commit itself. -/
  | own
  /-- The commits after it, up to the latest. -/
  | since
  /-- The commits before it, from the first one on. -/
  | before
  deriving DecidableEq, Repr

/-- A question for the paths that changed in a range of commits. -/
structure Query where
  range : Range
  commit : String
  deriving DecidableEq, Repr

/-- Why a query has no answer. -/
inductive Failure where
  /-- The history does not have the commit. -/
  | unknownCommit (commit : String)
  /-- The repository behind the history failed. -/
  | repository (message : String)
  deriving DecidableEq, Repr

/-- The wording of a failure. -/
def Failure.message : Failure → String
  | .unknownCommit commit => "unknown commit '" ++ commit ++ "'"
  | .repository message => "repository error: " ++ message

/-- A set of resource paths. -/
abbrev PathSet : Type := SortedSet String

/-- The paths that a query asks for, or the reason why there are none to give. -/
abbrev Answer : Type := Except Failure PathSet

/-- A history with a fixed answer to each query. -/
abbrev Backend : Type := Query → Answer

end DocumentRules.History
