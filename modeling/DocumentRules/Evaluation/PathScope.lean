import DocumentRules.Condition.Token
import DocumentRules.Project.Tree

/-!
# Path scopes

The value of a `path` comparison names a folder. Slashes at its end, and a slash and an asterisk
there, are a matter of spelling: either way the scope takes in the folder and everything beneath it.
A value that names nothing, not even with an asterisk, is no scope, and every node satisfies it.

A document or an item is in scope when the folder that holds it is the named one or lies beneath it.
A folder asked whether to descend into it is in scope also when the named one lies beneath it.
-/

set_option autoImplicit false
set_option relaxedAutoImplicit false

namespace DocumentRules.Evaluation

open Condition Project

/-- The folder that a `path` value names, without slashes at its end. -/
structure PathScope where
  target : List Char
  deriving DecidableEq, Repr

/-- A text without the slashes at its end. -/
def trimSlashes (text : List Char) : List Char := (text.reverse.dropWhile (· == '/')).reverse

/-- A text without a slash and an asterisk at its end, if it ends in them. -/
def dropAsterisk? (text : List Char) : Option (List Char) :=
  match text.reverse with
  | '*' :: '/' :: rest => some rest.reverse
  | _ => none

namespace PathScope

/-- The scope that a value names, if it names one. -/
def parse? (value : Value) : Option PathScope :=
  match dropAsterisk? value.trimmed with
  | some target => some ⟨trimSlashes target⟩
  | none =>
    let target := trimSlashes value.trimmed
    if target.isEmpty then none else some ⟨target⟩

/-- The folder of a project that the scope names. -/
def folder? (scope : PathScope) (project : Project) : Option NodeId :=
  (project.resolve? scope.target).filter fun id ↦ (project.node? id).any Node.isContainer

end PathScope

/-- Whether a folder is the target or lies beneath it. -/
def within (project : Project) (target folder : NodeId) : Bool :=
  folder == target || project.isAncestor target folder

/-- The `path` comparison for a node that is held by a folder, or by none. -/
def folderInScope (project : Project) (folder? : Option NodeId) (operator : Operator)
    (value : Value) : Bool :=
  match PathScope.parse? value with
  | none => true
  | some scope =>
    match scope.folder? project, folder? with
    | some target, some folder => operator.testEquality (within project target folder)
    | _, _ => false

/-- The `path` comparison for a folder that is asked whether to descend into it. -/
def containerInScope (project : Project) (container : NodeId) (operator : Operator)
    (value : Value) : Bool :=
  match PathScope.parse? value with
  | none => true
  | some scope =>
    match scope.folder? project with
    | some target =>
      operator.testEquality
        (project.isAncestor container target || within project target container)
    | none => false

end DocumentRules.Evaluation
