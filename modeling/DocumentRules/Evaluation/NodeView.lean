import DocumentRules.Evaluation.Answering
import DocumentRules.Evaluation.FormField
import DocumentRules.Evaluation.PathScope
import DocumentRules.Evaluation.Search
import DocumentRules.Evaluation.Version
import DocumentRules.Project.Tree

/-!
# Evaluating a node

A node of a project is looked at in one of three ways. As a live document every kind of field
applies to it. As a folder that decides whether to descend only `path` does, and every other
comparison holds. Out of the tree only `ext` and `path` apply, and for a leaf every other comparison
fails. `Project.inquire` evaluates a condition for a node, and `Project.satisfies` does so under a
backend.
-/

set_option autoImplicit false
set_option relaxedAutoImplicit false

namespace DocumentRules.Evaluation

open Condition History Project

/-- How a node is looked at. -/
inductive NodeView where
  | live
  | descent
  | outOfTree
  deriving DecidableEq, Repr

/-- The extension comparison for something that has an extension, or none; without one it fails. -/
def compareExtension (extension? : Option String) (operator : Operator) (value : Value) : Bool :=
  extension?.any fun extension ↦ operator.testEquality (extension == value.literal)

/-- The comparison of being enabled with a truth value. -/
def compareEnabled (enabled : Bool) (operator : Operator) (value : Value) : Bool :=
  operator.testEquality (enabled == value.toBool)

variable [PatternLibrary]

/-- A comparison for a live document. -/
def inquireLive (project : Project) (id : NodeId) (node : Node) (comparison : Comparison) :
    Inquiry Bool :=
  let operator := comparison.operator
  let value := comparison.value
  match comparison.field.kind with
  | .extension => return compareExtension node.extension? operator value
  | .path => return folderInScope project (project.containingFolder? id) operator value
  | .enabled => return compareEnabled (!node.disabled) operator value
  | .formField => return compareFormField node.extension? node.form? comparison
  | .text | .caseText | .word | .caseWord =>
    return compareContent comparison.field.kind (node.content?.getD "") operator value
  | .version => inquireVersion node.resource? operator value

/-- A comparison for a folder that decides whether to descend. -/
def compareDescent (project : Project) (id : NodeId) (comparison : Comparison) : Bool :=
  match comparison.field.kind with
  | .path => containerInScope project id comparison.operator comparison.value
  | _ => true

/-- A comparison for a node out of the tree. -/
def compareOutOfTree (project : Project) (id : NodeId) (node : Node) (comparison : Comparison) :
    Bool :=
  match comparison.field.kind with
  | .extension => compareExtension node.extension? comparison.operator comparison.value
  | .path =>
    if node.isContainer then containerInScope project id comparison.operator comparison.value
    else folderInScope project (project.containingFolder? id) comparison.operator comparison.value
  | _ => node.isContainer

/-- A comparison for a node, as it is looked at. -/
def inquireNode (project : Project) (view : NodeView) (id : NodeId) (node : Node)
    (comparison : Comparison) : Inquiry Bool :=
  match view with
  | .live => inquireLive project id node comparison
  | .descent => return compareDescent project id comparison
  | .outOfTree => return compareOutOfTree project id node comparison

/-- The view in which a report looks at a node: documents are live, and other nodes are out of the
tree. -/
def reportView (node : Node) : NodeView :=
  if node.kind = .document then .live else .outOfTree

end DocumentRules.Evaluation

namespace DocumentRules.Project

open Condition History Evaluation

variable [PatternLibrary]

/-- A condition for a node. The empty condition holds even of a node that the project does not have,
and no other condition does. -/
def inquire (project : Project) (view : NodeView) (id : NodeId) (condition : Condition) :
    Inquiry Bool :=
  match project.node? id with
  | none => return condition.isEmpty
  | some node => inquireCondition (inquireNode project view id node) condition

/-- Whether a node satisfies a condition when the history is `backend`. -/
def satisfies (project : Project) (backend : Backend) (view : NodeView) (id : NodeId)
    (condition : Condition) : Bool :=
  (project.inquire view id condition).answer backend

/-- Whether a single comparison holds of a node when the history is `backend`; none holds of a node
that the project does not have. -/
def holds (project : Project) (backend : Backend) (view : NodeView) (id : NodeId)
    (comparison : Comparison) : Bool :=
  (project.node? id).any fun node ↦
    (inquireNode project view id node comparison).answer backend

end DocumentRules.Project
