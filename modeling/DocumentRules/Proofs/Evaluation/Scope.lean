import DocumentRules.Evaluation.NodeView
import DocumentRules.Proofs.Project.Ancestry

/-!
# Scopes in a tree

A node is in the scope of a folder when the folder is above it (`folderInScope_eq`). The comparison
is written with the folder that holds the node, which is the node's parent. A document or an item
that does not have to decide about a descent is asked just this, in whichever way it is looked at
(`inquireNode_path`).
-/

set_option autoImplicit false
set_option relaxedAutoImplicit false

namespace DocumentRules.Project.Rooted

open Condition Evaluation

variable {project : Project}

/-- A node is above another when it is the other's parent or above that. -/
theorem within_parent (h : Rooted project) {target id parent : NodeId}
    (hparent : project.IsParent id parent) :
    within project target parent = project.isAncestor target id := by
  unfold within isAncestor
  rw [h.ancestors_of_isParent hparent, List.contains_cons, Bool.beq_comm]

/-- A `path` comparison for a node looks at whether the folder that the value names is above it. -/
theorem folderInScope_eq (h : Rooted project) {id parent : NodeId}
    (hparent : project.IsParent id parent) (operator : Operator) (value : Value) :
    folderInScope project (some parent) operator value =
      (PathScope.parse? value).all fun scope ↦ (scope.folder? project).any fun target ↦
        operator.testEquality (project.isAncestor target id) := by
  unfold folderInScope
  cases PathScope.parse? value with
  | none => rfl
  | some scope =>
    simp only [Option.all_some]
    cases scope.folder? project with
    | none => rfl
    | some target => simp only [Option.any_some, h.within_parent hparent]

/-- A `path` comparison for a document or an item is about the folder that is its parent. -/
theorem inquireNode_path [PatternLibrary] (h : Rooted project) {view : NodeView}
    (hview : view ≠ .descent) {id parent : NodeId} {node : Node} (hleaf : node.isContainer = false)
    (hparent : project.IsParent id parent) {comparison : Comparison}
    (hpath : comparison.field.kind = .path) :
    inquireNode project view id node comparison =
      pure (folderInScope project (some parent) comparison.operator comparison.value) := by
  cases view with
  | descent => exact absurd rfl hview
  | live | outOfTree =>
    simp [inquireNode, inquireLive, compareOutOfTree, hpath, hleaf, h.containingFolder?_eq hparent]

end DocumentRules.Project.Rooted
