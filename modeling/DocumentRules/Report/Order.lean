import DocumentRules.Project.Tree

/-!
# Report order

A report lists documents first, by their order number. Items follow: those with a resource path by
that path, and after them those without one by their name. Texts are compared by code points, which
is also their order as UTF-8. Nodes that tie keep the order in which they were found.
-/

set_option autoImplicit false
set_option relaxedAutoImplicit false

namespace DocumentRules.Report

open Project

/-- The order of two values that may be missing: a value comes before a missing one, and `missing`
decides when both are. -/
def comparePresent {α : Type} [Ord α] (missing : Ordering) : Option α → Option α → Ordering
  | some left, some right => compare left right
  | some _, none => .lt
  | none, some _ => .gt
  | none, none => missing

/-- The order of two nodes in a report. -/
def compareNodes (left right : Node) : Ordering :=
  comparePresent
    (comparePresent (compare left.name right.name) left.resource? right.resource?)
    left.order? right.order?

/-- Whether a node may stand before another in a report; nodes unknown to the project tie with
all. -/
def mayPrecede (project : Project) (left right : NodeId) : Bool :=
  match project.node? left, project.node? right with
  | some leftNode, some rightNode => compareNodes leftNode rightNode != .gt
  | _, _ => true

/-- Nodes in report order. -/
def sortNodes (project : Project) (found : List NodeId) : List NodeId :=
  found.mergeSort (mayPrecede project)

end DocumentRules.Report
