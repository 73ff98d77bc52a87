import DocumentRules.History.CommitLog
import DocumentRules.Project.Node

/-!
# Projects

A project holds nodes under a nameless root folder, with a schema of document types and, it may be,
a change history. Nodes are only ever added: `insert` puts a node under a folder, gives it a
resource path below the folder's unless it brings one or is detached, and numbers a document that
brings no number after all numbers given so far.

A node is found by following names down from the root (`resolve?`), and `ancestors` lists the nodes
above it. A parent is in the project before its child, so the way up from a node has fewer steps
than the project has nodes, and this bounds the recursion.

The way down is another matter. A folder that is copied into a project brings its child list along,
and this may name the copy itself or a folder above it. The walk over such a subtree goes round for
ever, and `leaves?` is nothing for it.
-/

set_option autoImplicit false
set_option relaxedAutoImplicit false

namespace DocumentRules.Project

open Text Collection History

/-- Why a node is not added. -/
inductive TreeError where
  /-- There is no such parent. -/
  | unknownNode (id : NodeId)
  /-- The parent cannot hold the node. -/
  | notAContainer (parent child : String)
  deriving DecidableEq, Repr

/-- The wording for a node that a project does not have. -/
def unknownNodeMessage (id : NodeId) : String :=
  "node " ++ nodeLabel id ++ " does not belong to this project"

/-- The wording of an error. -/
def TreeError.message : TreeError → String
  | .unknownNode id => unknownNodeMessage id
  | .notAContainer parent child =>
    "cannot add '" ++ child ++ "' under '" ++ parent ++ "': not a folder"

/-- The number after a document's number; the largest one is its own successor. -/
def orderSuccessor (order : UInt64) : UInt64 :=
  if order = UInt64.ofNat (UInt64.size - 1) then order else order + 1

/-- The root of every project. -/
def rootNode : Node := { Node.folder "" with resource? := some "" }

end DocumentRules.Project

namespace DocumentRules

open Text Collection History Project

/-- Nodes and what rules need to know besides them. The node with identifier `i` is the member of
`nodes` at index `i`. -/
structure Project where
  nodes : Array Node
  /-- The document types whose forms rules may address. -/
  schema : SortedSet String
  /-- The change history, if one is bound. -/
  history? : Option Backend
  /-- The number of the next document that brings none. -/
  nextOrder : UInt64

namespace Project

/-- The project that holds nothing but its root. -/
def empty : Project := ⟨#[rootNode], SortedSet.empty, none, 0⟩

/-- The identifier of the root. -/
def root : NodeId := 0

/-- The node with an identifier. -/
def node? (project : Project) (id : NodeId) : Option Node := project.nodes[id]?

/-- The number of nodes. -/
def size (project : Project) : Nat := project.nodes.size

/-- The project with one more document type in its schema. -/
def registerExtension (project : Project) (extension : String) : Project :=
  { project with schema := project.schema.insert extension }

/-- The project with a change history. -/
def bindHistory (project : Project) (backend : Backend) : Project :=
  { project with history? := some backend }

/-- Whether a change history is bound. -/
def historyBound (project : Project) : Bool := project.history?.isSome

/-- The change history of the project. One without a bound history answers as an empty log does. -/
def backend (project : Project) : Backend := project.history?.getD CommitLog.empty.answer

/-! ### Adding nodes -/

/-- The resource path that a node gets under a parent. -/
def placedResource (parent node : Node) : Option String :=
  if node.resource?.isSome || node.detached then node.resource?
  else
    match parent.resource? with
    | some base => if base.isEmpty then some node.name else some (base ++ "/" ++ node.name)
    | none => some node.name

/-- The number that a node gets when `next` is the next one to give. -/
def placedOrder (next : UInt64) (node : Node) : Option UInt64 :=
  match node.kind with
  | .document => some (node.order?.getD next)
  | .folder | .reserved | .item => none

/-- The next number to give after a node got its own. -/
def orderAfter (next : UInt64) (node : Node) : UInt64 :=
  match node.kind with
  | .document =>
    match node.order? with
    | some order => max next (orderSuccessor order)
    | none => orderSuccessor next
  | .folder | .reserved | .item => next

/-- The node as it stands in a project under a parent. -/
def placed (next : UInt64) (parentId : NodeId) (parent node : Node) : Node :=
  { node with
    resource? := placedResource parent node
    order? := placedOrder next node
    children := if node.isContainer then node.children else []
    parent? := some parentId }

/-- Puts a node under a parent, as the last of its children. Answers the project with the node and
the node's identifier, which is the number of nodes so far. -/
def insert (project : Project) (parentId : NodeId) (node : Node) :
    Except TreeError (Project × NodeId) :=
  match project.node? parentId with
  | none => .error (.unknownNode parentId)
  | some parent =>
    if parent.isContainer then
      let id := project.size
      let nodes := project.nodes.push (placed project.nextOrder parentId parent node)
      let nodes := nodes.modify parentId fun folder ↦
        { folder with children := folder.children ++ [id] }
      .ok ({ project with nodes, nextOrder := orderAfter project.nextOrder node }, id)
    else .error (.notAContainer parent.name node.name)

/-! ### Finding nodes -/

/-- The first child of a node that has a name. -/
def childNamed? (project : Project) (name : List Char) (id : NodeId) : Option NodeId :=
  (project.node? id).bind fun node ↦
    node.children.find? fun child ↦
      (project.node? child).any fun candidate ↦ candidate.name.toList == name

/-- The node to which some names lead from a node down. -/
def descend? (project : Project) (id : NodeId) : List (List Char) → Option NodeId
  | [] => some id
  | name :: rest => (project.childNamed? name id).bind fun child ↦ project.descend? child rest

/-- The node to which the segments of a path lead from the root down. -/
def resolve? (project : Project) (path : List Char) : Option NodeId :=
  project.descend? root (segments path)

/-- At most `bound` nodes on the way up from a node, the nearest first, the node itself excluded. -/
def ancestorsWithin (project : Project) : Nat → NodeId → List NodeId
  | 0, _ => []
  | bound + 1, id =>
    match (project.node? id).bind Node.parent? with
    | none => []
    | some parent => parent :: project.ancestorsWithin bound parent

/-- The nodes above a node, the nearest first. -/
def ancestors (project : Project) (id : NodeId) : List NodeId :=
  project.ancestorsWithin project.size id

/-- Whether one node is above the other. -/
def isAncestor (project : Project) (ancestor id : NodeId) : Bool :=
  (project.ancestors id).contains ancestor

/-- The nearest folder above a node. -/
def containingFolder? (project : Project) (id : NodeId) : Option NodeId :=
  (project.ancestors id).find? fun candidate ↦ (project.node? candidate).any Node.isContainer

/-! ### Walking the tree -/

/-- The documents and items of a subtree in depth-first order, or nothing if the walk down the child
lists is not over within `bound` levels. -/
def leavesWithin? (project : Project) : Nat → NodeId → Option (List NodeId)
  | 0, _ => none
  | bound + 1, id =>
    match project.node? id with
    | none => some []
    | some node =>
      if node.isContainer then
        (node.children.mapM (project.leavesWithin? bound)).map List.flatten
      else some [id]

/-- The documents and items of a subtree in depth-first order, or nothing if the walk never ends:
what a folder lists may list the folder again. On its way down a walk that ends meets no folder
twice, so it needs no more than one level for each node and one for a child that is no node. -/
def leaves? (project : Project) (id : NodeId) : Option (List NodeId) :=
  project.leavesWithin? (project.size + 1) id

/-- The documents and items that the walk over a subtree has met when it ends, and none if it never
does. -/
def leaves (project : Project) (id : NodeId) : List NodeId := (project.leaves? id).getD []

end Project

end DocumentRules
