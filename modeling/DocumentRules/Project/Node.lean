import DocumentRules.Form.Fields
import DocumentRules.Text.Segments

/-!
# Nodes

A project is made of nodes: documents, folders, and items that are not documents. A node may have a
resource path, which names it outside the project; a detached node has none and is not given one
when it is put into a project. The children and the parent of a node are those of the project that
holds it, and a copy of the node keeps them.
-/

set_option autoImplicit false
set_option relaxedAutoImplicit false

namespace DocumentRules.Project

open Text

/-- The identifier of a node: its place in the order of insertion. -/
abbrev NodeId : Type := Nat

/-- How the identifier of a node is written in a message. -/
def nodeLabel (id : NodeId) : String := "#" ++ toString id

/-- What a node is. -/
inductive NodeKind where
  /-- A document. -/
  | document
  /-- A folder, which may hold other nodes. -/
  | folder
  /-- A folder that the project itself maintains. -/
  | reserved
  /-- Something that is kept with the documents and is none. -/
  | item
  deriving DecidableEq, Repr

/-- Whether nodes of this kind may hold other nodes. -/
def NodeKind.isContainer : NodeKind → Bool
  | .folder | .reserved => true
  | .document | .item => false

/-- A node of a project, or one to be put into a project. -/
structure Node where
  name : String
  kind : NodeKind
  parent? : Option NodeId := none
  children : List NodeId := []
  disabled : Bool := false
  readOnly : Bool := false
  resource? : Option String := none
  detached : Bool := false
  /-- The place of a document in the order of the project's documents. -/
  order? : Option UInt64 := none
  content? : Option String := none
  form? : Option Form := none

namespace Node

/-- A document by its name. -/
def document (name : String) : Node := { name, kind := .document }

/-- A folder by its name. -/
def folder (name : String) : Node := { name, kind := .folder }

/-- A reserved folder by its name. -/
def reserved (name : String) : Node := { name, kind := .reserved }

/-- An item by its name. -/
def item (name : String) : Node := { name, kind := .item }

/-- The node without its resource path, and not to be given one. -/
def detach (node : Node) : Node := { node with resource? := none, detached := true }

/-- Whether the node may hold other nodes. -/
def isContainer (node : Node) : Bool := node.kind.isContainer

/-- The extension of the last segment of the resource path. -/
def extension? (node : Node) : Option String :=
  node.resource?.bind fun resource ↦
    ((splitOn '/' resource.toList).getLast?.bind extensionOf).map String.ofList

end Node

end DocumentRules.Project
