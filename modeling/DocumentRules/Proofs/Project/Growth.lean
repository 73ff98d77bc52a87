import DocumentRules.Project.Tree

/-!
# How projects grow

A project starts with its root and grows by insertions. `Inserted` says all that a successful
insertion does: where the new node stands, what becomes of its parent, and that every other node
stays as it is. `Grown` collects the projects that insertions of admitted nodes lead to, together
with extensions of the schema and the binding of a history, which leave the nodes alone. A node is
newly constructed when it holds no links (`Node.IsNew`); a copy of a node in a project is not.
-/

set_option autoImplicit false
set_option relaxedAutoImplicit false

namespace DocumentRules.Project

open History

/-- A node without links to other nodes, as every newly constructed one is. -/
def Node.IsNew (node : Node) : Prop := node.parent? = none ∧ node.children = []

theorem node?_eq_none_iff {project : Project} {id : NodeId} :
    project.node? id = none ↔ project.size ≤ id :=
  Array.getElem?_eq_none_iff

theorem lt_size_of_node? {project : Project} {id : NodeId} {node : Node}
    (h : project.node? id = some node) : id < project.size := by
  refine Nat.lt_of_not_le fun hsize ↦ ?_
  rw [node?_eq_none_iff.mpr hsize] at h
  exact nomatch h

theorem exists_node?_of_lt_size {project : Project} {id : NodeId} (h : id < project.size) :
    ∃ node, project.node? id = some node :=
  Option.ne_none_iff_exists'.mp fun hnone ↦ Nat.not_le_of_lt h (node?_eq_none_iff.mp hnone)

/-- The empty project has no node but the root. -/
theorem eq_root_of_node?_empty {id : NodeId} {node : Node}
    (h : Project.empty.node? id = some node) : id = root ∧ node = rootNode := by
  obtain rfl : id = root := Nat.lt_one_iff.mp (lt_size_of_node? h)
  exact ⟨rfl, (Option.some.inj h).symm⟩

/-- What an insertion of a node under a parent does to a project. -/
structure Inserted (project : Project) (parentId : NodeId) (node : Node) (next : Project)
    (parent : Node) : Prop where
  /-- The parent is in the project. -/
  node?_parent : project.node? parentId = some parent
  isContainer : parent.isContainer = true
  size_next : next.size = project.size + 1
  /-- The new node takes the first free place. -/
  next_new : next.node? project.size = some (placed project.nextOrder parentId parent node)
  /-- The new node is the last child of its parent. -/
  next_parent : next.node? parentId =
    some { parent with children := parent.children ++ [project.size] }
  next_other : ∀ other, other ≠ project.size → other ≠ parentId →
    next.node? other = project.node? other
  schema_next : next.schema = project.schema
  history_next : next.history? = project.history?
  nextOrder_next : next.nextOrder = orderAfter project.nextOrder node

/-- A successful insertion does what `Inserted` says, and answers with the new node's identifier. -/
theorem inserted_of_insert {project next : Project} {parentId id : NodeId} {node : Node}
    (h : project.insert parentId node = .ok (next, id)) :
    id = project.size ∧ ∃ parent, Inserted project parentId node next parent := by
  unfold insert at h
  split at h
  · exact nomatch h
  · rename_i parent hparent
    split at h
    · rename_i hcontainer
      simp only [Except.ok.injEq, Prod.mk.injEq] at h
      obtain ⟨rfl, rfl⟩ := h
      have hne : parentId ≠ project.size := Nat.ne_of_lt (lt_size_of_node? hparent)
      refine ⟨rfl, parent, hparent, hcontainer, ?_, ?_, ?_, ?_, rfl, rfl, rfl⟩
      · unfold size
        rw [Array.size_modify, Array.size_push]
      · rw [node?, Array.getElem?_modify, if_neg hne]
        exact Array.getElem?_push_size
      · rw [node?, Array.getElem?_modify, if_pos rfl, Array.getElem?_push]
        exact congrArg (Option.map _) ((if_neg hne).trans hparent)
      · intro other hnew hother
        rw [node?, Array.getElem?_modify, if_neg (Ne.symm hother), Array.getElem?_push]
        exact if_neg hnew
    · exact nomatch h

/-- The node with an identifier before an insertion, for one that is not new: only the parent of the
new node differs, and that by its child list. -/
theorem Inserted.exists_node?_of_ne {project next : Project} {parentId : NodeId}
    {node parent : Node} (h : Inserted project parentId node next parent) {id : NodeId}
    {other : Node} (hother : next.node? id = some other) (hnew : id ≠ project.size) :
    ∃ before, project.node? id = some before ∧ other =
      { before with
        children := before.children ++ if id = parentId then [project.size] else [] } := by
  by_cases hparent : id = parentId
  · subst hparent
    obtain rfl : _ = other := Option.some.inj (h.next_parent.symm.trans hother)
    exact ⟨parent, h.node?_parent, by simp⟩
  · rw [h.next_other id hnew hparent] at hother
    exact ⟨other, hother, by simp [hparent]⟩

/-- Assumes: something that is read off a node and does not depend on its child list. The new node
shows it as it was placed, and it stays as it is for all others. -/
theorem Inserted.bind_node?_eq {project next : Project} {parentId : NodeId} {node parent : Node}
    (h : Inserted project parentId node next parent) {α : Type} {read : Node → Option α}
    (hread : ∀ (other : Node) (children : List NodeId), read { other with children } = read other)
    (id : NodeId) :
    (next.node? id).bind read =
      if id = project.size then read (placed project.nextOrder parentId parent node)
      else (project.node? id).bind read := by
  by_cases hnew : id = project.size
  · rw [hnew, h.next_new, if_pos rfl, Option.bind_some]
  · rw [if_neg hnew]
    by_cases hparent : id = parentId
    · rw [hparent, h.next_parent, h.node?_parent, Option.bind_some, hread, Option.bind_some]
    · rw [h.next_other id hnew hparent]

/-- The projects that grow from the empty one by insertions of admitted nodes. -/
inductive Grown (admitted : Node → Prop) : Project → Prop where
  | empty : Grown admitted Project.empty
  | insert {project next : Project} {parentId id : NodeId} {node : Node}
      (hproject : Grown admitted project) (hnode : admitted node)
      (hinsert : project.insert parentId node = .ok (next, id)) : Grown admitted next
  | registerExtension {project : Project} (hproject : Grown admitted project)
      (extension : String) : Grown admitted (project.registerExtension extension)
  | bindHistory {project : Project} (hproject : Grown admitted project) (backend : Backend) :
      Grown admitted (project.bindHistory backend)

/-- Assumes: a property of nodes in their places that the empty project has, that every insertion of
an admitted node keeps, and that depends on the nodes alone. Every grown project has it. -/
theorem Grown.nodes_induction {admitted : Node → Prop} {property : Project → Prop}
    (hempty : property Project.empty)
    (hinsert : ∀ {project next : Project} {parentId : NodeId} {node parent : Node},
      Grown admitted project → admitted node → property project →
        Inserted project parentId node next parent → property next)
    (hnodes : ∀ (project other : Project), other.nodes = project.nodes → property project →
      property other)
    {project : Project} (h : Grown admitted project) : property project := by
  induction h with
  | empty => exact hempty
  | insert hproject hnode hinsertion ih =>
    obtain ⟨-, parent, hinserted⟩ := inserted_of_insert hinsertion
    exact hinsert hproject hnode ih hinserted
  | @registerExtension project _ extension ih =>
    exact hnodes project (project.registerExtension extension) rfl ih
  | @bindHistory project _ backend ih => exact hnodes project (project.bindHistory backend) rfl ih

theorem Grown.mono {admitted weaker : Node → Prop} (himp : ∀ node, admitted node → weaker node)
    {project : Project} (h : Grown admitted project) : Grown weaker project := by
  induction h with
  | empty => exact .empty
  | insert _ hnode hinsert ih => exact .insert ih (himp _ hnode) hinsert
  | registerExtension _ extension ih => exact .registerExtension ih extension
  | bindHistory _ backend ih => exact .bindHistory ih backend

/-! ### A small project -/

/-- The project of a folder with a document in it, and of a document beside the folder. -/
def sample : Project where
  nodes := #[
    { rootNode with children := [1, 3] },
    { Node.folder "A" with resource? := some "A", parent? := some root, children := [2] },
    { Node.document "inside" with
      resource? := some "A/inside", parent? := some 1, order? := some 0 },
    { Node.document "beside" with
      resource? := some "beside", parent? := some root, order? := some 1 }]
  schema := .empty
  history? := none
  nextOrder := 2

/-- Assumes: a condition on nodes that the nodes of the sample meet. The sample is grown from nodes
that meet it. -/
theorem grown_sample_of {admitted : Node → Prop} (hfolder : admitted (Node.folder "A"))
    (hinside : admitted (Node.document "inside")) (hbeside : admitted (Node.document "beside")) :
    Grown admitted sample := by
  have hfirst : Grown admitted _ := @Grown.insert _ _ _ root 1 _ .empty hfolder rfl
  have hsecond : Grown admitted _ := @Grown.insert _ _ _ 1 2 _ hfirst hinside rfl
  exact @Grown.insert _ _ _ root 3 _ hsecond hbeside rfl

theorem grown_sample : Grown Node.IsNew sample :=
  grown_sample_of ⟨rfl, rfl⟩ ⟨rfl, rfl⟩ ⟨rfl, rfl⟩

end DocumentRules.Project
