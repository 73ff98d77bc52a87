import DocumentRules.Proofs.Project.Copies

/-!
# Subtrees

In a project grown from newly constructed nodes the child lists and the parent links say the same
(`IsTree`): a node is in a child list exactly when the link of the node leads to the list's owner,
and it is there once. The walk over the child lists of a subtree therefore meets every document and
item that is at or beneath its top (`mem_leaves_iff`) and none of them twice (`nodup_leaves`).
-/

set_option autoImplicit false
set_option relaxedAutoImplicit false

namespace DocumentRules.Project

/-- Child lists and parent links agree, and no child list repeats a node. -/
structure IsTree (project : Project) : Prop extends Rooted project where
  mem_children_iff : ∀ {id child : NodeId} {node : Node}, project.node? id = some node →
    (child ∈ node.children ↔ project.IsParent child id)
  nodup_children : ∀ {id : NodeId} {node : Node}, project.node? id = some node →
    node.children.Nodup

/-- A project grown from newly constructed nodes is a tree. -/
theorem Grown.isTree {project : Project} (h : Grown Node.IsNew project) : IsTree project := by
  obtain ⟨nodes, hfrom, hnew⟩ := h.exists_grownFrom
  have hbrought : ∀ id, broughtChildren nodes id = [] := by
    intro id
    rcases broughtChildren_eq nodes id with heq | ⟨node, hnode, -, heq⟩
    · exact heq
    · exact heq.trans (hnew node hnode).2
  refine ⟨h.rooted, fun {id child node} hnode ↦ ?_, fun {id node} hnode ↦ ?_⟩
  · rw [hfrom.children_eq hnode, hbrought, List.nil_append, mem_linkedTo_iff]
  · rw [hfrom.children_eq hnode, hbrought, List.nil_append]
    exact nodup_linkedTo project id

/-! ### The leaves of a subtree -/

namespace IsTree

variable {project : Project}

/-- In a tree the links agree, and a child list names no node that the project does not have. -/
theorem linksAgree (h : IsTree project) : LinksAgree project where
  mem_children_iff hnode _ := h.mem_children_iff hnode
  nodup_children := h.nodup_children
  isContainer_of_mem_children := by
    intro id child node hnode hchild
    obtain ⟨-, folder, hfolder, hcontainer⟩ :=
      h.parent_of_isParent ((h.mem_children_iff hnode).mp hchild)
    obtain rfl : folder = node := Option.some.inj (hfolder.symm.trans hnode)
    exact hcontainer

/-- The walk over a subtree meets the documents and items at or beneath its top, and no others. -/
theorem mem_leaves_iff (h : IsTree project) {top id : NodeId} :
    id ∈ project.leaves top ↔ project.isLeaf id = true ∧ project.IsWithin id top := by
  rw [h.linksAgree.leaves_eq_filter_subtree h.toRooted, List.mem_filter, subtree,
    h.linksAgree.mem_subtreeWithin_iff h.toRooted (Nat.le_add_left _ _)]
  constructor
  · rintro ⟨⟨-, hwithin⟩, hleaf⟩
    exact ⟨hleaf, hwithin⟩
  · rintro ⟨hleaf, hwithin⟩
    obtain ⟨node, hnode, -⟩ := isLeaf_iff.mp hleaf
    exact ⟨⟨lt_size_of_node? hnode, hwithin⟩, hleaf⟩

/-- The walk over a subtree meets no node twice. -/
theorem nodup_leaves (h : IsTree project) (top : NodeId) : (project.leaves top).Nodup := by
  rw [h.linksAgree.leaves_eq_filter_subtree h.toRooted]
  exact (h.linksAgree.nodup_subtreeWithin h.toRooted (Nat.le_add_left _ _)).filter _

end IsTree

end DocumentRules.Project
