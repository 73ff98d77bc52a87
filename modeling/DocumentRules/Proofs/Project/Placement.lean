import DocumentRules.Proofs.Project.Ancestry

/-!
# Nodes as they were placed

A node of a grown project is one that was admitted, as it was placed under its parent: nothing about
it has changed since but its child list (`Grown.exists_placed`). The parent still has the resource
path that the node's own was made from, and the number that the node got is still its number. So
documents and nothing else have a number (`Grown.isSome_order?_iff`).
-/

set_option autoImplicit false
set_option relaxedAutoImplicit false

namespace DocumentRules.Project

variable {admitted : Node → Prop} {project : Project}

/-- The root stays as it is but for its child list. -/
theorem Grown.exists_root (h : Grown admitted project) :
    ∃ children, project.node? root = some { rootNode with children } := by
  refine @nodes_induction admitted
    (fun project ↦ ∃ children, project.node? root = some { rootNode with children }) ⟨[], rfl⟩ ?_ ?_
    project h
  · rintro project next parentId node parent - - ⟨children, hroot⟩ hinserted
    have hsize := lt_size_of_node? hroot
    obtain ⟨other, hother⟩ : ∃ other, next.node? root = some other :=
      exists_node?_of_lt_size (by rw [hinserted.size_next]; exact Nat.lt_succ_of_lt hsize)
    obtain ⟨before, hbefore, rfl⟩ := hinserted.exists_node?_of_ne hother (Nat.ne_of_lt hsize)
    obtain rfl : _ = before := Option.some.inj (hroot.symm.trans hbefore)
    exact ⟨_, hother⟩
  · intro project other hnodes
    simp only [node?, hnodes, imp_self]

/-- A node other than the root is an admitted node that was placed under its parent, and only its
child list may have changed since. -/
theorem Grown.exists_placed (h : Grown admitted project) {id : NodeId} {node : Node}
    (hnode : project.node? id = some node) (hroot : id ≠ root) :
    ∃ inserted next parentId parent, admitted inserted ∧
      project.node? parentId = some parent ∧
      node = { placed next parentId parent inserted with children := node.children } := by
  revert id node
  refine @nodes_induction admitted (fun project ↦ ∀ {id : NodeId} {node : Node},
    project.node? id = some node → id ≠ root → ∃ inserted next parentId parent,
      admitted inserted ∧ project.node? parentId = some parent ∧
      node = { placed next parentId parent inserted with children := node.children }) ?_ ?_ ?_
    project h
  · intro id node hnode hroot
    exact absurd (eq_root_of_node?_empty hnode).1 hroot
  · intro project next parentId inserted parent _ hadmitted ih hinserted id node hnode hroot
    by_cases hnew : id = project.size
    · subst hnew
      obtain rfl : _ = node := Option.some.inj (hinserted.next_new.symm.trans hnode)
      exact ⟨inserted, project.nextOrder, parentId, _, hadmitted, hinserted.next_parent, rfl⟩
    · obtain ⟨before, hbefore, rfl⟩ := hinserted.exists_node?_of_ne hnode hnew
      obtain ⟨original, number, upperId, upper, horiginal, hupper, hbefore⟩ := ih hbefore hroot
      have hsize := lt_size_of_node? hupper
      obtain ⟨other, hother⟩ : ∃ other, next.node? upperId = some other :=
        exists_node?_of_lt_size (by rw [hinserted.size_next]; exact Nat.lt_succ_of_lt hsize)
      obtain ⟨upper', hupper', rfl⟩ := hinserted.exists_node?_of_ne hother (Nat.ne_of_lt hsize)
      obtain rfl : upper = upper' := Option.some.inj (hupper.symm.trans hupper')
      refine ⟨original, number, upperId, _, horiginal, hother, ?_⟩
      rw [hbefore]
      rfl
  · intro project other hnodes ih id node hnode hroot
    simp only [node?, hnodes] at hnode ih ⊢
    exact ih hnode hroot

/-- Documents have a number, and no other node has one. -/
theorem Grown.isSome_order?_iff (h : Grown admitted project) {id : NodeId} {node : Node}
    (hnode : project.node? id = some node) :
    node.order?.isSome = true ↔ node.kind = .document := by
  by_cases hroot : id = root
  · subst hroot
    obtain ⟨children, hchildren⟩ := h.exists_root
    obtain rfl : _ = node := Option.some.inj (hchildren.symm.trans hnode)
    exact iff_of_false nofun nofun
  · obtain ⟨inserted, next, parentId, parent, -, -, hplaced⟩ := h.exists_placed hnode hroot
    rw [hplaced]
    show (placedOrder next inserted).isSome = true ↔ inserted.kind = .document
    unfold placedOrder
    cases inserted.kind <;> simp

end DocumentRules.Project
