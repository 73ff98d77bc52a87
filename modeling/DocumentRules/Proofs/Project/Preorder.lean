import DocumentRules.Proofs.Project.Subtree

/-!
# Depth-first order

In depth-first order a node comes before all that is beneath it, and what is beneath one child of a
node comes before what is beneath a later child (`Precedes`). In a tree no two nodes precede each
other (`IsTree.not_precedes_of_precedes`), so nodes can be listed in this order in one way only
(`IsTree.eq_of_pairwise_precedes`). The walk over a subtree lists its leaves in this way
(`IsTree.pairwise_leaves`).
-/

set_option autoImplicit false
set_option relaxedAutoImplicit false

namespace DocumentRules.Project

/-- One node comes before another in depth-first order. -/
inductive Precedes (project : Project) : NodeId → NodeId → Prop where
  | above {upper lower : NodeId} (habove : project.isAncestor upper lower = true) :
      Precedes project upper lower
  /-- The nodes are at or beneath two children of a node, of which the first is listed earlier. -/
  | beside {top left right first second : NodeId} {node : Node}
      (hnode : project.node? top = some node) (hlisted : [left, right].Sublist node.children)
      (hfirst : project.IsWithin first left) (hsecond : project.IsWithin second right) :
      Precedes project first second

/-- In a list without repetition two members stand in one order only. -/
theorem not_sublist_swap {α : Type} {members : List α} (hnodup : members.Nodup) {first second : α}
    (h : [first, second].Sublist members) : ¬ [second, first].Sublist members := by
  induction members with
  | nil => exact absurd h (by simp)
  | cons member rest ih =>
    obtain ⟨hmember, hrest⟩ := List.nodup_cons.mp hnodup
    intro hswapped
    rcases List.sublist_cons_iff.mp h with h | ⟨_, heq, hback⟩
    · rcases List.sublist_cons_iff.mp hswapped with hswapped | ⟨_, heq, -⟩
      · exact ih hrest h hswapped
      · exact hmember ((List.cons.inj heq).1 ▸ h.subset (by simp))
    · obtain ⟨rfl, rfl⟩ := List.cons.inj heq
      rcases List.sublist_cons_iff.mp hswapped with hswapped | ⟨_, heq, -⟩
      · exact hmember (hswapped.subset (by simp))
      · exact hmember ((List.cons.inj heq).1 ▸ hback.subset (by simp))

namespace IsTree

variable {project : Project}

/-- Two children of a node that are listed one after the other are different nodes with the node as
their parent. -/
theorem of_listed (h : IsTree project) {top left right : NodeId} {node : Node}
    (hnode : project.node? top = some node) (hlisted : [left, right].Sublist node.children) :
    project.IsParent left top ∧ project.IsParent right top ∧ left ≠ right := by
  refine ⟨(h.mem_children_iff hnode).mp (hlisted.subset (by simp)),
    (h.mem_children_iff hnode).mp (hlisted.subset (by simp)), ?_⟩
  rintro rfl
  exact absurd ((h.nodup_children hnode).sublist hlisted) (by simp)

/-- Of two nodes beneath different children of a node, neither is at or beneath the other. -/
theorem not_isWithin_of_listed (h : IsTree project) {top left right first second : NodeId}
    {node : Node} (hnode : project.node? top = some node)
    (hlisted : [left, right].Sublist node.children) (hfirst : project.IsWithin first left)
    (hsecond : project.IsWithin second right) :
    ¬ project.IsWithin first second ∧ ¬ project.IsWithin second first := by
  obtain ⟨hleft, hright, hne⟩ := h.of_listed hnode hlisted
  exact ⟨fun hwithin ↦ hne (h.eq_of_isWithin_children hleft hright hfirst (hwithin.trans hsecond)),
    fun hwithin ↦ hne (h.eq_of_isWithin_children hleft hright (hwithin.trans hfirst) hsecond)⟩

/-- Assumes: nodes beneath different children of a node. No node beneath that one is above both of
them, because it would be beneath a single child. -/
theorem eq_of_isWithin_both (h : IsTree project) {top left right first second other : NodeId}
    (hleft : project.IsParent left top) (hright : project.IsParent right top) (hne : left ≠ right)
    (hfirst : project.IsWithin first left) (hsecond : project.IsWithin second right)
    (hfirstOther : project.IsWithin first other) (hsecondOther : project.IsWithin second other)
    (hother : project.IsWithin other top) : other = top := by
  rcases Relation.ReflTransGen.cases_tail hother with heq | ⟨child, hwithin, hchild⟩
  · exact heq.symm
  · have hleftChild : left = child :=
      h.eq_of_isWithin_children hleft hchild hfirst (hfirstOther.trans hwithin)
    have hrightChild : right = child :=
      h.eq_of_isWithin_children hright hchild hsecond (hsecondOther.trans hwithin)
    exact absurd (hleftChild.trans hrightChild.symm) hne

/-- No two nodes precede each other. -/
theorem not_precedes_of_precedes (h : IsTree project) {first second : NodeId}
    (hprecedes : project.Precedes first second) : ¬ project.Precedes second first := by
  intro hreverse
  cases hprecedes with
  | above habove =>
    cases hreverse with
    | above hreverse =>
      have hcycle := (h.isAncestor_iff.mp habove).trans (h.isAncestor_iff.mp hreverse)
      obtain ⟨parent, hparent, hwithin⟩ := Relation.TransGen.head'_iff.mp hcycle
      exact absurd (h.le_of_isWithin hwithin) (Nat.not_le_of_lt (h.lt_of_isParent hparent))
    | beside hnode hlisted hsecond hfirst =>
      exact (h.not_isWithin_of_listed hnode hlisted hsecond hfirst).1
        (h.isWithin_of_isAncestor habove)
  | @beside top left right _ _ node hnode hlisted hfirst hsecond =>
    cases hreverse with
    | above hreverse =>
      exact (h.not_isWithin_of_listed hnode hlisted hfirst hsecond).1
        (h.isWithin_of_isAncestor hreverse)
    | @beside top' left' right' _ _ node' hnode' hlisted' hsecond' hfirst' =>
      obtain ⟨hleft, hright, hne⟩ := h.of_listed hnode hlisted
      obtain ⟨hleft', hright', hne'⟩ := h.of_listed hnode' hlisted'
      -- the two nodes part at one node only, and there in one order only
      have htop : top = top' := by
        have habove : project.IsWithin first top := hfirst.tail hleft
        rcases habove.total (hfirst'.tail hright') with hwithin | hwithin
        · exact h.eq_of_isWithin_both hleft' hright' hne' hsecond' hfirst' (hsecond.tail hright)
            (hfirst.tail hleft) hwithin
        · exact (h.eq_of_isWithin_both hleft hright hne hfirst hsecond (hfirst'.tail hright')
            (hsecond'.tail hleft') hwithin).symm
      subst htop
      obtain rfl : node = node' := Option.some.inj (hnode.symm.trans hnode')
      obtain rfl : left = right' := h.eq_of_isWithin_children hleft hright' hfirst hfirst'
      obtain rfl : right = left' := h.eq_of_isWithin_children hright hleft' hsecond hsecond'
      exact not_sublist_swap (h.nodup_children hnode) hlisted hlisted'

/-- Nodes can be listed in depth-first order in one way only. -/
theorem eq_of_pairwise_precedes (h : IsTree project) {first second : List NodeId}
    (hfirst : first.Pairwise project.Precedes) (hsecond : second.Pairwise project.Precedes)
    (hmem : ∀ id, id ∈ first ↔ id ∈ second) : first = second := by
  have hnodup : ∀ {ids : List NodeId}, ids.Pairwise project.Precedes → ids.Nodup := by
    intro ids hids
    refine hids.imp ?_
    rintro id _ hprecedes rfl
    exact h.not_precedes_of_precedes hprecedes hprecedes
  refine List.Perm.eq_of_pairwise (fun id other _ _ hprecedes hreverse ↦ ?_) hfirst hsecond
    ((List.perm_ext_iff_of_nodup (hnodup hfirst) (hnodup hsecond)).mpr hmem)
  exact absurd hreverse (h.not_precedes_of_precedes hprecedes)

/-- What the child lists lead down to from a node is at or beneath the node. -/
theorem isWithin_of_mem_subtreeWithin (h : IsTree project) {bound : Nat} {top id : NodeId}
    (hmem : id ∈ project.subtreeWithin bound top) : project.IsWithin id top := by
  induction bound generalizing top with
  | zero => exact absurd hmem List.not_mem_nil
  | succ bound ih =>
    unfold subtreeWithin at hmem
    split at hmem
    · exact absurd hmem List.not_mem_nil
    · rename_i node hnode
      rcases List.mem_cons.mp hmem with rfl | hmem
      · exact Relation.ReflTransGen.refl
      · obtain ⟨child, hchild, hmem⟩ := List.mem_flatMap.mp hmem
        exact (ih hmem).tail ((h.mem_children_iff hnode).mp hchild)

theorem pairwise_subtreeWithin (h : IsTree project) (bound : Nat) (top : NodeId) :
    (project.subtreeWithin bound top).Pairwise project.Precedes := by
  induction bound generalizing top with
  | zero => exact List.Pairwise.nil
  | succ bound ih =>
    unfold subtreeWithin
    split
    · exact List.Pairwise.nil
    · rename_i node hnode
      refine List.pairwise_cons.mpr ⟨fun id hid ↦ ?_, List.pairwise_flatMap.mpr ⟨fun child _ ↦
        ih child, List.pairwise_iff_forall_sublist.mpr fun {left right} hlisted ↦ ?_⟩⟩
      · obtain ⟨child, hchild, hid⟩ := List.mem_flatMap.mp hid
        have hparent := (h.mem_children_iff hnode).mp hchild
        exact .above (h.isAncestor_iff.mpr
          (.tail' (h.isWithin_of_mem_subtreeWithin hid) hparent))
      · intro first hfirst second hsecond
        exact .beside hnode hlisted (h.isWithin_of_mem_subtreeWithin hfirst)
          (h.isWithin_of_mem_subtreeWithin hsecond)

/-- The walk over a subtree lists its leaves in depth-first order. -/
theorem pairwise_leaves (h : IsTree project) (top : NodeId) :
    (project.leaves top).Pairwise project.Precedes := by
  rw [h.linksAgree.leaves_eq_filter_subtree h.toRooted]
  exact (h.pairwise_subtreeWithin project.size top).filter _

/-- Assumes: a node at or beneath another. The walk over its subtree lists the leaves that the walk
over the larger subtree lists and that lie in the smaller one, in the same order. -/
theorem leaves_eq_filter (h : IsTree project) {lower upper : NodeId}
    (hwithin : project.IsWithin lower upper) :
    project.leaves lower =
      (project.leaves upper).filter fun id ↦ id == lower || project.isAncestor lower id := by
  refine h.eq_of_pairwise_precedes (h.pairwise_leaves lower) ((h.pairwise_leaves upper).filter _)
    fun id ↦ ?_
  rw [List.mem_filter, h.mem_leaves_iff, h.mem_leaves_iff, h.isWithin_iff]
  constructor
  · rintro ⟨hleaf, hlower⟩
    exact ⟨⟨hleaf, hlower.trans hwithin⟩, hlower⟩
  · rintro ⟨⟨hleaf, -⟩, hlower⟩
    exact ⟨hleaf, hlower⟩

end IsTree

end DocumentRules.Project
