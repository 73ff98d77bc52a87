import DocumentRules.Proofs.Project.Ancestry
import DocumentRules.Proofs.Project.Walks
import Mathlib.Data.List.Nodup

/-!
# Child lists that agree with parent links

When the child lists of a project agree with its parent links (`LinksAgree`), following the child
lists down from a node meets exactly the nodes from which parent links lead up to it
(`mem_subtreeWithin_iff`), and none of them twice (`nodup_subtreeWithin`). From the root it meets
every node of the project once (`subtree_root_perm`), so the child lists form one tree. No walk down
such child lists goes on for ever (`leaves?_eq_some`).
-/

set_option autoImplicit false
set_option relaxedAutoImplicit false

namespace DocumentRules.Project

/-- On the nodes of a project, child lists and parent links agree, no child list repeats an
identifier, and only folders have children. -/
structure LinksAgree (project : Project) : Prop where
  mem_children_iff : ∀ {id child : NodeId} {node : Node}, project.node? id = some node →
    child < project.size → (child ∈ node.children ↔ project.IsParent child id)
  nodup_children : ∀ {id : NodeId} {node : Node}, project.node? id = some node →
    node.children.Nodup
  isContainer_of_mem_children : ∀ {id child : NodeId} {node : Node},
    project.node? id = some node → child ∈ node.children → node.isContainer = true

/-- A node and all that following the child lists down from it meets, in depth-first order, down to
a depth of `bound`. -/
def subtreeWithin (project : Project) : Nat → NodeId → List NodeId
  | 0, _ => []
  | bound + 1, id =>
    match project.node? id with
    | none => []
    | some node => id :: node.children.flatMap (project.subtreeWithin bound)

/-- A node and all that is beneath it, in depth-first order. -/
def subtree (project : Project) (id : NodeId) : List NodeId :=
  project.subtreeWithin project.size id

namespace LinksAgree

variable {project : Project}

/-- A node is beneath another exactly when it is at or beneath one of the other's children. -/
theorem isWithin_iff_exists_child (h : LinksAgree project) {id top : NodeId} {node : Node}
    (hnode : project.node? top = some node) (hne : id ≠ top) :
    project.IsWithin id top ↔
      ∃ child ∈ node.children, child < project.size ∧ project.IsWithin id child := by
  unfold IsWithin
  rw [Relation.reflTransGen_iff_eq_or_transGen, Relation.TransGen.tail'_iff]
  constructor
  · rintro (heq | ⟨child, hwithin, hparent⟩)
    · exact absurd heq.symm hne
    · have hsize := lt_size_of_isParent hparent
      exact ⟨child, (h.mem_children_iff hnode hsize).mpr hparent, hsize, hwithin⟩
  · rintro ⟨child, hchild, hsize, hwithin⟩
    exact Or.inr ⟨child, hwithin, (h.mem_children_iff hnode hsize).mp hchild⟩

/-- A bound that suffices for a node leaves enough for each of its children, because a child was
there after the node, unless it is no node of the project at all. -/
theorem size_le_of_mem_children (h : LinksAgree project) (hrooted : Rooted project) {bound : Nat}
    {top child : NodeId} {node : Node} (hnode : project.node? top = some node)
    (hchild : child ∈ node.children) (hbound : project.size ≤ top + (bound + 1)) :
    project.size ≤ child + bound := by
  rcases Nat.lt_or_ge child project.size with hsize | hsize
  · have hlt := hrooted.lt_of_isParent ((h.mem_children_iff hnode hsize).mp hchild)
    calc project.size ≤ top + (bound + 1) := hbound
      _ = top + 1 + bound := by rw [Nat.add_assoc, Nat.add_comm 1 bound]
      _ ≤ child + bound := Nat.add_le_add_right (Nat.succ_le_of_lt hlt) bound
  · exact Nat.le_add_right_of_le hsize

/-- Assumes: a bound that is not below the number of nodes since the top. The walk meets the nodes
that are at or beneath the top, and no others. -/
theorem mem_subtreeWithin_iff (h : LinksAgree project) (hrooted : Rooted project) {bound : Nat}
    {top id : NodeId} (hbound : project.size ≤ top + bound) :
    id ∈ project.subtreeWithin bound top ↔ id < project.size ∧ project.IsWithin id top := by
  have hunknown : ∀ {top}, project.size ≤ top →
      ¬ (id < project.size ∧ project.IsWithin id top) := by
    rintro top htop ⟨hsize, hwithin⟩
    exact Nat.not_lt_of_le (Nat.le_trans htop (hrooted.le_of_isWithin hwithin)) hsize
  induction bound generalizing top with
  | zero => exact iff_of_false List.not_mem_nil (hunknown hbound)
  | succ bound ih =>
    cases hnode : project.node? top with
    | none =>
      simp only [subtreeWithin, hnode]
      exact iff_of_false List.not_mem_nil (hunknown (node?_eq_none_iff.mp hnode))
    | some node =>
      simp only [subtreeWithin, hnode, List.mem_cons, List.mem_flatMap]
      have hbelow : ∀ child ∈ node.children, (id ∈ project.subtreeWithin bound child ↔
          id < project.size ∧ project.IsWithin id child) := fun child hchild ↦
        ih (h.size_le_of_mem_children hrooted hnode hchild hbound)
      by_cases htop : id = top
      · subst htop
        exact iff_of_true (Or.inl rfl) ⟨lt_size_of_node? hnode, Relation.ReflTransGen.refl⟩
      · rw [h.isWithin_iff_exists_child hnode htop, or_iff_right htop]
        constructor
        · rintro ⟨child, hchild, hmem⟩
          obtain ⟨hsize, hwithin⟩ := (hbelow child hchild).mp hmem
          have hknown := Nat.lt_of_le_of_lt (hrooted.le_of_isWithin hwithin) hsize
          exact ⟨hsize, child, hchild, hknown, hwithin⟩
        · rintro ⟨hsize, child, hchild, -, hwithin⟩
          exact ⟨child, hchild, (hbelow child hchild).mpr ⟨hsize, hwithin⟩⟩

/-- Assumes: a bound that is not below the number of nodes since the top. The walk meets no node
twice, since nothing is beneath two children of one node. -/
theorem nodup_subtreeWithin (h : LinksAgree project) (hrooted : Rooted project) {bound : Nat}
    {top : NodeId} (hbound : project.size ≤ top + bound) :
    (project.subtreeWithin bound top).Nodup := by
  induction bound generalizing top with
  | zero => exact List.nodup_nil
  | succ bound ih =>
    cases hnode : project.node? top with
    | none =>
      simp only [subtreeWithin, hnode]
      exact List.nodup_nil
    | some node =>
      simp only [subtreeWithin, hnode]
      have hchildBound : ∀ child ∈ node.children, project.size ≤ child + bound :=
        fun child hchild ↦ h.size_le_of_mem_children hrooted hnode hchild hbound
      -- what the walk meets below a child is a node of the project, and so is the child
      have hbelow : ∀ child ∈ node.children, ∀ id ∈ project.subtreeWithin bound child,
          project.IsParent child top ∧ project.IsWithin id child := by
        intro child hchild id hid
        obtain ⟨hsize, hwithin⟩ :=
          (h.mem_subtreeWithin_iff hrooted (hchildBound child hchild)).mp hid
        have hknown := Nat.lt_of_le_of_lt (hrooted.le_of_isWithin hwithin) hsize
        exact ⟨(h.mem_children_iff hnode hknown).mp hchild, hwithin⟩
      refine List.nodup_cons.mpr ⟨fun hmem ↦ ?_, List.nodup_flatMap.mpr ⟨fun child hchild ↦
        ih (hchildBound child hchild), ?_⟩⟩
      · obtain ⟨child, hchild, hid⟩ := List.mem_flatMap.mp hmem
        obtain ⟨hparent, hwithin⟩ := hbelow child hchild top hid
        exact Nat.not_le_of_lt (hrooted.lt_of_isParent hparent) (hrooted.le_of_isWithin hwithin)
      · refine (h.nodup_children hnode).imp_of_mem fun {first second} hfirst hsecond hne ↦ ?_
        intro id hidFirst hidSecond
        obtain ⟨hparent, hwithin⟩ := hbelow first hfirst id hidFirst
        obtain ⟨hparent', hwithin'⟩ := hbelow second hsecond id hidSecond
        exact hne (hrooted.eq_of_isWithin_children hparent hparent' hwithin hwithin')

/-- The walk over the subtree at the root meets every node of the project once. -/
theorem subtree_root_perm (h : LinksAgree project) (hrooted : Rooted project) :
    (project.subtree root).Perm (List.range project.size) := by
  have hbound : project.size ≤ root + project.size := Nat.le_add_left _ _
  refine (List.perm_ext_iff_of_nodup (h.nodup_subtreeWithin hrooted hbound)
    List.nodup_range).mpr fun id ↦ ?_
  rw [h.mem_subtreeWithin_iff hrooted hbound, List.mem_range]
  exact and_iff_left_of_imp hrooted.isWithin_root

/-- Assumes: a bound that is not below the number of nodes since the top. The walk over the subtree
ends, and meets what the subtree holds, less the folders. -/
theorem leavesWithin?_eq_some (h : LinksAgree project) (hrooted : Rooted project) {bound : Nat}
    {top : NodeId} (hbound : project.size ≤ top + bound) :
    project.leavesWithin? (bound + 1) top =
      some ((project.subtreeWithin bound top).filter project.isLeaf) := by
  induction bound generalizing top with
  | zero =>
    have hnode : project.node? top = none := node?_eq_none_iff.mpr hbound
    simp only [leavesWithin?, hnode, subtreeWithin, List.filter_nil]
  | succ bound ih =>
    cases hnode : project.node? top with
    | none => simp only [leavesWithin?, subtreeWithin, hnode, List.filter_nil]
    | some node =>
      have hleaf : project.isLeaf top = !node.isContainer := by simp [isLeaf, hnode]
      cases hcontainer : node.isContainer with
      | true =>
        simp only [subtreeWithin, hnode]
        rw [List.filter_cons_of_neg (by simp [hleaf, hcontainer]), List.filter_flatMap,
          leavesWithin?_eq_some_iff hnode hcontainer]
        refine ⟨_, ?_, List.flatMap_def.symm⟩
        rw [List.map_map]
        exact List.map_congr_left fun child hchild ↦
          ih (h.size_le_of_mem_children hrooted hnode hchild hbound)
      | false =>
        have hchildren : node.children = [] := List.eq_nil_iff_forall_not_mem.mpr fun child hmem ↦
          Bool.false_ne_true (hcontainer.symm.trans (h.isContainer_of_mem_children hnode hmem))
        simp [leavesWithin?, subtreeWithin, hnode, hcontainer, hchildren, hleaf]

/-- The walk over any subtree ends. -/
theorem leaves?_eq_some (h : LinksAgree project) (hrooted : Rooted project) (top : NodeId) :
    project.leaves? top = some ((project.subtree top).filter project.isLeaf) :=
  h.leavesWithin?_eq_some hrooted (Nat.le_add_left _ _)

theorem leaves_eq_filter_subtree (h : LinksAgree project) (hrooted : Rooted project)
    (top : NodeId) : project.leaves top = (project.subtree top).filter project.isLeaf := by
  rw [leaves, h.leaves?_eq_some hrooted, Option.getD_some]

end LinksAgree

end DocumentRules.Project
