import DocumentRules.Proofs.Project.Links

/-!
# What a copy of a folder brings along

A node that is copied from a project keeps its child list. A document or an item loses it when it is
put into a project, but a folder does not: it stands there with the children of the folder it was
copied from, whose parent links lead elsewhere, and its own children come behind them
(`GrownFrom.children_eq`).

`GrownFrom.linksAgree_iff` says when this does no harm. Every node is listed by its parent, and only
folders have children, whatever is inserted. Child lists and parent links agree exactly when the
child lists that inserted folders brought along repeat nothing and name no node of the project, as
those of newly constructed folders do, and then the child lists form one tree of all nodes.
`exists_child_of_two_folders` is a copied folder with which this goes wrong: the document in the
folder is met twice on the way down from the root.
-/

set_option autoImplicit false
set_option relaxedAutoImplicit false

namespace DocumentRules.Project

open History

/-- The projects that insertions of some nodes lead to, in the order of the nodes. -/
inductive GrownFrom : List Node → Project → Prop where
  | empty : GrownFrom [] Project.empty
  | insert {nodes : List Node} {project next : Project} {parentId id : NodeId} {node : Node}
      (hproject : GrownFrom nodes project)
      (hinsert : project.insert parentId node = .ok (next, id)) :
      GrownFrom (nodes ++ [node]) next
  | registerExtension {nodes : List Node} {project : Project} (hproject : GrownFrom nodes project)
      (extension : String) : GrownFrom nodes (project.registerExtension extension)
  | bindHistory {nodes : List Node} {project : Project} (hproject : GrownFrom nodes project)
      (backend : Backend) : GrownFrom nodes (project.bindHistory backend)

/-- The child list that a node keeps when it is put into a project. -/
def Node.keptChildren (node : Node) : List NodeId :=
  if node.isContainer then node.children else []

/-- The child list that the node with an identifier has brought along, when the nodes were inserted
in this order. -/
def broughtChildren (nodes : List Node) : NodeId → List NodeId
  | 0 => []
  | place + 1 => (nodes[place]?).elim [] Node.keptChildren

/-- The nodes whose parent links lead to a node, in the order of their insertion. -/
def linkedTo (project : Project) (id : NodeId) : List NodeId :=
  (List.range project.size).filter fun child ↦ project.parentOf? child == some id

/-- What a node has brought along is nothing or the child list of an inserted folder. -/
theorem broughtChildren_eq (nodes : List Node) (id : NodeId) :
    broughtChildren nodes id = [] ∨
      ∃ node ∈ nodes, node.isContainer = true ∧ broughtChildren nodes id = node.children := by
  cases id with
  | zero => exact Or.inl rfl
  | succ place =>
    rw [broughtChildren]
    cases hnode : nodes[place]? with
    | none => exact Or.inl rfl
    | some node =>
      rw [Option.elim_some, Node.keptChildren]
      split
      · exact Or.inr ⟨node, List.mem_of_getElem? hnode, ‹_›, rfl⟩
      · exact Or.inl rfl

theorem mem_linkedTo_iff {project : Project} {id child : NodeId} :
    child ∈ project.linkedTo id ↔ project.IsParent child id := by
  rw [linkedTo, List.mem_filter, List.mem_range, beq_iff_eq]
  exact and_iff_right_of_imp lt_size_of_isParent

theorem nodup_linkedTo (project : Project) (id : NodeId) : (project.linkedTo id).Nodup :=
  List.nodup_range.filter _

/-- The new node is linked to its parent, and no other link changes. -/
theorem Inserted.linkedTo_eq {project next : Project} {parentId : NodeId} {node parent : Node}
    (h : Inserted project parentId node next parent) (id : NodeId) :
    next.linkedTo id = project.linkedTo id ++ if id = parentId then [project.size] else [] := by
  have hold : ∀ child ∈ List.range project.size,
      (next.parentOf? child == some id) = (project.parentOf? child == some id) := by
    intro child hchild
    have hne : child ≠ project.size := Nat.ne_of_lt (List.mem_range.mp hchild)
    have hiff := h.isParent_iff child id
    rw [if_neg hne] at hiff
    exact Bool.eq_iff_iff.mpr (by simpa [IsParent] using hiff)
  have hnew : (next.parentOf? project.size == some id) = decide (id = parentId) := by
    have hiff := h.isParent_iff project.size id
    rw [if_pos rfl] at hiff
    exact Bool.eq_iff_iff.mpr (by simpa [IsParent] using hiff)
  rw [linkedTo, h.size_next, List.range_succ, List.filter_append, List.filter_congr hold, linkedTo,
    List.filter_singleton, hnew]
  by_cases hid : id = parentId <;> simp [hid]

namespace GrownFrom

variable {nodes : List Node} {project : Project}

theorem grown (h : GrownFrom nodes project) : Grown (fun _ ↦ True) project := by
  induction h with
  | empty => exact .empty
  | insert _ hinsert ih => exact .insert ih trivial hinsert
  | registerExtension _ extension ih => exact .registerExtension ih extension
  | bindHistory _ backend ih => exact .bindHistory ih backend

theorem size_eq (h : GrownFrom nodes project) : project.size = nodes.length + 1 := by
  induction h with
  | empty => rfl
  | insert _ hinsert ih =>
    obtain ⟨-, parent, hinserted⟩ := inserted_of_insert hinsert
    rw [hinserted.size_next, ih, List.length_append, List.length_singleton]
  | registerExtension _ _ ih | bindHistory _ _ ih => exact ih

/-- The child list of a node holds what the node brought along, and then the nodes that are linked
to it, in the order of their insertion. -/
theorem children_eq (h : GrownFrom nodes project) {id : NodeId} {node : Node}
    (hnode : project.node? id = some node) :
    node.children = broughtChildren nodes id ++ project.linkedTo id := by
  induction h generalizing id node with
  | empty =>
    obtain ⟨rfl, rfl⟩ := eq_root_of_node?_empty hnode
    rfl
  | @insert nodes project next parentId _ inserted hproject hinsert ih =>
    obtain ⟨-, parent, hinserted⟩ := inserted_of_insert hinsert
    rw [hinserted.linkedTo_eq]
    by_cases hnew : id = project.size
    · -- Nothing is linked to the new node yet, since a parent was there before its child.
      subst hnew
      have hnone : project.linkedTo project.size = [] := by
        refine List.eq_nil_iff_forall_not_mem.mpr fun child hchild ↦ ?_
        have hparent := mem_linkedTo_iff.mp hchild
        exact Nat.lt_asymm (hproject.grown.rooted.lt_of_isParent hparent)
          (lt_size_of_isParent hparent)
      have hne : project.size ≠ parentId :=
        (Nat.ne_of_lt (lt_size_of_node? hinserted.node?_parent)).symm
      obtain rfl : _ = node := Option.some.inj (hinserted.next_new.symm.trans hnode)
      rw [hnone, if_neg hne, hproject.size_eq]
      simp [broughtChildren, placed, Node.keptChildren]
    · obtain ⟨before, hbefore, rfl⟩ := hinserted.exists_node?_of_ne hnode hnew
      have hbrought : broughtChildren (nodes ++ [inserted]) id = broughtChildren nodes id := by
        cases id with
        | zero => rfl
        | succ place =>
          have hlt := lt_size_of_node? hbefore
          rw [hproject.size_eq] at hlt
          rw [broughtChildren, broughtChildren,
            List.getElem?_append_left (Nat.lt_of_succ_lt_succ hlt)]
      rw [ih hbefore, hbrought, List.append_assoc]
  | registerExtension _ _ ih | bindHistory _ _ ih => exact ih hnode

/-- Only folders have children, whatever has been inserted. -/
theorem isContainer_of_mem_children (h : GrownFrom nodes project) {id child : NodeId} {node : Node}
    (hnode : project.node? id = some node) (hchild : child ∈ node.children) :
    node.isContainer = true := by
  induction h generalizing id node with
  | empty =>
    obtain ⟨rfl, rfl⟩ := eq_root_of_node?_empty hnode
    rfl
  | @insert nodes project next parentId _ inserted _ hinsert ih =>
    obtain ⟨-, parent, hinserted⟩ := inserted_of_insert hinsert
    by_cases hnew : id = project.size
    · subst hnew
      obtain rfl : _ = node := Option.some.inj (hinserted.next_new.symm.trans hnode)
      have hkept : child ∈ inserted.keptChildren := hchild
      rw [Node.keptChildren] at hkept
      split at hkept
      · assumption
      · exact absurd hkept List.not_mem_nil
    · obtain ⟨before, hbefore, rfl⟩ := hinserted.exists_node?_of_ne hnode hnew
      show before.isContainer = true
      by_cases hparent : id = parentId
      · rw [hparent] at hbefore
        obtain rfl : parent = before := Option.some.inj (hinserted.node?_parent.symm.trans hbefore)
        exact hinserted.isContainer
      · rw [if_neg hparent, List.append_nil] at hchild
        exact ih hbefore hchild
  | registerExtension _ _ ih | bindHistory _ _ ih => exact ih hnode hchild

/-- The child list of an inserted folder is what the node at its place has brought along. -/
theorem exists_node?_of_mem (h : GrownFrom nodes project) {inserted : Node}
    (hmem : inserted ∈ nodes) (hcontainer : inserted.isContainer = true) :
    ∃ id node, project.node? id = some node ∧ broughtChildren nodes id = inserted.children := by
  obtain ⟨place, hplace, rfl⟩ := List.mem_iff_getElem.mp hmem
  obtain ⟨node, hnode⟩ : ∃ node, project.node? (place + 1) = some node :=
    exists_node?_of_lt_size (by rw [h.size_eq]; exact Nat.succ_lt_succ hplace)
  refine ⟨place + 1, node, hnode, ?_⟩
  rw [broughtChildren, List.getElem?_eq_getElem hplace, Option.elim_some, Node.keptChildren,
    if_pos hcontainer]

/-- Every node is listed by its parent. -/
theorem mem_children_of_isParent (h : GrownFrom nodes project) {id child : NodeId} {node : Node}
    (hnode : project.node? id = some node) (hparent : project.IsParent child id) :
    child ∈ node.children := by
  rw [h.children_eq hnode]
  exact List.mem_append_right _ (mem_linkedTo_iff.mpr hparent)

/-- Assumes: child lists that agree with parent links. What an inserted folder has brought along
repeats nothing and names no node of the project: a node named there would be listed again where it
was put. -/
theorem brought_of_linksAgree (h : GrownFrom nodes project) (hlinks : LinksAgree project)
    {inserted : Node} (hmem : inserted ∈ nodes) (hcontainer : inserted.isContainer = true) :
    inserted.children.Nodup ∧ ∀ child ∈ inserted.children, project.size ≤ child := by
  obtain ⟨id, node, hnode, hbrought⟩ := h.exists_node?_of_mem hmem hcontainer
  have hnodup := hlinks.nodup_children hnode
  rw [h.children_eq hnode, hbrought] at hnodup
  obtain ⟨hfirst, -, hdisjoint⟩ := List.nodup_append.mp hnodup
  refine ⟨hfirst, fun child hchild ↦ Nat.le_of_not_lt fun hsize ↦ ?_⟩
  have hlisted : child ∈ node.children := by
    rw [h.children_eq hnode, hbrought]
    exact List.mem_append_left _ hchild
  have hparent := (hlinks.mem_children_iff hnode hsize).mp hlisted
  exact hdisjoint child hchild child (mem_linkedTo_iff.mpr hparent) rfl

/-- Assumes: inserted folders whose child lists repeat nothing and name no node of the project. Then
child lists and parent links agree. -/
theorem linksAgree_of_brought (h : GrownFrom nodes project)
    (hbrought : ∀ node ∈ nodes, node.isContainer = true →
      node.children.Nodup ∧ ∀ child ∈ node.children, project.size ≤ child) :
    LinksAgree project := by
  have hall : ∀ id, (broughtChildren nodes id).Nodup ∧
      ∀ child ∈ broughtChildren nodes id, project.size ≤ child := by
    intro id
    rcases broughtChildren_eq nodes id with heq | ⟨node, hmem, hcontainer, heq⟩
    · rw [heq]
      exact ⟨List.nodup_nil, fun child hchild ↦ absurd hchild List.not_mem_nil⟩
    · rw [heq]
      exact hbrought node hmem hcontainer
  refine ⟨fun {id child node} hnode hsize ↦ ⟨fun hchild ↦ ?_, h.mem_children_of_isParent hnode⟩,
    fun {id node} hnode ↦ ?_, h.isContainer_of_mem_children⟩
  · rw [h.children_eq hnode, List.mem_append] at hchild
    exact mem_linkedTo_iff.mp (hchild.resolve_left fun hkept ↦
      Nat.not_le_of_lt hsize ((hall id).2 child hkept))
  · rw [h.children_eq hnode]
    refine List.nodup_append.mpr ⟨(hall id).1, nodup_linkedTo project id, ?_⟩
    rintro child hkept _ hlinked rfl
    exact Nat.not_le_of_lt (lt_size_of_isParent (mem_linkedTo_iff.mp hlinked))
      ((hall id).2 child hkept)

end GrownFrom

/-- Every grown project is grown from a list of admitted nodes. -/
theorem Grown.exists_grownFrom {admitted : Node → Prop} {project : Project}
    (h : Grown admitted project) :
    ∃ nodes, GrownFrom nodes project ∧ ∀ node ∈ nodes, admitted node := by
  induction h with
  | empty => exact ⟨[], .empty, by simp⟩
  | @insert _ _ _ _ node _ hnode hinsert ih =>
    obtain ⟨nodes, hfrom, hall⟩ := ih
    refine ⟨nodes ++ [node], .insert hfrom hinsert, fun other hother ↦ ?_⟩
    rcases List.mem_append.mp hother with hother | hother
    · exact hall other hother
    · rwa [List.mem_singleton.mp hother]
  | registerExtension _ extension ih =>
    obtain ⟨nodes, hfrom, hall⟩ := ih
    exact ⟨nodes, .registerExtension hfrom extension, hall⟩
  | bindHistory _ backend ih =>
    obtain ⟨nodes, hfrom, hall⟩ := ih
    exact ⟨nodes, .bindHistory hfrom backend, hall⟩

/-! ### When child lists form a tree -/

/-- Whatever nodes are inserted, every node is listed by its parent and only folders have children.
Child lists and parent links agree exactly when what the inserted folders brought along repeats
nothing and names no node of the project. Then going down from the root meets every node once. -/
theorem GrownFrom.linksAgree_iff {nodes : List Node} {project : Project}
    (h : GrownFrom nodes project) :
    (∀ {id : NodeId} {node : Node}, project.node? id = some node →
      (∀ child, project.IsParent child id → child ∈ node.children) ∧
      ∀ child ∈ node.children, node.isContainer = true) ∧
    (LinksAgree project ↔ ∀ node ∈ nodes, node.isContainer = true →
      node.children.Nodup ∧ ∀ child ∈ node.children, project.size ≤ child) ∧
    (LinksAgree project → (project.subtree root).Perm (List.range project.size)) := by
  refine ⟨fun hnode ↦ ⟨fun child ↦ h.mem_children_of_isParent hnode, fun child ↦
    h.isContainer_of_mem_children hnode⟩, ⟨fun hlinks node ↦ h.brought_of_linksAgree hlinks,
      h.linksAgree_of_brought⟩, fun hlinks ↦ hlinks.subtree_root_perm h.grown.rooted⟩

/-- The links of `sample` agree, whose nodes have been newly constructed. -/
theorem linksAgree_sample :
    LinksAgree sample ∧ (sample.subtree root).Perm (List.range 4) := by
  have hfolder : GrownFrom [Node.folder "A"] _ := @GrownFrom.insert [] _ _ root 1 _ .empty rfl
  have hinside : GrownFrom [Node.folder "A", Node.document "inside"] _ :=
    @GrownFrom.insert _ _ _ 1 2 _ hfolder rfl
  have hsample :
      GrownFrom [Node.folder "A", Node.document "inside", Node.document "beside"] sample :=
    @GrownFrom.insert _ _ _ root 3 _ hinside rfl
  obtain ⟨-, hiff, hperm⟩ := hsample.linksAgree_iff
  have hlinks : LinksAgree sample := hiff.mpr (by decide)
  exact ⟨hlinks, hperm hlinks⟩

/-- A copy of a folder that is put beside it lists the document in the folder as a child, though the
document's parent is the folder alone. Going down from the root meets the document twice. -/
theorem exists_child_of_two_folders :
    ∃ first second third : Project, ∃ folder copy : Node,
      Project.empty.insert root (.folder "A") = .ok (first, 1) ∧
      first.insert 1 (.document "inside") = .ok (second, 2) ∧
      second.node? 1 = some folder ∧ second.insert root folder = .ok (third, 3) ∧
      third.node? 3 = some copy ∧ 2 ∈ copy.children ∧ third.parentOf? 2 = some 1 ∧
      third.leaves root = [2, 2] :=
  ⟨_, _, _, _, _, rfl, rfl, rfl, rfl, rfl, by decide, rfl, by decide⟩

end DocumentRules.Project
