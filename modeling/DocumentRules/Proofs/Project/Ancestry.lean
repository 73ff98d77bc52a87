import DocumentRules.Proofs.Project.Growth
import Mathlib.Logic.Relation

/-!
# The way up from a node

In a grown project every node but the root has a parent, which is a folder that was there before it
(`Rooted`). The list of the nodes above a node is therefore complete, and one node is above another
exactly when parent links lead from the other to it (`isAncestor_iff`). The root is above every
other node, and the nearest folder above a node is its parent (`containingFolder?_eq`).
-/

set_option autoImplicit false
set_option relaxedAutoImplicit false

namespace DocumentRules.Project

/-- The parent of a node. -/
def parentOf? (project : Project) (id : NodeId) : Option NodeId :=
  (project.node? id).bind Node.parent?

/-- One node is the parent of another. -/
def IsParent (project : Project) (child parent : NodeId) : Prop :=
  project.parentOf? child = some parent

/-- One node is at or beneath another: parent links lead from the first to the second. -/
def IsWithin (project : Project) (id ancestor : NodeId) : Prop :=
  Relation.ReflTransGen project.IsParent id ancestor

/-- No node has two parents. -/
theorem isParent_rightUnique (project : Project) : Relator.RightUnique project.IsParent :=
  fun _ _ _ hone hother ↦ Option.some.inj (hone.symm.trans hother)

/-- Parent links do not branch: of two nodes that a third is at or beneath, one is at or beneath the
other. -/
theorem IsWithin.total {project : Project} {id first second : NodeId}
    (hfirst : project.IsWithin id first) (hsecond : project.IsWithin id second) :
    project.IsWithin first second ∨ project.IsWithin second first :=
  Relation.ReflTransGen.total_of_right_unique (isParent_rightUnique project) hfirst hsecond

/-- A node with a parent is in the project. -/
theorem lt_size_of_isParent {project : Project} {child parent : NodeId}
    (h : project.IsParent child parent) : child < project.size := by
  obtain ⟨node, hnode, -⟩ := Option.bind_eq_some_iff.mp h
  exact lt_size_of_node? hnode

/-- Whatever is at or beneath a node of a project is in the project. -/
theorem exists_node?_of_isWithin {project : Project} {id top : NodeId} {node : Node}
    (hwithin : project.IsWithin id top) (htop : project.node? top = some node) :
    ∃ other, project.node? id = some other := by
  rcases Relation.ReflTransGen.cases_head hwithin with rfl | ⟨parent, hparent, -⟩
  · exact ⟨node, htop⟩
  · exact exists_node?_of_lt_size (lt_size_of_isParent hparent)

/-- Whether a node is a document or an item of the project, so that it holds no other nodes. -/
def isLeaf (project : Project) (id : NodeId) : Bool :=
  (project.node? id).any fun node ↦ !node.isContainer

theorem isLeaf_iff {project : Project} {id : NodeId} :
    project.isLeaf id = true ↔
      ∃ node, project.node? id = some node ∧ node.isContainer = false := by
  simp [isLeaf, Option.any_eq_true]

/-- Every node but the root has a parent, which is a folder and was there before it. -/
structure Rooted (project : Project) : Prop where
  root_node : ∃ node, project.node? root = some node ∧ node.parent? = none ∧
    node.isContainer = true
  parent_node : ∀ {id : NodeId} {node : Node}, project.node? id = some node → id ≠ root →
    ∃ parentId < id, node.parent? = some parentId ∧
      ∃ parent, project.node? parentId = some parent ∧ parent.isContainer = true

theorem rooted_empty : Rooted Project.empty where
  root_node := ⟨rootNode, rfl, rfl, rfl⟩
  parent_node := by
    intro id node h hroot
    exact absurd (eq_root_of_node?_empty h).1 hroot

/-- The link of the new node leads to its parent, and no other link changes. -/
theorem Inserted.isParent_iff {project next : Project} {parentId : NodeId} {node parent : Node}
    (h : Inserted project parentId node next parent) (child upper : NodeId) :
    next.IsParent child upper ↔
      if child = project.size then upper = parentId else project.IsParent child upper := by
  unfold IsParent parentOf?
  rw [h.bind_node?_eq fun _ _ ↦ rfl]
  by_cases hnew : child = project.size
  · rw [if_pos hnew, if_pos hnew]
    exact ⟨fun heq ↦ (Option.some.inj heq).symm, fun heq ↦ congrArg some heq.symm⟩
  · rw [if_neg hnew, if_neg hnew]

/-- An insertion keeps a project rooted, whatever the node brings along. -/
theorem Inserted.rooted {project next : Project} {parentId : NodeId} {node parent : Node}
    (h : Inserted project parentId node next parent) (hproject : Rooted project) :
    Rooted next := by
  have hlt := lt_size_of_node? h.node?_parent
  -- a folder of the project is still a folder afterwards
  have hkept : ∀ {id : NodeId} {other : Node}, project.node? id = some other →
      ∃ other', next.node? id = some other' ∧ other'.parent? = other.parent? ∧
        other'.isContainer = other.isContainer := by
    intro id other hother
    by_cases hid : id = parentId
    · subst hid
      obtain rfl : parent = other := Option.some.inj (h.node?_parent.symm.trans hother)
      exact ⟨_, h.next_parent, rfl, rfl⟩
    · have hne : id ≠ project.size := Nat.ne_of_lt (lt_size_of_node? hother)
      exact ⟨other, (h.next_other id hne hid).trans hother, rfl, rfl⟩
  constructor
  · obtain ⟨rootNode, hnode, hparent, hcontainer⟩ := hproject.root_node
    obtain ⟨other, hother, hparent', hcontainer'⟩ := hkept hnode
    exact ⟨other, hother, hparent'.trans hparent, hcontainer'.trans hcontainer⟩
  · intro id other hother hroot
    by_cases hnew : id = project.size
    · subst hnew
      obtain rfl : placed project.nextOrder parentId parent node = other :=
        Option.some.inj (h.next_new.symm.trans hother)
      obtain ⟨folder, hfolder, -, hcontainer⟩ := hkept h.node?_parent
      exact ⟨parentId, hlt, rfl, folder, hfolder, hcontainer.trans h.isContainer⟩
    · obtain ⟨before, hbefore⟩ : ∃ before, project.node? id = some before := by
        have hsize := lt_size_of_node? hother
        rw [h.size_next] at hsize
        cases hnode : project.node? id with
        | some before => exact ⟨before, rfl⟩
        | none =>
          exact absurd (Nat.le_antisymm (Nat.le_of_lt_succ hsize) (node?_eq_none_iff.mp hnode)) hnew
      obtain ⟨upperId, hupper, hlink, upper, hnode, hcontainer⟩ :=
        hproject.parent_node hbefore hroot
      obtain ⟨other', hother', hparent', -⟩ := hkept hbefore
      obtain rfl : other' = other := Option.some.inj (hother'.symm.trans hother)
      obtain ⟨upper', hnode', -, hcontainer'⟩ := hkept hnode
      exact ⟨upperId, hupper, hparent'.trans hlink, upper', hnode', hcontainer'.trans hcontainer⟩

theorem Rooted.of_nodes_eq {project other : Project} (hnodes : other.nodes = project.nodes)
    (h : Rooted project) : Rooted other := by
  have hnode : other.node? = project.node? := by
    funext id
    unfold node?
    rw [hnodes]
  constructor
  · rw [hnode]
    exact h.root_node
  · intro id node
    rw [hnode]
    exact h.parent_node

/-- Every grown project is rooted, whatever nodes it is grown from. -/
theorem Grown.rooted {admitted : Node → Prop} {project : Project} (h : Grown admitted project) :
    Rooted project :=
  h.nodes_induction rooted_empty (fun _ _ hproject hinserted ↦ hinserted.rooted hproject)
    fun _ _ ↦ Rooted.of_nodes_eq

namespace Rooted

variable {project : Project}

/-- A parent was there before its child, and is a folder of the project. -/
theorem parent_of_isParent (h : Rooted project) {child parent : NodeId}
    (hparent : project.IsParent child parent) :
    parent < child ∧ ∃ node, project.node? parent = some node ∧ node.isContainer = true := by
  obtain ⟨node, hnode, hlink⟩ := Option.bind_eq_some_iff.mp hparent
  by_cases hroot : child = root
  · obtain ⟨rootNode, hrootNode, hnone, -⟩ := h.root_node
    rw [hroot] at hnode
    obtain rfl : rootNode = node := Option.some.inj (hrootNode.symm.trans hnode)
    rw [hnone] at hlink
    exact nomatch hlink
  · obtain ⟨upper, hlt, hupper, hfolder⟩ := h.parent_node hnode hroot
    obtain rfl : upper = parent := Option.some.inj (hupper.symm.trans hlink)
    exact ⟨hlt, hfolder⟩

theorem lt_of_isParent (h : Rooted project) {child parent : NodeId}
    (hparent : project.IsParent child parent) : parent < child :=
  (h.parent_of_isParent hparent).1

/-- A node that is at or above another was not there after it. -/
theorem le_of_isWithin (h : Rooted project) {id top : NodeId} (hwithin : project.IsWithin id top) :
    top ≤ id := by
  induction hwithin with
  | refl => exact Nat.le_refl _
  | tail _ hparent ih => exact Nat.le_trans (Nat.le_of_lt (h.lt_of_isParent hparent)) ih

/-- Assumes: two bounds that are not below the identifier. The way up has no more steps than
either, so it makes no difference which of them is used. -/
theorem ancestorsWithin_congr (h : Rooted project) {first second : Nat} {id : NodeId}
    (hfirst : id ≤ first) (hsecond : id ≤ second) :
    project.ancestorsWithin first id = project.ancestorsWithin second id := by
  induction id using Nat.strongRecOn generalizing first second with
  | _ id ih =>
    cases hparent : project.parentOf? id with
    | none =>
      have hnone : (project.node? id).bind Node.parent? = none := hparent
      cases first <;> cases second <;> simp [ancestorsWithin, hnone]
    | some parent =>
      have hlt := h.lt_of_isParent hparent
      have hfirst := Nat.lt_of_lt_of_le hlt hfirst
      have hsecond := Nat.lt_of_lt_of_le hlt hsecond
      obtain ⟨first, rfl⟩ := Nat.exists_eq_add_one_of_ne_zero (Nat.ne_zero_of_lt hfirst)
      obtain ⟨second, rfl⟩ := Nat.exists_eq_add_one_of_ne_zero (Nat.ne_zero_of_lt hsecond)
      have hsome : (project.node? id).bind Node.parent? = some parent := hparent
      simp only [ancestorsWithin, hsome]
      rw [ih parent hlt (Nat.le_of_lt_succ hfirst) (Nat.le_of_lt_succ hsecond)]

theorem ancestors_of_parentOf?_eq_none {id : NodeId} (hparent : project.parentOf? id = none) :
    project.ancestors id = [] := by
  have hnone : (project.node? id).bind Node.parent? = none := hparent
  unfold ancestors
  cases project.size <;> simp [ancestorsWithin, hnone]

/-- The nodes above a node are its parent and the nodes above that. -/
theorem ancestors_of_isParent (h : Rooted project) {id parent : NodeId}
    (hparent : project.IsParent id parent) :
    project.ancestors id = parent :: project.ancestors parent := by
  obtain ⟨node, hnode, hlink⟩ := Option.bind_eq_some_iff.mp hparent
  have hsize := lt_size_of_node? hnode
  obtain ⟨bound, hbound⟩ := Nat.exists_eq_add_one_of_ne_zero (Nat.ne_zero_of_lt hsize)
  rw [hbound] at hsize
  have hle : parent ≤ bound := Nat.le_of_lt_succ (Nat.lt_trans (h.lt_of_isParent hparent) hsize)
  have hsome : (project.node? id).bind Node.parent? = some parent := hparent
  have hstep : project.ancestors id = parent :: project.ancestorsWithin bound parent := by
    unfold ancestors
    rw [hbound]
    simp only [ancestorsWithin, hsome]
  rw [hstep, ancestors, hbound, h.ancestorsWithin_congr hle (Nat.le_succ_of_le hle)]

/-- Every node but the root has a parent. -/
theorem exists_isParent (h : Rooted project) {id : NodeId} {node : Node}
    (hnode : project.node? id = some node) (hroot : id ≠ root) :
    ∃ parent, project.IsParent id parent := by
  obtain ⟨parent, -, hlink, -⟩ := h.parent_node hnode hroot
  exact ⟨parent, Option.bind_eq_some_iff.mpr ⟨node, hnode, hlink⟩⟩

/-- The root is a folder. -/
theorem ne_root (h : Rooted project) {id : NodeId} {node : Node}
    (hnode : project.node? id = some node) (hleaf : node.isContainer = false) : id ≠ root := by
  rintro rfl
  obtain ⟨other, hother, -, hcontainer⟩ := h.root_node
  obtain rfl : other = node := Option.some.inj (hother.symm.trans hnode)
  exact absurd hcontainer (Bool.eq_false_iff.mp hleaf)

/-- The root is above every other node. -/
theorem isAncestor_root (h : Rooted project) {id : NodeId} {node : Node}
    (hnode : project.node? id = some node) (hroot : id ≠ root) :
    project.isAncestor root id = true := by
  induction id using Nat.strongRecOn generalizing node with
  | _ id ih =>
    obtain ⟨parent, hparent⟩ := h.exists_isParent hnode hroot
    obtain ⟨hlt, folder, hfolder, -⟩ := h.parent_of_isParent hparent
    unfold isAncestor
    rw [h.ancestors_of_isParent hparent, List.contains_iff_mem, List.mem_cons]
    by_cases htop : parent = root
    · exact Or.inl htop.symm
    · exact Or.inr (List.contains_iff_mem.mp (ih parent hlt hfolder htop))

/-- The nearest folder above a node is its parent. -/
theorem containingFolder?_eq (h : Rooted project) {id parent : NodeId}
    (hparent : project.IsParent id parent) : project.containingFolder? id = some parent := by
  obtain ⟨-, folder, hfolder, hcontainer⟩ := h.parent_of_isParent hparent
  unfold containingFolder?
  rw [h.ancestors_of_isParent hparent]
  exact List.find?_cons_of_pos (by simp [hfolder, hcontainer])

/-- One node is above another exactly when parent links lead from the other to it. -/
theorem isAncestor_iff (h : Rooted project) {ancestor id : NodeId} :
    project.isAncestor ancestor id = true ↔ Relation.TransGen project.IsParent id ancestor := by
  unfold isAncestor
  rw [List.contains_iff_mem]
  induction id using Nat.strongRecOn with
  | _ id ih =>
    rw [Relation.TransGen.head'_iff]
    cases hparent : project.parentOf? id with
    | none =>
      rw [ancestors_of_parentOf?_eq_none hparent]
      simp [IsParent, hparent]
    | some parent =>
      rw [h.ancestors_of_isParent hparent, List.mem_cons, ih parent (h.lt_of_isParent hparent),
        ← Relation.reflTransGen_iff_eq_or_transGen]
      simp [IsParent, hparent]

/-- A node is at or beneath another when it is the other or has it above it. -/
theorem isWithin_iff (h : Rooted project) {id top : NodeId} :
    (id == top || project.isAncestor top id) = true ↔ project.IsWithin id top := by
  unfold IsWithin
  rw [Relation.reflTransGen_iff_eq_or_transGen, ← h.isAncestor_iff, Bool.or_eq_true, beq_iff_eq,
    @eq_comm _ top id]

/-- Whatever is above a node is a folder of the project. -/
theorem exists_folder_of_isAncestor (h : Rooted project) {upper id : NodeId}
    (habove : project.isAncestor upper id = true) :
    ∃ folder, project.node? upper = some folder ∧ folder.isContainer = true := by
  obtain ⟨child, -, hchild⟩ := Relation.TransGen.tail'_iff.mp (h.isAncestor_iff.mp habove)
  exact (h.parent_of_isParent hchild).2

theorem isWithin_of_isAncestor (h : Rooted project) {upper lower : NodeId}
    (habove : project.isAncestor upper lower = true) : project.IsWithin lower upper :=
  (h.isAncestor_iff.mp habove).to_reflTransGen

/-- A node is above another when the other's parent is at or beneath it. -/
theorem isAncestor_iff_isWithin (h : Rooted project) {ancestor id parent : NodeId}
    (hparent : project.IsParent id parent) :
    project.isAncestor ancestor id = true ↔ project.IsWithin parent ancestor := by
  rw [h.isAncestor_iff, Relation.TransGen.head'_iff]
  constructor
  · rintro ⟨other, hother, hwithin⟩
    obtain rfl : other = parent := isParent_rightUnique project hother hparent
    exact hwithin
  · exact fun hwithin ↦ ⟨parent, hparent, hwithin⟩

theorem isAncestor_trans (h : Rooted project) {first second id : NodeId}
    (hfirst : project.isAncestor first second = true)
    (hsecond : project.isAncestor second id = true) : project.isAncestor first id = true := by
  rw [h.isAncestor_iff] at *
  exact hsecond.trans hfirst

/-- Of two nodes above a third, one is the other or above it. -/
theorem isAncestor_total (h : Rooted project) {first second id : NodeId}
    (hfirst : project.isAncestor first id = true) (hsecond : project.isAncestor second id = true) :
    first = second ∨ project.isAncestor first second = true ∨
      project.isAncestor second first = true := by
  have htotal := (h.isWithin_of_isAncestor hfirst).total (h.isWithin_of_isAncestor hsecond)
  simp only [h.isAncestor_iff] at *
  rcases htotal with hwithin | hwithin
  · rcases Relation.reflTransGen_iff_eq_or_transGen.mp hwithin with heq | habove
    · exact Or.inl heq.symm
    · exact Or.inr (Or.inr habove)
  · rcases Relation.reflTransGen_iff_eq_or_transGen.mp hwithin with heq | habove
    · exact Or.inl heq
    · exact Or.inr (Or.inl habove)

/-- Every node is at or beneath the root. -/
theorem isWithin_root (h : Rooted project) {id : NodeId} (hsize : id < project.size) :
    project.IsWithin id root := by
  obtain ⟨node, hnode⟩ := exists_node?_of_lt_size hsize
  unfold IsWithin
  rw [Relation.reflTransGen_iff_eq_or_transGen, ← h.isAncestor_iff]
  by_cases hroot : id = root
  · exact Or.inl hroot.symm
  · exact Or.inr (h.isAncestor_root hnode hroot)

/-- Nothing is at or beneath two children of one node: otherwise one of them would be beneath the
other, and so beneath its own parent's parent. -/
theorem eq_of_isWithin_children (h : Rooted project) {id top first second : NodeId}
    (hfirst : project.IsParent first top) (hsecond : project.IsParent second top)
    (hidFirst : project.IsWithin id first) (hidSecond : project.IsWithin id second) :
    first = second := by
  -- going up from one child to the other would pass their parent and come back below it
  have habsurd : ∀ {lower upper : NodeId}, project.IsParent lower top →
      project.IsParent upper top → project.IsWithin lower upper → lower = upper := by
    intro lower upper hlower hupper hwithin
    rcases Relation.ReflTransGen.cases_head hwithin with heq | ⟨next, hnext, hrest⟩
    · exact heq
    · obtain rfl : next = top := isParent_rightUnique project hnext hlower
      exact absurd (h.le_of_isWithin hrest) (Nat.not_le_of_lt (h.lt_of_isParent hupper))
  rcases hidFirst.total hidSecond with hwithin | hwithin
  · exact habsurd hfirst hsecond hwithin
  · exact (habsurd hsecond hfirst hwithin).symm

end Rooted

end DocumentRules.Project
