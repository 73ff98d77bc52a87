import DocumentRules.Proofs.Project.Ancestry

/-!
# The way up ends

Whether a node is above another, and which folder a node is in, is found by following parent links
upwards, one after the other, until a node passes a test or has no parent. Nothing in such a search
(`searchUp?`) bounds the number of its rounds. It ends because a parent was in the project before
its child: no search takes more rounds than the project has nodes (`Rooted.searchUp?_parentOf?`),
and it finds what `isAncestor` and `containingFolder?` answer.

`Grown.way_up_ends_in_order` collects what the answers say in any project, whatever links the nodes
have brought along: being above is a strict order, in which the nodes above one node are all
comparable and the root is above all others, and the folder that a node is in is its parent.
-/

set_option autoImplicit false
set_option relaxedAutoImplicit false

namespace DocumentRules.Project

/-- What a search for the first node that passes a test has come to in at most so many rounds, from
a node on upwards: nothing as long as it goes on, then the node that it has found, if any. -/
def searchUp? (project : Project) (test : NodeId → Bool) :
    Nat → Option NodeId → Option (Option NodeId)
  | 0, _ => none
  | _ + 1, none => some none
  | rounds + 1, some id =>
    if test id then some (some id) else project.searchUp? test rounds (project.parentOf? id)

/-- Whether a node is a folder of the project. -/
def isFolder (project : Project) (id : NodeId) : Bool := (project.node? id).any Node.isContainer

namespace Rooted

variable {project : Project}

/-- Assumes: more rounds than the identifier counts. The search above a node has ended, and has
found the nearest node above that passes the test. -/
theorem searchUp?_of_lt (h : Rooted project) (test : NodeId → Bool) {id : NodeId} {rounds : Nat}
    (hrounds : id < rounds) :
    project.searchUp? test rounds (project.parentOf? id) =
      some ((project.ancestors id).find? test) := by
  induction id using Nat.strongRecOn generalizing rounds with
  | _ id ih =>
    obtain ⟨rounds, rfl⟩ := Nat.exists_eq_add_one_of_ne_zero (Nat.ne_zero_of_lt hrounds)
    cases hparent : project.parentOf? id with
    | none =>
      rw [ancestors_of_parentOf?_eq_none hparent]
      rfl
    | some parent =>
      -- the parent was there first, so the rounds that are left suffice for it
      have hlt := h.lt_of_isParent hparent
      rw [h.ancestors_of_isParent hparent, searchUp?, List.find?_cons,
        ih parent hlt (Nat.lt_of_lt_of_le hlt (Nat.le_of_lt_succ hrounds))]
      cases test parent <;> rfl

/-- A search above a node, known or not, ends within as many rounds as the project has nodes. -/
theorem searchUp?_parentOf? (h : Rooted project) (test : NodeId → Bool) (id : NodeId) :
    project.searchUp? test project.size (project.parentOf? id) =
      some ((project.ancestors id).find? test) := by
  by_cases hid : id < project.size
  · exact h.searchUp?_of_lt test hid
  · -- an unknown node has no parent, and a project has a root at least
    have hnone : project.parentOf? id = none := by
      rw [parentOf?, node?_eq_none_iff.mpr (Nat.le_of_not_lt hid), Option.bind_none]
    obtain ⟨node, hroot, -⟩ := h.root_node
    obtain ⟨rounds, hsize⟩ :=
      Nat.exists_eq_add_one_of_ne_zero (Nat.ne_zero_of_lt (lt_size_of_node? hroot))
    rw [hnone, ancestors_of_parentOf?_eq_none hnone, hsize]
    rfl

/-- No node is above itself. -/
theorem isAncestor_self (h : Rooted project) (id : NodeId) : project.isAncestor id id = false := by
  rw [Bool.eq_false_iff, ne_eq, h.isAncestor_iff, Relation.TransGen.head'_iff]
  rintro ⟨parent, hparent, hwithin⟩
  exact Nat.not_le_of_lt (h.lt_of_isParent hparent) (h.le_of_isWithin hwithin)

/-- The folder that a node is in is its parent, for unknown nodes and the root as well. -/
theorem containingFolder?_eq_parentOf? (h : Rooted project) (id : NodeId) :
    project.containingFolder? id = project.parentOf? id := by
  cases hparent : project.parentOf? id with
  | none =>
    rw [containingFolder?, ancestors_of_parentOf?_eq_none hparent]
    rfl
  | some parent => exact h.containingFolder?_eq hparent

/-- A search for one node ends, and has found it exactly when it is above. -/
theorem isSome_searchUp?_beq (h : Rooted project) (upper id : NodeId) :
    (project.searchUp? (· == upper) project.size (project.parentOf? id)).map Option.isSome =
      some (project.isAncestor upper id) := by
  rw [h.searchUp?_parentOf?, Option.map_some, Option.some.injEq, Bool.eq_iff_iff,
    List.find?_isSome, isAncestor, List.contains_iff_mem]
  simp

end Rooted

/-- Assumes: a project grown from any nodes at all, copies with links of their own included.

Every node but the root has a parent, which is a folder that was there before it. So the searches
for a node, and for a folder, above a node that is in the project or not end within as many rounds
as the project has nodes, with what `isAncestor` and `containingFolder?` answer. No node is above
itself, what is above a node above another is above that one too, two nodes above a third are
comparable, and the root is above all others. The folder that a node is in is its parent: nothing
for the root and for a node that the project does not have. -/
theorem Grown.way_up_ends_in_order {project : Project} (h : Grown (fun _ ↦ True) project) :
    (∀ id node, project.node? id = some node → id ≠ root →
      ∃ parentId < id, node.parent? = some parentId ∧
        ∃ parent, project.node? parentId = some parent ∧ parent.isContainer = true) ∧
    (∀ upper id, (project.searchUp? (· == upper) project.size (project.parentOf? id)).map
      Option.isSome = some (project.isAncestor upper id)) ∧
    (∀ id, project.searchUp? project.isFolder project.size (project.parentOf? id) =
      some (project.containingFolder? id)) ∧
    (∀ id, project.isAncestor id id = false) ∧
    (∀ first second id, project.isAncestor first second = true →
      project.isAncestor second id = true → project.isAncestor first id = true) ∧
    (∀ first second id, project.isAncestor first id = true → project.isAncestor second id = true →
      first = second ∨ project.isAncestor first second = true ∨
        project.isAncestor second first = true) ∧
    (∀ id node, project.node? id = some node → id ≠ root →
      project.isAncestor root id = true) ∧
    (∀ id, project.containingFolder? id = (project.node? id).bind Node.parent?) ∧
    project.containingFolder? root = none ∧
    ∀ id, project.node? id = none → project.containingFolder? id = none := by
  have hrooted := h.rooted
  have hfolder := hrooted.containingFolder?_eq_parentOf?
  refine ⟨fun _ _ ↦ hrooted.parent_node, hrooted.isSome_searchUp?_beq,
    hrooted.searchUp?_parentOf? _, hrooted.isAncestor_self, fun _ _ _ ↦ hrooted.isAncestor_trans,
    fun _ _ _ ↦ hrooted.isAncestor_total, fun _ _ ↦ hrooted.isAncestor_root, hfolder, ?_,
    fun id hunknown ↦ ?_⟩
  · obtain ⟨node, hroot, hparent, -⟩ := hrooted.root_node
    rw [hfolder, parentOf?, hroot, Option.bind_some, hparent]
  · rw [hfolder, parentOf?, hunknown, Option.bind_none]

/-- The sample with a copy of its folder in the folder itself. The copy has kept the child list of
the folder, and with it a child that is not its own. -/
def sampleWithCopy : Project where
  nodes := #[
    { rootNode with children := [1, 3] },
    { Node.folder "A" with resource? := some "A", parent? := some root, children := [2, 4] },
    { Node.document "inside" with
      resource? := some "A/inside", parent? := some 1, order? := some 0 },
    { Node.document "beside" with
      resource? := some "beside", parent? := some root, order? := some 1 },
    { Node.folder "A" with resource? := some "A", parent? := some 1, children := [2] }]
  schema := .empty
  history? := none
  nextOrder := 2

theorem insert_sampleWithCopy : ∃ folder, sample.node? 1 = some folder ∧
    sample.insert 1 folder = .ok (sampleWithCopy, 4) :=
  ⟨_, rfl, rfl⟩

/-- The copy is in the folder that it was copied from. The document that it lists is in the folder
itself, and not beneath the copy. -/
theorem way_up_ends_in_order_sampleWithCopy :
    Grown (fun _ ↦ True) sampleWithCopy ∧ sampleWithCopy.isAncestor root 4 = true ∧
      sampleWithCopy.containingFolder? 4 = some 1 ∧ sampleWithCopy.containingFolder? 2 = some 1 ∧
      sampleWithCopy.isAncestor 4 2 = false ∧ sampleWithCopy.containingFolder? 9 = none := by
  obtain ⟨folder, -, hinsert⟩ := insert_sampleWithCopy
  have hgrown : Grown (fun _ ↦ True) sampleWithCopy :=
    .insert (grown_sample.mono fun _ _ ↦ trivial) trivial hinsert
  have hcopy : sampleWithCopy.node? 4 = some _ := rfl
  obtain ⟨-, hsearch, -, -, -, -, hroot, hfolder, -, hunknown⟩ := hgrown.way_up_ends_in_order
  exact ⟨hgrown, hroot 4 _ hcopy (by decide), hfolder 4, hfolder 2,
    (Option.some.inj (hsearch 4 2)).symm, hunknown 9 rfl⟩

end DocumentRules.Project
