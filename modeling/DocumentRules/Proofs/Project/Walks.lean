import DocumentRules.Proofs.Project.Growth
import Mathlib.Data.Finset.Card
import Mathlib.Logic.Relation
import Mathlib.Order.WellFounded

/-!
# Walks that end

The walk over a subtree goes down the child lists, and these may lead round in a circle. `leaves?`
gives up when the levels that it allows run out. It gives up on no walk that ends, however many
levels that one takes (`leaves?_eq_some_iff`): on the way down a walk that ends leaves behind one
node of the project after the other (`card_nodesBelow_lt`). So it is nothing exactly if the walk
never ends, because there is an endless way down the child lists (`leaves?_eq_none_iff`).
-/

set_option autoImplicit false
set_option relaxedAutoImplicit false

namespace DocumentRules.Project

variable {project : Project}

/-- A node is in the child list of a folder. -/
def IsListed (project : Project) (child folder : NodeId) : Prop :=
  ∃ node, project.node? folder = some node ∧ node.isContainer = true ∧ child ∈ node.children

/-- There is an endless way down the child lists from a node. -/
def EndlessBelow (project : Project) (id : NodeId) : Prop :=
  ∃ way : Nat → NodeId, way 0 = id ∧ ∀ step, project.IsListed (way (step + 1)) (way step)

/-! ### One level of a walk -/

/-- Partial answers come to a list if each of them is there, and then to their list. -/
theorem mapM_eq_some_iff {α β : Type} {answer? : α → Option β} {members : List α}
    {answers : List β} :
    members.mapM answer? = some answers ↔ members.map answer? = answers.map some := by
  induction members generalizing answers with
  | nil => cases answers <;> simp
  | cons member rest ih =>
    rw [List.mapM_cons, List.map_cons]
    cases answers with
    | nil => cases answer? member <;> cases rest.mapM answer? <;> simp
    | cons first others => simp [Option.bind_eq_some_iff, ih]

theorem isSome_mapM_iff {α β : Type} {answer? : α → Option β} {members : List α} :
    (members.mapM answer?).isSome ↔ ∀ member ∈ members, (answer? member).isSome := by
  induction members with
  | nil => simp
  | cons member rest ih =>
    rw [List.mapM_cons, List.forall_mem_cons, ← ih]
    cases answer? member <;> cases rest.mapM answer? <;> simp

/-- What is at a place in one list has its answer at that place in the other. -/
theorem exists_mem_of_map_eq_map {α β γ : Type} {answer : α → γ} {other : β → γ}
    {members : List α} {others : List β} (h : members.map answer = others.map other) {member : α}
    (hmem : member ∈ members) : ∃ partner ∈ others, other partner = answer member :=
  List.mem_map.mp (h ▸ List.mem_map_of_mem hmem)

/-- The walk over a folder puts together what the walks over the nodes in its child list meet. -/
theorem leavesWithin?_eq_some_iff {bound : Nat} {id : NodeId} {node : Node}
    (hnode : project.node? id = some node) (hcontainer : node.isContainer = true)
    {leaves : List NodeId} :
    project.leavesWithin? (bound + 1) id = some leaves ↔
      ∃ lists : List (List NodeId),
        node.children.map (project.leavesWithin? bound) = lists.map some ∧
          lists.flatten = leaves := by
  simp only [leavesWithin?, hnode, hcontainer, if_true, Option.map_eq_some_iff, mapM_eq_some_iff]

/-- A walk is over within some levels if the walks over what its top lists are over within one level
less. -/
theorem isSome_leavesWithin?_iff {bound : Nat} {id : NodeId} :
    (project.leavesWithin? (bound + 1) id).isSome ↔
      ∀ child, project.IsListed child id → (project.leavesWithin? bound child).isSome := by
  cases hnode : project.node? id with
  | none => simp [leavesWithin?, IsListed, hnode]
  | some node =>
    cases hcontainer : node.isContainer with
    | false => simp [leavesWithin?, IsListed, hnode, hcontainer]
    | true => simp [leavesWithin?, IsListed, hnode, hcontainer, isSome_mapM_iff]

/-- With more levels a walk that is over meets the same leaves. -/
theorem leavesWithin?_of_le {bound more : Nat} {id : NodeId} {leaves : List NodeId}
    (h : project.leavesWithin? bound id = some leaves) (hle : bound ≤ more) :
    project.leavesWithin? more id = some leaves := by
  induction bound generalizing more id leaves with
  | zero => cases h
  | succ bound ih =>
    obtain ⟨more, rfl⟩ : ∃ fewer, more = fewer + 1 := Nat.exists_eq_add_one.mpr (by omega)
    cases hnode : project.node? id with
    | none =>
      simp only [leavesWithin?, hnode] at h ⊢
      exact h
    | some node =>
      cases hcontainer : node.isContainer with
      | false =>
        simp only [leavesWithin?, hnode, hcontainer] at h ⊢
        exact h
      | true =>
        rw [leavesWithin?_eq_some_iff hnode hcontainer] at h ⊢
        obtain ⟨lists, hlists, rfl⟩ := h
        refine ⟨lists, ?_, rfl⟩
        rw [← hlists]
        refine List.map_congr_left fun child hchild ↦ ?_
        obtain ⟨leaves, -, heq⟩ := exists_mem_of_map_eq_map hlists hchild
        rw [← heq, ih heq.symm (Nat.le_of_succ_le_succ hle)]

/-- A walk ends at nodes that hold no others. -/
theorem exists_node?_of_mem_leavesWithin? {bound : Nat} {id top : NodeId} {leaves : List NodeId}
    (h : project.leavesWithin? bound top = some leaves) (hmem : id ∈ leaves) :
    ∃ node, project.node? id = some node ∧ node.isContainer = false := by
  induction bound generalizing top leaves with
  | zero => cases h
  | succ bound ih =>
    cases hnode : project.node? top with
    | none =>
      simp only [leavesWithin?, hnode, Option.some.injEq] at h
      exact absurd (h ▸ hmem) List.not_mem_nil
    | some node =>
      cases hcontainer : node.isContainer with
      | false =>
        simp only [leavesWithin?, hnode, hcontainer, Bool.false_eq_true, if_false,
          Option.some.injEq] at h
        obtain rfl := List.mem_singleton.mp (h ▸ hmem)
        exact ⟨node, hnode, hcontainer⟩
      | true =>
        obtain ⟨lists, hlists, rfl⟩ := (leavesWithin?_eq_some_iff hnode hcontainer).mp h
        obtain ⟨found, hfound, hid⟩ := List.mem_flatten.mp hmem
        obtain ⟨child, -, hchild⟩ := exists_mem_of_map_eq_map hlists.symm hfound
        exact ih hchild hid

theorem exists_node?_of_mem_leaves {id top : NodeId} (h : id ∈ project.leaves top) :
    ∃ node, project.node? id = some node ∧ node.isContainer = false := by
  unfold leaves at h
  cases hleaves : project.leaves? top with
  | none =>
    rw [hleaves] at h
    exact absurd h List.not_mem_nil
  | some leaves =>
    rw [hleaves] at h
    exact exists_node?_of_mem_leavesWithin? hleaves h

/-! ### Walks that end -/

/-- A walk that is over within some levels has no endless way before it. -/
theorem acc_of_isSome_leavesWithin? {bound : Nat} {id : NodeId}
    (h : (project.leavesWithin? bound id).isSome) : Acc project.IsListed id := by
  induction bound generalizing id with
  | zero => cases h
  | succ bound ih =>
    exact .intro id fun child hchild ↦ ih (isSome_leavesWithin?_iff.mp h child hchild)

open Classical in
/-- The nodes that the child lists lead down to from a node, the node itself included. -/
noncomputable def nodesBelow (project : Project) (id : NodeId) : Finset NodeId :=
  (Finset.range project.size).filter fun other ↦ Relation.ReflTransGen project.IsListed other id

theorem mem_nodesBelow_iff {id other : NodeId} :
    other ∈ project.nodesBelow id ↔
      other < project.size ∧ Relation.ReflTransGen project.IsListed other id := by
  classical
  rw [nodesBelow, Finset.mem_filter, Finset.mem_range]

theorem card_nodesBelow_le (project : Project) (id : NodeId) :
    (project.nodesBelow id).card ≤ project.size := by
  classical
  have hcard := Finset.card_le_card (Finset.filter_subset
    (fun other ↦ Relation.ReflTransGen project.IsListed other id) (Finset.range project.size))
  rwa [Finset.card_range] at hcard

/-- A node with no endless way below it is not below itself. -/
theorem not_transGen_of_acc {id : NodeId} (hends : Acc project.IsListed id) :
    ¬ Relation.TransGen project.IsListed id id := by
  have htransitive := hends.transGen
  clear hends
  induction htransitive with
  | intro id _ ih => exact fun hround ↦ ih id hround hround

/-- Assumes: a node with no endless way below it. Fewer nodes are below what it lists than are below
the node. -/
theorem card_nodesBelow_lt {id child : NodeId} (hends : Acc project.IsListed id)
    (hchild : project.IsListed child id) :
    (project.nodesBelow child).card < (project.nodesBelow id).card := by
  have hsize : id < project.size := by
    obtain ⟨node, hnode, -⟩ := hchild
    exact lt_size_of_node? hnode
  have hsubset : project.nodesBelow child ⊆ project.nodesBelow id := fun other hother ↦ by
    obtain ⟨hother, hway⟩ := mem_nodesBelow_iff.mp hother
    exact mem_nodesBelow_iff.mpr ⟨hother, hway.tail hchild⟩
  have habsent : id ∉ project.nodesBelow child := fun hmem ↦
    not_transGen_of_acc hends (.tail' (mem_nodesBelow_iff.mp hmem).2 hchild)
  have hpresent : id ∈ project.nodesBelow id := mem_nodesBelow_iff.mpr ⟨hsize, .refl⟩
  exact Finset.card_lt_card ((Finset.ssubset_iff_of_subset hsubset).mpr ⟨id, hpresent, habsent⟩)

/-- Assumes: a node with no endless way below it. The walk over its subtree is over within one level
more than there are nodes below it. -/
theorem isSome_leavesWithin?_of_acc {id : NodeId} (hends : Acc project.IsListed id) :
    ∀ {bound : Nat}, (project.nodesBelow id).card < bound →
      (project.leavesWithin? bound id).isSome := by
  induction hends with
  | intro id hbelow ih =>
    intro bound hbound
    obtain ⟨bound, rfl⟩ : ∃ less, bound = less + 1 := Nat.exists_eq_add_one.mpr (by omega)
    refine isSome_leavesWithin?_iff.mpr fun child hchild ↦ ih child hchild ?_
    have hless := card_nodesBelow_lt (.intro id hbelow) hchild
    omega

theorem isSome_leaves?_iff {id : NodeId} :
    (project.leaves? id).isSome ↔ Acc project.IsListed id :=
  ⟨acc_of_isSome_leavesWithin?, fun hends ↦
    isSome_leavesWithin?_of_acc hends (Nat.lt_succ_of_le (card_nodesBelow_le project id))⟩

/-- The levels that are allowed suffice for every walk that ends. -/
theorem leaves?_eq_some_iff {id : NodeId} {leaves : List NodeId} :
    project.leaves? id = some leaves ↔ ∃ bound, project.leavesWithin? bound id = some leaves := by
  refine ⟨fun h ↦ ⟨_, h⟩, ?_⟩
  rintro ⟨bound, hbound⟩
  have hends : Acc project.IsListed id := acc_of_isSome_leavesWithin? (by rw [hbound]; rfl)
  obtain ⟨found, hfound⟩ := Option.isSome_iff_exists.mp (isSome_leaves?_iff.mpr hends)
  have hmost := leavesWithin?_of_le hbound (Nat.le_max_left bound (project.size + 1))
  rw [leavesWithin?_of_le hfound (Nat.le_max_right bound _)] at hmost
  rw [hfound, hmost]

/-- A walk never ends exactly if there is an endless way down the child lists. -/
theorem leaves?_eq_none_iff {id : NodeId} :
    project.leaves? id = none ↔ project.EndlessBelow id := by
  rw [← Option.not_isSome_iff_eq_none, isSome_leaves?_iff]
  exact not_acc_iff_exists_descending_chain

end DocumentRules.Project
