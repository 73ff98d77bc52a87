import DocumentRules.Proofs.Project.Placement

/-!
# How documents are numbered

A document that brings a number keeps it, and one that brings none gets the next number of the
project. `nextOrder` is raised by every document, whether its number was given or brought along, and
comes right after the numbers in the project (`Grown.isNextOrder`): it is the successor of the
largest of them, or zero where there is none. The largest number that there is counts as its own
successor, so the next number is taken only where a document has that one.

`Grown.documents_are_numbered` says what follows for the numbers of a project, whatever nodes it has
grown from. An attempt to put a node where it cannot stand leaves no trace in it.
-/

set_option autoImplicit false
set_option relaxedAutoImplicit false

namespace DocumentRules.Project

/-- The largest number that a document can have. -/
def largestOrder : UInt64 := UInt64.ofNat (UInt64.size - 1)

/-- The number of the node with an identifier, if it has one. -/
def orderOf? (project : Project) (id : NodeId) : Option UInt64 :=
  (project.node? id).bind Node.order?

/-- A number that comes right after the numbers in a project. -/
structure IsNextOrder (project : Project) (next : UInt64) : Prop where
  orderSuccessor_le : ∀ {id : NodeId} {order : UInt64}, project.orderOf? id = some order →
    orderSuccessor order ≤ next
  eq_zero_or_exists : next = 0 ∨
    ∃ id order, project.orderOf? id = some order ∧ next = orderSuccessor order

/-! ### The successor of a number -/

theorem lt_orderSuccessor {order : UInt64} (h : order ≠ largestOrder) :
    order < orderSuccessor order := by
  have hsuccessor : orderSuccessor order = order + 1 := if_neg h
  have hne : order.toNat ≠ UInt64.size - 1 := fun heq ↦ h (UInt64.toNat_inj.mp heq)
  have hlt := order.toNat_lt
  rw [hsuccessor, UInt64.lt_iff_toNat_lt, UInt64.toNat_add]
  simp only [UInt64.size] at hne
  change order.toNat < (order.toNat + 1) % 2 ^ 64
  omega

theorem le_orderSuccessor (order : UInt64) : order ≤ orderSuccessor order := by
  by_cases h : order = largestOrder
  · have hsuccessor : orderSuccessor order = order := if_pos h
    rw [hsuccessor]
    exact UInt64.le_refl order
  · exact UInt64.le_of_lt (lt_orderSuccessor h)

theorem max_order_eq_ite (first second : UInt64) :
    max first second = if first ≤ second then second else first := rfl

theorem left_le_max_order (first second : UInt64) : first ≤ max first second := by
  rw [max_order_eq_ite]
  split
  · assumption
  · exact UInt64.le_refl first

theorem right_le_max_order (first second : UInt64) : second ≤ max first second := by
  rw [max_order_eq_ite]
  split
  · exact UInt64.le_refl second
  · exact (UInt64.le_total first second).resolve_left ‹_›

/-- A number that is given or brought along moves the next one past itself. -/
theorem orderAfter_eq_elim (next : UInt64) (node : Node) :
    orderAfter next node =
      (placedOrder next node).elim next fun order ↦ max next (orderSuccessor order) := by
  unfold orderAfter placedOrder
  cases node.kind with
  | document =>
    cases node.order? with
    | none => exact (if_pos (le_orderSuccessor next)).symm
    | some order => rfl
  | folder | reserved | item => rfl

/-! ### Insertions -/

/-- The new node has the number that it was placed with, and no other number changes. -/
theorem Inserted.orderOf?_eq {project next : Project} {parentId : NodeId} {node parent : Node}
    (h : Inserted project parentId node next parent) (id : NodeId) :
    next.orderOf? id =
      if id = project.size then placedOrder project.nextOrder node else project.orderOf? id :=
  h.bind_node?_eq (fun _ _ ↦ rfl) id

theorem Inserted.orderOf?_of_eq_some {project next : Project} {parentId : NodeId}
    {node parent : Node} (h : Inserted project parentId node next parent) {id : NodeId}
    {order : UInt64} (horder : project.orderOf? id = some order) :
    next.orderOf? id = some order := by
  obtain ⟨other, hother, -⟩ := Option.bind_eq_some_iff.mp horder
  rw [h.orderOf?_eq, if_neg (Nat.ne_of_lt (lt_size_of_node? hother)), horder]

/-- After an insertion the next number comes right after the numbers in the project, as before. -/
theorem Inserted.isNextOrder {project next : Project} {parentId : NodeId} {node parent : Node}
    (h : Inserted project parentId node next parent)
    (hproject : IsNextOrder project project.nextOrder) : IsNextOrder next next.nextOrder := by
  have hold : project.nextOrder = 0 ∨ ∃ id order, next.orderOf? id = some order ∧
      project.nextOrder = orderSuccessor order := by
    refine hproject.eq_zero_or_exists.imp_right fun ⟨id, order, horder, heq⟩ ↦ ?_
    exact ⟨id, order, h.orderOf?_of_eq_some horder, heq⟩
  rw [h.nextOrder_next, orderAfter_eq_elim]
  cases hplaced : placedOrder project.nextOrder node with
  | none =>
    refine ⟨fun {id order} horder ↦ ?_, hold⟩
    rw [h.orderOf?_eq, hplaced] at horder
    split at horder
    · cases horder
    · exact hproject.orderSuccessor_le horder
  | some number =>
    rw [Option.elim_some]
    refine ⟨fun {id order} horder ↦ ?_, ?_⟩
    · rw [h.orderOf?_eq, hplaced] at horder
      split at horder
      · obtain rfl : number = order := Option.some.inj horder
        exact right_le_max_order _ _
      · exact UInt64.le_trans (hproject.orderSuccessor_le horder) (left_le_max_order _ _)
    · rw [max_order_eq_ite]
      split
      · exact Or.inr ⟨project.size, number, by rw [h.orderOf?_eq, if_pos rfl, hplaced], rfl⟩
      · exact hold

/-- The next number of a project comes right after the numbers in it, whatever it has grown from. -/
theorem Grown.isNextOrder {admitted : Node → Prop} {project : Project}
    (h : Grown admitted project) : IsNextOrder project project.nextOrder := by
  induction h with
  | empty =>
    refine ⟨fun {id order} horder ↦ ?_, Or.inl rfl⟩
    obtain ⟨node, hnode, hnumber⟩ := Option.bind_eq_some_iff.mp horder
    obtain ⟨rfl, rfl⟩ := eq_root_of_node?_empty hnode
    cases hnumber
  | insert _ _ hinsert ih =>
    obtain ⟨-, parent, hinserted⟩ := inserted_of_insert hinsert
    exact hinserted.isNextOrder ih
  | registerExtension _ _ ih | bindHistory _ _ ih =>
    exact ⟨ih.orderSuccessor_le, ih.eq_zero_or_exists⟩

/-! ### Attempts -/

/-- The project after an attempt to put a node under a parent: as it was, if that fails. -/
def attempt (project : Project) (call : NodeId × Node) : Project :=
  match project.insert call.1 call.2 with
  | .ok (next, _) => next
  | .error _ => project

/-- The project after some attempts, one after the other. -/
def attemptAll (project : Project) (calls : List (NodeId × Node)) : Project :=
  calls.foldl attempt project

theorem attempt_of_insert_eq_error {project : Project} {call : NodeId × Node} {error : TreeError}
    (h : project.insert call.1 call.2 = .error error) : project.attempt call = project := by
  rw [attempt, h]

/-- Attempts lead from a grown project to a grown project. -/
theorem Grown.attemptAll {admitted : Node → Prop} {project : Project} (h : Grown admitted project)
    {calls : List (NodeId × Node)} (hcalls : ∀ call ∈ calls, admitted call.2) :
    Grown admitted (project.attemptAll calls) := by
  induction calls generalizing project with
  | nil => exact h
  | cons call rest ih =>
    obtain ⟨hcall, hrest⟩ := List.forall_mem_cons.mp hcalls
    refine ih ?_ hrest
    unfold attempt
    split
    · exact .insert h hcall ‹_›
    · exact h

/-- Assumes: a project grown from any nodes at all, with any numbers, copies included.

Documents have a number, and no other node has one. A document that brings none gets a number that
is not below any number in the project, and above all of them if none is the largest that there is:
it is the successor of one of them, or zero if there are none. An attempt that fails may be left out
of any series of attempts: the same project comes of it, with the same numbers. -/
theorem Grown.documents_are_numbered {project : Project} (h : Grown (fun _ ↦ True) project) :
    (∀ id node, project.node? id = some node →
      (node.order?.isSome = true ↔ node.kind = .document)) ∧
    (∀ parentId node next id, node.kind = .document → node.order? = none →
      project.insert parentId node = .ok (next, id) →
      ∃ number, next.orderOf? id = some number ∧
        (∀ other order, project.orderOf? other = some order → order ≤ number) ∧
        ((∀ other, project.orderOf? other ≠ some largestOrder) →
          ∀ other order, project.orderOf? other = some order → order < number) ∧
        (number = 0 ∨ ∃ other order, project.orderOf? other = some order ∧
          number = orderSuccessor order)) ∧
    ∀ earlier call later error,
      (project.attemptAll earlier).insert call.1 call.2 = .error error →
      project.attemptAll (earlier ++ call :: later) = project.attemptAll (earlier ++ later) := by
  refine ⟨fun _ _ ↦ h.isSome_order?_iff,
    fun parentId node next id hkind hnone hinsert ↦ ⟨project.nextOrder, ?_, ?_, ?_, ?_⟩,
    fun earlier call later error hfails ↦ ?_⟩
  · obtain ⟨rfl, parent, hinserted⟩ := inserted_of_insert hinsert
    rw [hinserted.orderOf?_eq, if_pos rfl, placedOrder, hkind, hnone]
    rfl
  · intro other order horder
    exact UInt64.le_trans (le_orderSuccessor order) (h.isNextOrder.orderSuccessor_le horder)
  · intro hlargest other order horder
    have hne : order ≠ largestOrder := fun heq ↦ hlargest other (heq ▸ horder)
    exact UInt64.lt_of_lt_of_le (lt_orderSuccessor hne) (h.isNextOrder.orderSuccessor_le horder)
  · exact h.isNextOrder.eq_zero_or_exists
  · have hsame := attempt_of_insert_eq_error hfails
    unfold Project.attemptAll at *
    rw [List.foldl_append, List.foldl_cons, hsame, ← List.foldl_append]

/-- A document with the number 10 is put under the root of the sample. An attempt to put one with
the largest number under a document leaves no trace, and the next document gets a number after
10. -/
theorem documents_are_numbered_sample :
    let numbered : NodeId × Node := (root, { Node.document "c" with order? := some 10 })
    let refused : NodeId × Node := (2, { Node.document "d" with order? := some largestOrder })
    Grown (fun _ ↦ True) (sample.attemptAll [numbered]) ∧
      sample.attemptAll [numbered, refused] = sample.attemptAll [numbered] ∧
      ∃ next number, (sample.attemptAll [numbered]).insert 1 (.document "e") = .ok (next, 5) ∧
        next.orderOf? 5 = some number ∧ 10 < number := by
  intro numbered refused
  have hsample : Grown (fun _ ↦ True) sample := grown_sample.mono fun _ _ ↦ trivial
  have hproject : Grown (fun _ ↦ True) (sample.attemptAll [numbered]) :=
    hsample.attemptAll fun _ _ ↦ trivial
  obtain ⟨-, -, hrefused⟩ := hsample.documents_are_numbered
  obtain ⟨-, hnumber, -⟩ := hproject.documents_are_numbered
  obtain ⟨number, hnext, -, hbehind, -⟩ := hnumber 1 (.document "e") _ 5 rfl rfl rfl
  have hsmall : ∀ id < 5, (sample.attemptAll [numbered]).orderOf? id ≠ some largestOrder := by
    decide
  refine ⟨hproject, hrefused [numbered] refused [] _ rfl, _, number, rfl, hnext,
    hbehind (fun other horder ↦ ?_) 4 10 rfl⟩
  obtain ⟨node, hnode, -⟩ := Option.bind_eq_some_iff.mp horder
  exact hsmall other (lt_size_of_node? hnode) horder

end DocumentRules.Project
