import DocumentRules.Proofs.Evaluation.Scope
import DocumentRules.Proofs.Project.Routes

/-!
# Scopes by name

Where siblings have different names, a `path` comparison can be read off the names alone. It
compares the segments of the path that the value names with the names of the folders on the way down
to a document or an item. `path == target` holds when the segments begin these names,
`path != target` when they are the names of a folder that is there and do not begin them, and no
ordering operator holds (`path_holds_iff_route_prefix`). So a path that leads to no folder is in
neither scope.

That names are not empty and hold no slash is not needed: a folder whose name could be no segment
is not named by any path.
-/

set_option autoImplicit false
set_option relaxedAutoImplicit false

namespace DocumentRules.Project

open Text Condition History Evaluation

/-- A project has a folder to which some names lead down from the root. -/
def HasFolder (project : Project) (names : List (List Char)) : Prop :=
  ∃ id node, project.node? id = some node ∧ node.isContainer = true ∧ project.route id = names

namespace IsNamed

variable {project : Project}

/-- A scope names the folder whose route are the segments of its target. -/
theorem folder?_eq_some_iff (h : IsNamed project) {scope : PathScope} {target : NodeId} :
    scope.folder? project = some target ↔
      (∃ node, project.node? target = some node ∧ node.isContainer = true) ∧
        project.route target = segments scope.target := by
  rw [PathScope.folder?, Option.filter_eq_some_iff, h.resolve?_eq_some_iff, Option.any_eq_true]
  constructor
  · rintro ⟨⟨-, hroute⟩, hfolder⟩
    exact ⟨hfolder, hroute⟩
  · rintro ⟨⟨node, hnode, hcontainer⟩, hroute⟩
    exact ⟨⟨lt_size_of_node? hnode, hroute⟩, node, hnode, hcontainer⟩

theorem hasFolder_iff (h : IsNamed project) {scope : PathScope} :
    project.HasFolder (segments scope.target) ↔
      ∃ target, scope.folder? project = some target := by
  simp only [HasFolder, h.folder?_eq_some_iff, exists_and_right, ← and_assoc]

/-- The segments of a target begin the route of a folder exactly when the target names a folder that
is above whatever the folder holds. -/
theorem segments_prefix_route_iff (h : IsNamed project) {id parent : NodeId}
    (hparent : project.IsParent id parent) {scope : PathScope} :
    segments scope.target <+: project.route parent ↔
      ∃ target, scope.folder? project = some target ∧ project.isAncestor target id = true := by
  constructor
  · intro hprefix
    obtain ⟨upper, hupper, hwithin, hroute⟩ :=
      h.exists_of_prefix_route (h.lt_size_parent hparent) hprefix
    have habove := (h.isAncestor_iff_isWithin hparent).mpr hwithin
    exact ⟨upper, h.folder?_eq_some_iff.mpr ⟨h.exists_folder_of_isAncestor habove, hroute⟩, habove⟩
  · rintro ⟨target, hfolder, habove⟩
    obtain ⟨⟨node, hnode, -⟩, hroute⟩ := h.folder?_eq_some_iff.mp hfolder
    exact hroute ▸ (h.isAncestor_iff_route_prefix (lt_size_of_node? hnode) hparent).mp habove

/-- Assumes: a value that names a scope. What holds of a node in a folder depends on whether the
scope names a folder, and on whether its segments begin the route of the folder. -/
theorem folderInScope_iff (h : IsNamed project) {id parent : NodeId}
    (hparent : project.IsParent id parent) {value : Value} {scope : PathScope}
    (hscope : PathScope.parse? value = some scope) (operator : Operator) :
    folderInScope project (some parent) operator value = true ↔
      project.HasFolder (segments scope.target) ∧
        operator.testEquality (decide (segments scope.target <+: project.route parent)) = true := by
  rw [h.folderInScope_eq hparent, hscope, Option.all_some, Option.any_eq_true, h.hasFolder_iff,
    exists_and_right.symm]
  refine exists_congr fun target ↦ and_congr_right fun hfolder ↦ ?_
  -- the segments begin the route exactly when this one folder is above the node
  have habove : project.isAncestor target id =
      decide (segments scope.target <+: project.route parent) := by
    rw [Bool.eq_iff_iff, decide_eq_true_iff, h.segments_prefix_route_iff hparent]
    constructor
    · exact fun habove ↦ ⟨target, hfolder, habove⟩
    · rintro ⟨other, hother, habove⟩
      obtain rfl : other = target := Option.some.inj (hother.symm.trans hfolder)
      exact habove
  rw [habove]

end IsNamed

/-- Assumes: a project grown from newly constructed nodes, no two siblings of which have the same
name, a document or an item in it that is not looked at for a descent, and a value that names a
scope.

The node is in a folder. `path == value` holds of it exactly when the segments of the scope begin
the names on the way down to the folder, and `path != value` exactly when they lead to a folder of
the project and do not begin these names. None of the other operators holds. -/
theorem path_holds_iff_route_prefix [PatternLibrary] {project : Project}
    (hproject : Grown Node.IsNew project) (hdiffer : SiblingsDiffer project) {id : NodeId}
    {node : Node} (hnode : project.node? id = some node) (hleaf : node.isContainer = false)
    {view : NodeView} (hview : view ≠ .descent) {value : Value} {scope : PathScope}
    (hscope : PathScope.parse? value = some scope) (fieldName : String) (backend : Backend) :
    let holds (operator : Operator) : Prop :=
      project.holds backend view id ⟨⟨fieldName, .path⟩, operator, value⟩ = true
    ∃ folder, project.IsParent id folder ∧
      (holds .equal ↔ segments scope.target <+: project.route folder) ∧
      (holds .notEqual ↔ project.HasFolder (segments scope.target) ∧ ¬ holds .equal) ∧
      ∀ operator, operator.mayEqual = false → ¬ holds operator := by
  intro holds
  have hnamed : IsNamed project := { toIsTree := hproject.isTree, eq_of_siblings := hdiffer }
  obtain ⟨parent, hparent⟩ := hnamed.exists_isParent hnode (hnamed.ne_root hnode hleaf)
  have hholds (operator : Operator) : holds operator ↔
      project.HasFolder (segments scope.target) ∧
        operator.testEquality (decide (segments scope.target <+: project.route parent)) = true := by
    have hinquire : inquireNode project view id node ⟨⟨fieldName, .path⟩, operator, value⟩ =
        pure (folderInScope project (some parent) operator value) :=
      hnamed.inquireNode_path hview hleaf hparent rfl
    simp only [holds, Project.holds, hnode, Option.any_some, hinquire, Inquiry.answer_pure]
    exact hnamed.folderInScope_iff hparent hscope operator
  have hequal : holds .equal ↔ segments scope.target <+: project.route parent := by
    rw [hholds, Operator.testEquality, decide_eq_true_iff, and_iff_right_iff_imp]
    intro hprefix
    obtain ⟨target, hfolder, -⟩ := (hnamed.segments_prefix_route_iff hparent).mp hprefix
    exact hnamed.hasFolder_iff.mpr ⟨target, hfolder⟩
  refine ⟨parent, hparent, hequal, ?_, ?_⟩
  · rw [hequal, hholds, Operator.testEquality, Bool.not_eq_true', decide_eq_false_iff_not]
  · intro operator horder
    rw [hholds, Operator.testEquality_eq_false horder]
    exact fun hnone ↦ Bool.false_ne_true hnone.2

/-- The document in the folder is in its scope, and the one beside it is in the scope of all that is
not in the folder. A folder that is not there has neither scope. -/
theorem path_holds_iff_route_prefix_sample :
    let holds (id : NodeId) (operator : Operator) (value : String) : Prop :=
      sample.holds sample.backend .live id ⟨Field.path, operator, .ofText value⟩ = true
    holds 2 .equal " A/* " ∧ ¬ holds 3 .equal "//A" ∧ holds 3 .notEqual "//A" ∧
      ¬ holds 3 .notEqual "A/B" := by
  intro holds
  have hinside : sample.node? 2 = some _ := rfl
  have hbeside : sample.node? 3 = some _ := rfl
  have hscope : PathScope.parse? (.ofText " A/* ") = some ⟨['A']⟩ := by decide
  have hother : PathScope.parse? (.ofText "//A") = some ⟨['/', '/', 'A']⟩ := by decide
  have hmissing : PathScope.parse? (.ofText "A/B") = some ⟨['A', '/', 'B']⟩ := by decide
  obtain ⟨folder, hfolder, hwithin, -⟩ := path_holds_iff_route_prefix grown_sample
    siblingsDiffer_sample hinside rfl (by decide : NodeView.live ≠ .descent) hscope "path"
    sample.backend
  obtain ⟨upper, hupper, hbesides, hapart, -⟩ := path_holds_iff_route_prefix grown_sample
    siblingsDiffer_sample hbeside rfl (by decide : NodeView.live ≠ .descent) hother "path"
    sample.backend
  obtain ⟨-, -, -, hnowhere, -⟩ := path_holds_iff_route_prefix grown_sample
    siblingsDiffer_sample hbeside rfl (by decide : NodeView.live ≠ .descent) hmissing "path"
    sample.backend
  obtain rfl : 1 = folder := Option.some.inj hfolder
  obtain rfl : root = upper := Option.some.inj hupper
  have hoff : ¬ holds 3 .equal "//A" := mt hbesides.mp (by decide)
  refine ⟨hwithin.mpr (by decide), hoff, hapart.mpr ⟨⟨1, _, rfl, rfl, rfl⟩, hoff⟩, ?_⟩
  rintro hnotEqual
  obtain ⟨⟨id, node, hnode, -, hroute⟩, -⟩ := hnowhere.mp hnotEqual
  have hall : ∀ id < 4, sample.route id ≠ [['A'], ['B']] := by decide
  exact hall id (lt_size_of_node? hnode) hroute

end DocumentRules.Project
