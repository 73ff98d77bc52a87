import DocumentRules.Evaluation.NodeView
import DocumentRules.Proofs.Condition.Monotone
import DocumentRules.Proofs.Evaluation.Scope
import DocumentRules.Proofs.History.Sequencing
import DocumentRules.Proofs.Report.Outcome

/-!
# Descending to what a condition finds

A condition is asked of a folder to decide whether to descend into it. This should lose nothing: a
folder above a document or an item that the condition is true of should be entered. Every comparison
but one keeps to this, and as reduction is monotone so does every condition made of them
(`descends_iff_not_shutsOff`).

The exception is `path != target` with a target beneath the folder. A folder on the way to the
target is in the scope of `path == target`, so that the target can be reached, and the negation of
this test keeps it out of the scope of `path != target`, although there may be documents beside the
target in it (`exists_folder_shut_off`).
-/

set_option autoImplicit false
set_option relaxedAutoImplicit false

namespace DocumentRules.Evaluation

open Condition History Project

/-! ### Conditions -/

/-- Assumes: comparisons that are true in the second way of answering whenever they are answered
with true in the first. A condition that comes to true in the first way reduces to true in the
second. -/
theorem ends_inquireAll_mono {inquire : Comparison → Inquiry Bool} {answer : Comparison → Bool}
    {condition : Condition}
    (h : ∀ comparison ∈ condition.comparisons,
      (inquire comparison).Ends fun verdict ↦ verdict = true → answer comparison = true) :
    (inquireAll inquire condition).Ends fun verdict ↦
      verdict = true → reduceWith answer condition = true := by
  have hterms : ∀ token ∈ condition, (inquireTerm inquire token).Ends fun term ↦
      Term.Below term (token.term fun comparison ↦ .truth (answer comparison)) := by
    intro token htoken
    cases token with
    | comparison statement =>
      have hmem : statement ∈ condition.comparisons := by
        unfold Condition.comparisons
        exact List.mem_filterMap.mpr ⟨_, htoken, rfl⟩
      exact (h statement hmem).bind fun verdict hverdict ↦ Inquiry.ends_pure (.truth hverdict)
    | connective joint => exact Inquiry.ends_pure (.connective joint)
    | opening => exact Inquiry.ends_pure .opening
    | closing => exact Inquiry.ends_pure .closing
    | literal value => exact Inquiry.ends_pure (.truth (Bool.le_refl value))
    | error message => exact Inquiry.ends_pure .unresolved
  refine (Inquiry.ends_forEach hterms).bind fun terms hbelow ↦ Inquiry.ends_pure fun htrue ↦ ?_
  refine reduceTerms_of_below ?_ htrue
  rw [List.forall₂_map_right_iff]
  exact hbelow.flip

end DocumentRules.Evaluation

namespace DocumentRules.Project

open Condition Evaluation History

/-- The folder that the value of a `path` comparison names. -/
def scopeFolder? (project : Project) (value : Value) : Option NodeId :=
  (PathScope.parse? value).bind fun scope ↦ scope.folder? project

/-- Whether a comparison keeps the descent to a node out of a container above it: it is
`path != target`, and the target is beneath the container and not above the node. -/
def shutsOff (project : Project) (container id : NodeId) (comparison : Comparison) : Bool :=
  comparison.field.kind == .path && comparison.operator == .notEqual &&
    (project.scopeFolder? comparison.value).any fun target ↦
      project.isAncestor container target && !project.isAncestor target id

namespace Rooted

variable {project : Project}

/-- Assumes: a `path` comparison that holds of a node beneath a container. It also holds of the
container unless it shuts it off. -/
theorem containerInScope_of_folderInScope (h : Rooted project) {container id parent : NodeId}
    (hparent : project.IsParent id parent) (habove : project.isAncestor container id = true)
    {operator : Operator} {value : Value}
    (hleaf : folderInScope project (some parent) operator value = true) :
    containerInScope project container operator value =
      !(operator == .notEqual && (project.scopeFolder? value).any fun target ↦
        project.isAncestor container target && !project.isAncestor target id) := by
  rw [h.folderInScope_eq hparent] at hleaf
  unfold containerInScope scopeFolder?
  cases hscope : PathScope.parse? value with
  | none => simp
  | some scope =>
    rw [hscope, Option.all_some] at hleaf
    cases hfolder : scope.folder? project with
    | none => simp [hfolder] at hleaf
    | some target =>
      rw [hfolder, Option.any_some] at hleaf
      simp only [Option.bind_some, hfolder, Option.any_some]
      cases operator with
      | equal =>
        -- the target is above the node, as is the container
        have htarget : project.isAncestor target id = true := hleaf
        rcases h.isAncestor_total habove htarget with rfl | hhigher | hlower
        · simp [Operator.testEquality, within]
        · simp [Operator.testEquality, hhigher]
        · simp [Operator.testEquality, within, hlower]
      | notEqual =>
        have htarget : project.isAncestor target id = false := by
          simpa [Operator.testEquality] using hleaf
        -- so the container, which is above the node, is neither the target nor beneath it
        have hwithin : within project target container = false := by
          refine Bool.eq_false_iff.mpr fun hwithin ↦ Bool.eq_false_iff.mp htarget ?_
          rcases Bool.or_eq_true_iff.mp hwithin with heq | hlower
          · exact beq_iff_eq.mp heq ▸ habove
          · exact h.isAncestor_trans hlower habove
        simp [Operator.testEquality, hwithin, htarget]
      | less | lessEqual | more | moreEqual => simp [Operator.testEquality] at hleaf

/-- Assumes: a document or an item, and a container above it. A comparison that is answered with
true for the first, whatever the history says, holds of the container unless it shuts it off. -/
theorem ends_inquireNode_descent [PatternLibrary] (h : Rooted project) {container id : NodeId}
    {node : Node} (hleaf : node.isContainer = false)
    (habove : project.isAncestor container id = true) (comparison : Comparison) :
    (inquireNode project (reportView node) id node comparison).Ends fun verdict ↦
      verdict = true → compareDescent project container comparison =
        !project.shutsOff container id comparison := by
  by_cases hpath : comparison.field.kind = .path
  · obtain ⟨parent, hparent, -⟩ := Relation.TransGen.head'_iff.mp (h.isAncestor_iff.mp habove)
    have hview : reportView node ≠ .descent := by
      unfold reportView
      split <;> exact NodeView.noConfusion
    rw [h.inquireNode_path hview hleaf hparent hpath]
    refine Inquiry.ends_pure fun hholds ↦ ?_
    unfold compareDescent shutsOff
    rw [hpath]
    exact h.containerInScope_of_folderInScope hparent habove hholds
  · refine Inquiry.ends_of_forall (fun _ _ ↦ ?_) _
    have hkind : (comparison.field.kind == FieldKind.path) = false := beq_eq_false_iff_ne.mpr hpath
    unfold compareDescent shutsOff
    rw [hkind]
    split
    · exact absurd ‹_› hpath
    · rfl

end Rooted

/-- Assumes: a document or an item of a grown project, and a container above it.

A comparison that is answered with true for the leaf holds of the container exactly unless it is
`path != target` with a target that is beneath the container and not above the leaf. So a condition
without such comparisons that comes to true for the leaf, whatever the history answers, is true of
the container. -/
theorem Grown.descends_iff_not_shutsOff [PatternLibrary] {admitted : Node → Prop}
    {project : Project} (hproject : Grown admitted project) {container id : NodeId} {node : Node}
    (hnode : project.node? id = some node) (hleaf : node.isContainer = false)
    (habove : project.isAncestor container id = true) :
    (∀ comparison, (inquireNode project (reportView node) id node comparison).Ends fun verdict ↦
      verdict = true → ∀ backend, (project.holds backend .descent container comparison = true ↔
        project.shutsOff container id comparison = false)) ∧
    ∀ condition, (∀ comparison ∈ condition.comparisons,
        project.shutsOff container id comparison = false) →
      (project.inquire (reportView node) id condition).Ends fun verdict ↦ verdict = true →
        ∀ backend, project.satisfies backend .descent container condition = true := by
  have hrooted := hproject.rooted
  obtain ⟨child, -, hchild⟩ := Relation.TransGen.tail'_iff.mp (hrooted.isAncestor_iff.mp habove)
  obtain ⟨-, folder, hfolder, -⟩ := hrooted.parent_of_isParent hchild
  have hcomparison := hrooted.ends_inquireNode_descent hleaf habove
  constructor
  · intro comparison
    refine (hcomparison comparison).imp fun verdict hverdict htrue backend ↦ ?_
    unfold holds
    rw [hfolder, Option.any_some, ← Bool.not_eq_true', ← hverdict htrue]
    rfl
  · intro condition hopen
    unfold satisfies inquire
    simp only [hnode, hfolder, inquireCondition]
    split
    · exact Inquiry.ends_pure fun _ _ ↦ rfl
    · have hanswers : ∀ comparison ∈ condition.comparisons,
          (inquireNode project (reportView node) id node comparison).Ends fun verdict ↦
            verdict = true → compareDescent project container comparison = true := by
        intro comparison hmem
        refine (hcomparison comparison).imp fun verdict hverdict htrue ↦ ?_
        rw [hverdict htrue, hopen comparison hmem]
        rfl
      refine (ends_inquireAll_mono hanswers).imp fun verdict hverdict htrue backend ↦ ?_
      rw [answer_inquireAll]
      exact hverdict htrue

/-- The document in the folder is found by `path == A`, which therefore holds of the root. -/
theorem descends_iff_not_shutsOff_sample :
    (∀ comparison ∈ Condition.comparisons [.within "A"],
        sample.shutsOff root 2 comparison = false) ∧
      sample.satisfies sample.backend .live 2 [.within "A"] = true ∧
      sample.satisfies sample.backend .descent root [.within "A"] = true := by
  have hopen : ∀ comparison ∈ Condition.comparisons [.within "A"],
      sample.shutsOff root 2 comparison = false := by
    decide
  have hnode : sample.node? 2 = some _ := rfl
  have habove : sample.isAncestor root 2 = true := rfl
  have hends := (grown_sample.descends_iff_not_shutsOff hnode rfl habove).2 _ hopen
  exact ⟨hopen, rfl, hends.answer sample.backend rfl sample.backend⟩

/-- The document beside the folder is found by `path != A`, but the descent to it is shut off at the
root, because the folder is beneath the root as well. -/
theorem exists_folder_shut_off :
    ∃ project condition id node, Grown Node.IsNew project ∧ project.node? id = some node ∧
      node.kind = .document ∧ project.isAncestor root id = true ∧
      project.satisfies project.backend .live id condition = true ∧
      project.satisfies project.backend .descent root condition = false :=
  ⟨sample, [.comparison ⟨Field.path, .notEqual, .ofText "A"⟩], 3, _, grown_sample, rfl, rfl, rfl,
    rfl, rfl⟩

end DocumentRules.Project
