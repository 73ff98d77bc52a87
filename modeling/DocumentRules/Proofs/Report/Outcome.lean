import DocumentRules.Proofs.Project.Walks
import DocumentRules.Report.Run

/-!
# What a run comes to

A run is an inquiry with a memo in front of it, and neither shows in what it comes to if it ends: a
run on a known root whose rules are all accepted (`Runner.Accepts`) comes to the outcome of
`Runner.finds`, the leaves that each rule's condition is true of. A run that succeeds is one of
these (`run_outcome_eq_ok_iff`).

`Project.reports` says when a condition is true of a leaf in the view that its kind calls for,
without the walk that a run makes; it is then the reduction of the condition under
`Project.answers`.
-/

set_option autoImplicit false
set_option relaxedAutoImplicit false

namespace DocumentRules.Project

open Condition History Evaluation

/-- The view in which a node that holds no others is looked at: a document live, and an item out of
the tree. -/
def leafView? (node : Node) : Option NodeView :=
  match node.kind with
  | .document => some .live
  | .item => some .outOfTree
  | .folder | .reserved => none

/-- Whether a node holds no others and a condition is true of it in the view that its kind calls
for. -/
def reports [PatternLibrary] (project : Project) (backend : Backend) (condition : Condition)
    (id : NodeId) : Bool :=
  ((project.node? id).bind leafView?).any fun view ↦ project.satisfies backend view id condition

/-- Whether a node holds no others and a comparison holds of it in the view that its kind calls
for. -/
def answers [PatternLibrary] (project : Project) (backend : Backend) (id : NodeId)
    (comparison : Comparison) : Bool :=
  ((project.node? id).bind leafView?).any fun view ↦ project.holds backend view id comparison

theorem Node.kind_of_isContainer_eq_false {node : Node} (h : node.isContainer = false) :
    node.kind = .document ∨ node.kind = .item := by
  unfold Node.isContainer at h
  cases hkind : node.kind with
  | document => exact Or.inl rfl
  | item => exact Or.inr rfl
  | folder | reserved => exact nomatch hkind ▸ h

/-- Only a document and an item have a view to be looked at in. -/
theorem of_leafView?_eq_some {node : Node} {view : NodeView} (h : leafView? node = some view) :
    (node.kind = .document ∧ view = .live) ∨ (node.kind = .item ∧ view = .outOfTree) := by
  unfold leafView? at h
  cases hkind : node.kind with
  | document =>
    rw [hkind] at h
    exact .inl ⟨rfl, (Option.some.inj h).symm⟩
  | item =>
    rw [hkind] at h
    exact .inr ⟨rfl, (Option.some.inj h).symm⟩
  | folder | reserved =>
    rw [hkind] at h
    cases h

theorem exists_leafView? {node : Node} (hleaf : node.isContainer = false) :
    ∃ view, leafView? node = some view ∧ view = reportView node := by
  unfold leafView? reportView
  rcases Node.kind_of_isContainer_eq_false hleaf with hkind | hkind <;> rw [hkind]
  · exact ⟨.live, rfl, rfl⟩
  · exact ⟨.outOfTree, rfl, rfl⟩

/-- Assumes: a node that holds no others, and a condition that is not empty. It is true of the node
when it reduces to true under the answers to its comparisons there. -/
theorem reports_eq_reduceWith [PatternLibrary] {project : Project} {id : NodeId} {node : Node}
    (hnode : project.node? id = some node) (hleaf : node.isContainer = false) (backend : Backend)
    {condition : Condition} (hcondition : condition ≠ []) :
    project.reports backend condition id =
      reduceWith (project.answers backend id) condition := by
  obtain ⟨view, hview, -⟩ := exists_leafView? hleaf
  have hanswers : project.answers backend id =
      answerComparison backend (inquireNode project view id node) := by
    funext comparison
    simp only [answers, holds, hnode, Option.bind_some, hview, Option.any_some]
    rfl
  simp only [reports, satisfies, inquire, hnode, Option.bind_some, hview, Option.any_some]
  rw [inquireCondition, if_neg (by simpa using hcondition), answer_inquireAll, hanswers]

end DocumentRules.Project

namespace DocumentRules.Report.Runner

open Condition History Project Evaluation

/-- The validator of the run accepts all rules of an entry once they are expanded. -/
def Accepts (runner : Runner) (entry : Entry) : Prop :=
  ∀ rule ∈ entry.expandAll.rules,
    runner.validator runner.validationContext rule.condition = .ok ()

/-- The nodes that a condition finds among the leaves beneath a root. -/
def findsOf [PatternLibrary] (runner : Runner) (root : NodeId) (condition : Condition) :
    List NodeId :=
  (runner.project.leaves root).filter (runner.project.reports runner.project.backend condition)

/-- The nodes that each expanded rule of an entry finds. -/
def finds [PatternLibrary] (runner : Runner) (entry : Entry) (root : NodeId) : List (List NodeId) :=
  entry.expandAll.rules.map fun rule ↦ runner.findsOf root rule.condition

theorem firstRefused?_eq_none_iff (runner : Runner) (index : Nat) (rules : List Rule) :
    runner.firstRefused? index rules = none ↔
      ∀ rule ∈ rules, runner.validator runner.validationContext rule.condition = .ok () := by
  induction rules generalizing index with
  | nil => simp [firstRefused?]
  | cons rule rest ih =>
    rw [firstRefused?, List.forall_mem_cons, ← ih (index + 1)]
    cases hverdict : runner.validator runner.validationContext rule.condition with
    | error fault => exact iff_of_false (nomatch ·) fun h ↦ nomatch h.1
    | ok => exact ⟨fun h ↦ ⟨rfl, h⟩, And.right⟩

/-- A memo does not show in what an inquiry comes to. -/
theorem answer_withMemo {α : Type} (settings : Settings) (backend : Backend) (inquiry : Inquiry α) :
    (withMemo settings inquiry).answer backend = inquiry.answer backend := by
  unfold withMemo
  split
  · have hmemo := Inquiry.answer_remembering (Memo.faithful_empty backend) inquiry
    rw [← hmemo]
    exact Inquiry.answer_bind backend (inquiry.remembering Memo.empty) _
  · rfl

/-- Assumes: a node that holds no others. A report counts it among the finds of a condition exactly
when the condition is true of it in the view that its kind calls for. -/
theorem answer_inquireMatch [PatternLibrary] {project : Project} {id : NodeId} {node : Node}
    (hnode : project.node? id = some node) (hleaf : node.isContainer = false) (backend : Backend)
    (condition : Condition) :
    (inquireMatch project condition id).answer backend = project.reports backend condition id := by
  obtain ⟨view, hview, rfl⟩ := exists_leafView? hleaf
  simp only [inquireMatch, reports, hnode, Option.bind_some, hview, Option.any_some]
  rfl

/-- What the rules find among the leaves of a subtree, under a history. -/
theorem answer_inquireFinds [PatternLibrary] (project : Project) (backend : Backend) (root : NodeId)
    (rules : List Rule) :
    (inquireFinds project (project.leaves root) rules).answer backend =
      rules.map fun rule ↦
        (project.leaves root).filter (project.reports backend rule.condition) := by
  unfold inquireFinds
  rw [Inquiry.answer_forEach]
  refine List.map_congr_left fun rule _ ↦ ?_
  rw [Inquiry.answer_select]
  refine List.filter_congr fun id hid ↦ ?_
  obtain ⟨node, hnode, hleaf⟩ := exists_node?_of_mem_leaves hid
  exact answer_inquireMatch hnode hleaf backend rule.condition

/-! ### The ways a run can go -/

section

variable (runner : Runner) (entry : Entry) {root : NodeId} {node : Node}

theorem prepare_of_node?_eq_none (hroot : runner.project.node? root = none) :
    runner.prepare entry root = .error ⟨entry, .error (.unknownNode root)⟩ := by
  simp only [prepare, hroot]

theorem prepare_of_firstRefused? {index : Nat} {fault : ConditionFault}
    (hroot : runner.project.node? root = some node)
    (hrefused : runner.firstRefused? 0 entry.expandAll.rules = some (index, fault)) :
    runner.prepare entry root =
      .error ⟨entry.expandAll, .error (.malformedRule entry.name index fault)⟩ := by
  simp only [prepare, hroot, hrefused]
  rfl

theorem prepare_of_accepts (hroot : runner.project.node? root = some node)
    (haccepts : runner.Accepts entry) : runner.prepare entry root = .ok entry.expandAll := by
  have hrefused := (runner.firstRefused?_eq_none_iff 0 entry.expandAll.rules).mpr haccepts
  simp only [prepare, hroot, hrefused]

/-- A run comes to an error before it walks, or it walks on a known root for accepted rules. -/
theorem prepare_cases (root : NodeId) :
    (∃ left error, runner.prepare entry root = .error ⟨left, .error error⟩) ∨
      ∃ node, runner.project.node? root = some node ∧ runner.Accepts entry := by
  cases hroot : runner.project.node? root with
  | none => exact .inl ⟨_, _, runner.prepare_of_node?_eq_none entry hroot⟩
  | some node =>
    cases hrefused : runner.firstRefused? 0 entry.expandAll.rules with
    | some refused => exact .inl ⟨_, _, runner.prepare_of_firstRefused? entry hroot hrefused⟩
    | none => exact .inr ⟨node, rfl, (runner.firstRefused?_eq_none_iff 0 _).mp hrefused⟩

theorem inquire_of_prepare_eq_error [PatternLibrary] {result : RunResult}
    (h : runner.prepare entry root = .error result) :
    runner.inquire entry root = pure result := by
  simp only [inquire, h]

theorem inquire_of_accepts [PatternLibrary] (hroot : runner.project.node? root = some node)
    (haccepts : runner.Accepts entry) :
    runner.inquire entry root =
      runner.inquireAmong entry.expandAll (runner.project.leaves root) := by
  simp only [inquire, runner.prepare_of_accepts entry hroot haccepts]

theorem run_of_node?_eq_none [PatternLibrary] (hroot : runner.project.node? root = none) :
    runner.run entry root = ⟨entry, .error (.unknownNode root)⟩ := by
  simp only [run, inquire, runner.prepare_of_node?_eq_none entry hroot, Inquiry.answer_pure]

theorem run_of_accepts [PatternLibrary] (hroot : runner.project.node? root = some node)
    (haccepts : runner.Accepts entry) :
    runner.run entry root =
      ⟨entry.expandAll, .ok (outcomeOf runner.project (runner.project.leaves root)
        (runner.finds entry root))⟩ := by
  rw [run, runner.inquire_of_accepts entry hroot haccepts, inquireAmong]
  simp only [Inquiry.answer_bind, Inquiry.answer_pure, answer_withMemo, answer_inquireFinds]
  rfl

end

/-- A run that ends succeeds exactly on a known root with accepted rules, and with what the rules
find. -/
theorem run_outcome_eq_ok_iff [PatternLibrary] (runner : Runner) (entry : Entry) (root : NodeId)
    (outcome : Outcome) :
    (runner.run entry root).outcome = .ok outcome ↔
      (∃ node, runner.project.node? root = some node) ∧ runner.Accepts entry ∧
        outcome = outcomeOf runner.project (runner.project.leaves root)
          (runner.finds entry root) := by
  constructor
  · intro houtcome
    obtain ⟨left, error, herror⟩ | ⟨node, hroot, haccepts⟩ := runner.prepare_cases entry root
    · rw [run, runner.inquire_of_prepare_eq_error entry herror] at houtcome
      cases houtcome
    · rw [runner.run_of_accepts entry hroot haccepts] at houtcome
      exact ⟨⟨node, hroot⟩, haccepts, (Except.ok.inj houtcome).symm⟩
  · rintro ⟨⟨node, hroot⟩, haccepts, rfl⟩
    rw [runner.run_of_accepts entry hroot haccepts]

end DocumentRules.Report.Runner
