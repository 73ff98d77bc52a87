import DocumentRules.Proofs.Collection.StableSort
import DocumentRules.Proofs.History.Sequencing
import DocumentRules.Proofs.Project.Placement
import DocumentRules.Proofs.Project.Preorder
import DocumentRules.Proofs.Report.Exactness
import DocumentRules.Proofs.Text.ByteOrder

/-!
# The order of a report

Where a node stands in a report is its `Rank`: documents stand first by their number, what is no
document follows by its resource path, and what has none by its name, texts being compared as bytes.
In a project grown from newly constructed nodes this is the order in which a run sorts what it found
(`mayPrecede_eq`). The comparison behind it is that of a total preorder on any nodes at all
(`compareNodes_self`, `compareNodes_swap`, `isLE_compareNodes_trans`).

What a run reports is therefore the stable sort of what its rules found, put together rule by rule,
where each rule finds leaves in depth-first order (`found_isStableSort`). This holds whatever the
history answers; under a history with fixed answers a rule finds the leaves beneath the root that
its condition is true of.
-/

set_option autoImplicit false
set_option relaxedAutoImplicit false

namespace DocumentRules.Report

open Collection Condition Evaluation History Project Text

/-! ### Comparing nodes -/

section ComparePresent

variable {α : Type} [Ord α]

theorem comparePresent_self [Std.ReflOrd α] (value? : Option α) :
    comparePresent .eq value? value? = .eq := by
  cases value? with
  | none => rfl
  | some value => exact Std.ReflOrd.compare_self

theorem comparePresent_swap [Std.OrientedOrd α] (missing : Ordering) (left? right? : Option α) :
    comparePresent missing.swap right? left? = (comparePresent missing left? right?).swap := by
  cases left? <;> cases right?
  case some.some left right => exact Std.OrientedOrd.eq_swap
  all_goals rfl

/-- Assumes: three values of which the first two and the last two stand in order. So do the first
and the last, if the same is true of what decides where values are missing. -/
theorem isLE_comparePresent_trans [Std.TransOrd α] {first second both : Ordering}
    (hmissing : first.isLE → second.isLE → both.isLE) {left? middle? right? : Option α}
    (hleft : (comparePresent first left? middle?).isLE)
    (hright : (comparePresent second middle? right?).isLE) :
    (comparePresent both left? right?).isLE := by
  cases left? <;> cases middle? <;> cases right?
  case none.none.none => exact hmissing hleft hright
  case some.some.some => exact Std.TransOrd.isLE_trans hleft hright
  all_goals simp [comparePresent] at *

end ComparePresent

theorem compareNodes_self (node : Node) : compareNodes node node = .eq := by
  unfold compareNodes
  rw [Std.ReflOrd.compare_self, comparePresent_self, comparePresent_self]

theorem compareNodes_swap (left right : Node) :
    compareNodes right left = (compareNodes left right).swap := by
  unfold compareNodes
  rw [← comparePresent_swap, ← comparePresent_swap, ← Std.OrientedOrd.eq_swap]

theorem isLE_compareNodes_trans {left middle right : Node}
    (hleft : (compareNodes left middle).isLE) (hright : (compareNodes middle right).isLE) :
    (compareNodes left right).isLE :=
  isLE_comparePresent_trans (isLE_comparePresent_trans Std.TransOrd.isLE_trans) hleft hright

/-! ### Ranks -/

/-- Where a node stands in a report, texts being taken as bytes. -/
inductive Rank where
  /-- A document with its number. -/
  | document (order : UInt64)
  /-- Something else with its resource path. -/
  | located (path : Bytes)
  /-- Something else without a resource path, with its name. -/
  | named (name : Bytes)
  deriving DecidableEq, Repr

/-- Whether one rank may stand before another. -/
def Rank.mayPrecede : Rank → Rank → Bool
  | .document left, .document right => left ≤ right
  | .document _, _ => true
  | .located _, .document _ => false
  | .located left, .located right => (compare left right).isLE
  | .located _, .named _ => true
  | .named left, .named right => (compare left right).isLE
  | .named _, _ => false

theorem isLE_compare_total {α : Type} [Ord α] [Std.OrientedOrd α] (left right : α) :
    (compare left right).isLE ∨ (compare right left).isLE := by
  rw [Std.OrientedOrd.eq_swap (a := right)]
  cases compare left right <;> simp

theorem Rank.isTotalPreorder : IsTotalPreorder Rank.mayPrecede where
  total left right := by
    cases left <;> cases right
    case document.document left right => simpa [mayPrecede] using UInt64.le_total left right
    case located.located left right => exact isLE_compare_total left right
    case named.named left right => exact isLE_compare_total left right
    all_goals simp [mayPrecede]
  trans left middle right hleft hright := by
    cases left <;> cases middle <;> cases right
    case document.document.document =>
      simp only [mayPrecede, decide_eq_true_eq] at *
      exact UInt64.le_trans hleft hright
    case located.located.located => exact Std.TransOrd.isLE_trans hleft hright
    case named.named.named => exact Std.TransOrd.isLE_trans hleft hright
    all_goals simp [mayPrecede] at *

/-- The rank of a node. -/
def Rank.ofNode (node : Node) : Rank :=
  if node.kind = .document then .document (node.order?.getD 0)
  else
    match node.resource? with
    | some path => .located (encodeText path)
    | none => .named (encodeText node.name)

/-- The rank of the node with an identifier. An identifier without a node ranks as one without a
resource path or a name. -/
def rankOf (project : Project) (id : NodeId) : Rank :=
  (project.node? id).elim (.named []) Rank.ofNode

/-- Whether a node may stand before another by their ranks. -/
def ranksBefore (project : Project) (left right : NodeId) : Bool :=
  (rankOf project left).mayPrecede (rankOf project right)

theorem isTotalPreorder_ranksBefore (project : Project) :
    IsTotalPreorder (ranksBefore project) where
  total left right := Rank.isTotalPreorder.total (rankOf project left) (rankOf project right)
  trans left middle right := Rank.isTotalPreorder.trans (rankOf project left)
    (rankOf project middle) (rankOf project right)

theorem bne_gt_eq_isLE (ordering : Ordering) : (ordering != .gt) = ordering.isLE := by
  cases ordering <;> rfl

/-- Assumes: nodes that have a number exactly if they are documents. They are compared as their
ranks are. -/
theorem isLE_compareNodes {left right : Node}
    (hleft : left.order?.isSome = true ↔ left.kind = .document)
    (hright : right.order?.isSome = true ↔ right.kind = .document) :
    (compareNodes left right).isLE = (Rank.ofNode left).mayPrecede (Rank.ofNode right) := by
  unfold Rank.ofNode compareNodes
  simp only [← hleft, ← hright]
  cases left.order? <;> cases right.order?
  case some.some =>
    exact Bool.eq_iff_iff.mpr (Std.isLE_compare.trans decide_eq_true_iff.symm)
  case none.none =>
    cases left.resource? <;> cases right.resource? <;>
      simp [comparePresent, Rank.mayPrecede, compare_encodeText]
  case none.some | some.none =>
    cases left.resource? <;> cases right.resource? <;> rfl

/-- In a grown project a run sorts nodes by their ranks. -/
theorem mayPrecede_eq {project : Project} (h : Grown Node.IsNew project) {left right : NodeId}
    (hleft : left < project.size) (hright : right < project.size) :
    mayPrecede project left right = ranksBefore project left right := by
  obtain ⟨first, hfirst⟩ := exists_node?_of_lt_size hleft
  obtain ⟨second, hsecond⟩ := exists_node?_of_lt_size hright
  simp only [mayPrecede, ranksBefore, rankOf, hfirst, hsecond, Option.elim_some]
  rw [bne_gt_eq_isLE, isLE_compareNodes (h.isSome_order?_iff hfirst) (h.isSome_order?_iff hsecond)]

theorem sortNodes_eq {project : Project} (h : Grown Node.IsNew project) {found : List NodeId}
    (hfound : ∀ id ∈ found, id < project.size) :
    sortNodes project found = found.mergeSort (ranksBefore project) := by
  have hmap := List.map_mergeSort (r := mayPrecede project) (s := ranksBefore project) (f := id)
    fun left hleft right hright ↦ mayPrecede_eq h (hfound left hleft) (hfound right hright)
  simpa [sortNodes] using hmap

/-- Assumes: a grown project, and nodes of it. The only stable sort of them is their report order.
-/
theorem isStableSort_iff_eq_sortNodes {project : Project} (h : Grown Node.IsNew project)
    {found : List NodeId} (hfound : ∀ id ∈ found, id < project.size) (sorted : List NodeId) :
    IsStableSort (ranksBefore project) found sorted ↔ sorted = sortNodes project found := by
  have htotal := isTotalPreorder_ranksBefore project
  rw [sortNodes_eq h hfound]
  constructor
  · intro hsorted
    exact hsorted.unique htotal (isStableSort_mergeSort htotal found)
  · rintro rfl
    exact isStableSort_mergeSort htotal found

/-- Leaving out nodes of a grown project before sorting comes to the same as leaving them out
afterwards. -/
theorem sortNodes_filter {project : Project} (h : Grown Node.IsNew project) {found : List NodeId}
    (hfound : ∀ id ∈ found, id < project.size) (keep : NodeId → Bool) :
    sortNodes project (found.filter keep) = (sortNodes project found).filter keep := by
  have hkept : ∀ id ∈ found.filter keep, id < project.size := fun id hid ↦
    hfound id (List.mem_filter.mp hid).1
  have hsorted := (isStableSort_iff_eq_sortNodes h hfound (sortNodes project found)).mpr rfl
  exact ((isStableSort_iff_eq_sortNodes h hkept _).mp (hsorted.filter keep)).symm

/-! ### What a run sorts -/

/-- Leaves beneath a root in depth-first order. -/
structure LeavesInOrder (project : Project) (root : NodeId) (found : List NodeId) : Prop where
  precedes : found.Pairwise project.Precedes
  standsUnder : ∀ id ∈ found, project.standsUnder root id = true

theorem leavesInOrder_of_sublist {project : Project} (h : IsTree project) {root : NodeId}
    {found : List NodeId} (hfound : found.Sublist (project.leaves root)) :
    LeavesInOrder project root found where
  precedes := (h.pairwise_leaves root).sublist hfound
  standsUnder _ hid := h.mem_leaves_iff_standsUnder.mp (hfound.subset hid)

/-- An outcome that reports lists of nodes, one for each rule: it counts each list, and what it
found is the only stable sort, by rank, of the lists put together. -/
structure Outcome.Reports (project : Project) (finds : List (List NodeId)) (outcome : Outcome) :
    Prop where
  ruleHits : outcome.ruleHits = finds.map List.length
  found : ∀ sorted, IsStableSort (ranksBefore project) finds.flatten sorted ↔
    sorted = outcome.found

namespace Runner

theorem reports_outcomeOf {project : Project} (h : Grown Node.IsNew project) {root : NodeId}
    (leaves : List NodeId) {finds : List (List NodeId)}
    (hfinds : ∀ found ∈ finds, LeavesInOrder project root found) :
    (outcomeOf project leaves finds).Reports project finds where
  ruleHits := rfl
  found := by
    refine isStableSort_iff_eq_sortNodes h fun id hid ↦ ?_
    obtain ⟨found, hfound, hid⟩ := List.mem_flatten.mp hid
    have hstands := (hfinds found hfound).standsUnder id hid
    obtain ⟨node, hnode, -⟩ := isLeaf_iff.mp (Bool.and_eq_true_iff.mp hstands).1
    exact lt_size_of_node? hnode

theorem ends_withMemo {α : Type} {property : α → Prop} (settings : Settings)
    {inquiry : Inquiry α} (h : inquiry.Ends property) :
    (withMemo settings inquiry).Ends property := by
  unfold withMemo
  split
  · exact (Inquiry.ends_remembering h Memo.empty).bind fun _ hresult ↦ hresult
  · exact h

/-- Whatever the history answers, each rule finds some of the leaves in their order. -/
theorem ends_inquireFinds [PatternLibrary] (project : Project) (leaves : List NodeId)
    (rules : List Rule) :
    (inquireFinds project leaves rules).Ends fun finds ↦
      finds.length = rules.length ∧ ∀ found ∈ finds, found.Sublist leaves :=
  Inquiry.ends_forEach_forall (fun _ ↦ Inquiry.ends_select _ leaves) rules

/-- Whatever the history answers, a run that succeeds reports leaves in order for each rule. -/
theorem ends_inquire [PatternLibrary] (runner : Runner) (entry : Entry) (root : NodeId)
    (h : Grown Node.IsNew runner.project) :
    (runner.inquire entry root).Ends fun result ↦ ∀ outcome, result.outcome = .ok outcome →
      ∃ finds, finds.length = entry.rules.length ∧
        (∀ found ∈ finds, LeavesInOrder runner.project root found) ∧
        outcome.Reports runner.project finds := by
  obtain ⟨left, error, herror⟩ | ⟨node, hroot, haccepts⟩ := runner.prepare_cases entry root
  · rw [runner.inquire_of_prepare_eq_error entry herror]
    refine Inquiry.ends_pure fun outcome houtcome ↦ ?_
    cases houtcome
  · rw [runner.inquire_of_accepts entry hroot haccepts]
    refine (ends_withMemo _ (ends_inquireFinds _ _ _)).bind ?_
    rintro finds ⟨hlength, hsublist⟩
    refine Inquiry.ends_pure fun outcome houtcome ↦ ?_
    obtain rfl := Except.ok.inj houtcome
    have hfinds : ∀ found ∈ finds, LeavesInOrder runner.project root found :=
      fun found hfound ↦ leavesInOrder_of_sublist h.isTree (hsublist found hfound)
    exact ⟨finds, hlength.trans (List.length_map _), hfinds, reports_outcomeOf h _ hfinds⟩

/-- A list is what a condition finds beneath a root under the history of the project: the leaves
there that the condition is true of, in depth-first order. -/
structure Finds [PatternLibrary] (runner : Runner) (root : NodeId) (condition : Condition)
    (found : List NodeId) :
    Prop extends LeavesInOrder runner.project root found where
  mem_iff : ∀ id, runner.project.standsUnder root id = true →
    (id ∈ found ↔ runner.project.reports runner.project.backend condition id = true)

/-- There is one list that a condition finds. -/
theorem findsOf_eq_iff [PatternLibrary] (runner : Runner) (h : IsTree runner.project)
    (root : NodeId) (condition : Condition) (found : List NodeId) :
    runner.findsOf root condition = found ↔ runner.Finds root condition found := by
  have hmem : ∀ id, id ∈ runner.findsOf root condition ↔
      runner.project.standsUnder root id = true ∧
        runner.project.reports runner.project.backend condition id = true := by
    intro id
    unfold findsOf
    rw [List.mem_filter, h.mem_leaves_iff_standsUnder]
  have hself : LeavesInOrder runner.project root (runner.findsOf root condition) :=
    leavesInOrder_of_sublist h List.filter_sublist
  constructor
  · rintro rfl
    exact ⟨hself, fun id hstands ↦ (hmem id).trans (and_iff_right hstands)⟩
  · intro hfound
    refine h.eq_of_pairwise_precedes hself.precedes hfound.precedes fun id ↦ (hmem id).trans ?_
    constructor
    · rintro ⟨hstands, htrue⟩
      exact (hfound.mem_iff id hstands).mpr htrue
    · intro hid
      have hstands := hfound.standsUnder id hid
      exact ⟨hstands, (hfound.mem_iff id hstands).mp hid⟩

theorem finds_eq_iff [PatternLibrary] (runner : Runner) (h : IsTree runner.project) (entry : Entry)
    (root : NodeId) (finds : List (List NodeId)) :
    runner.finds entry root = finds ↔
      List.Forall₂ (fun rule ↦ runner.Finds root rule.condition) entry.expandAll.rules finds := by
  have hfinds : (fun rule : Rule ↦ runner.Finds root rule.condition) =
      fun rule found ↦ runner.findsOf root rule.condition = found :=
    funext fun _ ↦ funext fun _ ↦ propext (runner.findsOf_eq_iff h root _ _).symm
  rw [hfinds, ← List.forall₂_map_left_iff, List.forall₂_eq_eq_eq]
  rfl

/-- Assumes: a project grown from newly constructed nodes.

Whatever the history answers, a run that succeeds reports the stable sort, by rank, of leaves that
its rules found beneath the root, put together rule by rule, those of each rule in depth-first
order. Under the history of the project the rules find the leaves that their conditions are true of.

The comparison that the sort makes is reflexive, total and transitive on any nodes. -/
theorem run_reports_stable_sort [PatternLibrary] (runner : Runner) (entry : Entry) (root : NodeId)
    (hproject : Grown Node.IsNew runner.project) :
    ((runner.inquire entry root).Ends fun result ↦ ∀ outcome, result.outcome = .ok outcome →
      ∃ finds, finds.length = entry.rules.length ∧
        (∀ found ∈ finds, LeavesInOrder runner.project root found) ∧
        outcome.Reports runner.project finds) ∧
    (∀ outcome, (runner.run entry root).outcome = .ok outcome →
      ∃ finds, (∀ other, finds = other ↔ List.Forall₂
          (fun rule ↦ runner.Finds root rule.condition) entry.expandAll.rules other) ∧
        outcome.Reports runner.project finds) ∧
    (∀ node, compareNodes node node = .eq) ∧
    (∀ left right, compareNodes right left = (compareNodes left right).swap) ∧
    ∀ left middle right, (compareNodes left middle).isLE → (compareNodes middle right).isLE →
      (compareNodes left right).isLE := by
  have htree := hproject.isTree
  refine ⟨runner.ends_inquire entry root hproject, fun outcome houtcome ↦ ?_, compareNodes_self,
    compareNodes_swap, fun _ _ _ ↦ isLE_compareNodes_trans⟩
  obtain ⟨-, -, rfl⟩ := (runner.run_outcome_eq_ok_iff entry root outcome).mp houtcome
  have hfinds : ∀ found ∈ runner.finds entry root, LeavesInOrder runner.project root found := by
    intro found hfound
    obtain ⟨rule, -, rfl⟩ := List.mem_map.mp hfound
    exact leavesInOrder_of_sublist htree List.filter_sublist
  exact ⟨_, runner.finds_eq_iff htree entry root, reports_outcomeOf hproject _ hfinds⟩

/-- The sample is run with a rule for all documents and one for those in the folder. The first finds
both documents and the second one of them, which the report lists twice before the other. -/
theorem run_reports_stable_sort_sample :
    ∃ outcome, (run { project := sample }
        { rules := [.draft {}, .draft { bounds? := some "A" }] } root).outcome = .ok outcome ∧
      outcome.Reports sample [[2, 3], [2]] ∧ outcome.found = [2, 2, 3] := by
  have hreports := (run_reports_stable_sort { project := sample }
    { rules := [.draft {}, .draft { bounds? := some "A" }] } root grown_sample).2.1 _ rfl
  obtain ⟨finds, hfinds, houtcome⟩ := hreports
  obtain rfl : finds = [[2, 3], [2]] :=
    (hfinds _).mpr ((finds_eq_iff _ grown_sample.isTree _ _ _).mp rfl)
  obtain ⟨hperm, hsorted, -⟩ := (houtcome.found _).mpr rfl
  refine ⟨_, rfl, houtcome, List.Perm.eq_of_pairwise (fun first second hfirst hsecond ↦ ?_) hsorted
    (by decide) (hperm.trans (by decide))⟩
  have hdistinct : ∀ first ∈ [2, 3, 2], ∀ second ∈ [2, 2, 3],
      ranksBefore sample first second = true → ranksBefore sample second first = true →
        first = second := by
    decide
  exact hdistinct first (hperm.mem_iff.mp hfirst) second hsecond

end Runner

end DocumentRules.Report
