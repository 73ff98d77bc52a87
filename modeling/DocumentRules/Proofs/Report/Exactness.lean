import DocumentRules.Proofs.Report.Endings
import Mathlib.Algebra.Ring.Nat

/-!
# A run finds each leaf once for each rule

The leaves beneath a root can be told without a walk: they are the nodes without others beneath them
that are the root or have it above them (`leavesUnder`). In a project grown from newly constructed
nodes the walk meets the same leaves, each of them once (`leaves_perm_leavesUnder`). A run therefore
counts every leaf beneath its root once for each rule whose condition is true of it, and counts no
other node.
-/

set_option autoImplicit false
set_option relaxedAutoImplicit false

namespace DocumentRules.Project

variable {project : Project}

/-- Whether a node holds no others and is the top of a subtree or beneath it. -/
def standsUnder (project : Project) (top id : NodeId) : Bool :=
  project.isLeaf id && (id == top || project.isAncestor top id)

/-- The documents and items of a subtree, in the order of their identifiers. -/
def leavesUnder (project : Project) (top : NodeId) : List NodeId :=
  (List.range project.size).filter (project.standsUnder top)

theorem Rooted.standsUnder_iff (h : Rooted project) {top id : NodeId} :
    project.standsUnder top id = true ↔ project.isLeaf id = true ∧ project.IsWithin id top := by
  unfold standsUnder
  rw [Bool.and_eq_true, h.isWithin_iff]

theorem IsTree.mem_leaves_iff_standsUnder (h : IsTree project) {top id : NodeId} :
    id ∈ project.leaves top ↔ project.standsUnder top id = true := by
  rw [h.mem_leaves_iff, h.standsUnder_iff]

/-- The walk over a subtree meets its leaves in another order only. -/
theorem IsTree.leaves_perm_leavesUnder (h : IsTree project) (top : NodeId) :
    (project.leaves top).Perm (project.leavesUnder top) := by
  have hnodup : (project.leavesUnder top).Nodup := List.nodup_range.filter _
  refine (List.perm_ext_iff_of_nodup (h.nodup_leaves top) hnodup).mpr fun id ↦ ?_
  rw [h.mem_leaves_iff_standsUnder]
  unfold leavesUnder
  rw [List.mem_filter, List.mem_range]
  constructor
  · intro hstands
    have hleaf := (h.standsUnder_iff.mp hstands).1
    obtain ⟨node, hnode, -⟩ := isLeaf_iff.mp hleaf
    exact ⟨lt_size_of_node? hnode, hstands⟩
  · exact And.right

end DocumentRules.Project

namespace DocumentRules.Report

open Condition Evaluation History Project

/-- Sorting into report order keeps every node as often as it was found. -/
theorem count_sortNodes (project : Project) (found : List NodeId) (id : NodeId) :
    (sortNodes project found).count id = found.count id :=
  (List.mergeSort_perm found (mayPrecede project)).count_eq id

theorem length_sortNodes (project : Project) (found : List NodeId) :
    (sortNodes project found).length = found.length :=
  (List.mergeSort_perm found (mayPrecede project)).length_eq

namespace Runner

variable {project : Project}

/-- Assumes: leaves without repetition. What some rules find among them, put together, has every
leaf once for each rule that is true of it. -/
theorem count_flatten_finds [PatternLibrary] {leaves : List NodeId} (hleaves : leaves.Nodup)
    (backend : Backend) (rules : List Rule) (id : NodeId) :
    (rules.map fun rule ↦ leaves.filter (project.reports backend rule.condition)).flatten.count id =
      if id ∈ leaves then rules.countP fun rule ↦ project.reports backend rule.condition id
      else 0 := by
  induction rules with
  | nil => simp
  | cons rule rest ih =>
    rw [List.map_cons, List.flatten_cons, List.count_append, ih, List.countP_cons]
    have hfirst : (leaves.filter (project.reports backend rule.condition)).count id =
        if id ∈ leaves then if project.reports backend rule.condition id then 1 else 0 else 0 := by
      simp only [(hleaves.filter _).count, List.mem_filter, ite_and]
    rw [hfirst]
    split
    · rw [Nat.add_comm]
    · rfl

/-- The hits of the rules are together as many as the nodes that were found. -/
theorem sum_ruleHits_outcomeOf (project : Project) (leaves : List NodeId)
    (finds : List (List NodeId)) :
    (outcomeOf project leaves finds).ruleHits.sum = (outcomeOf project leaves finds).found.length :=
  (List.length_flatten.symm).trans (length_sortNodes project finds.flatten).symm

/-- Assumes: a project grown from newly constructed nodes, a root in it, and an entry whose expanded
rules the validator accepts. The run ends and succeeds. It finds every leaf beneath the root as
often as there are rules whose expanded condition is true of it, and no other node. Each rule hits
the leaves beneath the root that its condition is true of, the hits add up to the finds, and every
rule visits every leaf beneath the root. -/
theorem run_finds_each_leaf_once_per_rule [PatternLibrary] (runner : Runner) (entry : Entry)
    {root : NodeId} {node : Node} (hproject : Grown Node.IsNew runner.project)
    (hroot : runner.project.node? root = some node) (haccepts : runner.Accepts entry) :
    runner.run? entry root = some (runner.run entry root) ∧
    ∃ outcome, (runner.run entry root).outcome = .ok outcome ∧
      (∀ id, outcome.found.count id =
        if runner.project.standsUnder root id then
          entry.expandAll.rules.countP fun rule ↦
            runner.project.reports runner.project.backend rule.condition id
        else 0) ∧
      (outcome.ruleHits = entry.expandAll.rules.map fun rule ↦
        (runner.project.leavesUnder root).countP
          (runner.project.reports runner.project.backend rule.condition)) ∧
      outcome.ruleHits.sum = outcome.found.length ∧
      outcome.visited = entry.rules.length * (runner.project.leavesUnder root).length := by
  have htree := hproject.isTree
  have hperm := htree.leaves_perm_leavesUnder root
  refine ⟨run?_of_grown hproject entry root, _,
    congrArg RunResult.outcome (runner.run_of_accepts entry hroot haccepts), ?_, ?_,
    sum_ruleHits_outcomeOf _ _ _, ?_⟩
  · intro id
    unfold outcomeOf
    unfold finds findsOf
    rw [count_sortNodes, count_flatten_finds (htree.nodup_leaves root)]
    simp only [htree.mem_leaves_iff_standsUnder]
  · unfold outcomeOf finds findsOf
    rw [List.map_map]
    refine List.map_congr_left fun rule _ ↦ ?_
    rw [Function.comp_apply, ← List.countP_eq_length_filter]
    exact hperm.countP_eq _
  · unfold outcomeOf finds
    rw [List.length_map, hperm.length_eq]
    simp [Entry.expandAll]

/-- Both documents of the sample are found by a rule without a condition, and one of them also by a
rule that is confined to the folder. -/
theorem run_finds_each_leaf_once_per_rule_sample :
    ∃ outcome, (run { project := sample }
        { rules := [.draft {}, .draft { bounds? := some "A" }] } root).outcome = .ok outcome ∧
      outcome.found.count 2 = 2 ∧ outcome.found.count 3 = 1 ∧ outcome.found.count 1 = 0 ∧
      outcome.ruleHits = [2, 1] ∧ outcome.visited = 4 := by
  have haccepts : Accepts { project := sample }
      { rules := [.draft {}, .draft { bounds? := some "A" }] } :=
    List.forall_mem_cons.mpr ⟨rfl, List.forall_mem_cons.mpr ⟨rfl, nofun⟩⟩
  have hroot : sample.node? root = some _ := rfl
  obtain ⟨-, outcome, houtcome, hcount, hhits, -, hvisited⟩ :=
    run_finds_each_leaf_once_per_rule { project := sample } _ grown_sample hroot haccepts
  exact ⟨outcome, houtcome, hcount 2, hcount 3, hcount 1, hhits, hvisited⟩

end Runner

end DocumentRules.Report
