import DocumentRules.Proofs.Report.Endings
import DocumentRules.Proofs.Report.Sorting

/-!
# Runs on a subtree

A run at a node beneath another finds what the run at the other finds in the smaller subtree, in the
same order and as often (`run_beneath_finds_restriction`). Leaving out what lies outside the subtree
can be put off from the walk (`IsTree.leaves_eq_filter`) until the rules have found their nodes
(`findsOf_eq_filter`), until these have been put together, and until they have been sorted
(`sortNodes_filter`).
-/

set_option autoImplicit false
set_option relaxedAutoImplicit false

namespace DocumentRules.Report.Runner

open Condition Evaluation History Project

section Beneath

variable [PatternLibrary] {runner : Runner} {lower upper : NodeId}

/-- Assumes: a node at or beneath another. A condition finds beneath it the nodes that it finds
beneath the other and that lie in the smaller subtree. -/
theorem findsOf_eq_filter (h : IsTree runner.project)
    (hwithin : runner.project.IsWithin lower upper) (condition : Condition) :
    runner.findsOf lower condition = (runner.findsOf upper condition).filter
      fun id ↦ id == lower || runner.project.isAncestor lower id := by
  unfold findsOf
  rw [h.leaves_eq_filter hwithin, List.filter_comm]

theorem flatten_finds_eq_filter (h : IsTree runner.project)
    (hwithin : runner.project.IsWithin lower upper) (entry : Entry) :
    (runner.finds entry lower).flatten = (runner.finds entry upper).flatten.filter
      fun id ↦ id == lower || runner.project.isAncestor lower id := by
  unfold finds
  rw [List.filter_flatten, List.map_map]
  exact congrArg List.flatten (List.map_congr_left fun rule _ ↦ findsOf_eq_filter h hwithin _)

/-- A rule finds no more beneath a node than beneath another that it is at or beneath. -/
theorem forall₂_length_finds_le (h : IsTree runner.project)
    (hwithin : runner.project.IsWithin lower upper) (entry : Entry) :
    List.Forall₂ (· ≤ ·) ((runner.finds entry lower).map List.length)
      ((runner.finds entry upper).map List.length) := by
  unfold finds
  rw [List.map_map, List.map_map, List.forall₂_map_left_iff, List.forall₂_map_right_iff,
    List.forall₂_same]
  intro rule _
  simp only [Function.comp_apply, findsOf_eq_filter h hwithin]
  exact List.length_filter_le _ _

theorem lt_size_of_mem_finds {entry : Entry} {root id : NodeId}
    (h : id ∈ (runner.finds entry root).flatten) : id < runner.project.size := by
  obtain ⟨found, hfound, hid⟩ := List.mem_flatten.mp h
  obtain ⟨rule, -, rfl⟩ := List.mem_map.mp hfound
  obtain ⟨node, hnode, -⟩ := exists_node?_of_mem_leaves (List.mem_filter.mp hid).1
  exact lt_size_of_node? hnode

end Beneath

/-- Assumes: a project grown from newly constructed nodes, a node in it, another that is the same or
lies beneath it, and an entry whose expanded rules the validator accepts. Runs at both end, and
succeed. The run at the lower node finds what the run at the upper one finds, without the nodes
outside the subtree of the lower, and no rule has more hits in it. -/
theorem run_beneath_finds_restriction [PatternLibrary] (runner : Runner) (entry : Entry)
    {lower upper : NodeId} {node : Node} (hproject : Grown Node.IsNew runner.project)
    (hupper : runner.project.node? upper = some node)
    (hlower : lower = upper ∨ runner.project.isAncestor upper lower = true)
    (haccepts : runner.Accepts entry) :
    runner.run? entry upper = some (runner.run entry upper) ∧
    runner.run? entry lower = some (runner.run entry lower) ∧
    ∃ whole part, (runner.run entry upper).outcome = .ok whole ∧
      (runner.run entry lower).outcome = .ok part ∧
      (part.found = whole.found.filter
        fun id ↦ id == lower || runner.project.isAncestor lower id) ∧
      List.Forall₂ (· ≤ ·) part.ruleHits whole.ruleHits := by
  have htree := hproject.isTree
  have hwithin : runner.project.IsWithin lower upper := by
    rw [← htree.isWithin_iff, Bool.or_eq_true, beq_iff_eq]
    exact hlower
  obtain ⟨lowerNode, hlowerNode⟩ := exists_node?_of_isWithin hwithin hupper
  refine ⟨run?_of_grown hproject entry upper, run?_of_grown hproject entry lower, _, _,
    congrArg RunResult.outcome (runner.run_of_accepts entry hupper haccepts),
    congrArg RunResult.outcome (runner.run_of_accepts entry hlowerNode haccepts), ?_,
    forall₂_length_finds_le htree hwithin entry⟩
  unfold outcomeOf
  rw [flatten_finds_eq_filter htree hwithin,
    sortNodes_filter hproject fun _ hid ↦ lt_size_of_mem_finds hid]

/-- The sample is run at its root and at its folder, with a rule for all documents and one for those
in the folder. The document beside the folder is found at the root only. -/
theorem run_beneath_finds_restriction_sample :
    let runner : Runner := { project := sample }
    let entry : Entry := { rules := [.draft {}, .draft { bounds? := some "A" }] }
    ∃ whole part, (runner.run entry root).outcome = .ok whole ∧
      (runner.run entry 1).outcome = .ok part ∧ whole.found.Perm [2, 3, 2] ∧
      (part.found = whole.found.filter fun id ↦ id == 1 || sample.isAncestor 1 id) ∧
      part.found = [2, 2] ∧ List.Forall₂ (· ≤ ·) part.ruleHits whole.ruleHits := by
  intro runner entry
  have haccepts : runner.Accepts entry :=
    List.forall_mem_cons.mpr ⟨rfl, List.forall_mem_cons.mpr ⟨rfl, nofun⟩⟩
  have hroot : sample.node? root = some _ := rfl
  obtain ⟨-, -, whole, part, hwhole, hpart, hfound, hhits⟩ :=
    @run_beneath_finds_restriction _ runner entry 1 root _ grown_sample hroot (.inr rfl) haccepts
  have hperm : whole.found.Perm [2, 3, 2] := by
    obtain ⟨-, -, rfl⟩ := (runner.run_outcome_eq_ok_iff entry root whole).mp hwhole
    have hfinds : (runner.finds entry root).flatten = [2, 3, 2] := by decide +kernel
    exact hfinds ▸ List.mergeSort_perm _ (mayPrecede sample)
  have hkept : part.found.Perm (List.replicate 2 2) := hfound ▸ hperm.filter _
  exact ⟨whole, part, hwhole, hpart, hperm, hfound, List.perm_replicate.mp hkept, hhits⟩

end DocumentRules.Report.Runner
