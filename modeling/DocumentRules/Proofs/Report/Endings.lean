import DocumentRules.Proofs.Project.Subtree
import DocumentRules.Proofs.Report.Outcome

/-!
# Runs that never end

A run that comes to its walks walks once for each rule, and goes on for ever if there is a rule and
an endless way leads down the child lists from the root (`inquire?_eq_none_iff`). Every other run
ends, and is the inquiry that `Runner.inquire` describes (`inquire_of_inquire?_eq_some`). In a
project whose child lists agree with its parent links, such as one grown from newly constructed
nodes, no run goes on for ever (`inquire?_of_grown`). With a copied folder one can
(`exists_run_without_end`).
-/

set_option autoImplicit false
set_option relaxedAutoImplicit false

namespace DocumentRules.Report.Runner

open Condition Evaluation History Project

/-- The walks of a run go on for ever if there is a rule, and one walk does. -/
theorem walk?_eq_none_iff (runner : Runner) (entry : Entry) (root : NodeId) :
    runner.walk? entry root = none ↔
      entry.rules ≠ [] ∧ runner.project.EndlessBelow root := by
  unfold walk?
  by_cases hrules : entry.rules = []
  · simp [hrules]
  · rw [if_neg (by simpa using hrules), leaves?_eq_none_iff, and_iff_right hrules]

section

variable [PatternLibrary] (runner : Runner) (entry : Entry) {root : NodeId}

/-- Without a rule the walks are left out, and it makes no difference what they would have met. -/
theorem inquireAmong_of_rules_eq_nil (hrules : entry.rules = []) (leaves : List NodeId) :
    runner.inquireAmong entry leaves = runner.inquireAmong entry [] := by
  have hmemo : withMemo runner.settings (Inquiry.done ([] : List (List NodeId))) = .done [] := by
    unfold withMemo
    split <;> rfl
  have hfinds : ∀ among, inquireFinds runner.project among entry.rules = .done [] := fun among ↦ by
    rw [hrules]
    rfl
  have hamong : ∀ among, runner.inquireAmong entry among =
      .done ⟨entry, .ok (outcomeOf runner.project among [])⟩ := fun among ↦ by
    rw [inquireAmong, hfinds, hmemo]
    rfl
  rw [hamong, hamong]
  simp [outcomeOf]

/-- A run that ends is what `inquire` says. -/
theorem inquire_of_inquire?_eq_some {inquiry : Inquiry RunResult}
    (h : runner.inquire? entry root = some inquiry) : runner.inquire entry root = inquiry := by
  unfold inquire? at h
  unfold inquire
  cases hprepare : runner.prepare entry root with
  | error result =>
    rw [hprepare] at h
    exact Option.some.inj h
  | ok expanded =>
    simp only [hprepare, Option.map_eq_some_iff] at h
    obtain ⟨leaves, hleaves, rfl⟩ := h
    unfold walk? at hleaves
    split at hleaves
    · rename_i hrules
      obtain rfl := Option.some.inj hleaves
      exact runner.inquireAmong_of_rules_eq_nil expanded (List.isEmpty_iff.mp hrules) _
    · simp only [Project.leaves, hleaves, Option.getD_some]

theorem inquire?_of_firstRefused? {node : Node} {index : Nat} {fault : ConditionFault}
    (hroot : runner.project.node? root = some node)
    (hrefused : runner.firstRefused? 0 entry.expandAll.rules = some (index, fault)) :
    runner.inquire? entry root =
      some (pure ⟨entry.expandAll, .error (.malformedRule entry.name index fault)⟩) := by
  simp only [inquire?, runner.prepare_of_firstRefused? entry hroot hrefused]

/-- A run never ends exactly if no rule is refused, there is a rule, and an endless way leads down
the child lists from the root. -/
theorem inquire?_eq_none_iff : runner.inquire? entry root = none ↔
    runner.Accepts entry ∧ entry.rules ≠ [] ∧ runner.project.EndlessBelow root := by
  obtain ⟨left, error, herror⟩ | ⟨node, hroot, haccepts⟩ := runner.prepare_cases entry root
  · have hinquire : runner.inquire? entry root = some (pure ⟨left, .error error⟩) := by
      simp only [inquire?, herror]
    rw [hinquire]
    refine iff_of_false (Option.some_ne_none _) ?_
    rintro ⟨haccepts, -, way, rfl, hway⟩
    -- a node that lists another is known, so the run gets past its preparation
    obtain ⟨node, hnode, -⟩ := hway 0
    rw [runner.prepare_of_accepts entry hnode haccepts] at herror
    cases herror
  · have hrules : entry.expandAll.rules ≠ [] ↔ entry.rules ≠ [] := List.map_eq_nil_iff.not
    simp only [inquire?, runner.prepare_of_accepts entry hroot haccepts, Option.map_eq_none_iff]
    rw [walk?_eq_none_iff, hrules]
    exact (and_iff_right haccepts).symm

end

/-- In a project grown from newly constructed nodes every run ends. -/
theorem inquire?_of_grown [PatternLibrary] {runner : Runner} (h : Grown Node.IsNew runner.project)
    (entry : Entry) (root : NodeId) :
    runner.inquire? entry root = some (runner.inquire entry root) := by
  cases hinquire : runner.inquire? entry root with
  | some inquiry => rw [runner.inquire_of_inquire?_eq_some entry hinquire]
  | none =>
    obtain ⟨-, -, hendless⟩ := (runner.inquire?_eq_none_iff entry).mp hinquire
    rw [← leaves?_eq_none_iff, h.isTree.linksAgree.leaves?_eq_some h.isTree.toRooted] at hendless
    cases hendless

theorem run?_of_grown [PatternLibrary] {runner : Runner} (h : Grown Node.IsNew runner.project)
    (entry : Entry) (root : NodeId) :
    runner.run? entry root = some (runner.run entry root) := by
  rw [run?, inquire?_of_grown h]
  rfl

/-- A copy of the root that is put under a folder lists the folder, and a run from the root with a
rule to walk for goes round between the two for ever. -/
theorem exists_run_without_end :
    ∃ first second : Project, ∃ top : Node,
      Project.empty.insert root (.folder "A") = .ok (first, 1) ∧
      first.node? root = some top ∧ first.insert 1 top = .ok (second, 2) ∧
      inquire? { project := second } { rules := [.draft {}] } root = none := by
  refine ⟨_, _, _, rfl, rfl, rfl, rfl⟩

end DocumentRules.Report.Runner
