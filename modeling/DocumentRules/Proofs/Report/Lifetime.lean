import DocumentRules.Proofs.Report.Failure
import Mathlib.Data.List.Induction

/-!
# The life of a rule in an entry

Rules are put at the end of an entry, the bounds of the entry may be set anew at any time, and
expanding all rules or running the entry builds the restrictions of each rule into its condition.
A step of this kind makes at most one revision of each rule (`rules_perform`). A rule that is
expanded withstands every revision, so what counts is the first expansion after a rule was pushed:
`rules_expand_once` says with which bounds it is made, and that nothing changes the rule later.
-/

set_option autoImplicit false
set_option relaxedAutoImplicit false

namespace DocumentRules.Report

open Condition Evaluation Project

/-- A revision of a single rule. -/
inductive Revision where
  | extensionScope (extension : String)
  | bounds (path : String)
  | expansion (owningBounds? : Option String)

namespace Rule

/-- The rule after a revision. -/
def revise (rule : Rule) : Revision → Rule
  | .extensionScope extension => rule.withExtensionScope extension
  | .bounds path => rule.withBounds path
  | .expansion owningBounds? => rule.expand owningBounds?

/-- The rule after some revisions, one after the other. -/
def reviseAll (rule : Rule) (revisions : List Revision) : Rule := revisions.foldl revise rule

/-- A rule that is expanded withstands every revision. -/
@[simp] theorem revise_expanded (condition : Condition) (revision : Revision) :
    (expanded condition).revise revision = expanded condition := by
  cases revision <;> rfl

end Rule

/-! ### Steps -/

/-- Something done to an entry. -/
inductive Step where
  | push (rule : Rule)
  | bounds (path : String)
  | expandAll
  | run (runner : Runner) (root : NodeId)
  /-- A revision of the rule at an index by itself. -/
  | revise (index : Nat) (revision : Revision)

namespace Step

/-- The rule that a step adds. -/
def pushed? : Step → Option Rule
  | push rule => some rule
  | bounds _ | expandAll | run _ _ | revise _ _ => none

/-- The bounds that a step sets. -/
def bounds? : Step → Option String
  | bounds path => some path
  | push _ | expandAll | run _ _ | revise _ _ => none

/-- Whether a step expands the rules: it does so itself, or it is a run whose root is a node of the
project. -/
def expands : Step → Bool
  | expandAll => true
  | run runner root => (runner.project.node? root).isSome
  | push _ | bounds _ | revise _ _ => false

/-- Whether a step revises the rule at an index by itself. -/
def revises (index : Nat) : Step → Bool
  | revise target _ => target == index
  | push _ | bounds _ | expandAll | run _ _ => false

/-- The revision that a step makes of the rule at an index of an entry with some bounds. -/
def revision? (owningBounds? : Option String) (index : Nat) : Step → Option Revision
  | expandAll => some (.expansion owningBounds?)
  | run runner root =>
    if (runner.project.node? root).isSome then some (.expansion owningBounds?) else none
  | revise target revision => if target = index then some revision else none
  | push _ | bounds _ => none

theorem revision?_of_expands {step : Step} (h : step.expands = true)
    (owningBounds? : Option String) (index : Nat) :
    step.revision? owningBounds? index = some (.expansion owningBounds?) := by
  cases step with
  | expandAll => rfl
  | run runner root => exact if_pos h
  | push _ | bounds _ | revise _ _ => cases h

theorem revision?_eq_none {step : Step} {index : Nat} (hexpands : step.expands = false)
    (hrevises : step.revises index = false) (owningBounds? : Option String) :
    step.revision? owningBounds? index = none := by
  cases step with
  | push _ | bounds _ => rfl
  | expandAll => cases hexpands
  | run runner root => exact if_neg (Bool.eq_false_iff.mp hexpands)
  | revise target revision => exact if_neg (beq_eq_false_iff_ne.mp hrevises)

end Step

namespace Entry

section

variable [PatternLibrary]

/-- The entry after a step. A run that is a step ends. -/
def perform (entry : Entry) : Step → Entry
  | .push rule => entry.push rule
  | .bounds path => entry.withBounds path
  | .expandAll => entry.expandAll
  | .run runner root => (runner.run entry root).entry
  | .revise index revision =>
    { entry with rules := entry.rules.modify index fun rule ↦ rule.revise revision }

/-- The entry after some steps, one after the other. -/
def after (entry : Entry) (steps : List Step) : Entry := steps.foldl perform entry

theorem after_append (entry : Entry) (before later : List Step) :
    entry.after (before ++ later) = (entry.after before).after later :=
  List.foldl_append

theorem bounds?_perform (entry : Entry) (step : Step) :
    (entry.perform step).bounds? = step.bounds?.or entry.bounds? := by
  cases step with
  | push _ | bounds _ | expandAll | revise _ _ => rfl
  | run runner root =>
    rw [perform, runner.entry_run]
    split <;> rfl

/-- A step makes at most one revision of each rule, and may add a rule at the end. -/
theorem rules_perform (entry : Entry) (step : Step) :
    (entry.perform step).rules =
      (entry.rules.mapIdx fun index rule ↦
        (step.revision? entry.bounds? index).elim rule rule.revise) ++ step.pushed?.toList := by
  have hexpandAll : entry.expandAll.rules =
      entry.rules.mapIdx fun _ rule ↦ rule.revise (.expansion entry.bounds?) :=
    List.ext_getElem (by simp [expandAll]) fun index _ _ ↦ by simp [expandAll, Rule.revise]
  have hid : entry.rules = entry.rules.mapIdx fun _ rule ↦ rule :=
    List.ext_getElem (by simp) fun index _ _ ↦ by simp
  cases step with
  | push rule => exact congrArg (· ++ [rule]) hid
  | bounds path => exact hid.trans (List.append_nil _).symm
  | expandAll => exact hexpandAll.trans (List.append_nil _).symm
  | run runner root =>
    rw [perform, runner.entry_run]
    cases hroot : runner.project.node? root <;>
      simp [Step.revision?, Step.pushed?, hroot, ← hid, hexpandAll]
  | revise target revision =>
    refine List.ext_getElem (by simp [perform, Step.pushed?]) fun index _ _ ↦ ?_
    simp only [perform, Step.revision?, Step.pushed?, List.getElem_modify, Option.toList_none,
      List.append_nil, List.getElem_mapIdx]
    split <;> rfl

/-- A rule has the same index after a step, and the step's revision made of it. -/
theorem getElem?_rules_perform {entry : Entry} {index : Nat} {rule : Rule}
    (h : entry.rules[index]? = some rule) (step : Step) :
    (entry.perform step).rules[index]? =
      some ((step.revision? entry.bounds? index).elim rule rule.revise) := by
  obtain ⟨hindex, -⟩ := List.getElem?_eq_some_iff.mp h
  rw [rules_perform, List.getElem?_append_left (by simpa using hindex), List.getElem?_mapIdx, h,
    Option.map_some]

/-! ### Sequences of steps -/

/-- The bounds in force are those set last, and the entry's own if none were set. -/
theorem bounds?_after (entry : Entry) (steps : List Step) :
    (entry.after steps).bounds? = (steps.filterMap Step.bounds?).getLast?.or entry.bounds? := by
  induction steps using List.reverseRecOn with
  | nil => rfl
  | append_singleton steps step ih =>
    rw [after_append, List.filterMap_append, List.getLast?_append, Option.or_assoc, ← ih]
    refine (bounds?_perform _ step).trans (congrArg (Option.or · _) ?_)
    cases hbounds : step.bounds? <;> simp [hbounds]

/-- An expanded rule stays as it is. -/
theorem rules_after_of_expanded {entry : Entry} {index : Nat} {condition : Condition}
    (h : entry.rules[index]? = some (.expanded condition)) (steps : List Step) :
    (entry.after steps).rules[index]? = some (.expanded condition) := by
  induction steps generalizing entry with
  | nil => exact h
  | cons step rest ih =>
    refine ih ((getElem?_rules_perform h step).trans (congrArg some ?_))
    cases step.revision? entry.bounds? index with
    | none => rfl
    | some revision => exact Rule.revise_expanded condition revision

/-- A rule stays as it is until the rules are expanded, unless it is revised by itself. -/
theorem rules_after_of_waiting {entry : Entry} {index : Nat} {rule : Rule}
    (h : entry.rules[index]? = some rule) {waiting : List Step}
    (hwaiting : ∀ step ∈ waiting, step.expands = false ∧ step.revises index = false) :
    (entry.after waiting).rules[index]? = some rule := by
  induction waiting generalizing entry with
  | nil => exact h
  | cons step rest ih =>
    have hstep := hwaiting step List.mem_cons_self
    refine ih ((getElem?_rules_perform h step).trans ?_)
      fun other hother ↦ hwaiting other (List.mem_cons_of_mem step hother)
    rw [Step.revision?_eq_none hstep.1 hstep.2]
    rfl

/-- A draft is expanded with the bounds in force at the first step that expands the rules. -/
theorem rules_after_of_expands {entry : Entry} {index : Nat} {draft : Draft}
    (h : entry.rules[index]? = some (.draft draft)) {waiting : List Step}
    (hwaiting : ∀ step ∈ waiting, step.expands = false ∧ step.revises index = false)
    {first : Step} (hfirst : first.expands = true) (later : List Step) :
    (entry.after (waiting ++ first :: later)).rules[index]? =
      some (.expanded (draft.expand (entry.after waiting).bounds?)) := by
  rw [after_append]
  refine rules_after_of_expanded ?_ later
  rw [getElem?_rules_perform (rules_after_of_waiting h hwaiting) first,
    Step.revision?_of_expands hfirst]
  rfl

/-- Every rule of the entry, and every rule pushed, has its place for good: steps do no more than
revise it there. -/
theorem rules_after (entry : Entry) (steps : List Step) :
    ∃ revisions : Nat → List Revision, (entry.after steps).rules =
      (entry.rules ++ steps.filterMap Step.pushed?).mapIdx fun index rule ↦
        rule.reviseAll (revisions index) := by
  induction steps using List.reverseRecOn with
  | nil =>
    refine ⟨fun _ ↦ [], (List.ext_getElem (by simp [after]) fun index _ _ ↦ ?_).symm⟩
    simp [after, Rule.reviseAll]
  | append_singleton steps step ih =>
    obtain ⟨revisions, hrevisions⟩ := ih
    rw [List.filterMap_append, ← List.append_assoc]
    generalize entry.rules ++ steps.filterMap Step.pushed? = settled at hrevisions
    refine ⟨fun index ↦ if index < settled.length then revisions index ++
      (step.revision? (entry.after steps).bounds? index).toList else [], ?_⟩
    rw [after_append, List.mapIdx_append]
    refine (rules_perform _ step).trans (congrArg₂ (· ++ ·) ?_ ?_)
    · rw [hrevisions, List.mapIdx_mapIdx]
      refine List.ext_getElem (by simp) fun index _ hindex ↦ ?_
      rw [List.length_mapIdx] at hindex
      simp only [List.getElem_mapIdx, Function.comp_apply, if_pos hindex]
      cases step.revision? (entry.after steps).bounds? index <;> simp [Rule.reviseAll]
    · cases hpushed : step.pushed? <;> simp [hpushed, Rule.reviseAll]

/-- Whatever is done to an entry, its rules keep their number and their order, and only a push adds
one, at the end. A rule that is a draft stays one until the rules are expanded, and is then expanded
with its own bounds, or else with those in force. An expanded rule never changes again. -/
theorem rules_expand_once (entry : Entry) (before : List Step) :
    (∃ revisions : Nat → List Revision, (entry.after before).rules =
      (entry.rules ++ before.filterMap Step.pushed?).mapIdx fun index rule ↦
        rule.reviseAll (revisions index)) ∧
    (∀ rule, (entry.after (before ++ [.push rule])).rules = (entry.after before).rules ++ [rule]) ∧
    (∀ (index : Nat) (draft : Draft), (entry.after before).rules[index]? = some (.draft draft) →
      ∀ waiting : List Step,
        (∀ step ∈ waiting, step.expands = false ∧ step.revises index = false) →
        (entry.after (before ++ waiting)).rules[index]? = some (.draft draft) ∧
        ∀ first later, first.expands = true →
          (entry.after (before ++ waiting ++ first :: later)).rules[index]? =
            some (.expanded (draft.expand
              (((before ++ waiting).filterMap Step.bounds?).getLast?.or entry.bounds?)))) ∧
    ∀ (index : Nat) (condition : Condition),
      (entry.after before).rules[index]? = some (.expanded condition) →
      ∀ later, (entry.after (before ++ later)).rules[index]? = some (.expanded condition) := by
  refine ⟨entry.rules_after before, fun rule ↦ ?_, fun index draft hdraft waiting hwaiting ↦ ?_,
    fun index condition hexpanded later ↦ ?_⟩
  · rw [after_append]
    rfl
  · rw [← bounds?_after, after_append]
    refine ⟨rules_after_of_waiting hdraft hwaiting, fun first later hfirst ↦ ?_⟩
    rw [List.append_assoc, after_append]
    exact rules_after_of_expands hdraft hwaiting hfirst later
  · rw [after_append]
    exact rules_after_of_expanded hexpanded later

end

/-- A run under a root that the sample does not have leaves a pushed rule a draft. A run that the
validator refuses expands it with the bounds set last, and neither its own new bounds nor those of
the entry matter any more. -/
theorem rules_expand_once_sample :
    let entry : Entry := {}
    let runner : Runner := { project := sample, validator := fun _ _ ↦ .error (.unreadable "") }
    let before : List Step := [.bounds "A", .push (.draft {})]
    let waiting : List Step := [.run runner 7, .bounds "B"]
    (entry.after (before ++ waiting)).rules[0]? = some (.draft {}) ∧
    ∀ later : List Step,
      (entry.after (before ++ waiting ++ .run runner root :: .revise 0 (.bounds "C") ::
        .bounds "D" :: .expandAll :: later)).rules[0]? = some (.expanded [Token.within "B"]) := by
  intro entry runner before waiting
  obtain ⟨-, -, hdraft, -⟩ := rules_expand_once entry before
  obtain ⟨hwaiting, hexpanded⟩ := hdraft 0 {} rfl waiting (by decide)
  exact ⟨hwaiting, fun later ↦ hexpanded (.run runner root) _ rfl⟩

end Entry

end DocumentRules.Report
