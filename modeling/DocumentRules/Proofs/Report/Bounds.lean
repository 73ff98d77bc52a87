import DocumentRules.Proofs.Condition.Agreement
import DocumentRules.Proofs.Condition.Chains
import DocumentRules.Proofs.Condition.Monotone
import DocumentRules.Proofs.Evaluation.Scope
import DocumentRules.Proofs.Project.Subtree
import DocumentRules.Proofs.Report.Exactness

/-!
# Bounds

A rule with bounds is tried as `path == bounds AND ( … )`, and its own condition is put between the
brackets as it is. A closing bracket in it can therefore end the group early, and what follows it is
no longer bound: `true ) OR ( true` becomes `path == bounds AND ( true ) OR ( true )`, which the
structure check accepts and which is true everywhere.

Whether a condition can get out of its bounds is decided by a single reduction, in which the bounds
fail and every other comparison holds (`confines_iff`). A condition that the structure check accepts
by itself never does (`confines_of_checkStructure`). A run keeps the rules that are confined in this
sense within their folder, and lets every other one out at any leaf where its comparisons hold.
-/

set_option autoImplicit false
set_option relaxedAutoImplicit false

namespace DocumentRules.Report

open Condition

/-! ### Conditions that stay within bounds -/

/-- The comparison that bounds put in front of a condition. -/
def boundsComparison (bounds : String) : Comparison := ⟨Field.path, .equal, Value.ofText bounds⟩

/-- Whether a condition that is put into bounds is false when they fail, even if all its other
comparisons hold. -/
def confines (bounds : String) (condition : Condition) : Bool :=
  !reduceWith (· != boundsComparison bounds) (confine (some bounds) condition)

theorem confine_ne_nil (bounds : String) (condition : Condition) :
    confine (some bounds) condition ≠ [] := by
  simp only [confine]
  split <;> exact List.cons_ne_nil _ _

/-- A condition is confined exactly when it is false in its bounds under all answers under which
they fail. -/
theorem confines_iff (bounds : String) (condition : Condition) :
    confines bounds condition = true ↔
      ∀ answer : Comparison → Bool, answer (boundsComparison bounds) = false →
        reduceWith answer (confine (some bounds) condition) = false := by
  unfold confines
  rw [Bool.not_eq_true']
  constructor
  · intro hfavourable answer hfails
    refine Bool.eq_false_iff.mpr fun htrue ↦ Bool.eq_false_iff.mp hfavourable ?_
    refine reduceWith_mono (fun comparison hholds ↦ bne_iff_ne.mpr ?_) htrue
    rintro rfl
    rw [hfails] at hholds
    exact nomatch hholds
  · intro h
    exact h _ (bne_self_eq_false _)

/-- The terms of a condition in bounds. -/
theorem map_term_confine {condition : Condition} (hcondition : condition ≠ []) (bounds : String)
    (answer : Comparison → Bool) :
    (confine (some bounds) condition).map (Token.term fun statement ↦ .truth (answer statement)) =
      joinBracketed (answer (boundsComparison bounds)) .and
        (condition.map (Token.term fun statement ↦ .truth (answer statement))) := by
  unfold confine joinBracketed
  simp [hcondition, Token.within, Token.term, boundsComparison]

/-- Bounds in front of the empty condition are all that is left of it. -/
theorem reduceWith_confine_nil (answer : Comparison → Bool) (bounds : String) :
    reduceWith answer (confine (some bounds) []) = answer (boundsComparison bounds) :=
  reduceTerms_truth _

/-- A condition that the structure check accepts by itself stays within any bounds. -/
theorem confines_of_checkStructure {condition : Condition}
    (haccepted : checkStructure condition = .ok ()) (bounds : String) :
    confines bounds condition = true := by
  refine (confines_iff bounds condition).mpr fun answer hfails ↦ ?_
  refine Bool.eq_false_iff.mpr fun htrue ↦ ?_
  by_cases hempty : condition = []
  · rw [hempty, reduceWith_confine_nil, hfails] at htrue
    exact nomatch htrue
  · have hreadable : condition.hasError = false := by
      have herror := hasError_of_reduceWith htrue
      simp only [Condition.hasError, confine, List.isEmpty_eq_false_iff.mpr hempty, List.any_append,
        Bool.or_eq_false_iff, Bool.false_eq_true, if_false] at herror
      exact herror.1.2
    have hstructured := (ne_nil_and_checkStructure_iff condition).mp ⟨hempty, haccepted⟩
    rw [← map_symbol_answered answer] at hstructured
    obtain ⟨value, hvalue⟩ :=
      exists_settle_eq_truth (isResolved_answered hreadable answer) hstructured
    unfold reduceWith reduceTerms at htrue
    rw [map_term_confine hempty, hfails, settle_joinBracketed hvalue] at htrue
    exact absurd htrue (by simp [Connective.apply])

/-- The structure check looks at the kinds of tokens only, and these an extension leaves alone. -/
theorem checkStructure_scopeCondition {extension? : Option String} {condition : Condition}
    (haccepted : checkStructure condition = .ok ()) :
    checkStructure (scopeCondition extension? condition) = .ok () := by
  cases extension? with
  | none => exact haccepted
  | some extension =>
    have hsymbols : (scopeCondition (some extension) condition).map Token.symbol =
        condition.map Token.symbol := by
      unfold scopeCondition
      rw [List.map_map]
      exact List.map_congr_left fun token _ ↦ by cases token <;> rfl
    rw [checkStructure_eq_ok_iff, hsymbols] at *
    exact haccepted.imp_left fun hempty ↦ by rw [hempty]; rfl

/-- The comparisons of a condition in bounds. -/
theorem mem_comparisons_confine {bounds : String} {condition : Condition} {comparison : Comparison}
    (h : comparison ∈ (confine (some bounds) condition).comparisons) :
    comparison = boundsComparison bounds ∨ comparison ∈ condition.comparisons := by
  simp only [confine] at h
  split at h
  · exact Or.inl (List.mem_singleton.mp h)
  · simpa [Condition.comparisons, Token.within, boundsComparison] using h

end DocumentRules.Report

/-! ### Bounds in a project -/

namespace DocumentRules.Project

open Condition Evaluation History Report

/-- The folder that bounds name. Bounds that name nothing take in the whole project. -/
def boundsFolder? (project : Project) (bounds : String) : Option NodeId :=
  match PathScope.parse? (Value.ofText bounds) with
  | none => some root
  | some scope => scope.folder? project

/-- The answers at a node once its bounds have failed: all other comparisons are answered as they
are there. -/
def answersBeyond [PatternLibrary] (project : Project) (backend : Backend) (bounds : String)
    (id : NodeId) (comparison : Comparison) : Bool :=
  comparison != boundsComparison bounds && project.answers backend id comparison

namespace Rooted

variable {project : Project}

theorem folderInScope_eq_isAncestor (h : Rooted project) {bounds : String}
    {target id parent : NodeId} {node : Node} (htarget : project.boundsFolder? bounds = some target)
    (hnode : project.node? id = some node) (hroot : id ≠ root)
    (hparent : project.IsParent id parent) :
    folderInScope project (some parent) .equal (Value.ofText bounds) =
      project.isAncestor target id := by
  unfold boundsFolder? at htarget
  rw [h.folderInScope_eq hparent]
  cases hscope : PathScope.parse? (Value.ofText bounds) with
  | none =>
    rw [hscope] at htarget
    obtain rfl : root = target := Option.some.inj htarget
    exact (h.isAncestor_root hnode hroot).symm
  | some scope =>
    rw [hscope] at htarget
    have hfolder : scope.folder? project = some target := htarget
    rw [Option.all_some, hfolder, Option.any_some]
    rfl

/-- Assumes: a node that holds no others, and bounds that name a folder. The bounds hold of the node
exactly when it is beneath the folder. -/
theorem answers_boundsComparison [PatternLibrary] (h : Rooted project) {bounds : String}
    {target id : NodeId} {node : Node} (htarget : project.boundsFolder? bounds = some target)
    (hnode : project.node? id = some node) (hleaf : node.isContainer = false) (backend : Backend) :
    project.answers backend id (boundsComparison bounds) = project.isAncestor target id := by
  have hroot := h.ne_root hnode hleaf
  obtain ⟨parent, hparent⟩ := h.exists_isParent hnode hroot
  rw [← h.folderInScope_eq_isAncestor htarget hnode hroot hparent, ← h.containingFolder?_eq hparent]
  rcases node.kind_of_isContainer_eq_false hleaf with hkind | hkind
  · simp only [answers, holds, hnode, Option.bind_some, leafView?, hkind, Option.any_some]
    rfl
  · simp only [answers, holds, hnode, Option.bind_some, leafView?, hkind, Option.any_some,
      inquireNode, compareOutOfTree, boundsComparison, Field.path, hleaf]
    rfl

end Rooted

end DocumentRules.Project

/-! ### Runs with bounds -/

namespace DocumentRules.Report.Runner

open Condition Evaluation History Project

variable {runner : Runner} {bounds : String} {target id : NodeId}

theorem mem_findsOf_iff [PatternLibrary] {root : NodeId} {condition : Condition} :
    id ∈ runner.findsOf root condition ↔ id ∈ runner.project.leaves root ∧
      runner.project.reports runner.project.backend condition id = true := by
  unfold findsOf
  exact List.mem_filter

/-- Assumes: bounds that name a folder, and a leaf beneath the root but outside the folder. A
condition in the bounds finds the leaf when it is true under the answers there once the bounds have
failed. -/
theorem mem_findsOf_confine_iff [PatternLibrary] (hproject : IsTree runner.project)
    (htarget : runner.project.boundsFolder? bounds = some target) (condition : Condition)
    {root : NodeId} (hid : runner.project.standsUnder root id = true)
    (houtside : runner.project.isAncestor target id = false) :
    id ∈ runner.findsOf root (confine (some bounds) condition) ↔
      reduceWith (runner.project.answersBeyond runner.project.backend bounds id)
        (confine (some bounds) condition) = true := by
  have hmem := hproject.mem_leaves_iff_standsUnder.mpr hid
  obtain ⟨node, hnode, hleaf⟩ := exists_node?_of_mem_leaves hmem
  have hfails := hproject.answers_boundsComparison htarget hnode hleaf runner.project.backend
  rw [houtside] at hfails
  rw [mem_findsOf_iff, and_iff_right hmem,
    reports_eq_reduceWith hnode hleaf _ (confine_ne_nil bounds condition)]
  refine Eq.congr_left (reduceWith_congr fun comparison _ ↦ ?_)
  unfold answersBeyond
  by_cases hbounds : comparison = boundsComparison bounds
  · rw [hbounds, hfails, bne_self_eq_false, Bool.false_and]
  · rw [bne_iff_ne.mpr hbounds, Bool.true_and]

/-- Assumes: bounds that name a folder. A condition in the bounds finds nothing outside the folder
exactly when it is false at every leaf outside once its bounds have failed. -/
theorem forall_mem_findsOf_confine_iff [PatternLibrary] (hproject : IsTree runner.project)
    (htarget : runner.project.boundsFolder? bounds = some target) (condition : Condition)
    (root : NodeId) :
    (∀ id ∈ runner.findsOf root (confine (some bounds) condition),
        runner.project.isAncestor target id = true) ↔
      ∀ id, runner.project.standsUnder root id = true →
        runner.project.isAncestor target id = false →
        reduceWith (runner.project.answersBeyond runner.project.backend bounds id)
          (confine (some bounds) condition) = false := by
  constructor
  · intro hwithin id hid houtside
    refine Bool.eq_false_iff.mpr fun htrue ↦ ?_
    have hmem := (mem_findsOf_confine_iff hproject htarget condition hid houtside).mpr htrue
    rw [hwithin id hmem] at houtside
    exact nomatch houtside
  · intro hfalse id hmem
    have hid := hproject.mem_leaves_iff_standsUnder.mp (mem_findsOf_iff.mp hmem).1
    refine eq_true_of_ne_false fun houtside ↦ ?_
    have htrue := (mem_findsOf_confine_iff hproject htarget condition hid houtside).mp hmem
    rw [hfalse id hid houtside] at htrue
    exact nomatch htrue

/-- Assumes: bounds that name a folder, and a leaf beneath the root but outside the folder, at which
all other comparisons of a condition hold. In the bounds the condition finds the leaf exactly when
it is not confined. -/
theorem mem_findsOf_confine_iff_confines [PatternLibrary] (hproject : IsTree runner.project)
    (htarget : runner.project.boundsFolder? bounds = some target) {condition : Condition}
    {root : NodeId} (hid : runner.project.standsUnder root id = true)
    (houtside : runner.project.isAncestor target id = false)
    (hothers : ∀ comparison ∈ condition.comparisons, comparison ≠ boundsComparison bounds →
      runner.project.answers runner.project.backend id comparison = true) :
    id ∈ runner.findsOf root (confine (some bounds) condition) ↔
      confines bounds condition = false := by
  rw [mem_findsOf_confine_iff hproject htarget condition hid houtside, confines,
    Bool.not_eq_false']
  refine Eq.congr_left (reduceWith_congr fun comparison hcomparison ↦ ?_)
  unfold answersBeyond
  by_cases hbounds : comparison = boundsComparison bounds
  · rw [hbounds, bne_self_eq_false, Bool.false_and]
  · have hown := (mem_comparisons_confine hcomparison).resolve_left hbounds
    rw [hothers comparison hown hbounds, Bool.and_true]

/-- Assumes: a project grown from newly constructed nodes, a run that succeeds, and a draft among
the rules whose effective bounds name a folder. The rule contributes nothing but what is beneath the
folder exactly when its condition, with the bounds in front of it, is false at every leaf outside
once the bounds have failed. This is so if the scoped condition is confined, and it is confined if
the structure check accepts the condition as it is written. At a leaf outside where all other
comparisons hold nothing else helps: the rule contributes it unless the condition is confined. -/
theorem contributes_within_bounds_iff [PatternLibrary] (runner : Runner) (entry : Entry)
    (root : NodeId) (outcome : Outcome) (hproject : Grown Node.IsNew runner.project)
    (hrun : (runner.run entry root).outcome = .ok outcome) {index : Nat} {draft : Draft}
    (hrule : entry.rules[index]? = some (.draft draft)) {bounds : String}
    (hbounds : draft.effectiveBounds? entry.bounds? = some bounds) {target : NodeId}
    (htarget : runner.project.boundsFolder? bounds = some target) :
    let condition := scopeCondition draft.extensionScope? draft.condition
    outcome = outcomeOf runner.project (runner.project.leaves root) (runner.finds entry root) ∧
    ∃ found, (runner.finds entry root)[index]? = some found ∧
      ((∀ id ∈ found, runner.project.isAncestor target id = true) ↔
        ∀ id, runner.project.standsUnder root id = true →
          runner.project.isAncestor target id = false →
          reduceWith (runner.project.answersBeyond runner.project.backend bounds id)
            (confine (some bounds) condition) = false) ∧
      (confines bounds condition = true →
        ∀ id ∈ found, runner.project.isAncestor target id = true) ∧
      (checkStructure draft.condition = .ok () → confines bounds condition = true) ∧
      (∀ id, runner.project.standsUnder root id = true →
        runner.project.isAncestor target id = false →
        (∀ comparison ∈ condition.comparisons, comparison ≠ boundsComparison bounds →
          runner.project.answers runner.project.backend id comparison = true) →
        (id ∈ found ↔ confines bounds condition = false)) := by
  intro condition
  have htree := hproject.isTree
  obtain ⟨-, -, houtcome⟩ := (runner.run_outcome_eq_ok_iff entry root outcome).mp hrun
  have hfound : (runner.finds entry root)[index]? =
      some (runner.findsOf root (confine (some bounds) condition)) := by
    unfold finds Entry.expandAll
    rw [List.getElem?_map, List.getElem?_map, hrule, ← hbounds]
    rfl
  have hwithin := forall_mem_findsOf_confine_iff htree htarget condition root
  refine ⟨houtcome, _, hfound, hwithin, fun hconfines ↦ hwithin.mpr fun id _ _ ↦ ?_,
    fun haccepted ↦ ?_, fun id hid houtside hothers ↦ ?_⟩
  · refine (confines_iff bounds condition).mp hconfines _ ?_
    rw [answersBeyond, bne_self_eq_false, Bool.false_and]
  · exact confines_of_checkStructure (checkStructure_scopeCondition haccepted) bounds
  · exact mem_findsOf_confine_iff_confines htree htarget hid houtside hothers

/-- In the sample a rule without a condition of its own stays within the folder, and a rule whose
condition closes the group of its bounds and opens another contributes the document beside it. -/
theorem contributes_within_bounds_iff_sample :
    let early : Condition := [.literal true, .closing, .connective .or, .opening, .literal true]
    let runner : Runner := { project := sample }
    let entry : Entry :=
      { bounds? := some "A", rules := [.draft {}, .draft { condition := early }] }
    (∃ outcome, (runner.run entry root).outcome = .ok outcome) ∧
      (∃ found, (runner.finds entry root)[0]? = some found ∧
        ∀ id ∈ found, sample.isAncestor 1 id = true) ∧
      (∃ found, (runner.finds entry root)[1]? = some found ∧
        3 ∈ found ∧ sample.isAncestor 1 3 = false) := by
  intro early runner entry
  have hroot : sample.node? root = some _ := rfl
  have htarget : sample.boundsFolder? "A" = some 1 := by decide +kernel
  have haccepts : runner.Accepts entry :=
    List.forall_mem_cons.mpr ⟨rfl, List.forall_mem_cons.mpr ⟨rfl, nofun⟩⟩
  have hrun := congrArg RunResult.outcome (runner.run_of_accepts entry hroot haccepts)
  refine ⟨⟨_, hrun⟩, ?_, ?_⟩
  · obtain ⟨-, found, hfound, -, hwithin, haccepted, -⟩ :=
      @contributes_within_bounds_iff _ runner entry root _ grown_sample hrun 0 {} rfl "A" rfl 1
        htarget
    have hstructure : checkStructure [] = .ok () := rfl
    exact ⟨found, hfound, hwithin (haccepted hstructure)⟩
  · obtain ⟨-, found, hfound, -, -, -, hexact⟩ :=
      @contributes_within_bounds_iff _ runner entry root _ grown_sample hrun 1
        { condition := early } rfl "A" rfl 1 htarget
    have hstands : sample.standsUnder root 3 = true := by decide +kernel
    have houtside : sample.isAncestor 1 3 = false := by decide +kernel
    have hconfines : confines "A" early = false := by decide +kernel
    exact ⟨found, hfound, (hexact 3 hstands houtside nofun).mpr hconfines, houtside⟩

/-- A rule whose bounds are a folder can find a document outside it: in the sample a condition that
closes the group of its bounds early and opens another is accepted, and the document beside the
folder is found. -/
theorem exists_found_outside_bounds :
    let entry : Entry :=
      { bounds? := some "A",
        rules := [.draft
          { condition := [.literal true, .closing, .connective .or, .opening, .literal true] }] }
    ∃ outcome, (run { project := sample } entry root).outcome = .ok outcome ∧
      3 ∈ outcome.found ∧ sample.boundsFolder? "A" = some 1 ∧ sample.isAncestor 1 3 = false := by
  intro entry
  have hroot : sample.node? root = some _ := rfl
  have haccepts : Accepts { project := sample } entry :=
    List.forall_mem_cons.mpr ⟨rfl, nofun⟩
  have hfinds : finds { project := sample } entry root = [[2, 3]] := by decide +kernel
  refine ⟨_, congrArg RunResult.outcome (run_of_accepts _ entry hroot haccepts), ?_,
    by decide +kernel, by decide +kernel⟩
  unfold outcomeOf sortNodes
  rw [hfinds]
  exact List.mem_mergeSort.mpr (by decide)

end DocumentRules.Report.Runner
