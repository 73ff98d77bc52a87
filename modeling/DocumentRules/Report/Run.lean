import DocumentRules.Condition.Validation
import DocumentRules.Evaluation.NodeView
import DocumentRules.History.Memo
import DocumentRules.Report.Entry
import DocumentRules.Report.Order
import DocumentRules.Settings.Settings

/-!
# Running a report

A run expands the rules of an entry, validates them, and then tries each rule in turn on every
document and item beneath a root. Folders are passed through and never tried. What the rules find is
put together rule by rule, in the order of the tree, and sorted into report order. If the root is
unknown nothing happens; if a rule is refused the entry has been expanded and nothing is found.

A run is an inquiry: it may put queries to the change history, all of them after the last rule has
been validated. The walk over the tree need not end, and a run that walks for ever comes to nothing
(`Runner.inquire?`). `Runner.inquire` is the inquiry of a run that ends, and `Runner.run` such a run
under the history of the runner's own project.
-/

set_option autoImplicit false
set_option relaxedAutoImplicit false

namespace DocumentRules.Report

open Condition History Project Evaluation

/-- Why a run finds nothing. -/
inductive RunError where
  /-- The root is not a node of the project. -/
  | unknownNode (id : NodeId)
  /-- A rule is refused by the validator. -/
  | malformedRule (report : String) (index : Nat) (fault : ConditionFault)
  deriving DecidableEq, Repr

/-- The wording of an error. -/
def RunError.message : RunError → String
  | .unknownNode id => unknownNodeMessage id
  | .malformedRule report index fault =>
    "malformed rule #" ++ toString index ++ " in report '" ++ report ++ "': " ++ fault.message

/-- What a run finds. -/
structure Outcome where
  /-- The nodes that the rules found, in report order, each as often as a rule found it. -/
  found : List NodeId
  /-- How many nodes each rule found. -/
  ruleHits : List Nat
  /-- How many times a rule was tried on a node. -/
  visited : Nat
  deriving DecidableEq, Repr

/-- The outcome in words. -/
def Outcome.summary (outcome : Outcome) : String :=
  "matches: " ++ toString outcome.found.length ++ ", rule hits: [" ++
    ", ".intercalate (outcome.ruleHits.map toString) ++ "], visited: " ++ toString outcome.visited

/-- What is left after a run: the entry, and what was found. -/
structure RunResult where
  entry : Entry
  outcome : Except RunError Outcome

/-- A project to run reports on, and how to run them. -/
structure Runner where
  project : Project
  settings : Settings := {}
  validator : Validator := validate

namespace Runner

variable [PatternLibrary]

/-- What the validator may know of the project. -/
def validationContext (runner : Runner) : ValidationContext :=
  ⟨runner.project.schema, runner.project.historyBound⟩

/-- The first rule that is refused, by its index from `index` on. -/
def firstRefused? (runner : Runner) : Nat → List Rule → Option (Nat × ConditionFault)
  | _, [] => none
  | index, rule :: rest =>
    match runner.validator runner.validationContext rule.condition with
    | .error fault => some (index, fault)
    | .ok () => runner.firstRefused? (index + 1) rest

/-- Whether a report counts a node among the finds of a condition. -/
def inquireMatch (project : Project) (condition : Condition) (id : NodeId) : Inquiry Bool :=
  match project.node? id with
  | none => return false
  | some node => project.inquire (reportView node) id condition

/-- The nodes that each of some rules finds among some leaves, rule by rule. -/
def inquireFinds (project : Project) (leaves : List NodeId) (rules : List Rule) :
    Inquiry (List (List NodeId)) :=
  Inquiry.forEach (fun rule ↦ Inquiry.select (inquireMatch project rule.condition) leaves) rules

/-- The outcome of a run from what each rule found among some leaves. -/
def outcomeOf (project : Project) (leaves : List NodeId) (finds : List (List NodeId)) :
    Outcome where
  found := sortNodes project finds.flatten
  ruleHits := finds.map List.length
  visited := finds.length * leaves.length

/-- The inquiry with or without a memo, as the settings say. -/
def withMemo {α : Type} (settings : Settings) (inquiry : Inquiry α) : Inquiry α :=
  if settings.rememberPathSets then
    (inquiry.remembering Memo.empty).andThen fun (result, _) ↦ .done result
  else inquiry

/-- What a run does before it walks: it expands the rules of the entry and has them validated. The
error is what is left after a run that ends here. -/
def prepare (runner : Runner) (entry : Entry) (root : NodeId) : Except RunResult Entry :=
  match runner.project.node? root with
  | none => .error ⟨entry, .error (.unknownNode root)⟩
  | some _ =>
    let entry := entry.expandAll
    match runner.firstRefused? 0 entry.rules with
    | some (index, fault) => .error ⟨entry, .error (.malformedRule entry.name index fault)⟩
    | none => .ok entry

/-- The leaves that the walks of a run meet, or nothing if a walk never ends. There is one walk for
each rule, and so none without a rule. -/
def walk? (runner : Runner) (entry : Entry) (root : NodeId) : Option (List NodeId) :=
  if entry.rules.isEmpty then some [] else runner.project.leaves? root

/-- What a run of an expanded entry comes to among the leaves that its walks meet. -/
def inquireAmong (runner : Runner) (entry : Entry) (leaves : List NodeId) : Inquiry RunResult := do
  let finds ← withMemo runner.settings (inquireFinds runner.project leaves entry.rules)
  return ⟨entry, .ok (outcomeOf runner.project leaves finds)⟩

/-- A run of an entry on the subtree at a root, or nothing if the run never ends. -/
def inquire? (runner : Runner) (entry : Entry) (root : NodeId) : Option (Inquiry RunResult) :=
  match runner.prepare entry root with
  | .error result => some (return result)
  | .ok entry => (runner.walk? entry root).map (runner.inquireAmong entry)

/-- A run of an entry on the subtree at a root, for a run that ends. -/
def inquire (runner : Runner) (entry : Entry) (root : NodeId) : Inquiry RunResult :=
  match runner.prepare entry root with
  | .error result => return result
  | .ok entry => runner.inquireAmong entry (runner.project.leaves root)

/-- A run under the history of the project, or nothing if the run never ends. -/
def run? (runner : Runner) (entry : Entry) (root : NodeId) : Option RunResult :=
  (runner.inquire? entry root).map (Inquiry.answer runner.project.backend)

/-- A run under the history of the project, for a run that ends. -/
def run (runner : Runner) (entry : Entry) (root : NodeId) : RunResult :=
  (runner.inquire entry root).answer runner.project.backend

/-- The queries that a run that ends puts to the history of the project. -/
def queries (runner : Runner) (entry : Entry) (root : NodeId) : List Query :=
  (runner.inquire entry root).transcript runner.project.backend

end Runner

end DocumentRules.Report
