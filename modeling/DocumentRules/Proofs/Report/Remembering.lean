import DocumentRules.Proofs.History.Remembered
import DocumentRules.Proofs.Report.Outcome

/-!
# Remembering path sets

The settings say whether a run remembers the path sets that the history has given. Nothing that is
left after a run depends on this, neither the outcome nor the entry, and no run ends or goes on for
ever because of it (`run?_withSettings`, `run_withSettings`). The history can tell the difference
only by how often it is asked: with the memo it gets the same queries in the same order, less those
that have succeeded before (`queries_remembering`).
-/

set_option autoImplicit false
set_option relaxedAutoImplicit false

namespace DocumentRules.Report.Runner

open Evaluation History Project

/-- The runner with other settings. -/
def withSettings (runner : Runner) (settings : Settings) : Runner := { runner with settings }

/-- The runner with the memo for path sets switched on or off. -/
def remembering (runner : Runner) (enabled : Bool) : Runner :=
  runner.withSettings { runner.settings with rememberPathSets := enabled }

theorem firstRefused?_withSettings (runner : Runner) (settings : Settings) (index : Nat)
    (rules : List Rule) : (runner.withSettings settings).firstRefused? index rules =
      runner.firstRefused? index rules := by
  induction rules generalizing index with
  | nil => rfl
  | cons rule rest ih =>
    rw [firstRefused?, firstRefused?, ih]
    rfl

theorem prepare_withSettings (runner : Runner) (settings : Settings) (entry : Entry)
    (root : NodeId) :
    (runner.withSettings settings).prepare entry root = runner.prepare entry root := by
  simp only [prepare, firstRefused?_withSettings]
  rfl

theorem answer_inquireAmong_withSettings [PatternLibrary] (runner : Runner) (settings : Settings)
    (entry : Entry) (leaves : List NodeId) (backend : Backend) :
    ((runner.withSettings settings).inquireAmong entry leaves).answer backend =
      (runner.inquireAmong entry leaves).answer backend := by
  simp only [inquireAmong, Inquiry.answer_bind, answer_withMemo]
  rfl

/-- The settings do not show in whether a run ends, nor in what is left after it. -/
theorem run?_withSettings [PatternLibrary] (runner : Runner) (settings : Settings) (entry : Entry)
    (root : NodeId) :
    (runner.withSettings settings).run? entry root = runner.run? entry root := by
  unfold run? inquire?
  rw [prepare_withSettings]
  cases runner.prepare entry root with
  | error result => rfl
  | ok expanded =>
    simp only [Option.map_map]
    refine congrArg (Option.map · _) (funext fun leaves ↦ ?_)
    exact runner.answer_inquireAmong_withSettings settings expanded leaves runner.project.backend

/-- The settings do not show in what is left after a run. -/
theorem run_withSettings [PatternLibrary] (runner : Runner) (settings : Settings) (entry : Entry)
    (root : NodeId) :
    (runner.withSettings settings).run entry root = runner.run entry root := by
  unfold run inquire
  rw [prepare_withSettings]
  cases runner.prepare entry root with
  | error result => rfl
  | ok expanded =>
    exact runner.answer_inquireAmong_withSettings settings expanded _ runner.project.backend

theorem transcript_withMemo {α : Type} (settings : Settings) (backend : Backend)
    (inquiry : Inquiry α) :
    (withMemo { settings with rememberPathSets := true } inquiry).transcript backend =
      Memo.empty.asked backend
        ((withMemo { settings with rememberPathSets := false } inquiry).transcript backend) := by
  have hmemo := Inquiry.transcript_remembering (Memo.faithful_empty backend) inquiry
  have hdone := Inquiry.transcript_bind backend (inquiry.remembering Memo.empty)
    fun resultAndMemo ↦ (pure resultAndMemo.1 : Inquiry α)
  rw [hmemo, Inquiry.transcript_pure, List.append_nil] at hdone
  exact hdone

/-- With the memo the history gets those of the queries that the memo lets through. -/
theorem queries_remembering [PatternLibrary] (runner : Runner) (entry : Entry) (root : NodeId) :
    (runner.remembering true).queries entry root =
      Memo.empty.asked runner.project.backend
        ((runner.remembering false).queries entry root) := by
  unfold queries inquire remembering
  simp only [prepare_withSettings]
  cases runner.prepare entry root with
  | error result => rfl
  | ok expanded =>
    simp only [inquireAmong, withSettings, Inquiry.transcript_bind, Inquiry.transcript_pure,
      List.append_nil, transcript_withMemo]

/-- Whether a run remembers path sets does not show in whether it ends, nor in its outcome, be it a
success or a failure, nor in the entry that it leaves. The history gets the same queries with the
memo and without it. One that succeeds it gets at most once with the memo, and one that fails as
often as without it. -/
theorem remembering_shows_in_repeated_queries_only [PatternLibrary] (runner : Runner)
    (entry : Entry) (root : NodeId) :
    (runner.remembering true).run? entry root = (runner.remembering false).run? entry root ∧
    (runner.remembering true).run entry root = (runner.remembering false).run entry root ∧
    (∀ query, query ∈ (runner.remembering true).queries entry root ↔
      query ∈ (runner.remembering false).queries entry root) ∧
    ∀ query, match runner.project.backend query with
      | .ok _ => ((runner.remembering true).queries entry root).count query ≤ 1
      | .error _ => ((runner.remembering true).queries entry root).count query =
          ((runner.remembering false).queries entry root).count query := by
  have hempty := Memo.faithful_empty runner.project.backend
  refine ⟨?_, ?_, fun query ↦ ?_, fun query ↦ ?_⟩
  · exact (run?_withSettings ..).trans (run?_withSettings ..).symm
  · exact (run_withSettings ..).trans (run_withSettings ..).symm
  · rw [queries_remembering]
    exact Memo.mem_asked_iff hempty rfl _
  · rw [queries_remembering]
    split
    · rename_i paths hanswer
      rw [Memo.count_asked_of_ok hanswer rfl]
      exact Nat.min_le_right _ 1
    · rename_i failure hanswer
      exact Memo.count_asked_of_error hempty hanswer _

end DocumentRules.Report.Runner
