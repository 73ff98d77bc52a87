import DocumentRules.Evaluation.Version
import DocumentRules.History.CommitLog

/-!
# Version comparisons along a commit log

A commit cuts a log into the commits before it, itself and the commits after it. When every commit
has an identifier of its own, a version comparison of a path with a commit depends on nothing but
whether the path was changed in each of the three parts (`compareVersion_eq_verdict`), and the cuts
at neighbouring commits differ by one commit only. So what changed after one commit changed from the
next one on, a path that the log changes is changed before, at or after every commit, and a commit
that is pushed on the log comes after all older ones (`version_comparisons_cut_log`).

The change history is the log itself. What the log answers about an identifier that it does not have
is a failure, and with a failure no comparison holds, `!=` included.
-/

set_option autoImplicit false
set_option relaxedAutoImplicit false

namespace DocumentRules.History.CommitLog

open Collection

/-! ### Cutting a log -/

/-- Whether some of the commits changed a path. -/
def changedIn (path : String) (commits : List Commit) : Bool :=
  commits.any fun commit ↦ commit.paths.contains path

@[simp] theorem changedIn_append (path : String) (first second : List Commit) :
    changedIn path (first ++ second) = (changedIn path first || changedIn path second) :=
  List.any_append

@[simp] theorem changedIn_cons (path : String) (commit : Commit) (rest : List Commit) :
    changedIn path (commit :: rest) = (commit.paths.contains path || changedIn path rest) :=
  List.any_cons

@[simp] theorem changedIn_nil (path : String) : changedIn path [] = false := rfl

theorem changedIn_iff {path : String} {commits : List Commit} :
    changedIn path commits = true ↔ ∃ commit ∈ commits, path ∈ commit.paths := by
  simp [changedIn]

theorem contains_changedPaths (path : String) (commits : List Commit) :
    (changedPaths commits).contains path = changedIn path commits := by
  rw [Bool.eq_iff_iff, SortedSet.contains_iff, mem_changedPaths, changedIn_iff]

/-- A log is cut at a commit that is the first with its identifier. -/
theorem cut?_append {before after : List Commit} {commit : Commit}
    (h : ∀ earlier ∈ before, earlier.identifier ≠ commit.identifier) :
    cut? commit.identifier (before ++ commit :: after) = some (before, commit, after) := by
  induction before with
  | nil => simp [cut?]
  | cons first before ih =>
    obtain ⟨hfirst, hbefore⟩ := List.forall_mem_cons.mp h
    rw [List.cons_append, cut?, if_neg hfirst, ih hbefore]
    rfl

/-- A log that does not have the identifier is not cut. -/
theorem cut?_eq_none {identifier : String} {commits : List Commit}
    (h : identifier ∉ commits.map Commit.identifier) : cut? identifier commits = none := by
  induction commits with
  | nil => rfl
  | cons first rest ih =>
    rw [List.map_cons, List.mem_cons, not_or] at h
    rw [cut?, if_neg (Ne.symm h.1), ih h.2]
    rfl

/-- Assumes: commits with different identifiers. A log is cut at each of them. -/
theorem cut?_of_nodup {commits before after : List Commit} {commit : Commit}
    (hdistinct : (commits.map Commit.identifier).Nodup)
    (hcommits : commits = before ++ commit :: after) :
    cut? commit.identifier commits = some (before, commit, after) := by
  rw [hcommits, List.map_append, List.map_cons] at hdistinct
  obtain ⟨-, -, hdisjoint⟩ := List.nodup_append.mp hdistinct
  rw [hcommits]
  exact cut?_append fun earlier hearlier ↦
    hdisjoint _ (List.mem_map_of_mem hearlier) _ List.mem_cons_self

/-- Assumes: commits with different identifiers, and a further one that has none of theirs. The
identifiers of all of them are different. -/
theorem nodup_push {log : CommitLog} {identifier : String}
    (hdistinct : (log.commits.map Commit.identifier).Nodup)
    (hnew : identifier ∉ log.commits.map Commit.identifier) (paths : List String) :
    ((log.push identifier paths).commits.map Commit.identifier).Nodup := by
  rw [push, List.map_append, List.map_singleton]
  refine List.nodup_append.mpr ⟨hdistinct, List.pairwise_singleton _ _, ?_⟩
  rintro old hold other hother rfl
  rw [List.mem_singleton.mp hother] at hold
  exact hnew hold

end DocumentRules.History.CommitLog

namespace DocumentRules.Evaluation

open Collection Condition History CommitLog

/-- Whether a version comparison of a path with a value holds when a log is the change history. -/
def compareVersion (log : CommitLog) (path : String) (operator : Operator) (value : Value) : Bool :=
  (inquireVersion (some path) operator value).answer log.answer

/-- What a version comparison comes to when the path was changed, or not, before the commit, at it
and after it. -/
def verdict (before own after : Bool) : Operator → Bool
  | .equal => own
  | .notEqual => !own
  | .less => before
  | .lessEqual => own || before
  | .more => after
  | .moreEqual => own || after

/-! ### Comparisons at a cut -/

variable {log : CommitLog} {path literal identifier : String}

/-- Whether a path is among those that changed in a range, at a commit that cuts the log. -/
theorem answer_inquireTouched_of_cut? {before after : List Commit} {commit : Commit}
    (h : cut? identifier log.commits = some (before, commit, after)) (range : Range) :
    (inquireTouched path identifier range).answer log.answer = some (match range with
      | .own => commit.paths.contains path
      | .since => changedIn path after
      | .before => changedIn path before) := by
  cases range <;>
    simp only [inquireTouched, Inquiry.answer_bind, Inquiry.answer_query, Inquiry.answer_pure,
      CommitLog.answer, h, touched?, contains_changedPaths]

/-- If the path was not changed at the commit, an inclusive range is the one beyond the commit. -/
theorem answer_inquireInclusive_of_cut? {before after : List Commit} {commit : Commit}
    (h : cut? identifier log.commits = some (before, commit, after)) (range : Range) :
    (inquireInclusive path identifier range).answer log.answer =
      if commit.paths.contains path then some true
      else (inquireTouched path identifier range).answer log.answer := by
  have hown : (inquireTouched path identifier .own).answer log.answer =
      some (commit.paths.contains path) := answer_inquireTouched_of_cut? h .own
  rw [inquireInclusive, Inquiry.answer_bind, hown]
  cases commit.paths.contains path <;> rfl

theorem answer_inquireChange_of_cut? {before after : List Commit} {commit : Commit}
    (h : cut? identifier log.commits = some (before, commit, after)) (operator : Operator) :
    (inquireChange path identifier operator).answer log.answer =
      some (verdict (changedIn path before) (commit.paths.contains path) (changedIn path after)
        operator) := by
  cases operator with
  | equal => exact answer_inquireTouched_of_cut? h .own
  | notEqual =>
    rw [inquireChange, Inquiry.answer_bind, answer_inquireTouched_of_cut? h]
    rfl
  | less => exact answer_inquireTouched_of_cut? h .before
  | more => exact answer_inquireTouched_of_cut? h .since
  | lessEqual | moreEqual =>
    rw [inquireChange, answer_inquireInclusive_of_cut? h, answer_inquireTouched_of_cut? h, verdict]
    cases commit.paths.contains path <;> rfl

/-- Assumes: commits with different identifiers. A comparison with one of them depends on whether
the path was changed before it, at it and after it. -/
theorem compareVersion_eq_verdict (hdistinct : (log.commits.map Commit.identifier).Nodup)
    {before after : List Commit} {commit : Commit}
    (hlog : log.commits = before ++ commit :: after) (operator : Operator) :
    compareVersion log path operator ⟨literal, some commit.identifier⟩ =
      verdict (changedIn path before) (commit.paths.contains path) (changedIn path after)
        operator := by
  have hcut := cut?_of_nodup hdistinct hlog
  simp only [compareVersion, inquireVersion, Inquiry.answer_bind, Inquiry.answer_pure,
    answer_inquireChange_of_cut? hcut, Option.getD_some]

/-- No comparison holds with a commit that the log does not have. -/
theorem compareVersion_eq_false (h : identifier ∉ log.commits.map Commit.identifier)
    (operator : Operator) :
    compareVersion log path operator ⟨literal, some identifier⟩ = false := by
  have htouched (range : Range) :
      (inquireTouched path identifier range).answer log.answer = none := by
    simp only [inquireTouched, Inquiry.answer_bind, Inquiry.answer_query, Inquiry.answer_pure,
      CommitLog.answer, cut?_eq_none h, touched?]
  have hinclusive (range : Range) :
      (inquireInclusive path identifier range).answer log.answer = none := by
    rw [inquireInclusive, Inquiry.answer_bind, htouched]
    rfl
  have hchange : (inquireChange path identifier operator).answer log.answer = none := by
    cases operator with
    | equal | less | more => exact htouched _
    | lessEqual | moreEqual => exact hinclusive _
    | notEqual =>
      rw [inquireChange, Inquiry.answer_bind, htouched]
      rfl
  simp only [compareVersion, inquireVersion, Inquiry.answer_bind, Inquiry.answer_pure, hchange,
    Option.getD_none]

/-! ### The laws of the cuts -/

/-- Assumes: commits with different identifiers. A path was changed after a commit exactly when it
was changed at the next one or after that, and before a commit exactly when it was changed before
the previous one or at it. -/
theorem compareVersion_neighbours (hdistinct : (log.commits.map Commit.identifier).Nodup)
    {before after : List Commit} {first second : Commit}
    (hlog : log.commits = before ++ first :: second :: after) :
    compareVersion log path .more ⟨literal, some first.identifier⟩ =
        compareVersion log path .moreEqual ⟨literal, some second.identifier⟩ ∧
      compareVersion log path .less ⟨literal, some second.identifier⟩ =
        compareVersion log path .lessEqual ⟨literal, some first.identifier⟩ := by
  have hlog' : log.commits = (before ++ [first]) ++ second :: after := by
    rw [hlog, List.append_assoc, List.singleton_append]
  constructor
  · rw [compareVersion_eq_verdict hdistinct hlog, compareVersion_eq_verdict hdistinct hlog']
    exact changedIn_cons path second after
  · rw [compareVersion_eq_verdict hdistinct hlog, compareVersion_eq_verdict hdistinct hlog']
    simp [verdict, Bool.or_comm]

/-- Assumes: commits with different identifiers. At each of them a path was changed before, at or
after it exactly when the log changes it at all. -/
theorem compareVersion_covers (hdistinct : (log.commits.map Commit.identifier).Nodup)
    {commit : Commit} (hcommit : commit ∈ log.commits) (path literal : String) :
    (compareVersion log path .less ⟨literal, some commit.identifier⟩ ||
        compareVersion log path .equal ⟨literal, some commit.identifier⟩ ||
        compareVersion log path .more ⟨literal, some commit.identifier⟩) =
      changedIn path log.commits := by
  obtain ⟨before, after, hlog⟩ := List.append_of_mem hcommit
  simp only [compareVersion_eq_verdict hdistinct hlog, verdict]
  rw [hlog, changedIn_append, changedIn_cons, Bool.or_assoc]

/-- Assumes: commits with different identifiers, and a further one that has none of theirs. At an
older commit the further one counts among those after it, and nowhere else. -/
theorem compareVersion_push (hdistinct : (log.commits.map Commit.identifier).Nodup)
    (hnew : identifier ∉ log.commits.map Commit.identifier) (paths : List String)
    {before after : List Commit} {commit : Commit}
    (hlog : log.commits = before ++ commit :: after) (operator : Operator) :
    compareVersion (log.push identifier paths) path operator ⟨literal, some commit.identifier⟩ =
      verdict (changedIn path before) (commit.paths.contains path)
        (changedIn path after || decide (path ∈ paths)) operator := by
  have hpush : (log.push identifier paths).commits =
      before ++ commit :: (after ++ [⟨identifier, SortedSet.ofList paths⟩]) := by
    rw [push, hlog, List.append_assoc, List.cons_append]
  rw [compareVersion_eq_verdict (nodup_push hdistinct hnew paths) hpush, changedIn_append]
  simp [SortedSet.contains]

/-- Assumes: a log in which every commit has an identifier of its own. The six version comparisons
of a path with its commits cut the log in the same way.

Whatever changed after a commit changed at the next one or later, and whatever changed before a
commit changed at the previous one or earlier. `!=` is the negation of `==`, and a path is changed
before, at or after a commit exactly when some commit of the log changes it. Pushing a commit with a
new identifier leaves `==`, `!=`, `<` and `<=` at the older ones as they are, and adds its own paths
to `>` and `>=` there. At an identifier that the log does not have no comparison holds. -/
theorem version_comparisons_cut_log {log : CommitLog}
    (hdistinct : (log.commits.map Commit.identifier).Nodup) (path literal : String) :
    let holds (log : CommitLog) (operator : Operator) (identifier : String) : Prop :=
      compareVersion log path operator ⟨literal, some identifier⟩ = true
    (∀ before first second after, log.commits = before ++ first :: second :: after →
      (holds log .more first.identifier ↔ holds log .moreEqual second.identifier) ∧
      (holds log .less second.identifier ↔ holds log .lessEqual first.identifier)) ∧
    (∀ commit ∈ log.commits,
      (holds log .notEqual commit.identifier ↔ ¬ holds log .equal commit.identifier) ∧
      (holds log .less commit.identifier ∨ holds log .equal commit.identifier ∨
        holds log .more commit.identifier ↔ ∃ other ∈ log.commits, path ∈ other.paths)) ∧
    (∀ identifier paths, identifier ∉ log.commits.map Commit.identifier →
      ∀ commit ∈ log.commits,
        (∀ operator ∈ [Operator.equal, .notEqual, .less, .lessEqual],
          holds (log.push identifier paths) operator commit.identifier ↔
            holds log operator commit.identifier) ∧
        ∀ operator ∈ [Operator.more, .moreEqual],
          holds (log.push identifier paths) operator commit.identifier ↔
            holds log operator commit.identifier ∨ path ∈ paths) ∧
    ∀ identifier ∉ log.commits.map Commit.identifier, ∀ operator,
      ¬ holds log operator identifier := by
  intro holds
  refine ⟨fun before first second after hlog ↦ ?_, fun commit hcommit ↦ ⟨?_, ?_⟩,
    fun identifier paths hnew commit hcommit ↦ ?_, fun identifier hnone operator ↦ ?_⟩
  · obtain ⟨hmore, hless⟩ := compareVersion_neighbours hdistinct hlog
    exact ⟨Bool.eq_iff_iff.mp hmore, Bool.eq_iff_iff.mp hless⟩
  · obtain ⟨before, after, hlog⟩ := List.append_of_mem hcommit
    simp only [holds, compareVersion_eq_verdict hdistinct hlog, verdict, Bool.not_eq_true',
      Bool.not_eq_true]
  · rw [← changedIn_iff, ← compareVersion_covers hdistinct hcommit path literal]
    simp [holds, or_assoc]
  · obtain ⟨before, after, hlog⟩ := List.append_of_mem hcommit
    simp only [holds, compareVersion_push hdistinct hnew paths hlog,
      compareVersion_eq_verdict hdistinct hlog]
    simp [verdict, or_assoc]
  · simp [holds, compareVersion_eq_false hnone]

/-- A log of three commits. -/
def threeCommits : CommitLog :=
  ((CommitLog.empty.push "c1" ["a.md", "b.md"]).push "c2" ["b.md"]).push "c3" ["c.md"]

/-- `a.md` is changed by the first of three commits alone: it changed before the second, and not
after the first, until a fourth commit changes it again. -/
theorem version_comparisons_cut_log_three :
    let holds (log : CommitLog) (operator : Operator) (identifier : String) : Prop :=
      compareVersion log "a.md" operator ⟨"", some identifier⟩ = true
    (threeCommits.commits.map Commit.identifier).Nodup ∧
      holds threeCommits .less "c2" ∧ ¬ holds threeCommits .more "c1" ∧
      holds (threeCommits.push "c4" ["a.md"]) .more "c2" ∧ ¬ holds threeCommits .notEqual "c4" := by
  intro holds
  have hdistinct : (threeCommits.commits.map Commit.identifier).Nodup := by decide
  have hlog : threeCommits.commits = [] ++ _ :: _ :: _ := rfl
  obtain ⟨hneighbours, -, hpush, hnone⟩ := version_comparisons_cut_log hdistinct "a.md" ""
  obtain ⟨hmore, hless⟩ := hneighbours _ _ _ _ hlog
  obtain ⟨-, hlater⟩ := hpush "c4" ["a.md"] (by decide) _
    (List.mem_cons_of_mem _ List.mem_cons_self)
  exact ⟨hdistinct, hless.mpr (by decide), mt hmore.mp (by decide),
    (hlater .more (by decide)).mpr (Or.inr (by decide)), hnone "c4" (by decide) .notEqual⟩

end DocumentRules.Evaluation
