import DocumentRules.History.Query

/-!
# Commit logs

A commit log is a change history held in memory: a list of commits in order, each with the paths it
changed. A commit is found by its identifier, the first one if several have it, and the log answers
with the paths of that commit, of those before it or of those after it.
-/

set_option autoImplicit false
set_option relaxedAutoImplicit false

namespace DocumentRules.History

open Collection

/-- A commit and the paths that it changed. -/
structure Commit where
  identifier : String
  paths : PathSet

/-- Commits in order, the latest last. -/
structure CommitLog where
  commits : List Commit

namespace CommitLog

/-- The log without commits. -/
def empty : CommitLog := ⟨[]⟩

/-- The log with one more commit at its end. -/
def push (log : CommitLog) (identifier : String) (paths : List String) : CommitLog :=
  ⟨log.commits ++ [⟨identifier, SortedSet.ofList paths⟩]⟩

/-- The identifier of the latest commit. -/
def head? (log : CommitLog) : Option String := log.commits.getLast?.map Commit.identifier

/-- The number of commits. -/
def size (log : CommitLog) : Nat := log.commits.length

/-- Whether the log has no commit. -/
def isEmpty (log : CommitLog) : Bool := log.commits.isEmpty

/-- The paths that some of the commits changed. -/
def changedPaths (commits : List Commit) : PathSet :=
  commits.foldl (fun paths commit ↦ paths.union commit.paths) SortedSet.empty

/-- The commits before, at and after the first one with an identifier. -/
def cut? (identifier : String) : List Commit → Option (List Commit × Commit × List Commit)
  | [] => none
  | commit :: rest =>
    if commit.identifier = identifier then some ([], commit, rest)
    else (cut? identifier rest).map fun (before, found, after) ↦ (commit :: before, found, after)

/-- The answer of the log to a query. -/
def answer (log : CommitLog) : Backend := fun query ↦
  match cut? query.commit log.commits with
  | none => .error (.unknownCommit query.commit)
  | some (before, commit, after) =>
    match query.range with
    | .own => .ok commit.paths
    | .since => .ok (changedPaths after)
    | .before => .ok (changedPaths before)

@[simp] theorem answer_empty (query : Query) :
    empty.answer query = .error (.unknownCommit query.commit) := rfl

theorem mem_foldl_union {commits : List Commit} {paths : PathSet} {path : String} :
    path ∈ commits.foldl (fun paths commit ↦ paths.union commit.paths) paths ↔
      path ∈ paths ∨ ∃ commit ∈ commits, path ∈ commit.paths := by
  induction commits generalizing paths with
  | nil => simp
  | cons commit rest ih => simp [ih, or_assoc]

/-- A path is among the changed ones when one of the commits changed it. -/
@[simp] theorem mem_changedPaths {commits : List Commit} {path : String} :
    path ∈ changedPaths commits ↔ ∃ commit ∈ commits, path ∈ commit.paths := by
  simp [changedPaths, mem_foldl_union]

end CommitLog

end DocumentRules.History
