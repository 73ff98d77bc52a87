import DocumentRules.Proofs.History.Sequencing
import DocumentRules.Proofs.Report.Bounds

/-!
# The meaning of a rule in bounds

A draft whose scoped condition the structure check accepts means in its bounds what it should: it is
true of a node when the bounds hold of the node and the condition is true of it, and the structure
check accepts it as it is tried (`Draft.inquire_expand`). This is an equation between inquiries, so
it does not take a history that answers the same query in the same way each time: the bounds put no
query, and the condition in bounds puts the queries that the condition puts.
-/

set_option autoImplicit false
set_option relaxedAutoImplicit false

namespace DocumentRules.Evaluation

open Condition History Project Report

/-- What answering a token can end in: a term of the token's symbol, which is resolved unless the
token is an error. -/
def IsTermOf (token : Token) (term : Term) : Prop :=
  term.symbol = token.symbol ∧ (term = .unresolved → token.isError = true)

theorem ends_inquireTerm (inquire : Comparison → Inquiry Bool) (token : Token) :
    (inquireTerm inquire token).Ends (IsTermOf token) := by
  cases token with
  | comparison statement =>
    exact (Inquiry.ends_of_forall (fun _ ↦ trivial) (inquire statement)).bind
      fun value _ ↦ ⟨rfl, nofun⟩
  | connective joint => exact ⟨rfl, nofun⟩
  | opening => exact ⟨rfl, nofun⟩
  | closing => exact ⟨rfl, nofun⟩
  | literal value => exact ⟨rfl, nofun⟩
  | error message => exact ⟨rfl, fun _ ↦ rfl⟩

theorem map_symbol_of_isTermOf {condition : Condition} {terms : List Term}
    (h : List.Forall₂ IsTermOf condition terms) :
    terms.map Term.symbol = condition.map Token.symbol := by
  induction h with
  | nil => rfl
  | cons hterm _ ih => rw [List.map_cons, List.map_cons, hterm.1, ih]

theorem isResolved_of_isTermOf {condition : Condition} (hreadable : condition.hasError = false)
    {terms : List Term} (h : List.Forall₂ IsTermOf condition terms) : IsResolved terms := by
  induction h with
  | nil => exact List.not_mem_nil
  | cons hterm _ ih =>
    obtain ⟨htoken, hrest⟩ := Bool.or_eq_false_iff.mp hreadable
    intro hmem
    rcases List.mem_cons.mp hmem with hunresolved | hmem
    · rw [hterm.2 hunresolved.symm] at htoken
      exact nomatch htoken
    · exact ih hrest hmem

theorem inquireTerm_within {inquire : Comparison → Inquiry Bool} {bounds : String} {holds : Bool}
    (h : inquire (boundsComparison bounds) = pure holds) :
    inquireTerm inquire (Token.within bounds) = pure (.truth holds) := by
  unfold inquireTerm Token.within
  exact congrArg (· >>= fun value ↦ pure (Term.truth value)) h

/-- Bounds in front of the empty condition are all that is answered. -/
theorem inquireAll_confine_nil {inquire : Comparison → Inquiry Bool} {bounds : String}
    {holds : Bool} (h : inquire (boundsComparison bounds) = pure holds) :
    inquireAll inquire (confine (some bounds) []) = pure holds := by
  have hconfine : confine (some bounds) [] = [Token.within bounds] := rfl
  simp only [inquireAll, hconfine, Inquiry.forEach, inquireTerm_within h, pure_bind,
    reduceTerms_truth]

/-- Assumes: a readable condition that is not empty and that the structure check accepts, and bounds
that are answered without a query. Answering the condition in the bounds is answering it alone and
then taking the bounds into account. -/
theorem inquireAll_confine {inquire : Comparison → Inquiry Bool} {bounds : String} {holds : Bool}
    (hbounds : inquire (boundsComparison bounds) = pure holds) {condition : Condition}
    (hreadable : condition.hasError = false)
    (haccepted : condition ≠ [] ∧ checkStructure condition = .ok ()) :
    inquireAll inquire (confine (some bounds) condition) = do
      return holds && (← inquireAll inquire condition) := by
  have hconfine : confine (some bounds) condition =
      Token.within bounds :: .connective .and :: .opening :: (condition ++ [.closing]) := by
    simp [confine, haccepted.1]
  have hends := Inquiry.ends_forEach fun token (_ : token ∈ condition) ↦
    ends_inquireTerm inquire token
  -- whatever the answers, the terms of the condition settle as one truth value
  have hsettles : ∀ terms, List.Forall₂ IsTermOf condition terms →
      reduceTerms (joinBracketed holds .and terms) = (holds && reduceTerms terms) := by
    intro terms hterms
    have hstructured := (ne_nil_and_checkStructure_iff condition).mp haccepted
    rw [← map_symbol_of_isTermOf hterms] at hstructured
    obtain ⟨inner, hinner⟩ :=
      exists_settle_eq_truth (isResolved_of_isTermOf hreadable hterms) hstructured
    exact reduceTerms_joinBracketed hinner holds .and
  have hbind := Inquiry.bind_congr_of_ends hends fun terms hterms ↦
    congrArg (pure : Bool → Inquiry Bool) (hsettles terms hterms)
  unfold inquireAll
  rw [hconfine]
  simp only [Inquiry.forEach, inquireTerm_within hbounds, Inquiry.forEach_append, bind_assoc,
    pure_bind]
  exact hbind

end DocumentRules.Evaluation

namespace DocumentRules.Report

open Condition History Project Evaluation

/-- A readable condition that the structure check accepts is accepted in any bounds. -/
theorem checkStructure_confine {condition : Condition} (hreadable : condition.hasError = false)
    (haccepted : checkStructure condition = .ok ()) (bounds : String) :
    checkStructure (confine (some bounds) condition) = .ok () := by
  by_cases hempty : condition = []
  · rw [hempty]
    rfl
  · have hstructured := (ne_nil_and_checkStructure_iff condition).mp ⟨hempty, haccepted⟩
    rw [← map_symbol_answered fun _ ↦ true] at hstructured
    obtain ⟨inner, hinner⟩ :=
      exists_settle_eq_truth (isResolved_answered hreadable _) hstructured
    have hconfined := wellStructured_of_settle (settle_joinBracketed hinner true .and)
    rw [← map_term_confine hempty bounds fun _ ↦ true, map_symbol_answered] at hconfined
    exact ((ne_nil_and_checkStructure_iff _).mpr hconfined).2

/-- No comparison holds of a node that the project does not have. -/
theorem holds_of_node?_eq_none [PatternLibrary] {project : Project} {id : NodeId}
    (hnode : project.node? id = none) (backend : Backend) (view : NodeView)
    (comparison : Comparison) :
    project.holds backend view id comparison = false := by
  unfold holds
  rw [hnode]
  rfl

/-- Bounds are answered without a query. -/
theorem inquireNode_boundsComparison [PatternLibrary] (project : Project) (backend : Backend)
    (view : NodeView) {id : NodeId} {node : Node} (hnode : project.node? id = some node)
    (bounds : String) :
    inquireNode project view id node (boundsComparison bounds) =
      pure (project.holds backend view id (boundsComparison bounds)) := by
  unfold holds
  rw [hnode]
  cases view <;> rfl

/-- Assumes: a readable condition that the structure check accepts. In bounds it puts the queries
that it puts alone, and is true of a node if the bounds hold of the node and it is true alone. -/
theorem inquire_confine [PatternLibrary] {condition : Condition}
    (hreadable : condition.hasError = false) (haccepted : checkStructure condition = .ok ())
    (bounds : String) (project : Project) (view : NodeView) (id : NodeId) (backend : Backend) :
    project.inquire view id (confine (some bounds) condition) = do
      return project.holds backend view id (boundsComparison bounds) &&
        (← project.inquire view id condition) := by
  have hconfined := List.isEmpty_eq_false_iff.mpr (confine_ne_nil bounds condition)
  cases hnode : project.node? id with
  | none =>
    simp only [Project.inquire, hnode, hconfined, holds_of_node?_eq_none hnode, pure_bind,
      Bool.false_and]
  | some node =>
    have hbounds := inquireNode_boundsComparison project backend view hnode bounds
    simp only [Project.inquire, hnode, inquireCondition, hconfined, Bool.false_eq_true, if_false]
    by_cases hempty : condition = []
    · subst hempty
      simp only [inquireAll_confine_nil hbounds, List.isEmpty_nil, if_true, pure_bind,
        Bool.and_true]
    · rw [if_neg (by simpa using hempty)]
      exact inquireAll_confine hbounds hreadable ⟨hempty, haccepted⟩

/-- The condition `path == bounds` is true of a node when the comparison holds of it. -/
theorem satisfies_within [PatternLibrary] (project : Project) (backend : Backend) (view : NodeView)
    (id : NodeId) (bounds : String) : project.satisfies backend view id [Token.within bounds] =
      project.holds backend view id (boundsComparison bounds) := by
  have hconfine := @inquire_confine _ [] rfl rfl bounds project view id backend
  have halone : [Token.within bounds] = confine (some bounds) [] := rfl
  rw [satisfies, halone, hconfine, Inquiry.answer_bind, Inquiry.answer_pure]
  cases hnode : project.node? id with
  | none => rw [holds_of_node?_eq_none hnode, Bool.false_and]
  | some node =>
    have hempty : project.inquire view id [] = pure true := by
      unfold Project.inquire
      rw [hnode]
      rfl
    rw [hempty, Inquiry.answer_pure, Bool.and_true]

/-- Assumes: a draft in bounds whose scoped condition is readable and accepted by the structure
check. The expanded condition is accepted as well, and for every node of every project, in every
view, it is the bounds and the scoped condition: it puts the queries of the scoped condition, and is
true when `path == bounds` is true of the node and so is the scoped condition, if there is one. -/
theorem Draft.inquire_expand [PatternLibrary] (draft : Draft) {owningBounds? : Option String}
    {bounds : String} (hbounds : draft.effectiveBounds? owningBounds? = some bounds)
    (hreadable : (scopeCondition draft.extensionScope? draft.condition).hasError = false)
    (haccepted : checkStructure (scopeCondition draft.extensionScope? draft.condition) = .ok ()) :
    checkStructure (draft.expand owningBounds?) = .ok () ∧
    ∀ (project : Project) (view : NodeView) (id : NodeId) (backend : Backend),
      (project.inquire view id (draft.expand owningBounds?) = do
        return project.holds backend view id (boundsComparison bounds) &&
          (← project.inquire view id (scopeCondition draft.extensionScope? draft.condition))) ∧
      project.satisfies backend view id (draft.expand owningBounds?) =
        (project.satisfies backend view id [Token.within bounds] &&
          project.satisfies backend view id
            (scopeCondition draft.extensionScope? draft.condition)) := by
  unfold Draft.expand
  rw [hbounds]
  refine ⟨checkStructure_confine hreadable haccepted bounds, fun project view id backend ↦ ?_⟩
  have hinquire := inquire_confine hreadable haccepted bounds project view id backend
  refine ⟨hinquire, ?_⟩
  rw [satisfies_within, satisfies, hinquire, Inquiry.answer_bind, Inquiry.answer_pure]
  rfl

/-- A commit changed both documents of the sample. In the bounds of the folder the condition that
asks for either of two truths, that the commit changed the document or that the document is
disabled, is true of the document inside and false of the one beside it. -/
theorem Draft.inquire_expand_sample :
    let changed : Token := .comparison ⟨Field.named "version", .equal, Value.ofCommit "c1"⟩
    let disabled : Token := .comparison ⟨Field.named "enabled", .equal, Value.ofBool false⟩
    let draft : Draft := { condition := [changed, .connective .or, disabled], bounds? := some "A" }
    let backend := (CommitLog.empty.push "c1" ["A/inside", "beside"]).answer
    checkStructure (draft.expand none) = .ok () ∧
      sample.satisfies backend .live 2 (draft.expand none) = true ∧
      sample.satisfies backend .live 3 (draft.expand none) = false := by
  intro changed disabled draft backend
  obtain ⟨haccepted, hmeaning⟩ := @Draft.inquire_expand _ draft none "A" rfl rfl rfl
  refine ⟨haccepted, ?_, ?_⟩
  · rw [(hmeaning sample .live 2 backend).2]
    decide +kernel
  · rw [(hmeaning sample .live 3 backend).2]
    decide +kernel

end DocumentRules.Report
