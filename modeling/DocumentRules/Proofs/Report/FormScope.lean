import DocumentRules.Proofs.Condition.Acceptance
import DocumentRules.Proofs.Report.Bounds

/-!
# Rules for the forms of an extension

A draft with an extension scope addresses all its fields in the forms of documents with the
extension, so that each of its comparisons fails at any other node, and at a document without a
form. A condition cannot be true when all its operands are false, whatever its brackets: passes make
no true value out of false ones (`isUntrue_pass`). In bounds a single operand may be true, the
bounds themselves, and the `AND` behind them keeps it from being all that is left
(`leadsUntrue_pass`). This holds of malformed conditions too, whose brackets can end the group of
the bounds early.

So a rule with an extension scope reports documents with the extension and a form only
(`scoped_draft_reports_forms_only`).
-/

set_option autoImplicit false
set_option relaxedAutoImplicit false

namespace DocumentRules.Condition

open Text

/-! ### Reductions of what is false -/

/-- No truth value among the terms is true. -/
def IsUntrue (terms : List Term) : Prop := Term.truth true ∉ terms

/-- Passes make no true value out of false ones. -/
theorem isUntrue_pass {terms : List Term} (h : IsUntrue terms) : IsUntrue (pass terms) := by
  unfold IsUntrue at h ⊢
  fun_induction pass terms with
  | case1 value rest ih => simp_all
  | case2 left joint right rest ih =>
    obtain rfl : left = false := by simp_all
    obtain rfl : right = false := by simp_all
    cases joint <;> simp_all [Connective.apply]
  | case3 term rest _ _ ih => simp_all
  | case4 => exact h

/-- No truth value among the terms is true but perhaps the first, which stands in front of an
`AND`. -/
def LeadsUntrue (terms : List Term) : Prop :=
  IsUntrue terms ∨
    ∃ rest, terms = .truth true :: .connective .and :: rest ∧ IsUntrue rest

/-- A truth value in front of an `AND` is joined to a false one or stays where it is. -/
theorem leadsUntrue_pass {terms : List Term} (h : LeadsUntrue terms) :
    LeadsUntrue (pass terms) := by
  rcases h with h | ⟨rest, rfl, h⟩
  · exact .inl (isUntrue_pass h)
  match rest with
  | [] => exact .inr ⟨[], rfl, h⟩
  | .truth value :: rest =>
    obtain rfl : value = false := Bool.eq_false_iff.mpr fun htrue ↦ h (htrue ▸ List.mem_cons_self)
    refine .inl fun hmem ↦ ?_
    rcases List.mem_cons.mp hmem with htrue | hmem
    · cases htrue
    · exact isUntrue_pass (fun hrest ↦ h (List.mem_cons_of_mem _ hrest)) hmem
  | .connective _ :: _ | .opening :: _ | .closing :: _ | .unresolved :: _ =>
    exact .inr ⟨_, rfl, isUntrue_pass h⟩

/-- What is false but perhaps for a truth value in front of an `AND` does not reduce to true. -/
theorem reduceTerms_of_leadsUntrue {terms : List Term} (h : LeadsUntrue terms) :
    reduceTerms terms = false := by
  refine Bool.eq_false_iff.mpr fun htrue ↦ ?_
  have hsettle : settle terms = [.truth true] := by simpa [reduceTerms] using htrue
  have hsettled := settle_induction LeadsUntrue (fun _ ↦ leadsUntrue_pass) h
  rw [hsettle] at hsettled
  rcases hsettled with huntrue | ⟨rest, hrest, -⟩
  · exact huntrue List.mem_cons_self
  · cases hrest

/-- Assumes: answers that are false for every comparison of a condition, and no literal in it that
is true. None of its terms is true. -/
theorem isUntrue_answered {answer : Comparison → Bool} {condition : Condition}
    (hanswer : ∀ comparison ∈ condition.comparisons, answer comparison = false)
    (hliteral : Token.literal true ∉ condition) :
    IsUntrue (condition.map (Token.term fun statement ↦ .truth (answer statement))) := by
  intro hmem
  obtain ⟨token, htoken, hterm⟩ := List.mem_map.mp hmem
  cases token with
  | comparison statement =>
    have hfalse := hanswer statement (List.mem_filterMap.mpr ⟨_, htoken, rfl⟩)
    simp [Token.term, hfalse] at hterm
  | literal value =>
    obtain rfl : value = true := Term.truth.inj hterm
    exact hliteral htoken
  | connective _ | opening | closing | error _ => cases hterm

/-! ### Fields in the forms of an extension -/

/-- Assumes: an extension without a dot. A field in its forms has the extension and the name of the
field as its parts. -/
theorem Field.formParts?_inFormsOf {scope : String} (hdot : '.' ∉ scope.toList) {field : Field}
    {extension subfield : String}
    (h : (field.inFormsOf scope).formParts? = some (extension, subfield)) :
    extension = scope ∧ subfield = field.name := by
  have hcut : cutFirst '.' (field.inFormsOf scope).name.toList =
      some (scope.toList, field.name.toList) :=
    cutFirst_eq_some_iff.mpr ⟨by simp [inFormsOf, form], hdot⟩
  unfold formParts? at h
  rw [hcut] at h
  simp only [String.ofList_toList, Option.ite_none_left_eq_some, Option.some.injEq,
    Prod.mk.injEq] at h
  exact ⟨h.2.1.symm, h.2.2.symm⟩

end DocumentRules.Condition

namespace DocumentRules.Report

open Condition

/-- Assumes: a condition that is not empty and has no literal that is true. If it is true, in bounds
or not, one of its comparisons holds. -/
theorem exists_answer_of_reduceWith_confine {answer : Comparison → Bool} {condition : Condition}
    (hcondition : condition ≠ []) (hliteral : Token.literal true ∉ condition)
    {bounds? : Option String} (h : reduceWith answer (confine bounds? condition) = true) :
    ∃ comparison ∈ condition.comparisons, answer comparison = true := by
  by_contra hnone
  have hanswer : ∀ comparison ∈ condition.comparisons, answer comparison = false :=
    fun comparison hcomparison ↦
      Bool.eq_false_iff.mpr fun htrue ↦ hnone ⟨comparison, hcomparison, htrue⟩
  have huntrue := isUntrue_answered hanswer hliteral
  have hleads : LeadsUntrue ((confine bounds? condition).map
      (Token.term fun statement ↦ .truth (answer statement))) := by
    cases bounds? with
    | none => exact .inl huntrue
    | some bounds =>
      have hbracketed : IsUntrue (.opening :: (condition.map
          (Token.term fun statement ↦ .truth (answer statement)) ++ [.closing])) := by
        simpa [IsUntrue] using huntrue
      rw [map_term_confine hcondition]
      unfold joinBracketed
      cases answer (boundsComparison bounds) with
      | true => exact .inr ⟨_, rfl, hbracketed⟩
      | false => exact .inl (by simpa [IsUntrue] using huntrue)
  rw [reduceWith, reduceTerms_of_leadsUntrue hleads] at h
  cases h

theorem scopeCondition_ne_nil {condition : Condition} (hcondition : condition ≠ [])
    (extension? : Option String) : scopeCondition extension? condition ≠ [] := by
  cases extension? with
  | none => exact hcondition
  | some extension => exact mt List.map_eq_nil_iff.mp hcondition

/-- The comparisons of a condition whose fields are addressed in the forms of an extension. -/
theorem exists_of_mem_comparisons_scope {scope : String} {condition : Condition}
    {comparison : Comparison}
    (h : comparison ∈ (scopeCondition (some scope) condition).comparisons) :
    ∃ statement ∈ condition.comparisons,
      comparison = { statement with field := statement.field.inFormsOf scope } := by
  unfold scopeCondition Condition.comparisons at h
  obtain ⟨token, htoken, hcomparison⟩ := List.mem_filterMap.mp h
  obtain ⟨original, horiginal, rfl⟩ := List.mem_map.mp htoken
  cases original with
  | comparison statement =>
    obtain rfl := Option.some.inj hcomparison
    exact ⟨statement, List.mem_filterMap.mpr ⟨_, horiginal, rfl⟩, rfl⟩
  | connective _ | opening | closing | literal _ | error _ => cases hcomparison

/-- A scope leaves everything in a condition as it is but its comparisons. -/
theorem literal_mem_scope_iff {scope : String} {condition : Condition} {value : Bool} :
    Token.literal value ∈ scopeCondition (some scope) condition ↔
      Token.literal value ∈ condition := by
  unfold scopeCondition
  constructor
  · intro h
    obtain ⟨token, htoken, hscoped⟩ := List.mem_map.mp h
    cases token with
    | literal other =>
      obtain rfl : other = value := Token.literal.inj hscoped
      exact htoken
    | comparison _ | connective _ | opening | closing | error _ => cases hscoped
  · exact fun h ↦ List.mem_map.mpr ⟨_, h, rfl⟩

end DocumentRules.Report

namespace DocumentRules.Evaluation

open Condition Form

/-- A form comparison that holds finds a value in a form of the extension that its field names. -/
theorem exists_of_compareFormField {extension? : Option String} {form? : Option Form}
    {comparison : Comparison} (h : compareFormField extension? form? comparison = true) :
    ∃ extension subfield form value, comparison.field.formParts? = some (extension, subfield) ∧
      extension? = some extension ∧ form? = some form ∧ form.get? subfield = some value ∧
      compareFieldValue comparison.operator comparison.value value = true := by
  unfold compareFormField at h
  split at h
  · cases h
  rename_i wanted subfield hparts
  split at h
  · rename_i hextension
    split at h
    · rename_i value hvalue
      obtain ⟨form, hform, hget⟩ := Option.bind_eq_some_iff.mp hvalue
      exact ⟨wanted, subfield, form, value, hparts, hextension, hform, hget, h⟩
    · cases h
  · cases h

end DocumentRules.Evaluation

namespace DocumentRules.Project

open Condition Evaluation History Form Report

/-- Assumes: an extension without a dot, and a comparison whose field is addressed in the forms of
the extension. It holds only of a document that has the extension and, in the field of its form, a
value of which it holds. -/
theorem exists_form_of_answers [PatternLibrary] {project : Project} {backend : Backend}
    {id : NodeId} {scope : String} (hdot : '.' ∉ scope.toList) {statement : Comparison}
    (h : project.answers backend id { statement with field := statement.field.inFormsOf scope } =
      true) :
    ∃ node form value, project.node? id = some node ∧ node.kind = .document ∧
      node.extension? = some scope ∧ node.form? = some form ∧
      form.get? statement.field.name = some value ∧
      compareFieldValue statement.operator statement.value value = true := by
  obtain ⟨view, hview, hholds⟩ := (Option.any_eq_true _ _).mp h
  obtain ⟨node, hnode, hleaf⟩ := Option.bind_eq_some_iff.mp hview
  rw [holds, hnode, Option.any_some] at hholds
  rcases of_leafView?_eq_some hleaf with ⟨hkind, rfl⟩ | ⟨hkind, rfl⟩
  · obtain ⟨extension, subfield, form, value, hparts, hextension, hform, hget, hvalue⟩ :=
      exists_of_compareFormField hholds
    obtain ⟨rfl, rfl⟩ := Field.formParts?_inFormsOf hdot hparts
    exact ⟨node, form, value, hnode, hkind, hextension, hform, hget, hvalue⟩
  · -- Out of the tree a form comparison holds of a container only, which an item is not.
    have hcontainer : node.kind.isContainer = true := hholds
    rw [hkind] at hcontainer
    cases hcontainer

theorem exists_node?_of_reports [PatternLibrary] {project : Project} {backend : Backend}
    {condition : Condition} {id : NodeId} (h : project.reports backend condition id = true) :
    ∃ node, project.node? id = some node ∧ node.isContainer = false := by
  obtain ⟨view, hview, -⟩ := (Option.any_eq_true _ _).mp h
  obtain ⟨node, hnode, hleaf⟩ := Option.bind_eq_some_iff.mp hview
  refine ⟨node, hnode, ?_⟩
  unfold Node.isContainer
  rcases of_leafView?_eq_some hleaf with ⟨hkind, -⟩ | ⟨hkind, -⟩ <;> rw [hkind] <;> rfl

theorem expand_ne_nil {draft : Draft} (hcondition : draft.condition ≠ [])
    (owningBounds? : Option String) : draft.expand owningBounds? ≠ [] := by
  unfold Draft.expand
  cases draft.effectiveBounds? owningBounds? with
  | none => exact scopeCondition_ne_nil hcondition _
  | some bounds => exact confine_ne_nil bounds _

/-- Assumes: a draft with an extension scope that has no dot, and with a condition that is not empty
and has no literal that is true. In bounds or not, and whatever brackets it has, the expanded
condition is true only of documents that have the extension and own a form. In the form one of the
draft's comparisons finds a value of which it holds. -/
theorem scoped_draft_reports_forms_only [PatternLibrary] {project : Project} {backend : Backend}
    {draft : Draft} {scope : String} (hscope : draft.extensionScope? = some scope)
    (hdot : '.' ∉ scope.toList) (hcondition : draft.condition ≠ [])
    (hliteral : Token.literal true ∉ draft.condition) (owningBounds? : Option String) {id : NodeId}
    (h : project.reports backend (draft.expand owningBounds?) id = true) :
    ∃ node form, project.node? id = some node ∧ node.kind = .document ∧
      node.extension? = some scope ∧ node.form? = some form ∧
      ∃ statement ∈ draft.condition.comparisons, ∃ value,
        form.get? statement.field.name = some value ∧
        compareFieldValue statement.operator statement.value value = true := by
  obtain ⟨node, hnode, hleaf⟩ := exists_node?_of_reports h
  rw [reports_eq_reduceWith hnode hleaf backend (expand_ne_nil hcondition owningBounds?)] at h
  unfold Draft.expand at h
  rw [hscope] at h
  obtain ⟨comparison, hcomparison, hholds⟩ := exists_answer_of_reduceWith_confine
    (scopeCondition_ne_nil hcondition _) (mt literal_mem_scope_iff.mp hliteral) h
  obtain ⟨statement, hstatement, rfl⟩ := exists_of_mem_comparisons_scope hcomparison
  obtain ⟨found, form, value, hfound, hkind, hextension, hform, hget, hvalue⟩ :=
    exists_form_of_answers hdot hholds
  exact ⟨found, form, hfound, hkind, hextension, hform, statement, hstatement, value, hget, hvalue⟩

/-- A condition that ends the group of its bounds early and opens another reports a document with
the extension of its scope, for a field of the document's form. -/
theorem scoped_draft_reports_forms_only_malformed :
    let form : Form := Form.empty.put "color" (.text "red")
    let project : Project :=
      { Project.empty with
        nodes := #[
          { rootNode with children := [1] },
          { Node.document "note.md" with
            resource? := some "note.md", parent? := some root, order? := some 0,
            form? := some form }] }
    let draft : Draft :=
      { condition := [.literal false, .closing, .connective .or, .opening,
          .comparison ⟨Field.named "color", .equal, Value.ofText "red"⟩]
        extensionScope? := some "md" }
    project.reports project.backend (draft.expand (some "/*")) 1 = true ∧
      ∃ node form, project.node? 1 = some node ∧ node.kind = .document ∧
        node.extension? = some "md" ∧ node.form? = some form := by
  intro form project draft
  have hreports : project.reports project.backend (draft.expand (some "/*")) 1 = true := by
    decide +kernel
  have hdot : '.' ∉ "md".toList := by decide
  have hscope : draft.extensionScope? = some "md" := rfl
  have hcondition : draft.condition ≠ [] := List.cons_ne_nil _ _
  have hliteral : Token.literal true ∉ draft.condition := by decide
  obtain ⟨node, found, hnode, hkind, hextension, hform, -⟩ :=
    scoped_draft_reports_forms_only hscope hdot hcondition hliteral (some "/*") hreports
  exact ⟨hreports, node, found, hnode, hkind, hextension, hform⟩

end DocumentRules.Project
