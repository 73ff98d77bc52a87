import DocumentRules.Condition.Validation
import DocumentRules.Proofs.Condition.Grammar
import DocumentRules.Proofs.Text.Segments

/-!
# What the default validator accepts

The default validator runs three checks one after the other and each of them stops at the first
fault. `validate_eq_ok_iff` says what passes all of them without following a check: a condition all
of whose parts could be read, that is empty or derived by the grammar of conditions, and each of
whose comparisons is legal for the kind of its field (`Comparison.IsLegal`).
-/

set_option autoImplicit false
set_option relaxedAutoImplicit false

namespace DocumentRules.Condition

open Text Collection

/-! ### Comparisons -/

/-- The name of a field splits at its first dot into two parts that are not empty. -/
structure Field.Splits (field : Field) (extension subfield : String) : Prop where
  name_eq : field.name = extension ++ "." ++ subfield
  dot_not_mem : '.' ∉ extension.toList
  extension_ne : extension ≠ ""
  subfield_ne : subfield ≠ ""

theorem Field.formParts?_eq_some_iff {field : Field} {extension subfield : String} :
    field.formParts? = some (extension, subfield) ↔ field.Splits extension subfield := by
  unfold Field.formParts?
  constructor
  · intro h
    split at h
    · rename_i before after hcut
      obtain ⟨hname, hdot⟩ := cutFirst_eq_some_iff.mp hcut
      split at h
      · cases h
      · rename_i hne
        obtain ⟨rfl, rfl⟩ := Prod.mk.inj (Option.some.inj h)
        rw [Bool.or_eq_true, not_or, List.isEmpty_iff, List.isEmpty_iff] at hne
        refine ⟨?_, by rwa [String.toList_ofList], by simpa using hne.1, by simpa using hne.2⟩
        rw [← String.toList_inj]
        simp [hname]
    · cases h
  · rintro ⟨hname, hdot, hextension, hsubfield⟩
    have hcut : cutFirst '.' field.name.toList = some (extension.toList, subfield.toList) :=
      cutFirst_eq_some_iff.mpr ⟨by simp [hname], hdot⟩
    rw [hcut]
    simp [hextension, hsubfield]

/-- A comparison is legal for the kind of its field: a form field names a document type of the
schema, or any if the schema is empty, and a field of its form; a version carries a commit if a
history is bound; any other field is compared for equality or its absence. -/
structure Comparison.IsLegal (context : ValidationContext) (comparison : Comparison) : Prop where
  formField : comparison.field.kind = .formField →
    ∃ extension subfield, comparison.field.Splits extension subfield ∧
      (context.schema = SortedSet.empty ∨ extension ∈ context.schema)
  version : comparison.field.kind = .version → context.historyBound = true →
    ∃ commit, comparison.value.commit? = some commit
  equality : comparison.field.kind ≠ .formField → comparison.field.kind ≠ .version →
    comparison.operator = .equal ∨ comparison.operator = .notEqual

theorem Operator.mayEqual_iff {operator : Operator} :
    operator.mayEqual = true ↔ operator = .equal ∨ operator = .notEqual := by
  cases operator <;> decide

theorem isEmpty_or_contains_iff {schema : SortedSet String} {extension : String} :
    (schema.isEmpty || schema.contains extension) = true ↔
      schema = SortedSet.empty ∨ extension ∈ schema := by
  rw [Bool.or_eq_true, SortedSet.contains_iff, SortedSet.isEmpty, List.isEmpty_iff]
  exact or_congr_left ⟨fun h ↦ SortedSet.ext_toList h, congrArg SortedSet.toList⟩

namespace Comparison

variable {context : ValidationContext} {comparison : Comparison}

theorem check_formField (hkind : comparison.field.kind = .formField) :
    comparison.check context = .ok () ↔
      ∃ extension subfield, comparison.field.Splits extension subfield ∧
        (context.schema = SortedSet.empty ∨ extension ∈ context.schema) := by
  unfold check
  simp only [hkind, ← Field.formParts?_eq_some_iff, ← isEmpty_or_contains_iff]
  cases comparison.field.formParts? with
  | none => simp
  | some parts =>
    obtain ⟨extension, subfield⟩ := parts
    cases context.schema.isEmpty <;> simp

theorem check_version (hkind : comparison.field.kind = .version) :
    comparison.check context = .ok () ↔
      (context.historyBound = true → ∃ commit, comparison.value.commit? = some commit) := by
  unfold check
  simp only [hkind]
  cases context.historyBound <;> cases comparison.value.commit? <;> simp

theorem check_equality (hform : comparison.field.kind ≠ .formField)
    (hversion : comparison.field.kind ≠ .version) :
    comparison.check context = .ok () ↔
      comparison.operator = .equal ∨ comparison.operator = .notEqual := by
  unfold check
  rw [← Operator.mayEqual_iff]
  cases hkind : comparison.field.kind with
  | formField => exact absurd hkind hform
  | version => exact absurd hkind hversion
  | extension | path | enabled | text | caseText | word | caseWord => simp [hkind]

theorem check_eq_ok_iff : comparison.check context = .ok () ↔ comparison.IsLegal context := by
  constructor
  · exact fun h ↦ ⟨fun hkind ↦ (check_formField hkind).mp h, fun hkind ↦ (check_version hkind).mp h,
      fun hform hversion ↦ (check_equality hform hversion).mp h⟩
  · intro h
    by_cases hform : comparison.field.kind = .formField
    · exact (check_formField hform).mpr (h.formField hform)
    · by_cases hversion : comparison.field.kind = .version
      · exact (check_version hversion).mpr (h.version hversion)
      · exact (check_equality hform hversion).mpr (h.equality hform hversion)

end Comparison

theorem checkComparisons_eq_ok_iff {context : ValidationContext} {comparisons : List Comparison} :
    checkComparisons context comparisons = .ok () ↔
      ∀ comparison ∈ comparisons, comparison.IsLegal context := by
  induction comparisons with
  | nil => simp [checkComparisons]
  | cons comparison rest ih =>
    rw [List.forall_mem_cons, ← ih, ← Comparison.check_eq_ok_iff, checkComparisons]
    cases comparison.check context with
    | error fault => simp
    | ok => simp

theorem mem_comparisons_iff {condition : Condition} {comparison : Comparison} :
    comparison ∈ condition.comparisons ↔ Token.comparison comparison ∈ condition := by
  unfold comparisons
  rw [List.mem_filterMap]
  constructor
  · rintro ⟨token, htoken, heq⟩
    cases token <;> simp_all
  · exact fun h ↦ ⟨_, h, rfl⟩

/-! ### Conditions -/

theorem firstError?_eq_none_iff {condition : Condition} :
    firstError? condition = none ↔ condition.hasError = false := by
  unfold firstError? hasError
  rw [List.findSome?_eq_none_iff, List.any_eq_false]
  refine forall₂_congr fun token _ ↦ ?_
  cases token <;> simp [Token.isError]

theorem hasError_eq_false_iff {condition : Condition} :
    condition.hasError = false ↔ ∀ message, Token.error message ∉ condition := by
  unfold hasError
  rw [List.any_eq_false]
  constructor
  · exact fun h message hmem ↦ h _ hmem rfl
  · intro h token htoken herror
    cases token with
    | error message => exact h message htoken
    | comparison _ | connective _ | opening | closing | literal _ => cases herror

/-- Whatever the schema is and whether or not a history is bound, the default validator accepts
exactly the conditions without error tokens that are empty or an expression of the grammar, and
whose comparisons are all legal for the kinds of their fields. -/
theorem validate_eq_ok_iff (context : ValidationContext) (condition : Condition) :
    validate context condition = .ok () ↔
      (∀ message, Token.error message ∉ condition) ∧
      (condition = [] ∨ Derives .expression condition) ∧
      ∀ comparison, Token.comparison comparison ∈ condition → comparison.IsLegal context := by
  rw [← hasError_eq_false_iff]
  unfold validate
  cases hfirst : firstError? condition with
  | some message =>
    refine iff_of_false nofun fun h ↦ ?_
    rw [firstError?_eq_none_iff.mpr h.1] at hfirst
    cases hfirst
  | none =>
    have hreadable := firstError?_eq_none_iff.mp hfirst
    rw [← wellStructured_iff_derives hreadable, ← checkStructure_eq_ok_iff]
    simp only [← mem_comparisons_iff, hreadable, true_and]
    rw [← checkComparisons_eq_ok_iff]
    cases checkStructure condition with
    | error fault => simp
    | ok => simp

end DocumentRules.Condition
