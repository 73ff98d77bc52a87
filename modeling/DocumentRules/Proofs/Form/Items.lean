import DocumentRules.Evaluation.FormField
import DocumentRules.Proofs.Condition.Acceptance
import DocumentRules.Proofs.Evaluation.Spelling
import DocumentRules.Proofs.Text.IntegerLiterals

/-!
# Items and the values that name them

A value names an item of a list by its place or by its label (`NamesItem`). The place comes first:
a value that reads as the place of an item names that item, even if it is the label of another one,
and any other value names the first item that it is the label of. `resolveItem?_eq_some_iff` says
that this is how items are found.

A form comparison compares the value of the field that it addresses (`Addresses`), and the operators
stand for the relations of integers that they are written like (`Operator.Relates`).
-/

set_option autoImplicit false
set_option relaxedAutoImplicit false

namespace DocumentRules.Condition

open Text

/-! ### Operators between integers -/

/-- The relation that an operator states between two integers. -/
def Operator.Relates : Operator → Int → Int → Prop
  | equal, left, right => left = right
  | notEqual, left, right => left ≠ right
  | less, left, right => left < right
  | lessEqual, left, right => left ≤ right
  | more, left, right => right < left
  | moreEqual, left, right => right ≤ left

theorem Operator.test_compare_iff {operator : Operator} {left right : Int} :
    operator.test (compare left right) = true ↔ operator.Relates left right := by
  cases operator with
  | equal => exact beq_iff_eq.trans Int.compare_eq_eq
  | notEqual => exact bne_iff_ne.trans (not_congr Int.compare_eq_eq)
  | less => exact beq_iff_eq.trans Int.compare_eq_lt
  | lessEqual => exact bne_iff_ne.trans Int.compare_ne_gt
  | more => exact beq_iff_eq.trans Int.compare_eq_gt
  | moreEqual => exact bne_iff_ne.trans Int.compare_ne_lt

instance (operator : Operator) (left right : Int) : Decidable (operator.Relates left right) :=
  decidable_of_iff _ Operator.test_compare_iff

/-! ### Values that read as integers -/

/-- A value reads as an integer: without the blanks around it, its text is a literal of an integer
that a signed 64-bit word holds. -/
structure Value.ReadsAs (value : Value) (number : Int) : Prop where
  isIntegerLiteral : IsIntegerLiteral value.trimmed number
  fitsWord : FitsWord number

theorem Value.toInt?_eq_some_iff {value : Value} {number : Int} :
    value.toInt? = some number ↔ value.ReadsAs number :=
  readInteger?_eq_some_iff.trans ⟨fun h ↦ ⟨h.1, h.2⟩, fun h ↦ ⟨h.1, h.2⟩⟩

theorem Value.ReadsAs.unique {value : Value} {first second : Int} (hfirst : value.ReadsAs first)
    (hsecond : value.ReadsAs second) : first = second :=
  Option.some.inj ((toInt?_eq_some_iff.mpr hfirst).symm.trans (toInt?_eq_some_iff.mpr hsecond))

/-- An integer that a signed 64-bit word holds is read back from its decimal form. -/
theorem Value.readsAs_ofInt {number : Int} (h : FitsWord number) :
    (Value.ofInt number).ReadsAs number := by
  refine ⟨?_, h⟩
  have hliteral := isIntegerLiteral_toString number
  have hblank := hasBareEnds_of_any_eq_false hliteral.any_isBlank
  rwa [← hblank.trim_eq] at hliteral

end DocumentRules.Condition

namespace DocumentRules.Form

open Condition

variable {items : List String} {value : Value}

/-! ### Named items -/

/-- A value names the item at an index. -/
inductive NamesItem (items : List String) (value : Value) : Nat → Prop where
  /-- The value reads as the index of an item. -/
  | place {index : Nat} (hread : value.ReadsAs index) (hlt : index < items.length) :
    NamesItem items value index
  /-- The value does not read as the index of an item, and its text is the label of an item and of
  no earlier one. -/
  | label {index : Nat} (hread : ∀ other : Nat, value.ReadsAs other → items.length ≤ other)
    (hlabel : items[index]? = some value.literal)
    (hfirst : ∀ earlier < index, items[earlier]? ≠ some value.literal) :
    NamesItem items value index

theorem itemLabelled?_eq_some_iff {label : String} {index : Nat} :
    itemLabelled? items label = some index ↔
      items[index]? = some label ∧ ∀ earlier < index, items[earlier]? ≠ some label := by
  rw [itemLabelled?, List.findIdx?_eq_some_iff_getElem]
  simp only [List.getElem?_eq_some_iff, beq_iff_eq, ne_eq, not_exists]
  constructor
  · rintro ⟨hlt, hlabel, hfirst⟩
    exact ⟨⟨hlt, hlabel⟩, fun earlier hearlier _ ↦ hfirst earlier hearlier⟩
  · rintro ⟨⟨hlt, hlabel⟩, hfirst⟩
    exact ⟨hlt, hlabel, fun earlier hearlier ↦ hfirst earlier hearlier (hearlier.trans hlt)⟩

theorem resolveItem?_of_readsAs {index : Nat} (hread : value.ReadsAs index)
    (hlt : index < items.length) : resolveItem? items value = some index := by
  unfold resolveItem?
  rw [Value.toInt?_eq_some_iff.mpr hread]
  exact if_pos hlt

theorem resolveItem?_of_forall_readsAs
    (hread : ∀ other : Nat, value.ReadsAs other → items.length ≤ other) :
    resolveItem? items value = itemLabelled? items value.literal := by
  unfold resolveItem?
  split
  · rename_i index htoInt
    exact if_neg (hread index (Value.toInt?_eq_some_iff.mp htoInt)).not_gt
  · rfl

/-- What is found for a value is the item that it names. -/
theorem resolveItem?_eq_some_iff {index : Nat} :
    resolveItem? items value = some index ↔ NamesItem items value index := by
  by_cases hplace : ∃ other : Nat, value.ReadsAs other ∧ other < items.length
  · obtain ⟨other, hread, hlt⟩ := hplace
    rw [resolveItem?_of_readsAs hread hlt, Option.some.injEq]
    constructor
    · rintro rfl
      exact .place hread hlt
    · rintro (⟨hread', -⟩ | ⟨hnone, -, -⟩)
      · exact Int.ofNat.inj (hread.unique hread')
      · exact absurd hlt (hnone other hread).not_gt
  · push Not at hplace
    rw [resolveItem?_of_forall_readsAs hplace, itemLabelled?_eq_some_iff]
    constructor
    · exact fun h ↦ .label hplace h.1 h.2
    · rintro (⟨hread, hlt⟩ | ⟨-, hlabel, hfirst⟩)
      · exact absurd hlt (hplace index hread).not_gt
      · exact ⟨hlabel, hfirst⟩

theorem NamesItem.lt_length {index : Nat} (h : NamesItem items value index) :
    index < items.length :=
  lt_length_of_resolveItem? (resolveItem?_eq_some_iff.mpr h)

/-- Nothing is found for a value that names no item. -/
theorem resolveItem?_eq_none_iff :
    resolveItem? items value = none ↔ ∀ index, ¬ NamesItem items value index := by
  simp only [Option.eq_none_iff_forall_ne_some, ne_eq, resolveItem?_eq_some_iff]

end DocumentRules.Form

namespace DocumentRules.Evaluation

open Condition Form

/-! ### Addressed fields -/

/-- In the forms of the documents with an extension, a field has a value. -/
def Addresses (field : Field) (extension : String) (form : Form) (fieldValue : FieldValue) : Prop :=
  ∃ subfield, field.Splits extension subfield ∧ form.get? subfield = some fieldValue

/-- A form comparison compares the value that its field addresses. -/
theorem Addresses.compareFormField_eq {field : Field} {extension : String} {form : Form}
    {fieldValue : FieldValue} (h : Addresses field extension form fieldValue) (operator : Operator)
    (value : Value) :
    compareFormField (some extension) (some form) ⟨field, operator, value⟩ =
      compareFieldValue operator value fieldValue := by
  obtain ⟨subfield, hsplits, hget⟩ := h
  simp only [compareFormField, Field.formParts?_eq_some_iff.mpr hsplits, if_true, Option.bind_some,
    hget]

end DocumentRules.Evaluation
