import DocumentRules.Evaluation.Search
import DocumentRules.Proofs.Text.CaseVariants

/-!
# Searches compared

The four searches differ in two ways, in whether case matters and in whether a substring or a word
is sought. Three laws compare them. A word is found exactly when it is one of the words of the
content (`caseWord_holds_iff_mem_words`). A hit is not lost when case is disregarded, except that a
value with an open sigma is lost in some contents by the search for a substring
(`ignoring_case_keeps_hits_iff`). And what is found as a word is found as a substring, except that
without regard to case this is so only of values whose characters have the lower-case forms of their
variants (`word_hits_are_substring_hits_iff`).

All three hold of any library that compiles the patterns of words. A law about a search for a word
is stated for the values whose pattern the library accepts, with regard to case or without it as the
search asks, and no relation is assumed between the two. That the two notions of case differ is by
design: a substring is sought in lower case, and a word up to case folding.
-/

set_option autoImplicit false
set_option relaxedAutoImplicit false

namespace DocumentRules.Evaluation

open Condition Text

theorem toList_eq_nil_of_isEmpty {value : Value} (hempty : value.isEmpty = true) :
    value.literal.toList = [] := by
  rw [String.isEmpty_iff.mp hempty]
  rfl

theorem occursIn_nil (text : List Char) : occursIn [] text = true :=
  (occursIn_iff [] text).mpr ⟨[], text, rfl⟩

/-! ### What a search comes to -/

section

variable [PatternLibrary]

/-- A comparison by `==` holds if what is sought is found, and by another operator if it is not. -/
theorem compareContent_iff_of_find? {kind : FieldKind} {content : String} {value : Value}
    {found : Bool} (hkind : kind.isSearch = true)
    (hfind : find? kind content value.literal = some found) (operator : Operator) :
    compareContent kind content operator value = true ↔
      (operator = .equal ↔ (value.isEmpty || found) = true) := by
  unfold compareContent
  rw [hkind, hfind]
  cases value.isEmpty <;> cases operator <;> cases found <;> decide

theorem compareContent_text_iff {content : String} {operator : Operator} {value : Value} :
    compareContent .text content operator value = true ↔
      (operator = .equal ↔
        occursIn (lowercase value.literal.toList) (lowercase content.toList) = true) := by
  rw [compareContent_iff_of_find? rfl rfl, Bool.or_eq_true]
  refine iff_congr Iff.rfl (or_iff_right_of_imp fun hempty ↦ ?_)
  rw [toList_eq_nil_of_isEmpty hempty]
  exact occursIn_nil _

theorem compareContent_caseText_iff {content : String} {operator : Operator} {value : Value} :
    compareContent .caseText content operator value = true ↔
      (operator = .equal ↔ occursIn value.literal.toList content.toList = true) := by
  rw [compareContent_iff_of_find? rfl rfl, Bool.or_eq_true]
  refine iff_congr Iff.rfl (or_iff_right_of_imp fun hempty ↦ ?_)
  rw [toList_eq_nil_of_isEmpty hempty]
  exact occursIn_nil _

theorem compareContent_word_iff {value : Value}
    (haccepted : PatternLibrary.accepts false value.literal = true) {content : String}
    {operator : Operator} :
    compareContent .word content operator value = true ↔
      (operator = .equal ↔ value.isEmpty = true ∨
        occursAsWord sameFolded value.literal.toList content.toList = true) := by
  have hfind : find? .word content value.literal =
      some (occursAsWord sameFolded value.literal.toList content.toList) := if_pos haccepted
  rw [compareContent_iff_of_find? rfl hfind, Bool.or_eq_true]

theorem compareContent_caseWord_iff {value : Value}
    (haccepted : PatternLibrary.accepts true value.literal = true) {content : String}
    {operator : Operator} :
    compareContent .caseWord content operator value = true ↔
      (operator = .equal ↔ value.isEmpty = true ∨
        occursAsWord (· == ·) value.literal.toList content.toList = true) := by
  have hfind : find? .caseWord content value.literal =
      some (occursAsWord (· == ·) value.literal.toList content.toList) := if_pos haccepted
  rw [compareContent_iff_of_find? rfl hfind, Bool.or_eq_true]

end

/-! ### Words -/

/-- Assumes: a value that is not empty and made of word characters, and whose pattern with regard to
case is accepted. The search for it as a word with regard to case holds by `==` exactly if it is one
of the words of the content, and by every other operator exactly if it is none. -/
theorem caseWord_holds_iff_mem_words [PatternLibrary] {value : Value}
    (hvalue : value.literal.toList ≠ [])
    (hword : ∀ character ∈ value.literal.toList, isWordCharacter character = true)
    (haccepted : PatternLibrary.accepts true value.literal = true) (content : String) :
    (compareContent .caseWord content .equal value = true ↔
      value.literal.toList ∈ words content.toList) ∧
    ∀ operator ≠ .equal, (compareContent .caseWord content operator value = true ↔
      value.literal.toList ∉ words content.toList) := by
  have hempty : ¬ value.isEmpty = true := mt toList_eq_nil_of_isEmpty hvalue
  have hholds {operator : Operator} : compareContent .caseWord content operator value = true ↔
      (operator = .equal ↔ value.literal.toList ∈ words content.toList) := by
    rw [compareContent_caseWord_iff haccepted, or_iff_right hempty,
      occursAsWord_iff_mem_words hvalue hword]
  constructor
  · simp only [hholds, true_iff]
  · intro operator hoperator
    simp only [hholds, hoperator, false_iff]

/-- Of a text with a word, a longer and a shorter one the search finds the word alone. -/
theorem caseWord_holds_iff_mem_words_cat :
    words "cats, a cat's ca".toList = [['c', 'a', 't', 's'], ['a'], ['c', 'a', 't'], ['s'],
        ['c', 'a']] ∧
      compareContent .caseWord "cats, a cat's ca" .equal (.ofText "cat") = true ∧
      compareContent .caseWord "cats, a cat's ca" .less (.ofText "at") = true := by
  have hwords : words "cats, a cat's ca".toList = [['c', 'a', 't', 's'], ['a'], ['c', 'a', 't'],
      ['s'], ['c', 'a']] := by
    decide
  have hcat := @caseWord_holds_iff_mem_words _ (.ofText "cat") (by decide)
    (List.all_eq_true.mp (by decide)) (by decide) "cats, a cat's ca"
  have hat := @caseWord_holds_iff_mem_words _ (.ofText "at") (by decide)
    (List.all_eq_true.mp (by decide)) (by decide) "cats, a cat's ca"
  refine ⟨hwords, hcat.1.mpr ?_, (hat.2 .less nofun).mpr ?_⟩
  · rw [hwords]
    decide
  · rw [hwords]
    decide

/-! ### Hits without regard to case -/

theorem forall_toList_iff {property : List Char → Prop} :
    (∀ content : String, property content.toList) ↔ ∀ text, property text := by
  refine ⟨fun h text ↦ ?_, fun h content ↦ h content.toList⟩
  have htext := h (String.ofList text)
  rwa [String.toList_ofList] at htext

/-- A word that is found with regard to case is found without, if both its patterns are accepted. A
substring that is found with regard to case is found without, whatever the content is, exactly if
the value has no open sigma: none whose lower-case form hangs on what stands around the value. -/
theorem ignoring_case_keeps_hits_iff [PatternLibrary] (value : Value) :
    (PatternLibrary.accepts true value.literal = true →
      PatternLibrary.accepts false value.literal = true →
      ∀ content, compareContent .caseWord content .equal value = true →
        compareContent .word content .equal value = true) ∧
    ((∀ content, compareContent .caseText content .equal value = true →
        compareContent .text content .equal value = true) ↔
      HasSettledSigmas value.literal.toList) := by
  constructor
  · intro hcase hfolded content hfound
    have hfound := (compareContent_caseWord_iff hcase).mp hfound |>.mp rfl
    refine (compareContent_word_iff hfolded).mpr (iff_of_true rfl (hfound.imp_right ?_))
    refine occursAsWord_mono fun first second hsame ↦ ?_
    rw [beq_iff_eq.mp hsame, sameFolded_self]
  · simp only [compareContent_caseText_iff, compareContent_text_iff, true_iff]
    exact forall_toList_iff.trans forall_occursIn_lowercase_iff

/-- The beginning of a word of Greek capitals ends in a sigma that is final there and not in the
word. Without that sigma it is found without regard to case wherever it is found with it. -/
theorem ignoring_case_keeps_hits_iff_greek :
    (∀ content, compareContent .caseText content .equal (.ofText "ΚΟ") = true →
      compareContent .text content .equal (.ofText "ΚΟ") = true) ∧
    (∀ content, compareContent .caseWord content .equal (.ofText "ΚΟΣ") = true →
      compareContent .word content .equal (.ofText "ΚΟΣ") = true) ∧
    ¬ ∀ content, compareContent .caseText content .equal (.ofText "ΚΟΣ") = true →
      compareContent .text content .equal (.ofText "ΚΟΣ") = true := by
  have hsettled : HasSettledSigmas (Value.ofText "ΚΟ").literal.toList := by decide
  have hopen : ¬ HasSettledSigmas (Value.ofText "ΚΟΣ").literal.toList := by decide
  have hcase : PatternLibrary.accepts true (Value.ofText "ΚΟΣ").literal = true := by decide
  have hfolded : PatternLibrary.accepts false (Value.ofText "ΚΟΣ").literal = true := by decide
  exact ⟨(ignoring_case_keeps_hits_iff (.ofText "ΚΟ")).2.mpr hsettled,
    (ignoring_case_keeps_hits_iff (.ofText "ΚΟΣ")).1 hcase hfolded,
    mt (ignoring_case_keeps_hits_iff (.ofText "ΚΟΣ")).2.mp hopen⟩

/-- A search without regard to case says that a value is absent from a content that holds it as it
stands. -/
theorem exists_hit_lost_ignoring_case :
    ∃ (content : String) (value : Value),
      PatternLibrary.accepts true value.literal = true ∧
      PatternLibrary.accepts false value.literal = true ∧
      compareContent .caseText content .equal value = true ∧
      compareContent .text content .equal value = false ∧
      compareContent .text content .notEqual value = true :=
  ⟨"ΚΟΣΜΟΣ", .ofText "ΚΟΣ", by decide, by decide, by decide, by decide, by decide⟩

/-! ### Words and substrings -/

/-- Assumes of each kind of word that its pattern is accepted. What is found as a word with regard
to case is found as a substring, and what is absent as a substring is absent as a word. Without
regard to case the same holds of a value, whatever the content is, exactly if all its characters
have the lower-case forms of their variants. -/
theorem word_hits_are_substring_hits_iff [PatternLibrary] (value : Value) :
    (PatternLibrary.accepts true value.literal = true → ∀ content,
      (compareContent .caseWord content .equal value = true →
        compareContent .caseText content .equal value = true) ∧
      (compareContent .caseText content .notEqual value = true →
        compareContent .caseWord content .notEqual value = true)) ∧
    (PatternLibrary.accepts false value.literal = true →
      ((∀ content, compareContent .word content .equal value = true →
          compareContent .text content .equal value = true) ↔
        FoldsAsLowered value.literal.toList) ∧
      ((∀ content, compareContent .text content .notEqual value = true →
          compareContent .word content .notEqual value = true) ↔
        FoldsAsLowered value.literal.toList)) := by
  constructor
  · intro haccepted content
    have hsubstring (hword : value.isEmpty = true ∨
        occursAsWord (· == ·) value.literal.toList content.toList = true) :
        occursIn value.literal.toList content.toList = true := by
      rcases hword with hempty | hword
      · rw [toList_eq_nil_of_isEmpty hempty]
        exact occursIn_nil _
      · obtain ⟨before, after, hcontent, -⟩ := occursAsWord_beq_iff.mp hword
        exact (occursIn_iff _ _).mpr ⟨before, after, hcontent⟩
    simp only [compareContent_caseWord_iff haccepted, compareContent_caseText_iff, true_iff,
      reduceCtorEq, false_iff]
    exact ⟨hsubstring, mt hsubstring⟩
  · intro haccepted
    have hiff : (∀ content : String, value.isEmpty = true ∨
          occursAsWord sameFolded value.literal.toList content.toList = true →
        occursIn (lowercase value.literal.toList) (lowercase content.toList) = true) ↔
        FoldsAsLowered value.literal.toList := by
      rw [← forall_occursIn_of_occursAsWord_iff, ← forall_toList_iff]
      refine forall_congr' fun content ↦ ⟨fun h hword ↦ h (.inr hword), fun h hword ↦ ?_⟩
      rcases hword with hempty | hword
      · rw [toList_eq_nil_of_isEmpty hempty]
        exact occursIn_nil _
      · exact h hword
    simp only [compareContent_word_iff haccepted, compareContent_text_iff, true_iff, reduceCtorEq,
      false_iff, not_imp_not]
    exact ⟨hiff, hiff⟩

/-- The letters of a name in Latin script have the lower-case forms of their variants, and the Greek
mu has a variant, the micro sign, with another one. -/
theorem word_hits_are_substring_hits_iff_letters :
    (∀ content, compareContent .word content .equal (.ofText "Login") = true →
      compareContent .text content .equal (.ofText "Login") = true) ∧
    (∀ content, compareContent .caseText content .notEqual (.ofText "μm") = true →
      compareContent .caseWord content .notEqual (.ofText "μm") = true) ∧
    ¬ ∀ content, compareContent .text content .notEqual (.ofText "μm") = true →
      compareContent .word content .notEqual (.ofText "μm") = true := by
  have hlogin : FoldsAsLowered (Value.ofText "Login").literal.toList := by decide
  have hmicro : ¬ FoldsAsLowered (Value.ofText "μm").literal.toList := by decide
  have hpattern : PatternLibrary.accepts false (Value.ofText "Login").literal = true := by decide
  have hpatterns : ∀ caseMatters,
      PatternLibrary.accepts caseMatters (Value.ofText "μm").literal = true := by
    decide
  obtain ⟨-, hfolded⟩ := word_hits_are_substring_hits_iff (.ofText "Login")
  obtain ⟨hcase, hmicroFolded⟩ := word_hits_are_substring_hits_iff (.ofText "μm")
  exact ⟨(hfolded hpattern).1.mpr hlogin, fun content ↦ (hcase (hpatterns true) content).2,
    mt (hmicroFolded (hpatterns false)).2.mp hmicro⟩

/-- A length in micrometres, written with the micro sign, is found as a word when it is sought with
the Greek mu, and not as a substring. -/
theorem exists_word_hit_not_substring_hit :
    ∃ (content : String) (value : Value), value.isEmpty = false ∧
      PatternLibrary.accepts true value.literal = true ∧
      PatternLibrary.accepts false value.literal = true ∧
      compareContent .word content .equal value = true ∧
      compareContent .text content .equal value = false ∧
      compareContent .text content .notEqual value = true ∧
      compareContent .word content .notEqual value = false :=
  ⟨"5 µm thick", .ofText "μm", by decide, by decide, by decide, by decide, by decide, by decide,
    by decide⟩

end DocumentRules.Evaluation
