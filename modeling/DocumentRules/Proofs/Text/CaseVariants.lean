import DocumentRules.Proofs.Text.LowercaseContext
import DocumentRules.Proofs.Text.Words
import DocumentRules.Text.CaseFold

/-!
# Case variants and lower case

Two characters are variants of one another when case folding tells them not apart, and `variants`
lists those of a character (`mem_variants_iff`). Folding and lower case are two notions of what
differs in case alone: some variants have different lower-case forms, as the long and the round s,
or the final and the other small sigma.

Where all variants of each character of a text have one lower-case form (`FoldsAsLowered`), a part
of another text that folds to the same also has the same lower-case form
(`FoldsAsLowered.lowercaseBetween_eq`). Exactly these texts are found in lower case wherever they
stand as words up to folding (`forall_occursIn_of_occursAsWord_iff`).
-/

set_option autoImplicit false
set_option relaxedAutoImplicit false

namespace DocumentRules.Text

/-! ### The characters that a case map sends to a character -/

namespace CaseTable

/-- A code point is its own image, or lies in one of the runs of the table. -/
theorem image_eq_or_exists (table : CaseTable) (code : Nat) :
    table.image code = code ∨
      ∃ run ∈ table, run.first ≤ code ∧ code ≤ run.last ∧
        table.image code = run.target + (code - run.first) := by
  induction table with
  | nil => exact Or.inl rfl
  | cons run rest ih =>
    rw [image]
    split
    · exact Or.inl rfl
    · split
      · rename_i hbelow hwithin
        have hlast : code ≤ run.last := by simpa using (Bool.and_eq_true_iff.mp hwithin).1
        exact Or.inr ⟨run, List.mem_cons_self, by omega, hlast, rfl⟩
      · rcases ih with heq | ⟨found, hmem, hbounds⟩
        · exact Or.inl heq
        · exact Or.inr ⟨found, List.mem_cons_of_mem _ hmem, hbounds⟩

/-- The code points that a case map may send to a code point. -/
def sources (table : CaseTable) (image : Nat) : List Nat :=
  image :: table.filterMap fun run ↦
    if run.target ≤ image ∧ image ≤ run.target + (run.last - run.first) then
      some (run.first + (image - run.target))
    else none

theorem mem_sources_image (table : CaseTable) (code : Nat) :
    code ∈ table.sources (table.image code) := by
  rcases table.image_eq_or_exists code with heq | ⟨run, hmem, hfirst, hlast, himage⟩
  · rw [heq]
    exact List.mem_cons_self
  · refine List.mem_cons_of_mem _ (List.mem_filterMap.mpr ⟨run, hmem, ?_⟩)
    rw [himage, if_pos (by omega)]
    exact congrArg some (by omega)

end CaseTable

/-! ### Variants -/

theorem sameFolded_iff {left right : Char} :
    sameFolded left right = true ↔ foldCase left = foldCase right := by
  simp only [sameFolded, Bool.or_eq_true, beq_iff_eq]
  exact ⟨fun h ↦ h.elim (congrArg foldCase) id, Or.inr⟩

/-- Folding sends characters to code points that are characters. -/
theorem toNat_foldCase (character : Char) :
    (foldCase character).toNat = foldRuns.image character.toNat := by
  have hruns : ∀ run ∈ foldRuns, run.target + (run.last - run.first) < 0xD800 ∨
      0xDFFF < run.target ∧ run.target + (run.last - run.first) < 0x110000 := by
    decide +kernel
  have hvalid : (foldRuns.image character.toNat).isValidChar := by
    rcases foldRuns.image_eq_or_exists character.toNat with heq | ⟨run, hmem, -, hlast, himage⟩
    · rw [heq]
      exact character.valid
    · rw [himage, Nat.isValidChar]
      have hrun := hruns run hmem
      omega
  rw [foldCase, Char.ofNat, dif_pos hvalid]
  rfl

/-- The characters that differ from a character in case alone. -/
def variants (character : Char) : List Char :=
  ((foldRuns.sources (foldCase character).toNat).map Char.ofNat).filter (sameFolded character)

theorem mem_variants_iff {character variant : Char} :
    variant ∈ variants character ↔ sameFolded character variant = true := by
  refine ⟨fun h ↦ (List.mem_filter.mp h).2, fun h ↦ List.mem_filter.mpr ⟨?_, h⟩⟩
  refine List.mem_map.mpr ⟨variant.toNat, ?_, Char.ofNat_toNat variant⟩
  rw [sameFolded_iff.mp h, toNat_foldCase]
  exact foldRuns.mem_sources_image variant.toNat

/-- All variants of a character have its lower-case form. -/
def LowersWithVariants (character : Char) : Prop :=
  ∀ variant ∈ variants character, lowercaseCharacter variant = lowercaseCharacter character

instance (character : Char) : Decidable (LowersWithVariants character) :=
  List.decidableBAll _ (variants character)

/-- All characters of a text have the lower-case forms of their variants. -/
def FoldsAsLowered (text : List Char) : Prop := ∀ character ∈ text, LowersWithVariants character

instance (text : List Char) : Decidable (FoldsAsLowered text) :=
  List.decidableBAll _ text

/-! ### Lower case up to folding -/

variable {character variant : Char} {text found : List Char}

theorem length_lowercaseCharacter (h : character ≠ 'İ') :
    (lowercaseCharacter character).length = 1 := by
  simp [lowercaseCharacter, h]

/-- The small sigmas have different lower-case forms, so no sigma is among the characters that have
those of their variants. -/
theorem LowersWithVariants.ne_sigma (h : LowersWithVariants character)
    (hsame : sameFolded character variant = true) : variant ≠ 'Σ' := by
  rintro rfl
  have hsigma {sigma : Char} (hsigma : sameFolded 'Σ' sigma = true) :
      lowercaseCharacter sigma = lowercaseCharacter character := by
    refine h sigma (mem_variants_iff.mpr (sameFolded_iff.mpr ?_))
    exact (sameFolded_iff.mp hsame).trans (sameFolded_iff.mp hsigma)
  have hsmall : lowercaseCharacter 'σ' = lowercaseCharacter character := hsigma (by decide)
  have hfinal : lowercaseCharacter 'ς' = lowercaseCharacter character := hsigma (by decide)
  exact absurd (hsmall.trans hfinal.symm) (by decide)

/-- Assumes: a text whose characters have the lower-case forms of their variants. What folds to the
same as the text has its lower-case form in every context. -/
theorem FoldsAsLowered.lowercaseBetween_eq (h : FoldsAsLowered text)
    (hfound : List.Forall₂ (sameFolded · · = true) text found) (afterCased beforeCased : Bool) :
    lowercaseBetween afterCased beforeCased found = lowercase text := by
  have hforms : 'Σ' ∉ text ∧ 'Σ' ∉ found ∧
      found.flatMap lowercaseCharacter = text.flatMap lowercaseCharacter := by
    induction hfound with
    | nil => exact ⟨nofun, nofun, rfl⟩
    | cons hsame _ ih =>
      obtain ⟨hcharacter, hrest⟩ := List.forall_mem_cons.mp h
      obtain ⟨htext, hfound, hflat⟩ := ih hrest
      refine ⟨List.not_mem_cons_of_ne_of_not_mem ?_ htext,
        List.not_mem_cons_of_ne_of_not_mem ?_ hfound, ?_⟩
      · exact (hcharacter.ne_sigma (sameFolded_self _)).symm
      · exact (hcharacter.ne_sigma hsame).symm
      · rw [List.flatMap_cons, List.flatMap_cons, hflat, hcharacter _ (mem_variants_iff.mpr hsame)]
  rw [lowercaseBetween_of_not_mem hforms.2.1, hforms.2.2, lowercase_eq_lowercaseBetween,
    lowercaseBetween_of_not_mem hforms.1]

/-- A character whose variants have several lower-case forms has a variant with another form than
the character is given in a context. -/
theorem exists_variant_of_not_lowersWithVariants (h : ¬ LowersWithVariants character)
    (afterCased beforeCased : Bool) (back : List Char) :
    ∃ variant ≠ 'Σ', sameFolded character variant = true ∧
      (lowercaseCharacter variant).length = (lowercaseCharacter character).length ∧
      lowercaseBeside afterCased beforeCased character back ≠ lowercaseCharacter variant := by
  by_cases hsigma : sameFolded character 'Σ' = true
  · have hvariant {sigma : Char} (hsame : sameFolded 'Σ' sigma = true) :
        sameFolded character sigma = true :=
      sameFolded_iff.mpr ((sameFolded_iff.mp hsigma).trans (sameFolded_iff.mp hsame))
    have hlength : (lowercaseCharacter character).length = 1 := by
      refine length_lowercaseCharacter ?_
      rintro rfl
      exact absurd hsigma (by decide)
    -- of the two small sigmas one is not the form at hand
    by_cases hform : lowercaseBeside afterCased beforeCased character back = lowercaseCharacter 'σ'
    · refine ⟨'ς', by decide, hvariant (by decide), hlength.symm ▸ by decide, ?_⟩
      rw [hform]
      decide
    · exact ⟨'σ', by decide, hvariant (by decide), hlength.symm ▸ by decide, hform⟩
  · obtain ⟨variant, hmem, hne⟩ : ∃ variant ∈ variants character,
        lowercaseCharacter variant ≠ lowercaseCharacter character := by
      simpa [LowersWithVariants] using h
    have hsame := mem_variants_iff.mp hmem
    have hmutual : character ∈ variants variant :=
      mem_variants_iff.mpr ((sameFolded_comm _ _).trans hsame)
    have hcharacter : character ≠ 'Σ' := by
      rintro rfl
      exact hsigma (sameFolded_self _)
    -- the one character with a longer form is its only variant
    have hdotted : variants 'İ' = ['İ'] := by decide
    have hlength : (lowercaseCharacter variant).length = (lowercaseCharacter character).length := by
      rw [length_lowercaseCharacter, length_lowercaseCharacter]
      · rintro rfl
        rw [hdotted, List.mem_singleton] at hmem
        exact hne (by rw [hmem])
      · rintro rfl
        rw [hdotted, List.mem_singleton] at hmutual
        exact hne (by rw [hmutual])
    refine ⟨variant, ?_, hsame, hlength, ?_⟩
    · rintro rfl
      exact hsigma hsame
    · rw [lowercaseBeside, if_neg (by simpa using hcharacter)]
      exact hne.symm

/-- A text with a character whose variants have several lower-case forms stands, up to folding, as a
word in some text that does not hold it in lower case. -/
theorem exists_occursAsWord_of_not_foldsAsLowered (h : ¬ FoldsAsLowered text) :
    ∃ content, occursAsWord sameFolded text content = true ∧
      occursIn (lowercase text) (lowercase content) = false := by
  obtain ⟨character, hmem, hcharacter⟩ : ∃ character ∈ text, ¬ LowersWithVariants character := by
    simpa [FoldsAsLowered] using h
  obtain ⟨front, back, rfl⟩ := List.append_of_mem hmem
  obtain ⟨variant, hsigma, hsame, hlength, hne⟩ :=
    exists_variant_of_not_lowersWithVariants hcharacter (casedBehind false front) false back
  refine ⟨front ++ variant :: back, occursAsWord_iff.mpr
    ⟨[], front ++ variant :: back, [], (List.append_nil _).symm, ?_, rfl, rfl⟩, ?_⟩
  · exact List.rel_append (List.forall₂_same.mpr fun other _ ↦ sameFolded_self other)
      (.cons hsame (List.forall₂_same.mpr fun other _ ↦ sameFolded_self other))
  · rw [Bool.eq_false_iff]
    intro hfound
    have heq := eq_of_occursIn_of_length_eq hfound (by
      simp only [lowercase_eq_lowercaseBetween, length_lowercaseBetween, List.flatMap_append,
        List.flatMap_cons, List.length_append, hlength])
    rw [lowercase_eq_lowercaseBetween, lowercase_eq_lowercaseBetween, lowercaseBetween_append_cons,
      lowercaseBetween_append_cons] at heq
    obtain ⟨-, heq⟩ := List.append_inj heq
      (by rw [length_lowercaseBetween, length_lowercaseBetween])
    have hform : lowercaseBeside (casedBehind false front) false variant back =
        lowercaseCharacter variant := by
      rw [lowercaseBeside, if_neg (by simpa using hsigma)]
    rw [hform] at heq
    refine hne (List.append_inj' heq ?_).1
    rw [length_lowercaseBetween, length_lowercaseBetween]

/-- A text is found in lower case wherever it stands as a word up to folding, exactly if all its
characters have the lower-case forms of their variants. -/
theorem forall_occursIn_of_occursAsWord_iff :
    (∀ content, occursAsWord sameFolded text content = true →
      occursIn (lowercase text) (lowercase content) = true) ↔ FoldsAsLowered text := by
  constructor
  · refine fun h ↦ Decidable.byContradiction fun hseveral ↦ ?_
    obtain ⟨content, hfound, hlost⟩ := exists_occursAsWord_of_not_foldsAsLowered hseveral
    rw [h content hfound] at hlost
    cases hlost
  · intro h content hfound
    obtain ⟨before, found, after, rfl, hsame, -⟩ := occursAsWord_iff.mp hfound
    exact occursIn_lowercase_of_eq (h.lowercaseBetween_eq hsame _ _)

end DocumentRules.Text
