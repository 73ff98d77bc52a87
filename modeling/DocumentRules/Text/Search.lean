import DocumentRules.Text.WordCharacter

/-!
# Searching a text

Two searches are offered. `occursIn` asks for a needle anywhere in a text. `occursAsWord` asks for
one with a word boundary on either side: the text begins or ends there, or the neighbouring
character is not a word character. A boundary looks at the neighbour and not at the needle, so a
needle may itself begin or end with a separator. The comparison of characters is a parameter, so
that a search may respect or disregard case. `occursIn_iff` reads the first search as "some part of
the text is the needle".
-/

set_option autoImplicit false
set_option relaxedAutoImplicit false

namespace DocumentRules.Text

/-- Whether the needle stands somewhere in the text. -/
def occursIn (needle : List Char) : List Char → Bool
  | [] => needle.isEmpty
  | character :: rest => needle.isPrefixOf (character :: rest) || occursIn needle rest

/-- A needle occurs in a text when the text is some characters, the needle and more characters. -/
theorem occursIn_iff (needle text : List Char) :
    occursIn needle text = true ↔ ∃ before after, text = before ++ needle ++ after := by
  induction text with
  | nil =>
    simp only [occursIn, List.isEmpty_iff]
    constructor
    · rintro rfl
      exact ⟨[], [], rfl⟩
    · rintro ⟨before, after, h⟩
      simp only [List.nil_eq, List.append_eq_nil_iff] at h
      exact h.1.2
  | cons character rest ih =>
    simp only [occursIn, Bool.or_eq_true, List.isPrefixOf_iff_prefix, ih]
    constructor
    · rintro (⟨after, h⟩ | ⟨before, after, h⟩)
      · exact ⟨[], after, by simp [h]⟩
      · exact ⟨character :: before, after, by simp [h]⟩
    · rintro ⟨before, after, h⟩
      cases before with
      | nil => exact Or.inl ⟨after, by simpa using h.symm⟩
      | cons first before =>
        simp only [List.cons_append, List.cons.injEq] at h
        exact Or.inr ⟨before, after, h.2⟩

/-- Whether a word may end before the text: it is empty or begins with a separator. -/
def atWordEnd : List Char → Bool
  | [] => true
  | character :: _ => !isWordCharacter character

/-- Whether the text begins with the needle, up to `same`, and a word may end there. -/
def startsWithWord (same : Char → Char → Bool) : List Char → List Char → Bool
  | [], text => atWordEnd text
  | _ :: _, [] => false
  | wanted :: needle, character :: text =>
    same wanted character && startsWithWord same needle text

/-- Whether the needle occurs as a word in a text before which a word may or may not begin. -/
def occursAsWordFrom (same : Char → Char → Bool) (needle : List Char) (boundary : Bool) :
    List Char → Bool
  | [] => boundary && startsWithWord same needle []
  | character :: rest =>
    (boundary && startsWithWord same needle (character :: rest)) ||
      occursAsWordFrom same needle (!isWordCharacter character) rest

/-- Whether the needle, up to `same`, occurs in the text between two word boundaries. -/
def occursAsWord (same : Char → Char → Bool) (needle text : List Char) : Bool :=
  occursAsWordFrom same needle true text

end DocumentRules.Text
