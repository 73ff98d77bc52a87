import DocumentRules.Text.Search
import Mathlib.Data.List.Forall2

/-!
# Words of a text

The words of a text are its longest runs of word characters (`words`, `mem_words_iff`): cutting the
text at a separator cuts its words apart and loses none (`words_append_separator`).

A search for a word finds a part of the text that is the needle, up to `same`, and that has a
boundary on either side (`occursAsWord_iff`). Two such parts may share the separator between them,
as a boundary is no part of what is found. A needle of word characters is therefore found exactly
when it is one of the words (`occursAsWord_iff_mem_words`).
-/

set_option autoImplicit false
set_option relaxedAutoImplicit false

namespace DocumentRules.Text

/-! ### Boundaries -/

/-- Whether a word may begin behind a text, where `boundary` tells whether it may in front. -/
def atWordStart (boundary : Bool) (before : List Char) : Bool :=
  before.foldl (fun _ character ↦ !isWordCharacter character) boundary

@[simp] theorem atWordStart_nil (boundary : Bool) : atWordStart boundary [] = boundary := rfl

theorem atWordStart_append_cons (boundary : Bool) (front : List Char) (character : Char)
    (back : List Char) :
    atWordStart boundary (front ++ character :: back) =
      atWordStart (!isWordCharacter character) back := by
  rw [atWordStart, List.foldl_append]
  rfl

/-! ### What a search for a word finds -/

variable {same other : Char → Char → Bool} {needle text : List Char}

theorem startsWithWord_iff :
    startsWithWord same needle text = true ↔
      ∃ found after, text = found ++ after ∧ List.Forall₂ (same · · = true) needle found ∧
        atWordEnd after = true := by
  induction needle generalizing text with
  | nil => simp [startsWithWord]
  | cons wanted needle ih =>
    cases text with
    | nil => simp [startsWithWord]
    | cons character text =>
      simp only [startsWithWord, Bool.and_eq_true, ih]
      constructor
      · rintro ⟨hsame, found, after, rfl, hfound, hafter⟩
        exact ⟨character :: found, after, rfl, .cons hsame hfound, hafter⟩
      · rintro ⟨found, after, htext, hfound, hafter⟩
        cases hfound with
        | cons hsame hrest =>
          obtain ⟨rfl, rfl⟩ := List.cons.inj htext
          exact ⟨hsame, _, after, rfl, hrest, hafter⟩

theorem occursAsWordFrom_iff {boundary : Bool} :
    occursAsWordFrom same needle boundary text = true ↔
      ∃ before found after, text = before ++ found ++ after ∧
        List.Forall₂ (same · · = true) needle found ∧
        atWordStart boundary before = true ∧ atWordEnd after = true := by
  induction text generalizing boundary with
  | nil =>
    simp only [occursAsWordFrom, Bool.and_eq_true, startsWithWord_iff]
    constructor
    · rintro ⟨hboundary, found, after, htext, hfound, hafter⟩
      exact ⟨[], found, after, htext, hfound, hboundary, hafter⟩
    · rintro ⟨before, found, after, htext, hfound, hbefore, hafter⟩
      obtain ⟨rfl, rfl⟩ := List.append_eq_nil_iff.mp (List.append_eq_nil_iff.mp htext.symm).1
      exact ⟨hbefore, [], after, htext, hfound, hafter⟩
  | cons character rest ih =>
    simp only [occursAsWordFrom, Bool.or_eq_true, Bool.and_eq_true, startsWithWord_iff, ih]
    constructor
    · rintro (⟨hboundary, found, after, htext, hfound, hafter⟩ |
        ⟨before, found, after, rfl, hfound, hbefore, hafter⟩)
      · exact ⟨[], found, after, htext, hfound, hboundary, hafter⟩
      · exact ⟨character :: before, found, after, rfl, hfound, hbefore, hafter⟩
    · rintro ⟨before, found, after, htext, hfound, hbefore, hafter⟩
      cases before with
      | nil => exact Or.inl ⟨hbefore, found, after, htext, hfound, hafter⟩
      | cons first before =>
        obtain ⟨rfl, rfl⟩ := List.cons.inj htext
        exact Or.inr ⟨before, found, after, rfl, hfound, hbefore, hafter⟩

/-- A search for a word finds a part of the text that is the needle, with a boundary on either side.
-/
theorem occursAsWord_iff :
    occursAsWord same needle text = true ↔
      ∃ before found after, text = before ++ found ++ after ∧
        List.Forall₂ (same · · = true) needle found ∧
        atWordStart true before = true ∧ atWordEnd after = true :=
  occursAsWordFrom_iff

/-- A search that tells fewer characters apart finds no less. -/
theorem occursAsWord_mono (h : ∀ first second, same first second = true → other first second = true)
    (hfound : occursAsWord same needle text = true) : occursAsWord other needle text = true := by
  rw [occursAsWord_iff] at hfound ⊢
  obtain ⟨before, found, after, htext, hsame, hbounds⟩ := hfound
  exact ⟨before, found, after, htext, hsame.imp h, hbounds⟩

/-- A search that tells all characters apart finds the needle itself. -/
theorem occursAsWord_beq_iff :
    occursAsWord (· == ·) needle text = true ↔
      ∃ before after, text = before ++ needle ++ after ∧
        atWordStart true before = true ∧ atWordEnd after = true := by
  simp only [occursAsWord_iff, beq_iff_eq, List.forall₂_eq_eq_eq]
  constructor
  · rintro ⟨before, found, after, htext, rfl, hbounds⟩
    exact ⟨before, after, htext, hbounds⟩
  · rintro ⟨before, after, htext, hbounds⟩
    exact ⟨before, needle, after, htext, rfl, hbounds⟩

/-! ### Words -/

/-- The words of a text, in order. -/
def words (text : List Char) : List (List Char) :=
  (text.splitOnP (!isWordCharacter ·)).filter (!·.isEmpty)

variable {word : List Char}

theorem words_append_separator {separator : Char} (h : isWordCharacter separator = false)
    (front back : List Char) : words (front ++ separator :: back) = words front ++ words back := by
  rw [words, List.splitOnP_append_cons front back (by rw [h]; rfl), List.filter_append]
  rfl

/-- A text without separators is its only word, unless it is empty. -/
theorem words_of_forall (h : ∀ character ∈ text, isWordCharacter character = true) :
    words text = if text.isEmpty then [] else [text] := by
  have hpieces : text.splitOnP (!isWordCharacter ·) = [text] :=
    List.splitOnP_eq_singleton fun character hmem ↦ by rw [h character hmem]; rfl
  rw [words, hpieces]
  cases text <;> rfl

/-- A text is cut at its first separator, if it has one. -/
theorem exists_first_separator (text : List Char) :
    (∀ character ∈ text, isWordCharacter character = true) ∨
      ∃ first separator rest, text = first ++ separator :: rest ∧
        (∀ character ∈ first, isWordCharacter character = true) ∧
        isWordCharacter separator = false := by
  induction text with
  | nil => exact Or.inl nofun
  | cons character text ih =>
    cases hcharacter : isWordCharacter character with
    | false => exact Or.inr ⟨[], character, text, rfl, nofun, hcharacter⟩
    | true =>
      rcases ih with hall | ⟨first, separator, rest, rfl, hfirst, hseparator⟩
      · exact Or.inl (List.forall_mem_cons.mpr ⟨hcharacter, hall⟩)
      · exact Or.inr ⟨character :: first, separator, rest, rfl,
          List.forall_mem_cons.mpr ⟨hcharacter, hfirst⟩, hseparator⟩

/-- A word is a run of word characters, and neither neighbour of the run is one. -/
theorem bounded_of_mem_words (h : word ∈ words text) :
    word ≠ [] ∧ (∀ character ∈ word, isWordCharacter character = true) ∧
      ∃ before after, text = before ++ word ++ after ∧
        atWordStart true before = true ∧ atWordEnd after = true := by
  induction hlength : text.length using Nat.strongRecOn generalizing text with
  | _ length ih =>
    have hrun {run : List Char} (hrun : ∀ character ∈ run, isWordCharacter character = true)
        (hword : word ∈ words run) : run ≠ [] ∧ word = run := by
      rw [words_of_forall hrun] at hword
      cases run with
      | nil => cases hword
      | cons character rest => exact ⟨List.cons_ne_nil _ _, List.mem_singleton.mp hword⟩
    rcases exists_first_separator text with hall | ⟨first, separator, rest, rfl, hfirst, hseparator⟩
    · obtain ⟨hne, rfl⟩ := hrun hall h
      exact ⟨hne, hall, [], [], (List.append_nil _).symm, rfl, rfl⟩
    · rw [words_append_separator hseparator] at h
      rcases List.mem_append.mp h with h | h
      · obtain ⟨hne, rfl⟩ := hrun hfirst h
        exact ⟨hne, hfirst, [], separator :: rest, rfl, rfl, by rw [atWordEnd, hseparator]; rfl⟩
      · have hshorter : rest.length < length := by
          rw [← hlength, List.length_append, List.length_cons]
          omega
        obtain ⟨hne, hword, before, after, rfl, hbefore, hafter⟩ := ih _ hshorter h rfl
        refine ⟨hne, hword, first ++ separator :: before, after, by simp, ?_, hafter⟩
        rw [atWordStart_append_cons, hseparator]
        exact hbefore

/-- What stands behind a boundary keeps its words. -/
theorem mem_words_append {before : List Char} (hbefore : atWordStart true before = true)
    (h : word ∈ words text) : word ∈ words (before ++ text) := by
  rcases List.eq_nil_or_concat' before with rfl | ⟨front, separator, rfl⟩
  · exact h
  · have hseparator : isWordCharacter separator = false := by
      simpa [atWordStart_append_cons] using hbefore
    rw [List.append_assoc, List.singleton_append, words_append_separator hseparator]
    exact List.mem_append_right _ h

/-- The words of a text are its runs of word characters that cannot be made longer. -/
theorem mem_words_iff :
    word ∈ words text ↔
      word ≠ [] ∧ (∀ character ∈ word, isWordCharacter character = true) ∧
        ∃ before after, text = before ++ word ++ after ∧
          atWordStart true before = true ∧ atWordEnd after = true := by
  refine ⟨bounded_of_mem_words, ?_⟩
  rintro ⟨hne, hword, before, after, rfl, hbefore, hafter⟩
  have hself : words word = [word] := by
    rw [words_of_forall hword, if_neg (by simpa using hne)]
  rw [List.append_assoc]
  refine mem_words_append hbefore ?_
  cases after with
  | nil => rw [List.append_nil, hself]; exact List.mem_singleton_self word
  | cons separator back =>
    rw [words_append_separator (by simpa [atWordEnd] using hafter), hself]
    exact List.mem_append_left _ (List.mem_singleton_self word)

/-- A needle of word characters is found exactly when it is one of the words of the text. -/
theorem occursAsWord_iff_mem_words (hne : needle ≠ [])
    (hneedle : ∀ character ∈ needle, isWordCharacter character = true) :
    occursAsWord (· == ·) needle text = true ↔ needle ∈ words text := by
  rw [occursAsWord_beq_iff, mem_words_iff]
  exact ⟨fun hbounded ↦ ⟨hne, hneedle, hbounded⟩, fun hword ↦ hword.2.2⟩

end DocumentRules.Text
