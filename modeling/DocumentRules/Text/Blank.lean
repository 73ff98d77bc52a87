/-!
# Blank characters

A value may be written with space around it. The characters that count as space are the
twenty-five of the Unicode property `White_Space` (`isBlank`), and `trim` removes a run of them
from either end of a text. `trim_append_append` says that blanks put around a text make no
difference to what is left of it.
-/

set_option autoImplicit false
set_option relaxedAutoImplicit false

namespace DocumentRules.Text

/-- The characters with the Unicode property `White_Space`. -/
def isBlank (character : Char) : Bool :=
  let code := character.toNat
  (0x9 ≤ code && code ≤ 0xD) || code == 0x20 || code == 0x85 || code == 0xA0 || code == 0x1680 ||
    (0x2000 ≤ code && code ≤ 0x200A) || code == 0x2028 || code == 0x2029 || code == 0x202F ||
    code == 0x205F || code == 0x3000

/-- Every blank of the ASCII range is a blank here. -/
theorem isBlank_of_isWhitespace {character : Char} (h : character.isWhitespace = true) :
    isBlank character = true := by
  simp only [Char.isWhitespace, Bool.or_eq_true, decide_eq_true_eq] at h
  rcases h with ((h | h) | h) | h <;> subst h <;> decide

/-- A text without the blanks at its start. -/
def trimStart (text : List Char) : List Char :=
  text.dropWhile isBlank

/-- A text without the blanks at its end. -/
def trimEnd (text : List Char) : List Char :=
  (text.reverse.dropWhile isBlank).reverse

/-- A text without the blanks at its two ends. -/
def trim (text : List Char) : List Char :=
  trimEnd (trimStart text)

@[simp] theorem trim_nil : trim [] = [] := rfl

theorem trimStart_append {blanks : List Char} (h : ∀ c ∈ blanks, isBlank c = true)
    (text : List Char) : trimStart (blanks ++ text) = trimStart text := by
  induction blanks with
  | nil => rfl
  | cons c rest ih =>
    have hc : isBlank c = true := h c (by simp)
    simp only [trimStart, List.cons_append, List.dropWhile_cons, hc, if_true]
    exact ih fun d hd ↦ h d (by simp [hd])

theorem trimEnd_append {blanks : List Char} (h : ∀ c ∈ blanks, isBlank c = true)
    (text : List Char) : trimEnd (text ++ blanks) = trimEnd text := by
  have hreverse : ∀ c ∈ blanks.reverse, isBlank c = true := fun c hc ↦ h c (by simpa using hc)
  have hdrop := trimStart_append hreverse text.reverse
  simp only [trimStart] at hdrop
  simp only [trimEnd, List.reverse_append, hdrop]

theorem isBlank_of_trimStart_eq_nil {text : List Char} (h : trimStart text = []) :
    ∀ c ∈ text, isBlank c = true := by
  induction text with
  | nil => simp
  | cons c rest ih =>
    by_cases hc : isBlank c = true
    · simp only [trimStart, List.dropWhile_cons, hc, if_true] at h
      intro d hd
      rcases List.mem_cons.mp hd with rfl | hd
      · exact hc
      · exact ih h d hd
    · simp [trimStart, hc] at h

theorem trimStart_append_of_ne_nil {text : List Char} (h : trimStart text ≠ [])
    (rest : List Char) : trimStart (text ++ rest) = trimStart text ++ rest := by
  induction text with
  | nil => exact absurd rfl h
  | cons c text ih =>
    by_cases hc : isBlank c = true
    · simp only [trimStart, List.cons_append, List.dropWhile_cons, hc, if_true] at h ⊢
      exact ih h
    · simp [trimStart, hc]

/-- Blanks written around a text do not change what trimming leaves of it. -/
theorem trim_append_append {front back : List Char} (hfront : ∀ c ∈ front, isBlank c = true)
    (hback : ∀ c ∈ back, isBlank c = true) (text : List Char) :
    trim (front ++ text ++ back) = trim text := by
  simp only [trim, List.append_assoc, trimStart_append hfront]
  by_cases hempty : trimStart text = []
  · have hnone : trimStart back = [] := by
      rw [show back = back ++ [] by simp, trimStart_append hback]
      rfl
    rw [trimStart_append (isBlank_of_trimStart_eq_nil hempty), hempty, hnone]
  · rw [trimStart_append_of_ne_nil hempty, trimEnd_append hback]

end DocumentRules.Text
