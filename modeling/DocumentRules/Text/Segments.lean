/-!
# Segments of a text

Paths, file names and form-field names are texts cut at a separator. `splitOn` cuts at every
separator and keeps empty segments, `segments` drops them, `cutFirst` and `cutLast` cut once.
`joinWith_splitOn` says that cutting loses nothing: the segments joined by the separator are the
text again. `splitOn_joinWith` says the same of joining segments that do not hold the separator.
-/

set_option autoImplicit false
set_option relaxedAutoImplicit false

namespace DocumentRules.Text

/-- Puts a character in front of the first of some segments. -/
def extendFirst (character : Char) : List (List Char) → List (List Char)
  | [] => [[character]]
  | first :: rest => (character :: first) :: rest

/-- A text cut at every occurrence of a separator. -/
def splitOn (separator : Char) (text : List Char) : List (List Char) :=
  text.foldr
    (fun character pieces ↦
      if character == separator then [] :: pieces else extendFirst character pieces)
    [[]]

/-- The non-empty segments of a `/`-separated path. -/
def segments (path : List Char) : List (List Char) :=
  (splitOn '/' path).filter fun segment ↦ !segment.isEmpty

/-- Segments with a separator between neighbours. -/
def joinWith (separator : Char) : List (List Char) → List Char
  | [] => []
  | [last] => last
  | first :: rest => first ++ separator :: joinWith separator rest

/-- The two parts of a text around its first separator. -/
def cutFirst (separator : Char) (text : List Char) : Option (List Char × List Char) :=
  match text.dropWhile (· != separator) with
  | [] => none
  | _ :: after => some (text.takeWhile (· != separator), after)

/-- The two parts of a text around its last separator. -/
def cutLast (separator : Char) (text : List Char) : Option (List Char × List Char) :=
  (cutFirst separator text.reverse).map fun (after, before) ↦ (before.reverse, after.reverse)

/-- The extension of a file name: what follows its last dot, if anything precedes that dot. -/
def extensionOf (fileName : List Char) : Option (List Char) :=
  match cutLast '.' fileName with
  | some (_ :: _, extension) => some extension
  | _ => none

@[simp] theorem splitOn_nil (separator : Char) : splitOn separator [] = [[]] := rfl

@[simp] theorem splitOn_cons (separator character : Char) (text : List Char) :
    splitOn separator (character :: text) =
      if character == separator then [] :: splitOn separator text
      else extendFirst character (splitOn separator text) := rfl

theorem splitOn_ne_nil (separator : Char) (text : List Char) : splitOn separator text ≠ [] := by
  cases text with
  | nil => simp
  | cons character text =>
    rw [splitOn_cons]
    split
    · simp
    · cases splitOn separator text <;> simp [extendFirst]

theorem joinWith_extendFirst (separator character : Char) {pieces : List (List Char)}
    (h : pieces ≠ []) :
    joinWith separator (extendFirst character pieces) =
      character :: joinWith separator pieces := by
  match pieces, h with
  | [_], _ => rfl
  | _ :: _ :: _, _ => rfl

/-- The segments of a text, joined by the separator, are the text. -/
theorem joinWith_splitOn (separator : Char) (text : List Char) :
    joinWith separator (splitOn separator text) = text := by
  induction text with
  | nil => rfl
  | cons character text ih =>
    rw [splitOn_cons]
    split
    · rename_i heq
      obtain ⟨first, rest, hpieces⟩ :=
        List.exists_cons_of_ne_nil (splitOn_ne_nil separator text)
      rw [hpieces] at ih ⊢
      simp only [joinWith, List.nil_append, ih, (beq_iff_eq.mp heq)]
    · rw [joinWith_extendFirst separator character (splitOn_ne_nil separator text), ih]

/-- No segment of a text holds the separator. -/
theorem not_mem_of_mem_splitOn {separator : Char} {text piece : List Char}
    (h : piece ∈ splitOn separator text) : separator ∉ piece := by
  induction text generalizing piece with
  | nil => simp_all
  | cons character text ih =>
    rw [splitOn_cons] at h
    split at h
    · rcases List.mem_cons.mp h with rfl | h
      · simp
      · exact ih h
    · rename_i hne
      obtain ⟨first, rest, hpieces⟩ :=
        List.exists_cons_of_ne_nil (splitOn_ne_nil separator text)
      rw [hpieces] at h ih
      rcases List.mem_cons.mp h with rfl | h
      · intro hmem
        rcases List.mem_cons.mp hmem with rfl | hmem
        · simp at hne
        · exact ih List.mem_cons_self hmem
      · exact ih (List.mem_cons_of_mem _ h)

theorem splitOn_eq_singleton {separator : Char} {text : List Char} (h : separator ∉ text) :
    splitOn separator text = [text] := by
  induction text with
  | nil => rfl
  | cons character text ih =>
    simp only [List.mem_cons, not_or] at h
    rw [splitOn_cons, ih h.2, if_neg (by simpa using Ne.symm h.1)]
    rfl

theorem splitOn_append_cons {separator : Char} {text : List Char} (h : separator ∉ text)
    (rest : List Char) :
    splitOn separator (text ++ separator :: rest) = text :: splitOn separator rest := by
  induction text with
  | nil => simp
  | cons character text ih =>
    simp only [List.mem_cons, not_or] at h
    rw [List.cons_append, splitOn_cons, ih h.2, if_neg (by simpa using Ne.symm h.1)]
    rfl

/-- Segments that were joined by the separator are found again, if none of them holds it. -/
theorem splitOn_joinWith {separator : Char} {pieces : List (List Char)} (hne : pieces ≠ [])
    (h : ∀ piece ∈ pieces, separator ∉ piece) :
    splitOn separator (joinWith separator pieces) = pieces := by
  induction pieces with
  | nil => exact absurd rfl hne
  | cons first rest ih =>
    cases rest with
    | nil => exact splitOn_eq_singleton (h first List.mem_cons_self)
    | cons second rest =>
      change splitOn separator (first ++ separator :: joinWith separator (second :: rest)) = _
      rw [splitOn_append_cons (h first List.mem_cons_self),
        ih (List.cons_ne_nil _ _) fun piece hpiece ↦ h piece (List.mem_cons_of_mem _ hpiece)]

end DocumentRules.Text
