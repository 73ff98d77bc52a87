import DocumentRules.Text.Segments

/-!
# Cutting and joining paths

A text that is cut once is cut where its first separator stands (`cutFirst_eq_some_iff`). A text
with a separator in it is cut into the segments of its two sides (`splitOn_append_separator`), so
repeated slashes, and slashes at either end, leave the segments of a path as they are
(`segments_append_slash`, `segments_replicate_slash`, `segments_append_replicate_slash`). Segments
that are joined by slashes are those of the path that they make (`segments_joinWith`). -/

set_option autoImplicit false
set_option relaxedAutoImplicit false

namespace DocumentRules.Text

/-- A text that names a file among others in a directory. -/
structure IsFileName (name : List Char) : Prop where
  ne_nil : name ≠ []
  not_mem_slash : '/' ∉ name
  ne_dot : name ≠ ['.']
  ne_dots : name ≠ ['.', '.']

theorem cutFirst_cons (separator character : Char) (text : List Char) :
    cutFirst separator (character :: text) =
      if character = separator then some ([], text)
      else (cutFirst separator text).map fun (before, after) ↦ (character :: before, after) := by
  unfold cutFirst
  by_cases h : character = separator
  · simp [h]
  · simp only [List.dropWhile_cons, List.takeWhile_cons, bne_iff_ne, ne_eq, h, not_false_eq_true,
      if_true, if_false]
    split <;> rfl

/-- A text is cut where its first separator stands. -/
theorem cutFirst_eq_some_iff {separator : Char} {text before after : List Char} :
    cutFirst separator text = some (before, after) ↔
      text = before ++ separator :: after ∧ separator ∉ before := by
  induction text generalizing before with
  | nil => simp [cutFirst]
  | cons character text ih =>
    rw [cutFirst_cons]
    by_cases h : character = separator
    · rw [if_pos h, h]
      cases before with
      | nil => simp
      | cons first before => simp +contextual [eq_comm]
    · rw [if_neg h, Option.map_eq_some_iff]
      constructor
      · rintro ⟨⟨rest, last⟩, hcut, heq⟩
        obtain ⟨rfl, rfl⟩ := Prod.mk.inj heq
        obtain ⟨rfl, hrest⟩ := ih.mp hcut
        exact ⟨rfl, List.not_mem_cons_of_ne_of_not_mem (Ne.symm h) hrest⟩
      · rintro ⟨heq, hbefore⟩
        cases before with
        | nil => exact absurd (List.cons.inj heq).1 h
        | cons first before =>
          obtain ⟨rfl, rfl⟩ := List.cons.inj heq
          exact ⟨(before, after), ih.mpr ⟨rfl, List.not_mem_of_not_mem_cons hbefore⟩, rfl⟩

theorem extendFirst_append (character : Char) {pieces : List (List Char)} (h : pieces ≠ [])
    (others : List (List Char)) :
    extendFirst character (pieces ++ others) = extendFirst character pieces ++ others := by
  obtain ⟨first, rest, rfl⟩ := List.exists_cons_of_ne_nil h
  rfl

/-- A text is cut at a separator into the pieces of both sides. -/
theorem splitOn_append_separator (separator : Char) (front back : List Char) :
    splitOn separator (front ++ separator :: back) =
      splitOn separator front ++ splitOn separator back := by
  induction front with
  | nil => simp
  | cons character rest ih =>
    rw [List.cons_append, splitOn_cons, splitOn_cons, ih]
    split
    · rfl
    · exact extendFirst_append character (splitOn_ne_nil separator rest) _

theorem joinWith_append_singleton (separator : Char) {pieces : List (List Char)} (h : pieces ≠ [])
    (last : List Char) :
    joinWith separator (pieces ++ [last]) = joinWith separator pieces ++ separator :: last := by
  induction pieces with
  | nil => exact absurd rfl h
  | cons first rest ih =>
    cases rest with
    | nil => rfl
    | cons second rest =>
      have hrest := ih (List.cons_ne_nil second rest)
      simp only [List.cons_append, joinWith] at hrest ⊢
      rw [hrest, List.append_assoc]
      rfl

theorem joinWith_eq_nil_iff {separator : Char} {pieces : List (List Char)}
    (h : ∀ piece ∈ pieces, piece ≠ []) : joinWith separator pieces = [] ↔ pieces = [] := by
  match pieces with
  | [] => exact iff_of_true rfl rfl
  | [last] => exact iff_of_false (h last (by simp)) (List.cons_ne_nil _ _)
  | first :: second :: rest =>
    exact iff_of_false (List.append_ne_nil_of_left_ne_nil (h first (by simp)) _)
      (List.cons_ne_nil _ _)

/-- A character other than the separator is in one of the pieces. -/
theorem exists_mem_splitOn {separator character : Char} (hne : character ≠ separator)
    {text : List Char} (h : character ∈ text) :
    ∃ piece ∈ splitOn separator text, character ∈ piece := by
  induction text with
  | nil => exact absurd h List.not_mem_nil
  | cons first rest ih =>
    obtain ⟨piece, pieces, hpieces⟩ :=
      List.exists_cons_of_ne_nil (splitOn_ne_nil separator rest)
    rw [splitOn_cons]
    rw [hpieces] at ih ⊢
    rcases List.mem_cons.mp h with rfl | h
    · rw [if_neg (by simpa using hne)]
      exact ⟨_, List.mem_cons_self, List.mem_cons_self⟩
    · obtain ⟨other, hother, hmem⟩ := ih h
      split
      · exact ⟨other, List.mem_cons_of_mem _ hother, hmem⟩
      · rcases List.mem_cons.mp hother with rfl | hother
        · exact ⟨_, List.mem_cons_self, List.mem_cons_of_mem _ hmem⟩
        · exact ⟨other, List.mem_cons_of_mem _ hother, hmem⟩

theorem exists_mem_segments {character : Char} (hne : character ≠ '/') {path : List Char}
    (h : character ∈ path) : ∃ segment ∈ segments path, character ∈ segment := by
  obtain ⟨piece, hpiece, hmem⟩ := exists_mem_splitOn hne h
  refine ⟨piece, List.mem_filter.mpr ⟨hpiece, ?_⟩, hmem⟩
  simpa using List.ne_nil_of_mem hmem

theorem ne_nil_of_mem_segments {path segment : List Char} (h : segment ∈ segments path) :
    segment ≠ [] := by
  simpa using (List.mem_filter.mp h).2

theorem slash_notMem_of_mem_segments {path segment : List Char} (h : segment ∈ segments path) :
    '/' ∉ segment :=
  not_mem_of_mem_splitOn (List.mem_filter.mp h).1

/-- A segment of a path names a file, unless it is a dot or a pair of dots. -/
theorem isFileName_of_mem_segments {path segment : List Char} (h : segment ∈ segments path)
    (hdots : segment ≠ ['.'] ∧ segment ≠ ['.', '.']) : IsFileName segment where
  ne_nil := ne_nil_of_mem_segments h
  not_mem_slash := slash_notMem_of_mem_segments h
  ne_dot := hdots.1
  ne_dots := hdots.2

theorem segments_append_slash (front back : List Char) :
    segments (front ++ '/' :: back) = segments front ++ segments back := by
  rw [segments, splitOn_append_separator, List.filter_append]
  rfl

theorem segments_dropWhile_slash (path : List Char) :
    segments (path.dropWhile (· == '/')) = segments path := by
  induction path with
  | nil => rfl
  | cons character rest ih =>
    rw [List.dropWhile_cons]
    split
    · rename_i hslash
      rw [ih, beq_iff_eq.mp hslash, ← List.nil_append ('/' :: rest), segments_append_slash]
      rfl
    · rfl

theorem segments_replicate_slash (slashes : Nat) (path : List Char) :
    segments (List.replicate slashes '/' ++ path) = segments path := by
  induction slashes with
  | zero => rfl
  | succ slashes ih =>
    rw [List.replicate_succ, List.cons_append, ← ih]
    exact segments_append_slash [] _

theorem segments_append_replicate_slash (path : List Char) (slashes : Nat) :
    segments (path ++ List.replicate slashes '/') = segments path := by
  cases slashes with
  | zero => rw [List.replicate_zero, List.append_nil]
  | succ slashes =>
    have hslashes := segments_replicate_slash slashes []
    rw [List.append_nil] at hslashes
    rw [List.replicate_succ, segments_append_slash, hslashes]
    exact List.append_nil _

/-- Segments are found again in the path that they make. -/
theorem segments_joinWith {pieces : List (List Char)} (hne : ∀ piece ∈ pieces, piece ≠ [])
    (hslash : ∀ piece ∈ pieces, '/' ∉ piece) : segments (joinWith '/' pieces) = pieces := by
  by_cases hempty : pieces = []
  · rw [hempty]
    rfl
  · rw [segments, splitOn_joinWith hempty hslash]
    exact List.filter_eq_self.mpr fun piece hpiece ↦ by simp [hne piece hpiece]

/-- The segments of a path, joined by single slashes, are the segments of the path that they
make. -/
theorem segments_joinWith_segments (path : List Char) :
    segments (joinWith '/' (segments path)) = segments path :=
  segments_joinWith (fun _ ↦ ne_nil_of_mem_segments) fun _ ↦ slash_notMem_of_mem_segments

end DocumentRules.Text
