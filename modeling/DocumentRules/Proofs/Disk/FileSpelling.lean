import DocumentRules.Proofs.Disk.Agreement
import DocumentRules.Proofs.Disk.Outside

/-!
# Relative and rooted spellings of a file

A file may be named by a path relative to the root, or by the root's path with that path joined to
it. A rooted path is taken relative to the root without the dots and slashes at its two ends
(`stripBase?_joinPath`), and a relative path is taken as it stands.

The two spellings agree under all conditions and histories exactly if the relative path neither
begins with a dot nor ends in dots or slashes, where the latter matters only if a file can be read
without them (`FileEvaluator.spellings_agree_iff`). A dot at the start is a component, so it changes
the folder that a `path` comparison sees and the resource path that a history is asked for. A slash
at the end leads to directories only, so no file is read (`exists_spellings_that_differ`).
-/

set_option autoImplicit false
set_option relaxedAutoImplicit false

namespace DocumentRules.Disk

open Text Collection Condition History Evaluation

/-! ### The ends of a path -/

/-- A path without what stands for no component at its two ends. -/
def barePath (path : List Char) : List Char := joinWith '/' (trimPieces (splitOn '/' path))

theorem trimPieces_cons_of_not_isSegment {piece : List Char} (h : isSegment piece = false)
    (pieces : List (List Char)) : trimPieces (piece :: pieces) = trimPieces pieces := by
  rw [trimPieces, List.dropWhile_cons, h]
  rfl

/-- Behind the segments of some pieces nothing of those pieces is left, up to trimming. -/
theorem trimPieces_piecesAfter_append (front back : List (List Char)) :
    trimPieces (piecesAfter (front.filter isSegment).length (front ++ back)) = trimPieces back := by
  induction front with
  | nil => rw [List.filter_nil, List.length_nil, List.nil_append, piecesAfter]
  | cons piece front ih =>
    rw [List.cons_append, List.filter_cons]
    cases hpiece : isSegment piece with
    | true =>
      rw [if_pos rfl, List.length_cons, piecesAfter, hpiece]
      exact ih
    | false =>
      rw [if_neg Bool.false_ne_true]
      generalize (front.filter isSegment).length = count at ih ⊢
      cases count with
      | zero =>
        rw [piecesAfter] at ih ⊢
        exact (trimPieces_cons_of_not_isSegment hpiece _).trans ih
      | succ count =>
        rw [piecesAfter, hpiece]
        exact ih

/-- Pieces that begin and end with segments are trimmed already. -/
theorem trimPieces_eq_self {pieces : List (List Char)}
    (hfirst : ∀ piece ∈ pieces.head?, isSegment piece = true)
    (hlast : ∀ piece ∈ pieces.getLast?, isSegment piece = true) : trimPieces pieces = pieces := by
  rw [← List.head?_reverse] at hlast
  rw [trimPieces, trimLastPieces, dropWhile_not_isSegment_eq_self hfirst,
    dropWhile_not_isSegment_eq_self hlast, List.reverse_reverse]

/-- A root leaves of a path that is joined to it the path without what stands for no component at
its ends. -/
theorem stripBase?_joinPath {root file : List Char} (hroot : isAbsolute root = true)
    (hfile : isAbsolute file = false) :
    stripBase? root (joinPath root file) = some (barePath file) := by
  have hne := ne_nil_of_isAbsolute hroot
  obtain ⟨front, hpieces, hfront⟩ := exists_splitOn_joinPath hne hfile
  unfold stripBase?
  rw [if_pos, if_neg (by simpa using hne), hpieces, ← hfront, trimPieces_piecesAfter_append]
  · rfl
  · rw [components_of_isAbsolute hroot, components_of_isAbsolute (isAbsolute_joinPath hroot hfile),
      pathSegments_joinPath hne hfile, List.map_append, List.isPrefixOf_iff_prefix]
    exact (List.prefix_cons_inj _).mpr (List.prefix_append _ _)

theorem components_barePath (file : List Char) :
    components (barePath file) = (pathSegments file).map Component.ofSegment :=
  components_joinWith_trimPieces fun _ ↦ not_mem_of_mem_splitOn

theorem isAbsolute_barePath (file : List Char) : isAbsolute (barePath file) = false := by
  refine Bool.eq_false_iff.mpr fun habsolute ↦ ?_
  have hcomponents := components_of_isAbsolute habsolute
  rw [components_barePath] at hcomponents
  obtain ⟨segment, -, heq⟩ := List.mem_map.mp (hcomponents ▸ List.mem_cons_self)
  exact Component.ofSegment_ne_top segment heq

section Relative

variable {file : List Char} (hfile : isAbsolute file = false)

include hfile

/-- The dot at the start is the one component of a relative path that trimming can take away. -/
theorem components_eq_ite :
    components file =
      if .current ∈ components file then .current :: components (barePath file)
      else components (barePath file) := by
  have hsegments : .current ∉ (pathSegments file).map Component.ofSegment := by
    intro hmem
    obtain ⟨segment, -, heq⟩ := List.mem_map.mp hmem
    exact Component.ofSegment_ne_current segment heq
  rw [components_barePath, components, leadingComponents, hfile]
  by_cases hdot : (splitOn '/' file).head? = some ['.'] <;> simp [hdot, hsegments]

theorem pathExtension?_barePath : pathExtension? (barePath file) = pathExtension? file := by
  have hcomponents := components_eq_ite hfile
  unfold pathExtension?
  split at hcomponents
  · rw [hcomponents]
    cases hbare : components (barePath file) with
    | nil => rfl
    | cons part parts => rw [List.getLast?_cons_cons]
  · rw [← hcomponents]

/-- A history is asked for another path if the one at hand begins with a dot. -/
theorem resourceOf_barePath_ne (hdot : .current ∈ components file) :
    FileEvaluator.resourceOf (barePath file) ≠ FileEvaluator.resourceOf file := by
  have hcomponents := components_eq_ite hfile
  rw [if_pos hdot] at hcomponents
  intro heq
  have hpaths := congrArg String.toList heq
  simp only [FileEvaluator.resourceOf, String.toList_ofList, ofComponents] at hpaths
  rw [hcomponents, List.map_cons, Component.text] at hpaths
  have hlength := congrArg List.length hpaths
  cases hparts : (components (barePath file)).map Component.text with
  | nil => simp [hparts, joinWith] at hlength
  | cons part parts =>
    rw [hparts] at hlength
    simp only [joinWith, List.length_append, List.length_cons] at hlength
    omega

theorem leadingComponents_eq_nil (hdot : .current ∉ components file) :
    leadingComponents file = [] := by
  obtain h | h | h := leadingComponents_cases file
  · refine absurd (isAbsolute_of_mem_components ?_) (Bool.eq_false_iff.mp hfile)
    exact List.mem_append_left _ (h ▸ List.mem_singleton_self _)
  · exact absurd (List.mem_append_left _ (h ▸ List.mem_singleton_self _)) hdot
  · exact h

/-- A relative path that is changed by trimming, and does not begin with a dot, does not end in a
segment. -/
theorem exists_splitOn_eq_concat (hdot : .current ∉ components file)
    (hbare : barePath file ≠ file) :
    ∃ front last, splitOn '/' file = front ++ [last] ∧ isSegment last = false := by
  have hne : file ≠ [] := by
    rintro rfl
    exact hbare rfl
  obtain hnil | ⟨front, last, hpieces⟩ := List.eq_nil_or_concat' (splitOn '/' file)
  · exact absurd hnil (splitOn_ne_nil '/' file)
  refine ⟨front, last, hpieces, Bool.eq_false_iff.mpr fun hlast ↦ hbare ?_⟩
  have hfirst := isSegment_of_mem_head? hne (leadingComponents_eq_nil hfile hdot)
  rw [barePath, trimPieces_eq_self hfirst, joinWith_splitOn]
  rw [hpieces, List.getLast?_concat]
  rintro _ ⟨⟩
  exact hlast

end Relative

/-! ### Reading a file -/

/-- A path that does not end in a segment leads to no file. -/
theorem Volume.read?_eq_none (volume : Volume) {path : List Char} {front : List (List Char)}
    {last : List Char} (hpieces : splitOn '/' path = front ++ [last])
    (hlast : isSegment last = false) : volume.read? path = none := by
  rw [Option.eq_none_iff_forall_ne_some]
  intro bytes hread
  obtain ⟨place, hplace, hitem⟩ := exists_locate?_of_read? hread
  unfold locate? at hplace
  split at hplace
  · rw [hpieces, followAll?_append] at hplace
    obtain ⟨folder, -, hfollow⟩ := Option.bind_eq_some_iff.mp hplace
    rw [followAll?, Option.bind_eq_some_iff] at hfollow
    obtain ⟨next, hnext, hplace⟩ := hfollow
    obtain rfl := Option.some.inj hplace
    -- what is read stands where the last piece is followed from, so that is no directory
    have hsame := eq_of_follow? hnext
    rw [hlast, if_neg Bool.false_ne_true] at hsame
    have hdirectory : volume.isDirectoryAt folder = false := by
      rw [isDirectoryAt, ← hsame, hitem]
    rw [follow?_eq_none hdirectory] at hnext
    cases hnext
  · cases hplace

namespace FileEvaluator

variable {evaluator : FileEvaluator} {file : List Char}

/-- Trimming makes a difference to what is read only where nothing is read without it. -/
theorem content?_eq_none (hroot : isAbsolute evaluator.root = true)
    (hfile : isAbsolute file = false) (hdot : .current ∉ components file)
    (hbare : barePath file ≠ file) : evaluator.content? file = none := by
  obtain ⟨front, last, hpieces, hlast⟩ := exists_splitOn_eq_concat hfile hdot hbare
  obtain ⟨base, hjoined, -⟩ := exists_splitOn_joinPath (ne_nil_of_isAbsolute hroot) hfile
  rw [hpieces, ← List.append_assoc] at hjoined
  unfold content?
  rw [evaluator.volume.read?_eq_none hjoined hlast]
  rfl

/-! ### The two spellings -/

/-- What a comparison looks at is the same for a path as for the trimmed one: the components, if it
asks for the folder or for the resource path, and the content, if it is a search. -/
def ReadsAlike (evaluator : FileEvaluator) (file : List Char) (comparison : Comparison) : Prop :=
  (comparison.field.kind = .path ∨ comparison.field.kind = .version →
    .current ∉ components file) ∧
  (comparison.field.kind.isSearch = true →
    evaluator.content? (barePath file) = evaluator.content? file)

instance (evaluator : FileEvaluator) (file : List Char) (comparison : Comparison) :
    Decidable (evaluator.ReadsAlike file comparison) :=
  inferInstanceAs (Decidable (_ ∧ _))

/-- A path that is joined to the root is evaluated as the trimmed path. -/
theorem inquire_joinPath [PatternLibrary] (hroot : isAbsolute evaluator.root = true)
    (hfile : isAbsolute file = false) :
    evaluator.inquire (joinPath evaluator.root file) = evaluator.inquire (barePath file) :=
  inquire_of_stripBase? hroot (stripBase?_joinPath hroot hfile)

theorem inquire_of_isAbsolute [PatternLibrary] (hroot : isAbsolute evaluator.root = true)
    (hfile : isAbsolute file = false) (condition : Condition) :
    evaluator.inquire file condition =
      inquireCondition (evaluator.inquireComparison file) condition := by
  unfold inquire
  rw [relative?_of_isAbsolute_root hroot hfile]

theorem inquireComparison_barePath [PatternLibrary] (hfile : isAbsolute file = false)
    {comparison : Comparison} (h : evaluator.ReadsAlike file comparison) :
    evaluator.inquireComparison (barePath file) comparison =
      evaluator.inquireComparison file comparison := by
  obtain ⟨hdot, hcontent⟩ := h
  have hcomponents := components_eq_ite hfile
  unfold inquireComparison
  cases hkind : comparison.field.kind with
  | extension => rw [pathExtension?_barePath hfile]
  | path =>
    rw [if_neg (hdot (.inl hkind))] at hcomponents
    simp only [compareScope, folderComponents, ← hcomponents]
  | enabled | formField => rfl
  | text | caseText | word | caseWord => simp only [hcontent (by rw [hkind]; rfl)]
  | version =>
    rw [if_neg (hdot (.inr hkind))] at hcomponents
    simp only [resourceOf, ← hcomponents]

/-- A version comparison with a commit asks whether the commit changed the resource path. -/
theorem satisfies_version [PatternLibrary] (hroot : isAbsolute evaluator.root = true)
    (hfile : isAbsolute file = false) (commit : String) (paths : PathSet) :
    evaluator.satisfies (fun _ ↦ .ok paths) file
        [.comparison ⟨⟨"version", .version⟩, .equal, .ofCommit commit⟩] =
      paths.contains (resourceOf file) := by
  unfold satisfies
  rw [inquire_of_isAbsolute hroot hfile]
  exact answer_inquireCondition_singleton _ _ _

/-- The search for the empty text finds every file that can be read. -/
theorem satisfies_empty_search [PatternLibrary] (hroot : isAbsolute evaluator.root = true)
    (hfile : isAbsolute file = false) (backend : Backend) :
    evaluator.satisfies backend file
        [.comparison ⟨⟨"case_text", .caseText⟩, .equal, .ofText ""⟩] =
      (evaluator.content? file).isSome := by
  unfold satisfies
  rw [inquire_of_isAbsolute hroot hfile]
  refine (answer_inquireCondition_singleton _ _ _).trans ?_
  simp only [inquireComparison, Inquiry.answer_pure]
  cases evaluator.content? file <;> rfl

/-- A condition that looks at the same for a path as for the trimmed one is answered alike. -/
theorem satisfies_barePath [PatternLibrary] (hroot : isAbsolute evaluator.root = true)
    (hfile : isAbsolute file = false) {condition : Condition}
    (h : ∀ comparison ∈ condition.comparisons, evaluator.ReadsAlike file comparison)
    (backend : Backend) :
    evaluator.satisfies backend (barePath file) condition =
      evaluator.satisfies backend file condition := by
  unfold satisfies
  rw [inquire_of_isAbsolute hroot (isAbsolute_barePath file),
    inquire_of_isAbsolute hroot hfile,
    inquireCondition_congr fun comparison hmem ↦
      inquireComparison_barePath hfile (h comparison hmem)]

/-- A history in which a commit changed the path without the dot at its start, and not the one with
it, tells the two apart. -/
theorem exists_satisfies_barePath_ne [PatternLibrary] (hroot : isAbsolute evaluator.root = true)
    (hfile : isAbsolute file = false) (hdot : .current ∈ components file) :
    ∃ backend condition, evaluator.satisfies backend (barePath file) condition ≠
      evaluator.satisfies backend file condition := by
  refine ⟨fun _ ↦ .ok (SortedSet.ofList [resourceOf (barePath file)]),
    [.comparison ⟨⟨"version", .version⟩, .equal, .ofCommit ""⟩], fun heq ↦ ?_⟩
  rw [satisfies_version hroot (isAbsolute_barePath file), satisfies_version hroot hfile,
    Bool.eq_iff_iff, SortedSet.contains_iff, SortedSet.contains_iff, SortedSet.mem_ofList,
    SortedSet.mem_ofList, List.mem_singleton, List.mem_singleton] at heq
  exact resourceOf_barePath_ne hfile hdot (heq.mp rfl).symm

/-- Assumes: an evaluator with an absolute root, and a relative path.

A condition is answered for the path as it is for the path that is joined to the root, whatever a
history says, if what its comparisons look at is the same for the path as for the trimmed one. This
is so of all conditions exactly if the path does not begin with a dot and either does not end in
dots or slashes or leads, without those, to no file that can be read. -/
theorem spellings_agree_iff [PatternLibrary] (hroot : isAbsolute evaluator.root = true)
    (hfile : isAbsolute file = false) :
    (∀ condition : Condition,
      (∀ comparison ∈ condition.comparisons, evaluator.ReadsAlike file comparison) →
      ∀ backend, evaluator.satisfies backend (joinPath evaluator.root file) condition =
        evaluator.satisfies backend file condition) ∧
    ((∀ backend condition, evaluator.satisfies backend (joinPath evaluator.root file) condition =
        evaluator.satisfies backend file condition) ↔
      .current ∉ components file ∧
        (barePath file = file ∨ evaluator.content? (barePath file) = none)) := by
  have hjoined : ∀ backend condition,
      evaluator.satisfies backend (joinPath evaluator.root file) condition =
        evaluator.satisfies backend (barePath file) condition := by
    intro backend condition
    unfold satisfies
    rw [inquire_joinPath hroot hfile]
  simp only [hjoined]
  refine ⟨fun _ ↦ satisfies_barePath hroot hfile, fun hagree ↦ ?_, fun h backend condition ↦ ?_⟩
  · have hdot : .current ∉ components file := by
      intro hdot
      obtain ⟨backend, condition, hne⟩ := exists_satisfies_barePath_ne hroot hfile hdot
      exact hne (hagree backend condition)
    refine ⟨hdot, or_iff_not_imp_left.mpr fun hends ↦ ?_⟩
    have hread := hagree CommitLog.empty.answer
      [.comparison ⟨⟨"case_text", .caseText⟩, .equal, .ofText ""⟩]
    rw [satisfies_empty_search hroot (isAbsolute_barePath file),
      satisfies_empty_search hroot hfile, content?_eq_none hroot hfile hdot hends] at hread
    exact Option.not_isSome_iff_eq_none.mp (Bool.eq_false_iff.mp hread)
  · obtain ⟨hdot, hcontent⟩ := h
    refine satisfies_barePath hroot hfile (fun comparison _ ↦ ⟨fun _ ↦ hdot, fun _ ↦ ?_⟩) backend
    by_cases hends : barePath file = file
    · rw [hends]
    · rw [hcontent.resolve_left hends, content?_eq_none hroot hfile hdot hends]

end FileEvaluator

/-- The file of the small project is matched alike by a path with a dot and two slashes in a row in
its middle. By a path with a dot at the start it is matched alike in a search, but not under all
conditions. -/
theorem spellings_agree_iff_nested :
    (∀ backend condition,
      (nestedEvaluator ['/', 'A']).satisfies backend "/A/A/.//B/inside".toList condition =
        (nestedEvaluator ['/', 'A']).satisfies backend "A/.//B/inside".toList condition) ∧
    (∀ backend,
      (nestedEvaluator ['/', 'A']).satisfies backend "/A/./A/B/inside".toList
          [.comparison ⟨⟨"case_text", .caseText⟩, .equal, .ofText "ex"⟩] =
        (nestedEvaluator ['/', 'A']).satisfies backend "./A/B/inside".toList
          [.comparison ⟨⟨"case_text", .caseText⟩, .equal, .ofText "ex"⟩]) ∧
    ¬ ∀ backend condition,
      (nestedEvaluator ['/', 'A']).satisfies backend "/A/./A/B/inside".toList condition =
        (nestedEvaluator ['/', 'A']).satisfies backend "./A/B/inside".toList condition := by
  have hroot : isAbsolute (nestedEvaluator ['/', 'A']).root = true := rfl
  have hmiddle : isAbsolute "A/.//B/inside".toList = false := by decide
  have hstart : isAbsolute "./A/B/inside".toList = false := by decide
  obtain ⟨-, hagree⟩ := FileEvaluator.spellings_agree_iff hroot hmiddle
  obtain ⟨halike, hdiffer⟩ := FileEvaluator.spellings_agree_iff hroot hstart
  exact ⟨hagree.mpr (by decide), halike _ (by decide), mt hdiffer.mp (by decide)⟩

/-- Named relative to the directory with a dot at the start, the file of the small project is in no
folder, and with a slash at the end it is not found by its content. By the paths that begin with the
directory it is. -/
theorem exists_spellings_that_differ :
    ∃ evaluator : FileEvaluator, isAbsolute evaluator.root = true ∧
      (∃ (file : List Char) (backend : Backend), isAbsolute file = false ∧
        evaluator.satisfies backend file [.within "A/B"] = false ∧
        evaluator.satisfies backend (joinPath evaluator.root file) [.within "A/B"] = true) ∧
      ∃ (file : List Char) (backend : Backend) (condition : Condition), isAbsolute file = false ∧
        .current ∉ components file ∧
        evaluator.satisfies backend file condition = false ∧
        evaluator.satisfies backend (joinPath evaluator.root file) condition = true := by
  refine ⟨nestedEvaluator ['/', 'A'], rfl, ⟨"./A/B/inside".toList, CommitLog.empty.answer, ?_⟩,
    "A/B/inside/".toList, CommitLog.empty.answer,
    [.comparison ⟨⟨"case_text", .caseText⟩, .equal, .ofText "ex"⟩], ?_⟩
  · decide
  · decide

end DocumentRules.Disk
