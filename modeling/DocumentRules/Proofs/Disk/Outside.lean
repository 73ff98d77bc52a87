import DocumentRules.Disk.FileEvaluation
import DocumentRules.Proofs.Disk.Following

/-!
# Files outside the root

An absolute path leads, if it leads anywhere, to the place that is left of it when its dots are
resolved (`Volume.eq_placeOf_of_locate?`). A file lies outside the root when that place is not
beneath the root's. It should then match no condition but the empty one.

This is so exactly if the path of the file, as it is written, does not begin with the components of
the root (`FileEvaluator.never_matches_outside_iff`). A path that begins with them is taken relative
to the root, and if it leads out again, by climbing above the root with pairs of dots, then it is
evaluated nevertheless, and a search reads the file outside (`exists_match_outside`).
-/

set_option autoImplicit false
set_option relaxedAutoImplicit false

namespace DocumentRules.Disk

open Text Condition History Evaluation

/-! ### The place that a path denotes -/

/-- The place one component further on, by the path alone: nothing is looked up. -/
def Component.goFrom (place : Place) : Component → Place
  | .top => []
  | .current => place
  | .parent => place.dropLast
  | .name text => place ++ [text]

/-- The place of an absolute path once its dots are resolved. -/
def placeOf (path : List Char) : Place := (components path).foldl Component.goFrom []

/-- A path, its dots resolved, is that of the root or of something beneath it. -/
def LiesUnder (root path : List Char) : Prop := placeOf root <+: placeOf path

instance (root path : List Char) : Decidable (LiesUnder root path) :=
  inferInstanceAs (Decidable (placeOf root <+: placeOf path))

/-- The components of a path that are no segments of it lead nowhere else. -/
theorem foldl_goFrom_components {path : List Char} (hpath : isAbsolute path = false)
    (place : Place) :
    (components path).foldl Component.goFrom place =
      ((pathSegments path).map Component.ofSegment).foldl Component.goFrom place := by
  unfold components leadingComponents
  rw [if_neg (by rw [hpath]; exact Bool.false_ne_true)]
  split <;> rfl

theorem placeOf_of_isAbsolute {path : List Char} (hpath : isAbsolute path = true) :
    placeOf path = ((pathSegments path).map Component.ofSegment).foldl Component.goFrom [] := by
  rw [placeOf, components_of_isAbsolute hpath]
  rfl

namespace Volume

variable {volume : Volume} {place next : Place}

/-- A piece of a path that can be followed leads where its component does. -/
theorem eq_of_follow? {piece : List Char} (h : volume.follow? place piece = some next) :
    next = if isSegment piece then (Component.ofSegment piece).goFrom place else place := by
  unfold follow? at h
  split at h
  · cases h
  split at h
  · rename_i hblank
    obtain rfl := Option.some.inj h
    rw [if_neg]
    simp only [isSegment, bne, ← Bool.not_or, hblank]
    exact Bool.false_ne_true
  rename_i hblank
  have hsegment : isSegment piece = true := by
    simpa [isSegment, bne, ← Bool.not_or] using hblank
  rw [if_pos hsegment, Component.ofSegment]
  split at h
  · rename_i hdots
    rw [if_pos (beq_iff_eq.mp hdots)]
    exact (Option.some.inj h).symm
  · rename_i hdots
    rw [if_neg (mt beq_iff_eq.mpr hdots)]
    split at h
    · exact (Option.some.inj h).symm
    · cases h

theorem eq_foldl_of_followAll? {pieces : List (List Char)}
    (h : volume.followAll? place pieces = some next) :
    next = ((pieces.filter isSegment).map Component.ofSegment).foldl Component.goFrom place := by
  induction pieces generalizing place with
  | nil => exact (Option.some.inj h).symm
  | cons piece rest ih =>
    obtain ⟨middle, hmiddle, hrest⟩ := Option.bind_eq_some_iff.mp h
    rw [ih hrest, eq_of_follow? hmiddle, List.filter_cons]
    split <;> rfl

/-- An absolute path that leads anywhere leads to the place that it denotes. -/
theorem eq_placeOf_of_locate? {path : List Char} (hpath : isAbsolute path = true)
    (h : volume.locate? path = some place) : place = placeOf path := by
  unfold locate? at h
  split at h
  · rw [startOf, if_pos hpath] at h
    rw [placeOf_of_isAbsolute hpath]
    exact eq_foldl_of_followAll? h
  · cases h

/-- A file that is read stands at the place that its path leads to. -/
theorem exists_locate?_of_read? {path : List Char} {bytes : Bytes}
    (h : volume.read? path = some bytes) :
    ∃ place, volume.locate? path = some place ∧ volume.item? place = some (.file bytes) := by
  unfold read? at h
  split at h
  · rename_i content hitem
    obtain rfl := Option.some.inj h
    exact Option.bind_eq_some_iff.mp hitem
  · cases h

end Volume

/-! ### Climbing -/

/-- Whether some components climb above where they start, from so many names beneath it. -/
def climbsFrom : Nat → List Component → Bool
  | _, [] => false
  | 0, .parent :: _ => true
  | depth + 1, .parent :: rest => climbsFrom depth rest
  | depth, .name _ :: rest => climbsFrom (depth + 1) rest
  | depth, .top :: rest | depth, .current :: rest => climbsFrom depth rest

theorem parent_mem_of_climbsFrom {depth : Nat} {parts : List Component}
    (h : climbsFrom depth parts = true) : .parent ∈ parts := by
  fun_induction climbsFrom depth parts <;> simp_all

/-- Components that do not climb above a place stay beneath it. -/
theorem prefix_foldl_goFrom (place : Place) {beneath : Place} {parts : List Component}
    (htop : .top ∉ parts) (h : climbsFrom beneath.length parts = false) :
    place <+: parts.foldl Component.goFrom (place ++ beneath) := by
  induction parts generalizing beneath with
  | nil => exact List.prefix_append place beneath
  | cons part rest ih =>
    have hrest : .top ∉ rest := List.not_mem_of_not_mem_cons htop
    cases part with
    | top => exact absurd List.mem_cons_self htop
    | current => exact ih hrest (by simpa [climbsFrom] using h)
    | name text =>
      have hnext : place ++ beneath ++ [text] = place ++ (beneath ++ [text]) :=
        List.append_assoc place beneath [text]
      rw [List.foldl_cons, Component.goFrom, hnext]
      exact ih hrest (by simpa [climbsFrom] using h)
    | parent =>
      -- there is a name beneath the place to go up from
      cases hbeneath : beneath with
      | nil => simp [hbeneath, climbsFrom] at h
      | cons first others =>
        rw [List.foldl_cons, Component.goFrom,
          List.dropLast_append_of_ne_nil (List.cons_ne_nil first others)]
        exact ih hrest (by simpa [hbeneath, climbsFrom] using h)

/-! ### What the root leaves of a path -/

theorem ne_nil_of_isAbsolute {path : List Char} (hpath : isAbsolute path = true) : path ≠ [] := by
  rintro rfl
  exact Bool.false_ne_true hpath

/-- A relative path that is joined to another one has its own pieces behind those of the other. -/
theorem exists_splitOn_joinPath {base path : List Char} (hbase : base ≠ [])
    (hpath : isAbsolute path = false) :
    ∃ front, splitOn '/' (joinPath base path) = front ++ splitOn '/' path ∧
      front.filter isSegment = pathSegments base := by
  rw [Volume.joinPath_eq hbase hpath]
  split
  · rename_i hlast
    obtain ⟨front, rfl⟩ := List.getLast?_eq_some_iff.mp hlast
    refine ⟨splitOn '/' front, ?_, ?_⟩
    · rw [List.append_assoc, List.singleton_append, splitOn_append_separator]
    · rw [pathSegments, splitOn_append_separator, splitOn_nil, List.filter_append]
      exact (List.append_nil _).symm
  · exact ⟨splitOn '/' base, splitOn_append_separator '/' base path, rfl⟩

theorem pathSegments_joinPath {base path : List Char} (hbase : base ≠ [])
    (hpath : isAbsolute path = false) :
    pathSegments (joinPath base path) = pathSegments base ++ pathSegments path := by
  obtain ⟨front, hpieces, hfront⟩ := exists_splitOn_joinPath hbase hpath
  rw [pathSegments, hpieces, List.filter_append, hfront]
  rfl

theorem isAbsolute_joinPath {base path : List Char} (hbase : isAbsolute base = true)
    (hpath : isAbsolute path = false) : isAbsolute (joinPath base path) = true := by
  have hne := ne_nil_of_isAbsolute hbase
  rw [Volume.joinPath_eq hne hpath]
  obtain ⟨character, characters, rfl⟩ := List.exists_cons_of_ne_nil hne
  split <;> exact hbase

theorem stripBase?_eq_none_iff {base path : List Char} :
    stripBase? base path = none ↔ ¬ components base <+: components path := by
  unfold stripBase?
  rw [← List.isPrefixOf_iff_prefix]
  split <;> simp [*]

theorem placeOf_of_stripBase? {root file rest : List Char}
    (hrest : stripBase? root file = some rest) :
    placeOf file = (components rest).foldl Component.goFrom (placeOf root) := by
  rw [placeOf, components_of_stripBase? hrest, List.foldl_append]
  rfl

section Rest

variable {root file rest : List Char} (hroot : isAbsolute root = true)
  (hrest : stripBase? root file = some rest)

include hroot hrest

theorem top_not_mem_of_stripBase? : .top ∉ components rest := by
  have hcomponents := components_of_stripBase? hrest
  have hfile : isAbsolute file = true := by
    refine isAbsolute_of_mem_components ?_
    rw [hcomponents, components_of_isAbsolute hroot]
    exact List.mem_cons_self
  rw [components_of_isAbsolute hfile, components_of_isAbsolute hroot, List.cons_append]
    at hcomponents
  intro htop
  have hsegment := List.mem_append_right ((pathSegments root).map Component.ofSegment) htop
  rw [← (List.cons.inj hcomponents).2] at hsegment
  obtain ⟨segment, -, heq⟩ := List.mem_map.mp hsegment
  exact Component.ofSegment_ne_top segment heq

theorem isAbsolute_of_stripBase? : isAbsolute rest = false := by
  refine Bool.eq_false_iff.mpr fun hrestAbsolute ↦ top_not_mem_of_stripBase? hroot hrest ?_
  rw [components_of_isAbsolute hrestAbsolute]
  exact List.mem_cons_self

/-- A path that begins with the root as it is written, and lies outside, climbs above the root. -/
theorem climbs_of_not_liesUnder (houtside : ¬ LiesUnder root file) :
    climbsFrom 0 (components rest) = true := by
  by_contra hstays
  refine houtside ?_
  have hprefix := @prefix_foldl_goFrom (placeOf root) [] (components rest)
    (top_not_mem_of_stripBase? hroot hrest) (Bool.eq_false_iff.mpr hstays)
  rw [List.append_nil, ← placeOf_of_stripBase? hrest] at hprefix
  exact hprefix

/-- What is left of a path denotes the same place behind the root as the path does. -/
theorem placeOf_joinPath : placeOf (joinPath root rest) = placeOf file := by
  have hrelative := isAbsolute_of_stripBase? hroot hrest
  rw [placeOf_of_isAbsolute (isAbsolute_joinPath hroot hrelative),
    pathSegments_joinPath (ne_nil_of_isAbsolute hroot) hrelative, List.map_append,
    List.foldl_append, ← placeOf_of_isAbsolute hroot, placeOf_of_stripBase? hrest,
    foldl_goFrom_components hrelative]

end Rest

/-! ### Matching files by absolute paths -/

namespace FileEvaluator

variable {evaluator : FileEvaluator} {file rest : List Char}

/-- A relative path does not begin with an absolute root. -/
theorem relative?_of_isAbsolute_root (hroot : isAbsolute evaluator.root = true)
    (hfile : isAbsolute file = false) : evaluator.relative? file = some file := by
  unfold relative?
  rw [stripBase?_eq_none_of_isAbsolute hroot hfile, hfile]
  rfl

theorem relative?_of_stripBase? (hrest : stripBase? evaluator.root file = some rest) :
    evaluator.relative? file = some rest := by
  unfold relative?
  rw [hrest]

/-- A path that begins with the root is evaluated as what is left of it. -/
theorem inquire_of_stripBase? [PatternLibrary] (hroot : isAbsolute evaluator.root = true)
    (hrest : stripBase? evaluator.root file = some rest) :
    evaluator.inquire file = evaluator.inquire rest := by
  have hrelative := relative?_of_isAbsolute_root hroot (isAbsolute_of_stripBase? hroot hrest)
  funext condition
  unfold inquire
  rw [relative?_of_stripBase? hrest, hrelative]

/-- An absolute path that does not begin with the root satisfies no condition but the empty one. -/
theorem satisfies_of_stripBase?_eq_none [PatternLibrary] (hfile : isAbsolute file = true)
    (hnone : stripBase? evaluator.root file = none) (backend : Backend) {condition : Condition}
    (hcondition : condition ≠ []) : evaluator.satisfies backend file condition = false := by
  have hrelative : evaluator.relative? file = none := by
    unfold relative?
    rw [hnone, hfile]
    rfl
  unfold satisfies inquire
  rw [hrelative]
  exact List.isEmpty_eq_false_iff.mpr hcondition

/-- A condition that is true of everything is true of a path that begins with the root. -/
theorem satisfies_literal_of_stripBase? [PatternLibrary]
    (hrest : stripBase? evaluator.root file = some rest) (backend : Backend) :
    evaluator.satisfies backend file [.literal true] = true := by
  unfold satisfies inquire
  rw [relative?_of_stripBase? hrest]
  rfl

/-- What a search reads is at the place that the path denotes. -/
theorem exists_item?_placeOf_of_content? (hroot : isAbsolute evaluator.root = true)
    (hrest : stripBase? evaluator.root file = some rest) {text : String}
    (htext : evaluator.content? rest = some text) :
    ∃ bytes, evaluator.volume.item? (placeOf file) = some (.file bytes) ∧
      text = String.ofList (decodeLossy bytes) := by
  obtain ⟨bytes, hread, htext⟩ := Option.bind_eq_some_iff.mp htext
  obtain ⟨place, hplace, hitem⟩ := Volume.exists_locate?_of_read? hread
  split at htext
  · have hrelative := isAbsolute_of_stripBase? hroot hrest
    have hdenoted := Volume.eq_placeOf_of_locate? (isAbsolute_joinPath hroot hrelative) hplace
    rw [placeOf_joinPath hroot hrest] at hdenoted
    exact ⟨bytes, hdenoted ▸ hitem, (Option.some.inj htext).symm⟩
  · cases htext

/-- Assumes: an evaluator with an absolute root, and an absolute path that lies outside the root
once its dots are resolved.

The file matches no condition but the empty one, whatever a history says, exactly if its path does
not begin with the components of the root as it is written. This is so of every path that holds no
pair of dots. A path that does begin with the root climbs above it further on. It is evaluated as
what is left of it, and a search in it reads the file that stands outside. -/
theorem never_matches_outside_iff [PatternLibrary] (hroot : isAbsolute evaluator.root = true)
    (hfile : isAbsolute file = true) (houtside : ¬ LiesUnder evaluator.root file) :
    ((∀ backend condition, condition ≠ [] → evaluator.satisfies backend file condition = false) ↔
      ¬ components evaluator.root <+: components file) ∧
    (.parent ∉ components file → ¬ components evaluator.root <+: components file) ∧
    ∀ rest, stripBase? evaluator.root file = some rest →
      climbsFrom 0 (components rest) = true ∧ evaluator.inquire file = evaluator.inquire rest ∧
      ∀ text, evaluator.content? rest = some text →
        ∃ bytes, evaluator.volume.item? (placeOf file) = some (.file bytes) ∧
          text = String.ofList (decodeLossy bytes) := by
  have hclimbs : ∀ {rest}, stripBase? evaluator.root file = some rest →
      climbsFrom 0 (components rest) = true :=
    fun hrest ↦ climbs_of_not_liesUnder hroot hrest houtside
  refine ⟨?_, fun hdots ↦ ?_, fun rest hrest ↦ ⟨hclimbs hrest, inquire_of_stripBase? hroot hrest,
    fun text ↦ exists_item?_placeOf_of_content? hroot hrest⟩⟩
  · rw [← stripBase?_eq_none_iff]
    constructor
    · intro hnever
      cases hrest : stripBase? evaluator.root file with
      | none => rfl
      | some rest =>
        have hmatches := satisfies_literal_of_stripBase? hrest CommitLog.empty.answer
        rw [hnever _ _ (List.cons_ne_nil _ _)] at hmatches
        cases hmatches
    · exact fun hnone backend condition ↦ satisfies_of_stripBase?_eq_none hfile hnone backend
  · rw [← stripBase?_eq_none_iff, Option.eq_none_iff_forall_ne_some]
    intro rest hrest
    refine hdots ?_
    rw [components_of_stripBase? hrest]
    exact List.mem_append_right _ (parent_mem_of_climbsFrom (hclimbs hrest))

end FileEvaluator

/-- A file system with a directory that is given to an evaluator, and a file beside it. -/
def roomVolume : Volume where
  items := [([['r', 'o', 'o', 'm']], .directory), ([['o', 'u', 't', '.', 'm', 'd']],
    .file (encodeText "text"))]

/-- An evaluator for the directory. -/
def roomEvaluator : FileEvaluator where
  volume := roomVolume
  root := ['/', 'r', 'o', 'o', 'm']

/-- By its plain path the file beside the directory matches nothing. By the path that enters the
directory and leaves it again the file matches some condition. -/
theorem never_matches_outside_iff_room :
    (∀ backend condition, condition ≠ [] →
      roomEvaluator.satisfies backend "/out.md".toList condition = false) ∧
    ¬ ∀ backend condition, condition ≠ [] →
      roomEvaluator.satisfies backend "/room/./../out.md".toList condition = false := by
  have hroot : isAbsolute roomEvaluator.root = true := rfl
  have hplain : ¬ LiesUnder roomEvaluator.root "/out.md".toList := by decide
  have hwinding : ¬ LiesUnder roomEvaluator.root "/room/./../out.md".toList := by decide
  obtain ⟨hnever, hdots, -⟩ := FileEvaluator.never_matches_outside_iff hroot rfl hplain
  obtain ⟨hmatches, -⟩ := FileEvaluator.never_matches_outside_iff hroot rfl hwinding
  exact ⟨hnever.mpr (hdots (by decide)), mt hmatches.mp (not_not_intro (by decide))⟩

/-- The file beside the directory lies outside the root, and is found by its extension and by a part
of its content when its path begins with the root and climbs out of it. -/
theorem exists_match_outside :
    ∃ (evaluator : FileEvaluator) (file : List Char) (backend : Backend) (condition : Condition),
      isAbsolute evaluator.root = true ∧ isAbsolute file = true ∧
      ¬ LiesUnder evaluator.root file ∧ condition ≠ [] ∧
      evaluator.satisfies backend file condition = true := by
  refine ⟨roomEvaluator, "/room/../out.md".toList, CommitLog.empty.answer,
    [.comparison ⟨⟨"ext", .extension⟩, .equal, .ofText "md"⟩, .connective .and,
      .comparison ⟨⟨"case_text", .caseText⟩, .equal, .ofText "ex"⟩], rfl, rfl, by decide,
    List.cons_ne_nil _ _, ?_⟩
  decide

end DocumentRules.Disk
