import DocumentRules.Text.Segments

/-!
# Paths on disk

A path on disk is a text of names separated by slashes. Paths are compared by their components:
repeated slashes, slashes at the end and a dot in the middle make no difference, but a dot at the
start of a relative path is a component, and so is every pair of dots, which is not resolved.

A path that begins with the components of another can be taken relative to it. Whatever the base,
`components_of_stripBase?` says that the components of the two parts make up those of the path.
-/

set_option autoImplicit false
set_option relaxedAutoImplicit false

namespace DocumentRules.Disk

open Text

/-- A component of a path. -/
inductive Component where
  /-- The slash at the start of an absolute path. -/
  | top
  /-- The dot at the start of a relative path. -/
  | current
  /-- A pair of dots. -/
  | parent
  | name (text : List Char)
  deriving DecidableEq, Repr

/-- How a component is written. -/
def Component.text : Component → List Char
  | .top => ['/']
  | .current => ['.']
  | .parent => ['.', '.']
  | .name text => text

/-- The component that a segment of a path stands for. -/
def Component.ofSegment (segment : List Char) : Component :=
  if segment = ['.', '.'] then .parent else .name segment

/-- Whether a path starts at the top of the file system. -/
def isAbsolute (path : List Char) : Bool := path.head? == some '/'

/-- The component at the start of a path that is no segment of it. -/
def leadingComponents (path : List Char) : List Component :=
  if isAbsolute path then [.top]
  else if (splitOn '/' path).head? = some ['.'] then [.current]
  else []

/-- Whether a piece of a path between slashes stands for a component. -/
def isSegment (piece : List Char) : Bool := !piece.isEmpty && piece != ['.']

/-- The pieces of a path that stand for components. -/
def pathSegments (path : List Char) : List (List Char) := (splitOn '/' path).filter isSegment

/-- The components of a path. -/
def components (path : List Char) : List Component :=
  leadingComponents path ++ (pathSegments path).map Component.ofSegment

/-- The path of some components, none of them the slash at the start. -/
def ofComponents (parts : List Component) : List Char :=
  joinWith '/' (parts.map Component.text)

/-- A path taken relative to another one; an absolute path is not. -/
def joinPath (base path : List Char) : List Char :=
  if isAbsolute path || base.isEmpty then path
  else if base.getLast? = some '/' then base ++ path
  else base ++ '/' :: path

/-- The pieces of a path behind the first `count` that stand for components. -/
def piecesAfter : Nat → List (List Char) → List (List Char)
  | 0, pieces => pieces
  | _ + 1, [] => []
  | count + 1, piece :: pieces =>
    if isSegment piece then piecesAfter count pieces else piecesAfter (count + 1) pieces

/-- Pieces of a path without those at the end that stand for no component. -/
def trimLastPieces (pieces : List (List Char)) : List (List Char) :=
  (pieces.reverse.dropWhile (!isSegment ·)).reverse

/-- Pieces of a path without those at both ends that stand for no component. -/
def trimPieces (pieces : List (List Char)) : List (List Char) :=
  trimLastPieces (pieces.dropWhile (!isSegment ·))

/-- A path without what follows its last component. The slash or dot that is a component at the
start stays. -/
def trimTail (path : List Char) : List Char :=
  let start := (leadingComponents path).length
  path.take start ++ joinWith '/' (trimLastPieces (splitOn '/' (path.drop start)))

/-- What follows a path at the start of another, if its components stand there. Repeated slashes
and dots are left out at both ends and kept in between. The empty path takes nothing from the start
of the other, which stays as it is written. -/
def stripBase? (base path : List Char) : Option (List Char) :=
  if (components base).isPrefixOf (components path) then
    some (if base.isEmpty then trimTail path
      else joinWith '/'
        (trimPieces (piecesAfter (pathSegments base).length (splitOn '/' path))))
  else none

/-- The components of the folder that holds what a path names. -/
def folderComponents (path : List Char) : List Component := (components path).dropLast

/-- The extension of what a path names, if its last component is a name that has one. -/
def pathExtension? (path : List Char) : Option (List Char) :=
  match (components path).getLast? with
  | some (.name fileName) => extensionOf fileName
  | _ => none

/-! ### The component at the start -/

theorem components_of_isAbsolute {path : List Char} (h : isAbsolute path = true) :
    components path = .top :: (pathSegments path).map Component.ofSegment := by
  simp [components, leadingComponents, h]

theorem Component.ofSegment_ne_top (segment : List Char) : Component.ofSegment segment ≠ .top := by
  unfold Component.ofSegment
  split <;> simp

theorem Component.ofSegment_ne_current (segment : List Char) :
    Component.ofSegment segment ≠ .current := by
  unfold Component.ofSegment
  split <;> simp

theorem isAbsolute_of_mem_components {path : List Char} (h : .top ∈ components path) :
    isAbsolute path = true := by
  rcases List.mem_append.mp h with h | h
  · unfold leadingComponents at h
    split at h
    · assumption
    · split at h <;> simp at h
  · obtain ⟨segment, -, hsegment⟩ := List.mem_map.mp h
    exact absurd hsegment (Component.ofSegment_ne_top segment)

theorem leadingComponents_cases (path : List Char) :
    leadingComponents path = [.top] ∨ leadingComponents path = [.current] ∨
      leadingComponents path = [] := by
  unfold leadingComponents
  split
  · exact .inl rfl
  · split
    · exact .inr (.inl rfl)
    · exact .inr (.inr rfl)

/-- The first component of a path says which component at its start is no segment. -/
theorem leadingComponents_eq_filter (path : List Char) :
    leadingComponents path =
      (components path).head?.toList.filter fun part ↦ part = .top ∨ part = .current := by
  rw [components]
  rcases leadingComponents_cases path with h | h | h <;> rw [h]
  · rfl
  · rfl
  · cases pathSegments path with
    | nil => rfl
    | cons segment rest =>
      simp [Component.ofSegment_ne_top, Component.ofSegment_ne_current]

/-- A path that starts with a slash or a dot of its own starts with that character. -/
theorem eq_of_leadingComponents_ne_nil {path : List Char} (h : leadingComponents path ≠ []) :
    (∃ rest, path = '/' :: rest) ∨ path = ['.'] ∨ ∃ rest, path = '.' :: '/' :: rest := by
  unfold leadingComponents at h
  split at h
  · rename_i habsolute
    obtain ⟨rest, hrest⟩ := List.head?_eq_some_iff.mp (beq_iff_eq.mp habsolute)
    exact .inl ⟨rest, hrest⟩
  · split at h
    · rename_i hdot
      obtain ⟨pieces, hpieces⟩ := List.head?_eq_some_iff.mp hdot
      have hjoin := joinWith_splitOn '/' path
      rw [hpieces] at hjoin
      cases pieces with
      | nil => exact .inr (.inl hjoin.symm)
      | cons second rest => exact .inr (.inr ⟨_, hjoin.symm⟩)
    · exact absurd rfl h

/-- A path that starts with no slash or dot of its own starts with a segment. -/
theorem isSegment_of_mem_head? {path : List Char} (hne : path ≠ [])
    (hleading : leadingComponents path = []) :
    ∀ piece ∈ (splitOn '/' path).head?, isSegment piece = true := by
  intro first hfirst
  obtain ⟨rest, hpieces⟩ := List.head?_eq_some_iff.mp hfirst
  have hjoin := joinWith_splitOn '/' path
  rw [hpieces] at hjoin
  have hempty : first ≠ [] := by
    rintro rfl
    cases rest with
    | nil => exact hne hjoin.symm
    | cons second rest =>
      rw [← hjoin] at hleading
      cases hleading
  have hcurrent : first ≠ ['.'] := by
    rintro rfl
    unfold leadingComponents at hleading
    rw [if_pos (Option.mem_def.mp hfirst)] at hleading
    split at hleading <;> cases hleading
  simp [isSegment, hempty, hcurrent]

theorem components_ne_nil {path : List Char} (hne : path ≠ []) : components path ≠ [] := by
  by_cases hleading : leadingComponents path = []
  · obtain ⟨first, rest, hpieces⟩ := List.exists_cons_of_ne_nil (splitOn_ne_nil '/' path)
    have hfirst := isSegment_of_mem_head? hne hleading first (by rw [hpieces]; rfl)
    rw [components, pathSegments, hpieces, List.filter_cons_of_pos hfirst]
    simp
  · exact List.append_ne_nil_of_left_ne_nil hleading _

/-- Paths whose components begin alike start with the same slash or dot. -/
theorem leadingComponents_eq_of_prefix {base path : List Char} (hbase : base ≠ [])
    ( hprefix : components base <+: components path) :
    leadingComponents base = leadingComponents path := by
  obtain ⟨tail, htail⟩ := hprefix
  obtain ⟨first, others, hfirst⟩ := List.exists_cons_of_ne_nil (components_ne_nil hbase)
  rw [leadingComponents_eq_filter, leadingComponents_eq_filter path, ← htail, hfirst]
  rfl

/-! ### What a base leaves -/

theorem filter_piecesAfter (count : Nat) (pieces : List (List Char)) :
    (piecesAfter count pieces).filter isSegment = (pieces.filter isSegment).drop count := by
  induction pieces generalizing count with
  | nil => cases count <;> simp [piecesAfter]
  | cons piece pieces ih =>
    cases count with
    | zero => simp [piecesAfter]
    | succ count => by_cases h : isSegment piece <;> simp [piecesAfter, h, ih]

theorem mem_of_mem_piecesAfter {count : Nat} {pieces : List (List Char)} {piece : List Char}
    (h : piece ∈ piecesAfter count pieces) : piece ∈ pieces := by
  induction pieces generalizing count with
  | nil => cases count <;> simp [piecesAfter] at h
  | cons first pieces ih =>
    cases count with
    | zero => exact h
    | succ count =>
      unfold piecesAfter at h
      split at h <;> exact List.mem_cons_of_mem _ (ih h)

theorem filter_dropWhile_not (pieces : List (List Char)) :
    (pieces.dropWhile (!isSegment ·)).filter isSegment = pieces.filter isSegment := by
  induction pieces with
  | nil => rfl
  | cons piece pieces ih => by_cases h : isSegment piece <;> simp [h, ih]

theorem dropWhile_not_isSegment_eq_self {pieces : List (List Char)}
    (h : ∀ piece ∈ pieces.head?, isSegment piece = true) :
    pieces.dropWhile (!isSegment ·) = pieces := by
  cases pieces with
  | nil => rfl
  | cons piece rest =>
    rw [List.dropWhile_cons, h piece rfl]
    rfl

theorem filter_trimLastPieces (pieces : List (List Char)) :
    (trimLastPieces pieces).filter isSegment = pieces.filter isSegment := by
  rw [trimLastPieces, List.filter_reverse, filter_dropWhile_not, List.filter_reverse,
    List.reverse_reverse]

theorem filter_trimPieces (pieces : List (List Char)) :
    (trimPieces pieces).filter isSegment = pieces.filter isSegment := by
  rw [trimPieces, filter_trimLastPieces, filter_dropWhile_not]

theorem trimLastPieces_isPrefix (pieces : List (List Char)) : trimLastPieces pieces <+: pieces := by
  have hsuffix := List.dropWhile_suffix (!isSegment ·) (l := pieces.reverse)
  have hprefix := List.reverse_prefix.mpr hsuffix
  rwa [List.reverse_reverse] at hprefix

theorem mem_of_mem_trimPieces {pieces : List (List Char)} {piece : List Char}
    (h : piece ∈ trimPieces pieces) : piece ∈ pieces :=
  (List.dropWhile_sublist _).subset ((trimLastPieces_isPrefix _).subset h)

theorem isSegment_of_trimPieces {pieces rest : List (List Char)} {first : List Char}
    (h : trimPieces pieces = first :: rest) : isSegment first = true := by
  obtain ⟨tail, htail⟩ := trimLastPieces_isPrefix (pieces.dropWhile (!isSegment ·))
  change trimPieces pieces ++ tail = _ at htail
  have hhead := List.head?_dropWhile_not (!isSegment ·) pieces
  rw [← htail, h] at hhead
  simpa using hhead

/-- Trimmed pieces of a path are read back from the path that they make. -/
theorem components_joinWith_trimPieces {pieces : List (List Char)}
    (h : ∀ piece ∈ pieces, '/' ∉ piece) :
    components (joinWith '/' (trimPieces pieces)) =
      (pieces.filter isSegment).map Component.ofSegment := by
  have hslash : ∀ piece ∈ trimPieces pieces, '/' ∉ piece :=
    fun piece hpiece ↦ h piece (mem_of_mem_trimPieces hpiece)
  rw [← filter_trimPieces]
  cases htrim : trimPieces pieces with
  | nil => rfl
  | cons first rest =>
    rw [htrim] at hslash
    have hsegment : isSegment first = true := isSegment_of_trimPieces htrim
    have hsplit := splitOn_joinWith (List.cons_ne_nil first rest) hslash
    have hleading : leadingComponents (joinWith '/' (first :: rest)) = [] := by
      match first, hsegment, hslash first List.mem_cons_self with
      | character :: name, hsegment, hfirst =>
        have hne : character ≠ '/' := fun heq ↦ hfirst (heq ▸ List.mem_cons_self)
        have hdot : character :: name ≠ ['.'] := by
          intro heq
          rw [heq] at hsegment
          exact absurd hsegment (by decide)
        have habsolute : isAbsolute (joinWith '/' ((character :: name) :: rest)) = false := by
          cases rest <;> simp [isAbsolute, joinWith, hne]
        rw [leadingComponents, habsolute, hsplit]
        simp [hdot]
    rw [components, hleading, pathSegments, hsplit, List.nil_append]

theorem pathSegments_joinWith {pieces : List (List Char)} (h : ∀ piece ∈ pieces, '/' ∉ piece) :
    pathSegments (joinWith '/' pieces) = pieces.filter isSegment := by
  cases pieces with
  | nil => rfl
  | cons first rest => rw [pathSegments, splitOn_joinWith (List.cons_ne_nil first rest) h]

theorem pathSegments_joinWith_trimLastPieces (path : List Char) :
    pathSegments (joinWith '/' (trimLastPieces (splitOn '/' path))) = pathSegments path := by
  rw [pathSegments_joinWith fun piece hpiece ↦
    not_mem_of_mem_splitOn ((trimLastPieces_isPrefix _).subset hpiece), filter_trimLastPieces]
  rfl

theorem pathSegments_cons_slash (path : List Char) :
    pathSegments ('/' :: path) = pathSegments path := rfl

theorem eq_nil_or_eq_cons_slash_of_prefix {pieces : List (List Char)} {path : List Char}
    (h : pieces <+: splitOn '/' ('/' :: path)) :
    joinWith '/' pieces = [] ∨ ∃ rest, joinWith '/' pieces = '/' :: rest := by
  obtain rfl | ⟨_ | ⟨second, rest⟩, rfl, -⟩ := List.prefix_cons_iff.mp h
  · exact .inl rfl
  · exact .inl rfl
  · exact .inr ⟨_, rfl⟩

theorem components_dot_slash (path : List Char) :
    components ('.' :: '/' :: path) = .current :: (pathSegments path).map Component.ofSegment := rfl

/-- What follows the last component of a path adds nothing to its components. -/
theorem components_trimTail (path : List Char) : components (trimTail path) = components path := by
  by_cases hleading : leadingComponents path = []
  · by_cases hne : path = []
    · rw [hne]
      rfl
    · have hpieces := dropWhile_not_isSegment_eq_self (isSegment_of_mem_head? hne hleading)
      have htrim : trimTail path = joinWith '/' (trimPieces (splitOn '/' path)) := by
        rw [trimTail, hleading, trimPieces, hpieces]
        rfl
      rw [htrim, components_joinWith_trimPieces fun _ ↦ not_mem_of_mem_splitOn, components,
        hleading]
      rfl
  · obtain ⟨rest, rfl⟩ | rfl | ⟨rest, rfl⟩ := eq_of_leadingComponents_ne_nil hleading
    · change components ('/' :: joinWith '/' (trimLastPieces (splitOn '/' rest))) = _
      rw [components_of_isAbsolute rfl, components_of_isAbsolute rfl, pathSegments_cons_slash,
        pathSegments_cons_slash, pathSegments_joinWith_trimLastPieces]
    · rfl
    · change components ('.' :: joinWith '/' (trimLastPieces (splitOn '/' ('/' :: rest)))) = _
      have hsegments := pathSegments_joinWith_trimLastPieces ('/' :: rest)
      rw [components_dot_slash, ← pathSegments_cons_slash rest, ← hsegments]
      -- what is left behind the dot is nothing, or starts with the slash
      obtain hnil | ⟨left, hleft⟩ := eq_nil_or_eq_cons_slash_of_prefix (trimLastPieces_isPrefix _)
      · rw [hnil]
        rfl
      · rw [hleft, components_dot_slash, pathSegments_cons_slash]

/-- What a base leaves of a path has the components behind those of the base. -/
theorem components_of_stripBase? {base path rest : List Char}
    (h : stripBase? base path = some rest) :
    components path = components base ++ components rest := by
  unfold stripBase? at h
  split at h
  · rename_i hprefix
    obtain rfl := Option.some.inj h
    by_cases hbase : base = []
    · subst hbase
      exact (components_trimTail path).symm
    · have hprefix := List.isPrefixOf_iff_prefix.mp hprefix
      have hleading := leadingComponents_eq_of_prefix hbase hprefix
      obtain ⟨tail, htail⟩ := hprefix
      rw [if_neg (by simpa using hbase), components_joinWith_trimPieces fun piece hpiece ↦
        not_mem_of_mem_splitOn (mem_of_mem_piecesAfter hpiece), filter_piecesAfter, ← htail]
      unfold components at htail
      rw [hleading, List.append_assoc, List.append_cancel_left_eq] at htail
      have hdrop := congrArg (List.drop (pathSegments base).length) htail
      rw [List.drop_left' (by simp), ← List.map_drop] at hdrop
      rw [hdrop]
      rfl
  · simp at h

example : stripBase? [] "./docs//a.md/.".toList = some "./docs//a.md".toList := by decide

example : stripBase? "/".toList "//docs//a.md/.".toList = some "docs//a.md".toList := by decide

end DocumentRules.Disk
