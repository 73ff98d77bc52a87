import DocumentRules.Disk.Volume
import DocumentRules.Proofs.Text.Segments
import DocumentRules.Proofs.Text.Utf8

/-!
# Following paths on disk

A path is followed piece by piece, so the pieces behind a directory are followed from there
(`followAll?_append`). A relative path that is joined to another path is therefore followed from
where the other one leads (`locate?_joinPath`). Empty pieces, which repeated slashes leave, make
no difference to whether a directory is reached (`any_isDirectoryAt_filter`).

A relative path without dots among its segments has its segments as components
(`components_of_segments`).
-/

set_option autoImplicit false
set_option relaxedAutoImplicit false

namespace DocumentRules.Disk

open Text

/-! ### Components -/

theorem isAbsolute_dropWhile_slash (path : List Char) :
    isAbsolute (path.dropWhile (· == '/')) = false := by
  induction path with
  | nil => rfl
  | cons character rest ih =>
    rw [List.dropWhile_cons]
    split
    · exact ih
    · rename_i hslash
      simpa [isAbsolute] using hslash

/-- A path that is made of names of files is relative. -/
theorem isAbsolute_joinWith {names : List (List Char)} (h : ∀ name ∈ names, IsFileName name) :
    isAbsolute (joinWith '/' names) = false := by
  match names with
  | [] => rfl
  | [] :: _ => exact absurd rfl (h [] List.mem_cons_self).ne_nil
  | (character :: characters) :: rest =>
    have hne : character ≠ '/' := fun heq ↦
      (h _ List.mem_cons_self).not_mem_slash (heq ▸ List.mem_cons_self)
    cases rest <;> simp [isAbsolute, joinWith, hne]

/-- Assumes: a relative path without dots or pairs of dots among its segments. Its components are
its segments. -/
theorem components_of_segments {path : List Char} (hrelative : isAbsolute path = false)
    (hdots : ∀ segment ∈ segments path, segment ≠ ['.'] ∧ segment ≠ ['.', '.']) :
    components path = (segments path).map .name := by
  have hpieces : ∀ piece ∈ splitOn '/' path, isSegment piece = !piece.isEmpty := by
    intro piece hpiece
    unfold isSegment
    cases hempty : piece.isEmpty with
    | true => rfl
    | false =>
      have hmem : piece ∈ segments path := List.mem_filter.mpr ⟨hpiece, by rw [hempty]; rfl⟩
      exact bne_iff_ne.mpr (hdots piece hmem).1
  have hleading : leadingComponents path = [] := by
    unfold leadingComponents
    rw [if_neg (by rw [hrelative]; exact Bool.false_ne_true), if_neg]
    intro hhead
    have hmem : ['.'] ∈ segments path :=
      List.mem_filter.mpr ⟨List.mem_of_mem_head? (Option.mem_def.mpr hhead), rfl⟩
    exact (hdots _ hmem).1 rfl
  rw [components, hleading, List.nil_append, pathSegments, List.filter_congr hpieces]
  exact List.map_congr_left fun segment hsegment ↦ if_neg (hdots segment hsegment).2

/-- A relative path does not begin with an absolute one. -/
theorem stripBase?_eq_none_of_isAbsolute {base path : List Char} (hbase : isAbsolute base = true)
    (hpath : isAbsolute path = false) : stripBase? base path = none := by
  refine if_neg fun hprefix ↦ Bool.eq_false_iff.mp hpath (isAbsolute_of_mem_components ?_)
  refine (List.isPrefixOf_iff_prefix.mp hprefix).subset ?_
  rw [components_of_isAbsolute hbase]
  exact List.mem_cons_self

/-! ### Following -/

namespace Volume

variable {volume : Volume}

theorem followAll?_append (volume : Volume) (place : Place) (front back : List (List Char)) :
    volume.followAll? place (front ++ back) =
      (volume.followAll? place front).bind fun next ↦ volume.followAll? next back := by
  induction front generalizing place with
  | nil => rfl
  | cons piece rest ih =>
    simp only [List.cons_append, followAll?, ih, Option.bind_assoc]

theorem follow?_nil (volume : Volume) (place : Place) :
    volume.follow? place [] = if volume.isDirectoryAt place then some place else none := by
  unfold follow?
  cases volume.isDirectoryAt place <;> rfl

/-- The name of a file leads from a directory to what is there by the name. -/
theorem follow?_of_isFileName (volume : Volume) (place : Place) {name : List Char}
    (hname : IsFileName name) :
    volume.follow? place name =
      if volume.isDirectoryAt place && decide (byteLength name ≤ nameLimit) &&
          (volume.item? (place ++ [name])).isSome then
        some (place ++ [name])
      else none := by
  have hempty : name.isEmpty = false := List.isEmpty_eq_false_iff.mpr hname.ne_nil
  have hdot : (name == ['.']) = false := beq_eq_false_iff_ne.mpr hname.ne_dot
  have hdots : (name == ['.', '.']) = false := beq_eq_false_iff_ne.mpr hname.ne_dots
  unfold follow?
  rw [hempty, hdot, hdots]
  cases volume.isDirectoryAt place <;> rfl

/-- A piece of a path can only be followed from a directory. -/
theorem follow?_eq_none {place : Place} (h : volume.isDirectoryAt place = false)
    (piece : List Char) : volume.follow? place piece = none := by
  unfold follow?
  rw [h]
  rfl

/-- Empty pieces make no difference to whether a directory is reached. -/
theorem any_isDirectoryAt_filter (volume : Volume) (place : Place) (pieces : List (List Char)) :
    (volume.followAll? place pieces).any volume.isDirectoryAt =
      (volume.followAll? place (pieces.filter fun piece ↦ !piece.isEmpty)).any
        volume.isDirectoryAt := by
  induction pieces generalizing place with
  | nil => rfl
  | cons piece rest ih =>
    cases piece with
    | cons character characters =>
      simp only [List.filter_cons, List.isEmpty_cons, Bool.not_false, if_true, followAll?]
      cases volume.follow? place (character :: characters) with
      | none => rfl
      | some next => exact ih next
    | nil =>
      simp only [List.filter_cons, List.isEmpty_nil, Bool.not_true, Bool.false_eq_true, if_false,
        followAll?, follow?_nil]
      cases hdirectory : volume.isDirectoryAt place with
      | true => exact ih place
      | false =>
        cases hrest : rest.filter fun piece ↦ !piece.isEmpty with
        | nil => simp [followAll?, hdirectory]
        | cons next others => simp [followAll?, follow?_eq_none hdirectory]

/-- A path that leads somewhere is not empty and holds no NUL. -/
theorem isPassable_of_locate? {path : List Char} {place : Place}
    (h : volume.locate? path = some place) : isPassable path = true := by
  unfold locate? at h
  split at h
  · assumption
  · exact nomatch h

/-- A relative path is joined to one that is not empty by a slash, unless that one ends in a slash.
-/
theorem joinPath_eq {base path : List Char} (hbase : base ≠ []) (hpath : isAbsolute path = false) :
    joinPath base path =
      if base.getLast? = some '/' then base ++ path else base ++ '/' :: path := by
  unfold joinPath
  rw [hpath, List.isEmpty_eq_false_iff.mpr hbase, if_neg (by decide)]

/-- Assumes: a path that leads somewhere, and a relative one. Joined, they can be followed if the
second holds no NUL and they are short enough together. -/
theorem isPassable_joinPath {base path : List Char} {place : Place}
    (hbase : volume.locate? base = some place) (hpath : isAbsolute path = false)
    (hnul : '\x00' ∉ path) (hlength : byteLength (joinPath base path) ≤ pathLimit) :
    isPassable (joinPath base path) = true := by
  obtain ⟨hne, hbaseNul, -⟩ : base ≠ [] ∧ '\x00' ∉ base ∧ _ := by
    simpa [isPassable, and_assoc] using isPassable_of_locate? hbase
  unfold isPassable
  rw [Bool.and_eq_true, Bool.and_eq_true]
  refine ⟨?_, decide_eq_true hlength⟩
  rw [joinPath_eq hne hpath]
  split <;> simp [hne, hbaseNul, hnul]

/-- Assumes: a path that leads somewhere, and a relative one. Joined, they are followed from where
the first leads to, if they can be followed at all. -/
theorem locate?_joinPath {base path : List Char} {place : Place}
    (hbase : volume.locate? base = some place) (hpath : isAbsolute path = false) :
    volume.locate? (joinPath base path) =
      if isPassable (joinPath base path) then volume.followAll? place (splitOn '/' path)
      else none := by
  have hpassable := isPassable_of_locate? hbase
  have hne : base ≠ [] := by
    rintro rfl
    exact absurd hpassable (by decide)
  rw [locate?, if_pos hpassable] at hbase
  have hstart : volume.startOf (joinPath base path) = volume.startOf base := by
    obtain ⟨character, rest, rfl⟩ := List.exists_cons_of_ne_nil hne
    rw [joinPath_eq hne hpath]
    split <;> rfl
  have hpieces : volume.followAll? (volume.startOf base) (splitOn '/' (joinPath base path)) =
      volume.followAll? place (splitOn '/' path) := by
    rw [joinPath_eq hne hpath]
    split
    · rename_i hlast
      -- the slash at the end of the base leaves an empty piece, which asks for a directory
      obtain ⟨front, hfront⟩ := List.getLast?_eq_some_iff.mp hlast
      rw [hfront, splitOn_append_separator, followAll?_append, ← hfront] at hbase
      rw [hfront, List.append_assoc, List.singleton_append, splitOn_append_separator,
        followAll?_append, ← hfront]
      obtain ⟨next, hnext, hplace⟩ := Option.bind_eq_some_iff.mp hbase
      rw [hnext, Option.bind_some]
      rw [splitOn_nil, followAll?, follow?_nil] at hplace
      split at hplace
      · rw [Option.some.inj hplace]
      · exact nomatch hplace
    · rw [splitOn_append_separator, followAll?_append, hbase, Option.bind_some]
  rw [locate?, hstart, hpieces]

end Volume

/-! ### Long paths -/

/-- A text has no more characters than bytes. -/
theorem length_le_byteLength (text : List Char) : text.length ≤ byteLength text := by
  unfold byteLength
  induction text with
  | nil => exact Nat.le_refl 0
  | cons character rest ih =>
    have hpos : 0 < (encodeCharacter character).length := by
      rw [length_encodeCharacter]
      unfold encodedWidth
      split_ifs <;> decide
    rw [List.flatMap_cons, List.length_append, List.length_cons]
    omega

/-- A path that is too long leads to no directory. -/
theorem Volume.isDirectory_eq_false (volume : Volume) {path : List Char}
    (h : pathLimit < path.length) : volume.isDirectory path = false := by
  have hblocked : Volume.isPassable path = false := by
    have hlength := Nat.lt_of_lt_of_le h (length_le_byteLength path)
    unfold Volume.isPassable
    rw [Bool.and_eq_false_iff]
    exact Or.inr (decide_eq_false (Nat.not_le_of_lt hlength))
  rw [Volume.isDirectory, Volume.locate?, hblocked]
  rfl

end DocumentRules.Disk
