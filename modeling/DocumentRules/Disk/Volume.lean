import DocumentRules.Disk.SlashPath
import DocumentRules.Text.Utf8

/-!
# A file system

A `Volume` is a file system as rules see it: directories and files with their contents, and the
place at which the program runs. A path is followed name by name, from the top if it is absolute and
from that place otherwise, and every step has to start at a directory that is there. Unlike a
comparison of paths, this resolves a pair of dots to the directory above the one reached so far, and
it lets a path end in a slash only if it names a directory. The directory above the top is the top.

A path that is empty, holds a NUL or is longer than 4095 bytes leads nowhere, and so does a name of
more than 255 bytes.
-/

set_option autoImplicit false
set_option relaxedAutoImplicit false

namespace DocumentRules.Disk

open Text

/-- The names on the way from the top of the file system to a place. -/
abbrev Place : Type := List (List Char)

/-- What is at a place. -/
inductive Item where
  | directory
  | file (content : Bytes)

/-- Directories and files by their places. The top is a directory in any case. -/
structure Volume where
  items : List (Place × Item)
  /-- The place that relative paths are followed from. -/
  workingPlace : Place := []

/-- The length of a text in UTF-8. -/
def byteLength (text : List Char) : Nat := (text.flatMap encodeCharacter).length

/-- The largest length of a name. -/
def nameLimit : Nat := 255

/-- The largest length of a path. -/
def pathLimit : Nat := 4095

namespace Volume

/-- The file system with nothing in it. -/
def empty : Volume where
  items := []

/-- What is at a place. -/
def item? (volume : Volume) (place : Place) : Option Item :=
  if place.isEmpty then some .directory else volume.items.lookup place

/-- Whether there is a directory at a place. -/
def isDirectoryAt (volume : Volume) (place : Place) : Bool :=
  match volume.item? place with
  | some .directory => true
  | _ => false

/-- The file system with something at a place, in the stead of what was there. -/
def put (volume : Volume) (place : Place) (item : Item) : Volume :=
  { volume with items := (place, item) :: volume.items }

/-! ### Laying out a file system -/

/-- A file system and a place in it, one component of a path further on. A directory is made there
if nothing was. -/
def enter : Volume × Place → Component → Volume × Place
  | (volume, place), .top | (volume, place), .current => (volume, place)
  | (volume, place), .parent => (volume, place.dropLast)
  | (volume, place), .name text =>
    let next := place ++ [text]
    (if (volume.item? next).isSome then volume else volume.put next .directory, next)

/-- The file system with a directory at every place that an absolute path passes through. -/
def makeDirectories (volume : Volume) (path : List Char) : Volume :=
  ((components path).foldl enter (volume, [])).1

/-- The file system with the file that an absolute path names, and with the directories that the
path passes through. -/
def makeFile (volume : Volume) (path : List Char) (content : Bytes) : Volume :=
  let (volume, folder) := (folderComponents path).foldl enter (volume, [])
  match (components path).getLast? with
  | some (.name fileName) => volume.put (folder ++ [fileName]) (.file content)
  | _ => volume

/-! ### Following paths -/

/-- The place that a segment of a path leads to from a place. -/
def follow? (volume : Volume) (place : Place) (segment : List Char) : Option Place :=
  if !volume.isDirectoryAt place then none
  else if segment.isEmpty || segment == ['.'] then some place
  else if segment == ['.', '.'] then some place.dropLast
  else if byteLength segment ≤ nameLimit && (volume.item? (place ++ [segment])).isSome then
    some (place ++ [segment])
  else none

/-- The place that segments of a path lead to from a place. -/
def followAll? (volume : Volume) (place : Place) : List (List Char) → Option Place
  | [] => some place
  | segment :: rest => (volume.follow? place segment).bind fun next ↦ volume.followAll? next rest

/-- Whether a path can be followed at all. -/
def isPassable (path : List Char) : Bool :=
  !path.isEmpty && !path.contains '\x00' && byteLength path ≤ pathLimit

/-- The place that a path is followed from. -/
def startOf (volume : Volume) (path : List Char) : Place :=
  if isAbsolute path then [] else volume.workingPlace

/-- The place that a path leads to. -/
def locate? (volume : Volume) (path : List Char) : Option Place :=
  if isPassable path then volume.followAll? (volume.startOf path) (splitOn '/' path) else none

/-- Whether a path leads to a directory. -/
def isDirectory (volume : Volume) (path : List Char) : Bool :=
  (volume.locate? path).any volume.isDirectoryAt

/-- The content of the file that a path leads to. -/
def read? (volume : Volume) (path : List Char) : Option Bytes :=
  match (volume.locate? path).bind volume.item? with
  | some (.file content) => some content
  | _ => none

/-- The place at which a path names a file that may be written: the directory that is to hold it is
there, and it is no directory itself. -/
def writable? (volume : Volume) (path : List Char) : Option Place :=
  if isPassable path then
    let pieces := splitOn '/' path
    let name := pieces.getLast?.getD []
    (volume.followAll? (volume.startOf path) pieces.dropLast).bind fun folder ↦
      let place := folder ++ [name]
      if volume.isDirectoryAt folder && !volume.isDirectoryAt place && !name.isEmpty &&
          name != ['.'] && name != ['.', '.'] && byteLength name ≤ nameLimit then
        some place
      else none
  else none

/-- The file system after a file was written, if it can be. -/
def write? (volume : Volume) (path : List Char) (content : Bytes) : Option Volume :=
  (volume.writable? path).map fun place ↦ volume.put place (.file content)

end Volume

end DocumentRules.Disk
