import DocumentRules.Archive.Blob
import DocumentRules.Disk.Volume

/-!
# Archives on disk

An entry may be archived in a file. Saving writes its blob, and loading decodes what is in the file.
-/

set_option autoImplicit false
set_option relaxedAutoImplicit false

namespace DocumentRules.Archive

open Disk Report

/-- Why an entry cannot be loaded. -/
inductive LoadError where
  /-- There is no file to read. -/
  | unreadable
  /-- The file holds no entry. -/
  | blob (error : BlobError)
  deriving DecidableEq, Repr

/-- The file system after an entry was saved under a path, if a file can be written there. -/
def save? (volume : Volume) (path : List Char) (entry : Entry) (source? : Option String) :
    Option Volume :=
  volume.write? path (encode entry source?)

/-- The entry in the file under a path. -/
def load? (volume : Volume) (path : List Char) : Except LoadError Entry :=
  match volume.read? path with
  | none => .error .unreadable
  | some blob => (decode? blob).mapError .blob

end DocumentRules.Archive
