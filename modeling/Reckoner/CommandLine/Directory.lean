import Reckoner.Log.Event

/-!
# Files in the working directory

The working directory holds files only (`Directory`). A path is followed segment by segment
(`Place.follow`) from the working directory, or from the root where it starts with a slash.
An empty segment and `.` stay where they are, `..` leads up, and any other segment names an
entry. Nothing can be entered from a file, not even by a slash at the end of the path. Of
what lies outside the working directory nothing is known but that the directories above it
exist, so every name is missing there.

Names and whole paths have a greatest length in bytes. The empty path leads nowhere.
-/

namespace Reckoner.CommandLine

/-- The files of a directory that holds nothing else, by name. -/
abbrev Directory := List (String × ByteArray)

/-- The greatest length of a name, in bytes. -/
def longestName : Nat :=
  255

/-- The greatest length of a path, in bytes. -/
def longestPath : Nat :=
  4095

/-- Where a path has led so far. -/
inductive Place where
  /-- The working directory. -/
  | here
  /-- A directory above the working directory. -/
  | above
  /-- A file with its bytes. -/
  | file (bytes : ByteArray)

/-- Where a path starts. -/
def Place.start (path : String) : Place :=
  if path.toList.head? = some '/' then above else here

/-- The place that a name leads to from a directory. -/
def Place.entry (d : Directory) (place : Place) (name : String) : Except ReadFault Place :=
  if longestName < name.utf8ByteSize then .error .nameTooLong
  else match place, d.lookup name with
    | here, some bytes => .ok (file bytes)
    | _, _ => .error .missing

/-- Follow a path by one segment. -/
def Place.follow (d : Directory) (place : Place) (segment : List Char) :
    Except ReadFault Place :=
  match place, segment with
  | file _, _ => .error .notDirectory
  | place, [] => .ok place
  | place, ['.'] => .ok place
  | _, ['.', '.'] => .ok above
  | place, name => place.entry d (String.ofList name)

namespace Directory

/-- The place that a path leads to. -/
def locate (d : Directory) (path : String) : Except ReadFault Place :=
  if path.isEmpty then .error .missing
  else if longestPath < path.utf8ByteSize then .error .nameTooLong
  else (path.toList.splitOn '/').foldlM (Place.follow d) (Place.start path)

/-- The bytes of the file that a path leads to. -/
def read (d : Directory) (path : String) : Except ReadFault ByteArray :=
  match d.locate path with
  | .ok (.file bytes) => .ok bytes
  | .ok _ => .error .isDirectory
  | .error fault => .error fault

end Directory

end Reckoner.CommandLine
