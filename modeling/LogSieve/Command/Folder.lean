import LogSieve.Scan.Lines
import LogSieve.Text.Utf8

/-!
# Files by name

What a name leads to: the bytes of a file, a directory, or the reason why there is nothing. A
`Folder` is a directory that holds files only, in which names with dots and slashes are followed
part by part. A name that is too long as a whole is refused before it is followed, and a part that
is too long when it is reached: what stands before it in the name may be wrong first.
-/

namespace LogSieve

/-- What a name leads to. -/
inductive FileEntry where
  /-- A file with its bytes. -/
  | file (bytes : Bytes)
  /-- A directory. -/
  | directory
  /-- Nothing, for the reason given in words. -/
  | missing (reason : Text)

namespace FileEntry

/-- The reason for a name that leads nowhere. -/
def notFound : Text :=
  "No such file or directory (os error 2)".toList

/-- The reason for a name that leads through a file. -/
def notADirectory : Text :=
  "Not a directory (os error 20)".toList

/-- The reason for a name that is too long or has a part that is. -/
def nameTooLong : Text :=
  "File name too long (os error 36)".toList

/-- The reason why a directory cannot be read as a file. -/
def isADirectory : Text :=
  "Is a directory (os error 21)".toList

end FileEntry

/-- A directory that holds files. -/
structure Folder where
  /-- The files by name. -/
  files : List (Text × Bytes) := []

namespace Folder

/-- The most bytes that a name may have. -/
def longestName : Nat := 4095

/-- The most bytes that a part of a name may have. -/
def longestPart : Nat := 255

/-- How many bytes a text takes. -/
def byteCount (text : Text) : Nat :=
  (Utf8.encode text).length

/-- Follows the parts of a name from a directory: the folder itself if `inside`, and otherwise one
in which no other name leads anywhere. A part that is empty or one dot stays where it is, and two
dots leave the folder. -/
def follow (folder : Folder) (inside : Bool) : List Text → FileEntry
  | [] => .directory
  | part :: parts =>
    if part = [] ∨ part = ['.'] then folder.follow inside parts
    else if part = ['.', '.'] then folder.follow false parts
    else if longestPart < byteCount part then .missing FileEntry.nameTooLong
    else
      match if inside then folder.files.lookup part else none with
      | none => .missing FileEntry.notFound
      | some bytes => if parts.isEmpty then .file bytes else .missing FileEntry.notADirectory

/-- What a name leads to. The empty name leads nowhere, and a name with a slash in front is followed
from outside the folder. -/
def entry (folder : Folder) (name : Text) : FileEntry :=
  if longestName < byteCount name then .missing FileEntry.nameTooLong
  else
    match name with
    | [] => .missing FileEntry.notFound
    | '/' :: rest => folder.follow false (rest.splitOn '/')
    | _ => folder.follow true (name.splitOn '/')

end Folder

end LogSieve
