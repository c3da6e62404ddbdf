/-!
# Files

A program reads and writes files at paths. What the files are like in between is their own state,
which the program does not look into: `FileSystem` gives what it can do, and names the files so that
something can be said of each.

Trusted: the files of a real machine behave as `LawfulFileSystem` says. A write that fails leaves
them alone, one that succeeds changes the file at the path and no other, and an empty path leads
nowhere. A `Directory` is a file system for which this is proved.
-/

namespace RowQuery

/-- Why a file cannot be opened, read or written. -/
inductive FileError where
  | notFound
  | notADirectory
  | isADirectory
  | nameTooLong
  | zeroByteInName
  /-- Any other reason, by its text. -/
  | other (text : String)
deriving DecidableEq

namespace FileError

def message : FileError → String
  | notFound => "No such file or directory (os error 2)"
  | notADirectory => "Not a directory (os error 20)"
  | isADirectory => "Is a directory (os error 21)"
  | nameTooLong => "File name too long (os error 36)"
  | zeroByteInName => "file name contained an unexpected NUL byte"
  | other text => text

end FileError

/-- Files in a state that reading leaves as it is and writing changes. -/
class FileSystem (Files : Type) where
  read : Files → String → Except FileError ByteArray
  write : Files → String → ByteArray → Except FileError Unit × Files
  /-- What the file of a name holds, if there is one. A file has one name, however many paths lead to it. -/
  file? : Files → String → Option ByteArray
  /-- The name of the file that a path leads to, or of the one that a write there would make. -/
  locate? : Files → String → Option String

variable {Files : Type} [FileSystem Files]

/-- The files `after` are those `before` with one made or replaced: the one that the path leads to, which
holds the bytes now. -/
structure FileSystem.Written (before : Files) (path : String) (bytes : ByteArray) (after : Files) : Prop where
  contents : read after path = .ok bytes
  others : ∀ name, file? after name ≠ file? before name → locate? before path = some name

/-- What is relied on of files. -/
class LawfulFileSystem (Files : Type) [FileSystem Files] : Prop where
  read_empty : ∀ files : Files, FileSystem.read files "" = .error .notFound
  failed_write : ∀ {before after : Files} {path : String} {bytes : ByteArray} {e : FileError},
    FileSystem.write before path bytes = (.error e, after) → after = before
  written : ∀ {before after : Files} {path : String} {bytes : ByteArray},
    FileSystem.write before path bytes = (.ok (), after) → FileSystem.Written before path bytes after

end RowQuery
