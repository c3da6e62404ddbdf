import RowQuery.Entries
import RowQuery.FileSystem
/-!
# Files of a directory

A file system with one directory, the working directory, and what reading or writing at a
path does to it. The directory holds files only. Of what lies outside it nothing is known to
exist but its parents and what is written there.
-/

namespace RowQuery

/-- Files in the order in which they were made, each with the path that leads to it: its
name, behind the steps up if it lies outside. -/
structure Directory where
  files : List (String × ByteArray)

namespace Directory

/-- What a path leads to. -/
inductive Place where
  | file (path : String)
  | directory
  /-- A name with slashes behind it, which asks for a directory where there is none.
  Looking the name up fails with the error. -/
  | noDirectory (e : FileError)
deriving DecidableEq

/-- The files that lie in the directory itself. -/
def ownFiles (d : Directory) : List (String × ByteArray) :=
  d.files.filter fun file => !file.1.toList.contains '/'

def contains (d : Directory) (path : String) : Bool := d.files.any (·.1 == path)

/-- The steps of a path that stay where they are. -/
def isIdle (part : String) : Bool := part == "" || part == "."

/-- The most bytes that a name can have. -/
def nameLimit : Nat := 255

/-- The bytes from which on a path is too long. -/
def pathLimit : Nat := 4096

/-- Why a name does not lead into a directory: it is too long, or it is that of a file, or
nothing has it. -/
def entryError (isFile : Bool) (name : String) : FileError :=
  if nameLimit < name.utf8ByteSize then .nameTooLong
  else if isFile then .notADirectory
  else .notFound

/-- What a path leads to that goes on behind a name which is no directory. -/
def beyond (e : FileError) (parts : List String) : Except FileError Place :=
  if parts.all (· == "") then .ok (.noDirectory e) else .error e

/-- The steps up with one more behind them. The root has nothing above it. -/
def stepUp (steps : String) : String := if steps = "/" then steps else steps ++ "../"

/-- Follows a path from where the steps up have led. -/
def follow (d : Directory) (steps : String) : List String → Except FileError Place
  | [] => .ok .directory
  | part :: parts =>
    if isIdle part then d.follow steps parts
    else if part = ".." then d.follow (stepUp steps) parts
    else if parts ≠ [] then beyond (entryError (d.contains (steps ++ part)) part) parts
    else if nameLimit < part.utf8ByteSize then .error .nameTooLong
    else .ok (.file (steps ++ part))

/-- What a path leads to, seen from the directory. -/
def resolve (d : Directory) (path : String) : Except FileError Place :=
  if path.toList.contains '\x00' then .error .zeroByteInName
  else if path = "" then .error .notFound
  else if pathLimit ≤ path.utf8ByteSize then .error .nameTooLong
  else
    d.follow (if path.startsWith "/" then "/" else "")
      ((path.toList.splitOn '/').map String.ofList)

def read (d : Directory) (path : String) : Except FileError ByteArray :=
  match d.resolve path with
  | .error e => .error e
  | .ok .directory => .error .isADirectory
  | .ok (.noDirectory e) => .error e
  | .ok (.file path) =>
    match d.files.find? (·.1 == path) with
    | some (_, bytes) => .ok bytes
    | none => .error .notFound

/-- Writes a file, in place of the one of that name if there is one. A name with slashes
behind it cannot be that of a file, so it is not looked up. -/
def write (d : Directory) (path : String) (bytes : ByteArray) : Except FileError Directory :=
  match d.resolve path with
  | .error e => .error e
  | .ok .directory => .error .isADirectory
  | .ok (.noDirectory _) => .error .isADirectory
  | .ok (.file path) => .ok ⟨setEntry path bytes d.files⟩

/-- What the file of a name holds, if there is one. -/
def file? (d : Directory) (name : String) : Option ByteArray := (d.files.find? (·.1 == name)).map (·.2)

/-- The name of the file that a path leads to, whether there is one or not. -/
def locate? (d : Directory) (path : String) : Option String :=
  match d.resolve path with
  | .ok (.file name) => some name
  | _ => none

instance : FileSystem Directory where
  read := read
  write d path bytes :=
    match d.write path bytes with
    | .error e => (.error e, d)
    | .ok after => (.ok (), after)
  file? := file?
  locate? := locate?

end Directory

end RowQuery
