import NodeHistory.Text.Path
import NodeHistory.Text.Quoted

/-!
Access to files. A path is followed from the working directory name by name; every name before
the last must be that of a directory, and two dots lead back. A file tree holds the files below
the working directory with their contents; of what lies above it nothing but the directories on
the way is known.
-/

namespace NodeHistory

inductive FileError where
  | missing
  | notDirectory
  | isDirectory
  | nameTooLong
  | nullInName
deriving DecidableEq, Repr

namespace FileError

/-- The number and the wording of an error that the file system reports; a name that holds a null
character does not get that far. -/
def report? : FileError → Option (Nat × String)
  | .missing => some (2, "No such file or directory")
  | .notDirectory => some (20, "Not a directory")
  | .isDirectory => some (21, "Is a directory")
  | .nameTooLong => some (36, "File name too long")
  | .nullInName => none

def text (e : FileError) (path : String) : String :=
  match e.report? with
  | some (number, wording) =>
    "[Errno " ++ toString number ++ "] " ++ wording ++ ": " ++ Text.quoted path
  | none => "embedded null byte"

/-- Nothing is there, as far as a question for existence goes. -/
def isAbsence : FileError → Bool
  | .missing | .notDirectory | .nullInName => true
  | .isDirectory | .nameTooLong => false

end FileError

/-- Contents of a file by its normalised path. -/
abbrev FileAccess := String → Except FileError (List UInt8)

structure FileTree where
  files : List (List String × List UInt8) := []
  directories : List (List String) := []

namespace FileTree

open Text

/-- The directories that a path passes through, and where it leads, when each of them exists. -/
def passed (names : List String) : List String → List (List String) × List String
  | [] => ([], names)
  | name :: rest =>
    let further := if name = ".." then names.dropLast else names ++ [name]
    let (directories, last) := passed further rest
    (names :: directories, last)

/-- Adds a file and the directories on the way to it; a later file replaces an earlier one. -/
def addFile (tree : FileTree) (path : String) (bytes : List UInt8) : FileTree :=
  let (directories, names) := passed [] (Path.components path)
  ⟨(names, bytes) :: tree.files, directories ++ tree.directories⟩

def addDirectory (tree : FileTree) (path : String) : FileTree :=
  let (directories, names) := passed [] (Path.components path)
  { tree with directories := names :: directories ++ tree.directories }

def file? (tree : FileTree) (names : List String) : Option (List UInt8) := tree.files.lookup names

def isDirectory (tree : FileTree) (names : List String) : Bool :=
  names.isEmpty || tree.directories.contains names

/-- Limits on a name and on a whole path, in bytes. -/
def longestName : Nat := 255
def longestPath : Nat := 4095

/-- A directory on the way: some levels above the working directory, or names below it. -/
inductive Place where
  | above (levels : Nat)
  | below (names : List String)

def follow (tree : FileTree) : Place → List String → Except FileError (List UInt8)
  | _, [] => .error .isDirectory
  | place, name :: rest =>
    if name = ".." then
      match place with
      | .above levels => follow tree (.above (levels + 1)) rest
      | .below [] => follow tree (.above 1) rest
      | .below names => follow tree (.below names.dropLast) rest
    else if longestName < name.utf8ByteSize then .error .nameTooLong
    else match place with
    | .above _ => .error .missing
    | .below names =>
      let names := names ++ [name]
      if tree.isDirectory names then follow tree (.below names) rest
      else match tree.file? names with
      | none => .error .missing
      | some bytes => if rest.isEmpty then .ok bytes else .error .notDirectory

def access (tree : FileTree) : FileAccess := fun path =>
  if path.contains '\x00' then .error .nullInName
  else if longestPath < path.utf8ByteSize then .error .nameTooLong
  else
    tree.follow (if Path.rootMark path = "" then .below [] else .above 0) (Path.components path)

end FileTree

end NodeHistory
