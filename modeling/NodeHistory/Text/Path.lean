/-!
File paths, split at slashes. The directory part of a path is what stands before its last slash,
without the slashes that end it unless there is nothing else; the parent's name is the last name
in that part, and is empty for a path of one name.
-/

namespace NodeHistory.Text.Path

/-- What follows the last slash. -/
def baseName (path : String) : String :=
  String.ofList (path.toList.reverse.takeWhile (· ≠ '/')).reverse

def directory (path : String) : String :=
  let head := path.toList.reverse.dropWhile (· ≠ '/')
  let bare := head.dropWhile (· = '/')
  String.ofList (if bare.isEmpty then head else bare).reverse

def parentName (path : String) : String := baseName (directory path)

/-- The names between slashes; empty ones and single dots name nothing. -/
def components (path : String) : List String :=
  (path.splitOn "/").filter fun name => name ≠ "" ∧ name ≠ "."

/-- A path counts from the root if it starts with a slash. Exactly two slashes are kept as two. -/
def rootMark (path : String) : String :=
  match path.toList with
  | '/' :: '/' :: '/' :: _ => "/"
  | '/' :: '/' :: _ => "//"
  | '/' :: _ => "/"
  | _ => ""

def normalised (path : String) : String :=
  let text := rootMark path ++ String.intercalate "/" (components path)
  if text = "" then "." else text

end NodeHistory.Text.Path
