/-!
A tree of files, and the reading of one by its path. A path is followed part by part, and
each part has to be looked up in a directory, so `x/..` asks for a directory `x`. Nothing
is known to lie outside the tree but directories.
-/

namespace FeatureMatrix

inductive FileError where
  | notFound
  | notADirectory
  | isADirectory
  | nameTooLong
  /-- No path holds the character NUL. -/
  | nulInPath
  /-- The content is not UTF-8. -/
  | notText
  /-- What else a system may say. -/
  | other (description : String)
  deriving DecidableEq, Repr

def FileError.message : FileError → String
  | notFound => "No such file or directory (os error 2)"
  | notADirectory => "Not a directory (os error 20)"
  | isADirectory => "Is a directory (os error 21)"
  | nameTooLong => "File name too long (os error 36)"
  | nulInPath => "file name contained an unexpected NUL byte"
  | notText => "stream did not contain valid UTF-8"
  | other description => description

inductive FileTree where
  | file (content : List UInt8)
  | directory (entries : List (String × FileTree))

namespace FileTree

def parts (path : String) : List String := (path.toList.splitOn '/').map String.ofList

/-! ### Making a tree -/

def empty : FileTree := directory []

def entries : FileTree → List (String × FileTree)
  | file _ => []
  | directory entries => entries

/-- Puts a tree at the end of a way down, with directories on the way as needed. Where a
directory is put on a directory, the old one stays. -/
def place (leaf : FileTree) : List String → FileTree → FileTree
  | [], old =>
    match leaf, old with
    | directory [], directory entries => directory entries
    | _, _ => leaf
  | name :: below, old =>
    let inner := place leaf below ((old.entries.lookup name).getD empty)
    directory ((name, inner) :: old.entries.filter (·.1 != name))

/-- Puts a tree at a path; empty parts and `.` lead nowhere. -/
def insert (tree : FileTree) (path : String) (leaf : FileTree) : FileTree :=
  place leaf ((parts path).filter fun part => part != "" && part != ".") tree

/-! ### Reading -/

/-- The longest name, in bytes. -/
def maxName : Nat := 255

/-- The length, in bytes, that a path must not reach. -/
def pathBound : Nat := 4096

/-- Follows the parts of a path. `above` holds the directories entered, the last one first;
when it is empty the way leads outside the tree. -/
def walk (above : List (List (String × FileTree))) :
    List String → Except FileError (List UInt8)
  | [] => .error .isADirectory
  | part :: rest =>
    if part == "" || part == "." then walk above rest
    else if part == ".." then walk above.tail rest
    else if maxName < part.utf8ByteSize then .error .nameTooLong
    else
      match above with
      | [] => .error .notFound
      | here :: _ =>
        match here.lookup part with
        | none => .error .notFound
        | some (directory inner) => walk (inner :: above) rest
        | some (file content) =>
          if rest.isEmpty then .ok content else .error .notADirectory

/-- The content of the file at `path`; a path that begins with a slash begins outside. -/
def read (tree : FileTree) (path : String) : Except FileError (List UInt8) :=
  if path == "" then .error .notFound
  else if path.toList.contains '\x00' then .error .nulInPath
  else if pathBound ≤ path.utf8ByteSize then .error .nameTooLong
  else walk (if path.toList.head? == some '/' then [] else [tree.entries]) (parts path)

end FileTree

end FeatureMatrix
