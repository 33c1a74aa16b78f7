import ModContracts.Files
import ModContracts.Files.Path

/-!
# Trees of files

Files held in memory, with paths followed as the operating system follows them: a path goes from
directory to directory, also through `.` and `..`, and only its last part may be a file. Paths and
their parts have to be of limited length.

* `FileTree` — files by their paths from a top directory;
* `FileTree.place` — where a path leads;
* `FileTree.toFiles` — a tree as a way to read files.
-/

namespace ModContracts

/-- Files by the parts of their paths from a top directory. The directories are those that files lie
in; nothing is known of what lies outside of the top directory. -/
structure FileTree where
  files : List (List String × String)
  deriving DecidableEq, Repr

namespace FileTree

/-- The tree of some files by path. -/
def ofList (files : List (String × String)) : FileTree where
  files := files.map fun (path, content) =>
    ((Path.parts path).filter fun part => part ≠ "" && part ≠ ".", content)

/-- Where a path leads. -/
inductive Place where
  | file (content : String)
  | directory
  | failure (error : FileError)
  deriving DecidableEq, Repr

/-- Whether some parts lead to a directory. -/
def isDirectory (t : FileTree) (here : List String) : Bool :=
  here.isEmpty || t.files.any fun (path, _) =>
    here.length < path.length && path.take here.length = here

/-- The bytes that a part of a path may have. -/
def partLimit : Nat := 255

/-- The bytes that a path may have. -/
def pathLimit : Nat := 4095

/-- Follows parts from a directory. `none` is a directory outside of the tree. -/
def follow (t : FileTree) : Option (List String) → List String → Place
  | _, [] => .directory
  | here?, part :: rest =>
    if part = "" || part = "." then follow t here? rest
    else if part = ".." then
      match here? with
      | none | some [] => follow t none rest
      | some here => follow t (some here.dropLast) rest
    else if partLimit < part.utf8ByteSize then .failure .nameTooLong
    else
      match here? with
      | none => .failure .notFound
      | some here =>
        let next := here ++ [part]
        if t.isDirectory next then follow t (some next) rest
        else
          match t.files.lookup next with
          | some content => if rest.isEmpty then .file content else .failure .notDirectory
          | none => .failure .notFound

/-- Where a path leads from the top directory. -/
def place (t : FileTree) (path : String) : Place :=
  if pathLimit < path.utf8ByteSize then .failure .nameTooLong
  else if path.isEmpty then .failure .notFound
  else if path.startsWith "/" then t.follow none (Path.parts path)
  else t.follow (some []) (Path.parts path)

/-- The content of a file. -/
def read (t : FileTree) (path : String) : Except FileError String :=
  match t.place path with
  | .file content => .ok content
  | .directory => .error .isDirectory
  | .failure error => .error error

/-- Whether a path leads to a file. -/
def isFile (t : FileTree) (path : String) : Bool :=
  match t.place path with
  | .file _ => true
  | _ => false

end FileTree

/-- Reading from a tree. -/
def FileTree.toFiles (t : FileTree) : Files Id where
  read := t.read
  isFile := t.isFile

end ModContracts
