/-!
# Files

A run reads files through an interface, so that it can be run over any of them.

* `FileError` — why a file cannot be read, with its `message`;
* `Files` — a way to read files in some monad.
-/

namespace ModContracts

/-- Why a file cannot be read. -/
inductive FileError where
  | notFound
  | notDirectory
  | isDirectory
  | nameTooLong
  /-- Another reason, in the system's words. -/
  | other (text : String)
  deriving DecidableEq, Repr

/-- The text of a file error. -/
def FileError.message : FileError → String
  | .notFound => "No such file or directory (os error 2)"
  | .notDirectory => "Not a directory (os error 20)"
  | .isDirectory => "Is a directory (os error 21)"
  | .nameTooLong => "File name too long (os error 36)"
  | .other text => text

/-- A way to read files. -/
structure Files (m : Type → Type) where
  /-- The content of a file. -/
  read : String → m (Except FileError String)
  /-- Whether a path leads to a file. -/
  isFile : String → m Bool

end ModContracts
