import ModContracts.CommandLine.Run

/-!
# The program

Answers the arguments of a command line, reading the files of the system.
-/

namespace ModContracts.CommandLine

/-- Why the system could not read a file. Its error codes come as they are, or negated modulo
2 ^ 32. -/
def fileError : IO.Error → FileError
  | .noFileOrDirectory .. => .notFound
  | .inappropriateType _ 21 _ => .isDirectory
  | .inappropriateType .. => .notDirectory
  | .invalidArgument _ 36 _ | .invalidArgument _ 0xFFFFFFDC _ => .nameTooLong
  | .permissionDenied .. => .other "Permission denied (os error 13)"
  | error => .other (toString error)

/-- Reads a file of the system. -/
def readFile (path : String) : IO (Except FileError String) := do
  try
    let bytes ← IO.FS.readBinFile path
    match String.fromUTF8? bytes with
    | some text => return .ok text
    | none => return .error (.other "stream did not contain valid UTF-8")
  catch error => return .error (fileError error)

/-- The files of the system. A file that may not be read is a file all the same. -/
def systemFiles : Files IO where
  read := readFile
  isFile path := do
    match ← readFile path with
    | .error .notFound | .error .notDirectory | .error .isDirectory | .error .nameTooLong =>
      return false
    | _ => return true

end ModContracts.CommandLine

open ModContracts

/-- Answers arguments. -/
def main (arguments : List String) : IO UInt32 := do
  let reply ← CommandLine.respond CommandLine.systemFiles arguments
  IO.print reply.outputText
  IO.eprint reply.errorText
  return reply.ending.exitCode.toUInt32
