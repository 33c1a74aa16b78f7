/-!
# Source locations

* `Location` — a file and the byte offsets between which an element of the program was written.
  Offsets come from a snapshot as they are: nothing says that they lie in the file or are ordered.
-/

namespace ModContracts

/-- Where a declaration, an attachment or an attachment's value was written. -/
structure Location where
  /-- The source file. -/
  file : String
  /-- The first byte. -/
  start : UInt64
  /-- The byte after the last one. -/
  stop : UInt64
  deriving DecidableEq, Repr

end ModContracts
