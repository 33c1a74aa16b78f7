import ModContracts.Text.Blank

/-!
# Source texts in lines

* `splitLines` — a text in lines, each with the break that ends it;
* `Line`, `linesOf` — lines with the characters and bytes before them;
* `lineAt?` — the line of a byte, and the byte's place in it;
* `Line.charsIn?` — the characters in the first bytes of a line.
-/

namespace ModContracts.Report

/-- Whether a character ends a line. -/
def isBreak (c : Char) : Bool :=
  c = '\n' || c = '\r' || c = '\x0b' || c = '\x0c' || c = '\u0085' || c = '\u2028' || c = '\u2029'

/-- The lines of a text, each with its break; carriage return and line feed are one break. -/
def splitLines : List Char → List (List Char)
  | [] => []
  | '\r' :: '\n' :: rest => ['\r', '\n'] :: splitLines rest
  | c :: rest =>
    if isBreak c then [c] :: splitLines rest
    else
      match splitLines rest with
      | [] => [[c]]
      | line :: lines => (c :: line) :: lines

theorem flatten_splitLines (s : List Char) : (splitLines s).flatten = s := by
  fun_induction splitLines s <;> simp_all

/-- The number of bytes of some characters. -/
def byteCount (cs : List Char) : Nat :=
  cs.foldr (fun c bytes => c.utf8Size + bytes) 0

/-- A line of a text. -/
structure Line where
  /-- The number of lines before it. -/
  index : Nat
  /-- The number of characters before it. -/
  offset : Nat
  /-- The number of bytes before it. -/
  byteOffset : Nat
  /-- Its characters, with the break. -/
  chars : List Char
  deriving DecidableEq, Repr

namespace Line

/-- The line after a line. -/
def next (l : Line) (chars : List Char) : Line where
  index := l.index + 1
  offset := l.offset + l.chars.length
  byteOffset := l.byteOffset + byteCount l.chars
  chars := chars

/-- The characters of a line without the white space at its end. -/
def trimmed (l : Line) : List Char :=
  (l.chars.reverse.dropWhile Text.isBlank).reverse

/-- The number of characters that so many bytes at the start of a text hold. There is none if the
bytes end inside of a character or beyond the text. -/
def charsIn? : Nat → List Char → Option Nat
  | 0, _ => some 0
  | _ + 1, [] => none
  | bytes + 1, c :: rest =>
    if bytes + 1 < c.utf8Size then none
    else (charsIn? (bytes + 1 - c.utf8Size) rest).map (· + 1)

end Line

/-- Lines after a line. -/
def linesAfter (l : Line) : List (List Char) → List Line
  | [] => []
  | chars :: rest => l.next chars :: linesAfter (l.next chars) rest

/-- The lines of a text; a text without characters is one line. -/
def linesOf (source : String) : List Line :=
  match splitLines source.toList with
  | [] => [⟨0, 0, 0, []⟩]
  | chars :: rest =>
    let first : Line := ⟨0, 0, 0, chars⟩
    first :: linesAfter first rest

/-- The last line that begins at a byte or before it, with the number of bytes between. There is none
for a byte beyond the end of the text. -/
def lineAt? (source : String) (byte : Nat) : Option (Line × Nat) :=
  if source.utf8ByteSize < byte then none
  else
    ((linesOf source).filter (·.byteOffset ≤ byte)).getLast?.map fun l => (l, byte - l.byteOffset)

end ModContracts.Report
