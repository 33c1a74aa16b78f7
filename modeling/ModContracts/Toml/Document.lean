import ModContracts.Toml.Value
import ModContracts.Toml.Scalar

/-!
# TOML documents

* `scanString`, `scanKey`, `scanValue` — the pieces of a line, each with the text after it;
* `spanWord` — a number, date or word, which may go on over blanks;
* `Document` — the tables read so far and the header they are read under;
* `parse` — the entries of a document, or `none` if it is not TOML.
-/

namespace ModContracts.Toml

/-! ## Blanks, comments and line ends -/

/-- A blank inside a line. -/
def isSpace (c : Char) : Bool := c = ' ' || c = '\t'

/-- A character that may stand in a comment or string. -/
def isPrintable (c : Char) : Bool :=
  c = '\t' || (0x20 ≤ c.toNat && c.toNat ≠ 0x7F)

/-- The text after blanks. -/
def skipSpaces (s : List Char) : List Char := s.dropWhile isSpace

/-- The text after a comment, if there is one. -/
def skipComment (s : List Char) : List Char :=
  match s with
  | '#' :: rest => rest.dropWhile isPrintable
  | _ => s

/-- The text after the end of a line, which may bring blanks and a comment. -/
def lineEnd? (s : List Char) : Option (List Char) :=
  match skipComment (skipSpaces s) with
  | [] => some []
  | '\n' :: rest | '\r' :: '\n' :: rest => some rest
  | _ => none

/-- The text after blanks, comments and line ends, from within a comment or outside of one. -/
def skipLinesFrom : Bool → List Char → List Char
  | _, [] => []
  | _, '\n' :: rest | _, '\r' :: '\n' :: rest => skipLinesFrom false rest
  | true, c :: rest => if isPrintable c then skipLinesFrom true rest else c :: rest
  | false, c :: rest =>
    if isSpace c then skipLinesFrom false rest
    else if c = '#' then skipLinesFrom true rest
    else c :: rest

/-- The text after blanks, comments and line ends. -/
def skipLines (s : List Char) : List Char := skipLinesFrom false s

/-! ## Strings -/

/-- The number some hexadecimal digits make. -/
def hexNumber? (cs : List Char) : Option Nat :=
  cs.foldlM (fun n c =>
    if '0' ≤ c && c ≤ '9' then some (16 * n + (c.toNat - '0'.toNat))
    else if 'a' ≤ c && c ≤ 'f' then some (16 * n + (c.toNat - 'a'.toNat + 10))
    else if 'A' ≤ c && c ≤ 'F' then some (16 * n + (c.toNat - 'A'.toNat + 10))
    else none) 0

/-- The character of so many hexadecimal digits. -/
def scanCode (length : Nat) (s : List Char) : Option (Char × List Char) := do
  let digits := s.take length
  if digits.length < length then none
  let code ← hexNumber? digits
  if code.isValidChar then return (Char.ofNat code, s.drop length) else none

/-- The character an escape stands for, after its backslash. -/
def scanEscape : List Char → Option (Char × List Char)
  | 'b' :: rest => some ('\x08', rest)
  | 't' :: rest => some ('\t', rest)
  | 'n' :: rest => some ('\n', rest)
  | 'f' :: rest => some ('\x0c', rest)
  | 'r' :: rest => some ('\r', rest)
  | 'e' :: rest => some ('\x1b', rest)
  | '"' :: rest => some ('"', rest)
  | '\\' :: rest => some ('\\', rest)
  | 'x' :: rest => scanCode 2 rest
  | 'u' :: rest => scanCode 4 rest
  | 'U' :: rest => scanCode 8 rest
  | _ => none

/-- How strings of one kind are written. -/
structure Quoting where
  /-- The quote. -/
  mark : Char
  /-- Whether backslashes begin escapes. -/
  escapes : Bool
  /-- Whether the string is between three quotes and may go over several lines. -/
  multiline : Bool

/-- The text after blanks and line ends. -/
def skipBlankLines : List Char → List Char
  | '\r' :: '\n' :: rest => skipBlankLines rest
  | c :: rest => if isSpace c || c = '\n' then skipBlankLines rest else c :: rest
  | [] => []

/-- A string after its opening quotes. Up to two quotes may stand before three closing ones. -/
def scanBody (q : Quoting) : Nat → List Char → Option (List Char × List Char)
  | 0, _ => none
  | _ + 1, [] => none
  | fuel + 1, c :: rest =>
    let push (c : Char) (found : Option (List Char × List Char)) : Option (List Char × List Char) :=
      found.map fun (cs, after) => (c :: cs, after)
    if c = q.mark then
      if ! q.multiline then some ([], rest)
      else
        match rest with
        | a :: b :: after =>
          if a = q.mark && b = q.mark then
            let extra := (after.takeWhile (· = q.mark)).take 2
            some (extra, after.drop extra.length)
          else push c (scanBody q fuel rest)
        | _ => none
    else if c = '\\' && q.escapes then
      if q.multiline && (lineEnd? rest).isSome && ! (skipSpaces rest).head?.any (· = '#') then
        match lineEnd? rest with
        | some below => scanBody q fuel (skipBlankLines below)
        | none => none
      else
        match scanEscape rest with
        | some (c, after) => push c (scanBody q fuel after)
        | none => none
    else if c = '\n' && q.multiline then push c (scanBody q fuel rest)
    else if c = '\r' && q.multiline && rest.head? = some '\n' then push c (scanBody q fuel rest)
    else if isPrintable c then push c (scanBody q fuel rest)
    else none

/-- The text after the line end that may follow three opening quotes. -/
def dropFirstBreak : List Char → List Char
  | '\n' :: rest | '\r' :: '\n' :: rest => rest
  | s => s

/-- A string, of one line only if it has to be a key. -/
def scanString (keyOnly : Bool) (s : List Char) : Option (String × List Char) :=
  let scan (q : Quoting) (body : List Char) : Option (String × List Char) :=
    (scanBody q (body.length + 1) body).map fun (cs, after) => (String.ofList cs, after)
  match s with
  | '"' :: '"' :: '"' :: body =>
    if keyOnly then none else scan ⟨'"', true, true⟩ (dropFirstBreak body)
  | '\x27' :: '\x27' :: '\x27' :: body =>
    if keyOnly then none else scan ⟨'\x27', false, true⟩ (dropFirstBreak body)
  | '"' :: body => scan ⟨'"', true, false⟩ body
  | '\x27' :: body => scan ⟨'\x27', false, false⟩ body
  | _ => none

/-! ## Keys -/

/-- A character of a key without quotes. -/
def isBare (c : Char) : Bool :=
  c.isAlphanum || c = '_' || c = '-'

/-- A part of a key. -/
def scanKeyPart (s : List Char) : Option (String × List Char) :=
  match s.takeWhile isBare with
  | [] => scanString true s
  | word => some (String.ofList word, s.dropWhile isBare)

/-- The parts of a key between dots. -/
def scanKeyParts : Nat → List Char → Option (List String × List Char)
  | 0, _ => none
  | fuel + 1, s => do
    let (part, rest) ← scanKeyPart s
    match skipSpaces rest with
    | '.' :: rest =>
      let (parts, rest) ← scanKeyParts fuel (skipSpaces rest)
      return (part :: parts, rest)
    | _ => return ([part], rest)

/-- How many lists and tables may be open at once in a value, and how many parts a key may have. -/
def nestingLimit : Nat := 80

/-- A key in its parts. -/
def scanKey (fuel : Nat) (s : List Char) : Option (List String × List Char) := do
  let (parts, rest) ← scanKeyParts fuel s
  if nestingLimit < parts.length then none else return (parts, rest)

/-! ## Values -/

/-- A character of a number, date or word: any but those that stand between the parts of a document. -/
def isWord (c : Char) : Bool :=
  c ∉ ['=', ',', '[', ']', '{', '}', '#', ' ', '\t', '\r', '\n']

/-- A word and the text after it. A word goes on over blanks as long as they lead to something that
could be a word itself, as the blank between a date and a time does; a quote begins a string instead. -/
def spanWord : List Char → List Char × List Char
  | [] => ([], [])
  | c :: rest =>
    if isWord c || isSpace c then
      let (word, after) := spanWord rest
      if isWord c || word.head?.any (fun next => next ≠ '"' && next ≠ '\x27') then (c :: word, after)
      else ([], c :: rest)
    else ([], c :: rest)

/-- Nothing is lost when a word is split off. -/
theorem spanWord_append (s : List Char) : (spanWord s).1 ++ (spanWord s).2 = s := by
  fun_induction spanWord s with
  | case1 => rfl
  | case2 c rest _ word after h _ ih => simpa [h] using ih
  | case3 => rfl
  | case4 => rfl

/-- What a word stands for. -/
def Value.ofWord? (word : List Char) : Option Value :=
  if word = "true".toList then some (.boolean true)
  else if word = "false".toList then some (.boolean false)
  else if isScalar word then some .scalar
  else none

/-- A word and what it stands for. -/
def scanWord (s : List Char) : Option (Value × List Char) :=
  let (word, rest) := spanWord s
  (Value.ofWord? word).map fun value => (value, rest)

mutual

/-- A value with room for so many levels of lists and tables. -/
def scanValue : Nat → Nat → List Char → Option (Value × List Char)
  | 0, _, _ => none
  | fuel + 1, room, s =>
    match s with
    | '[' :: rest => do
      if room = 0 then none
      let (items, rest) ← scanItems fuel (room - 1) rest
      return (.array false items, rest)
    | '{' :: rest => do
      if room = 0 then none
      let (entries, rest) ← scanEntries fuel (room - 1) [] rest
      return (.table .inline entries, rest)
    | '"' :: _ | '\x27' :: _ => (scanString false s).map fun (text, rest) => (.string text, rest)
    | _ => scanWord s

/-- The items of a list from one of them on. A comma may follow the last. -/
def scanItems : Nat → Nat → List Char → Option (List Value × List Char)
  | 0, _, _ => none
  | fuel + 1, room, s =>
    match skipLines s with
    | ']' :: rest => some ([], rest)
    | s => do
      let (item, rest) ← scanValue fuel room s
      match skipLines rest with
      | ']' :: rest => return ([item], rest)
      | ',' :: rest =>
        let (items, rest) ← scanItems fuel room rest
        return (item :: items, rest)
      | _ => none

/-- The entries of a table between braces after those read before. A comma may follow the last, and
the parts of an entry may stand on lines of their own. -/
def scanEntries : Nat → Nat → Entries → List Char → Option (Entries × List Char)
  | 0, _, _, _ => none
  | fuel + 1, room, read, s =>
    match skipLines s with
    | '}' :: rest => some (read, rest)
    | s => do
      let (key, rest) ← scanKey fuel s
      match skipLines rest with
      | '=' :: rest =>
        let (value, rest) ← scanValue fuel room (skipLines rest)
        let grown ← value.putDotted key read
        match skipLines rest with
        | '}' :: rest => return (grown, rest)
        | ',' :: rest => scanEntries fuel room grown rest
        | _ => none
      | _ => none

end

/-! ## Documents -/

/-- The tables of a document read so far. -/
structure Document where
  root : Entries := []
  /-- The header that entries are read under. -/
  header : List String := []

/-- A line that gives an entry. -/
def Document.readEntry (d : Document) (fuel : Nat) (s : List Char) : Option (Document × List Char) := do
  let (key, rest) ← scanKey fuel s
  match skipSpaces rest with
  | '=' :: rest =>
    let (value, rest) ← scanValue fuel nestingLimit (skipSpaces rest)
    let root ← Value.growAt (value.putDotted key) d.header d.root
    return ({ d with root }, rest)
  | _ => none

/-- A line that gives the header of a table, or of a further table of a list. -/
def Document.readHeader (d : Document) (fuel : Nat) (s : List Char) : Option (Document × List Char) := do
  let (ofList, s) := match s with
    | '[' :: rest => (true, rest)
    | _ => (false, s)
  let (header, rest) ← scanKey fuel (skipSpaces s)
  let key ← header.getLast?
  let change := if ofList then Value.openTables key else Value.openTable key
  let root ← Value.growAt change header.dropLast d.root
  match ofList, skipSpaces rest with
  | true, ']' :: ']' :: rest => return ({ root, header }, rest)
  | false, ']' :: rest => return ({ root, header }, rest)
  | _, _ => none

/-- Reads lines. -/
def Document.read (d : Document) : Nat → List Char → Option Document
  | 0, _ => none
  | fuel + 1, s =>
    match skipLines s with
    | [] => some d
    | '[' :: rest => do
      let (next, rest) ← d.readHeader fuel rest
      next.read fuel (← lineEnd? rest)
    | s => do
      let (next, rest) ← d.readEntry fuel s
      next.read fuel (← lineEnd? rest)

/-- A text without the mark that may tell its encoding. -/
def dropMark : List Char → List Char
  | '\uFEFF' :: rest => rest
  | s => s

/-- The entries of a document. Every step of reading takes at least one character, so the fuel
lasts. -/
def parse (text : String) : Option Entries :=
  let s := dropMark text.toList
  ((({} : Document).read (2 * s.length + 2) s)).map Document.root

end ModContracts.Toml
