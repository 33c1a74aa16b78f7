import ModContracts.Json.Quoted

/-!
# JSON texts as trees

A text is taken apart as far as it is JSON, and no judgement is passed yet: where it breaks off, the
tree holds the flaw. Whoever reads the tree in the order of the text meets everything that stands
before the flaw first.

* `Node` — the trees;
* `Node.ofText` — the tree of a text, and the text after it;
* `Node.check` — the first flaw of a tree that is read, within a limit on nesting;
* `Node.skip` — the first flaw of a tree that is passed over, which is less strict.
-/

namespace ModContracts.Json

/-- What a value that breaks off began as. -/
inductive Began where
  /-- Not as a value at all. -/
  | nothing
  /-- As `null`, `true` or `false`. -/
  | word
  | number
  deriving DecidableEq, Repr

/-- A text as a tree. A list or object without a flaw is closed. -/
inductive Node where
  | null
  | bool (value : Bool)
  | num (numeral : Numeral)
  | str (quoted : Quoted)
  | arr (items : List Node) (flaw? : Option Flaw)
  | obj (members : List (Quoted × Node)) (flaw? : Option Flaw)
  /-- An object whose first key is no string. -/
  | keyless
  | broken (began : Began) (flaw : Flaw)

namespace Node

/-! ## Scanning -/

/-- The blanks of JSON. -/
def isBlank (c : Char) : Bool :=
  c = ' ' || c = '\t' || c = '\n' || c = '\r'

/-- The text after blanks. -/
def skipBlanks (s : List Char) : List Char :=
  s.dropWhile isBlank

/-- The text after a word, of which the text has to bring every letter. -/
def scanWord : List Char → List Char → Except Flaw (List Char)
  | [], rest => .ok rest
  | _ :: _, [] => .error .truncated
  | c :: word, d :: rest => if c = d then scanWord word rest else .error .malformed

/-- A word with its value, and the text after it. -/
def scanValueWord (word : String) (value : Node) (s : List Char) : Node × List Char :=
  match scanWord word.toList s with
  | .ok rest => (value, rest)
  | .error flaw => (.broken .word flaw, [])

/-- A number, and the text after it. -/
def scanNumber (s : List Char) : Node × List Char :=
  match Numeral.scan s with
  | .ok (n, rest) => (.num n, rest)
  | .error flaw => (.broken .number flaw, [])

mutual

/-- A value, and the text after it. -/
def scan : Nat → List Char → Node × List Char
  | 0, _ => (.broken .nothing .malformed, [])
  | fuel + 1, s =>
    match skipBlanks s with
    | [] => (.broken .nothing .truncated, [])
    | '"' :: rest => let (q, rest) := Quoted.scan rest; (.str q, rest)
    | '[' :: rest =>
      match skipBlanks rest with
      | [] => (.arr [] (some .truncated), [])
      | ']' :: rest => (.arr [] none, rest)
      | rest => let (items, flaw?, rest) := scanItems fuel rest; (.arr items flaw?, rest)
    | '{' :: rest =>
      match skipBlanks rest with
      | [] => (.obj [] (some .truncated), [])
      | '}' :: rest => (.obj [] none, rest)
      | '"' :: rest => let (members, flaw?, rest) := scanMembers fuel rest; (.obj members flaw?, rest)
      | _ :: _ => (.keyless, [])
    | 'n' :: rest => scanValueWord "ull" .null rest
    | 't' :: rest => scanValueWord "rue" (.bool true) rest
    | 'f' :: rest => scanValueWord "alse" (.bool false) rest
    | c :: rest =>
      if c = '-' || (digit? c).isSome then scanNumber (c :: rest)
      else (.broken .nothing .malformed, [])

/-- The items of a list from one of them on, and the text after the list. -/
def scanItems : Nat → List Char → List Node × Option Flaw × List Char
  | 0, _ => ([], some .malformed, [])
  | fuel + 1, s =>
    let (item, rest) := scan fuel s
    match skipBlanks rest with
    | [] => ([item], some .truncated, [])
    | ']' :: rest => ([item], none, rest)
    | ',' :: rest => let (items, flaw?, rest) := scanItems fuel rest; (item :: items, flaw?, rest)
    | _ :: _ => ([item], some .malformed, [])

/-- The members of an object from inside the key of one of them on, and the text after the
object. -/
def scanMembers : Nat → List Char → List (Quoted × Node) × Option Flaw × List Char
  | 0, _ => ([], some .malformed, [])
  | fuel + 1, s =>
    let (key, rest) := Quoted.scan s
    match skipBlanks rest with
    | [] => ([(key, .broken .nothing .truncated)], none, [])
    | ':' :: rest =>
      let (value, rest) := scan fuel rest
      match skipBlanks rest with
      | [] => ([(key, value)], some .truncated, [])
      | '}' :: rest => ([(key, value)], none, rest)
      | ',' :: rest =>
        let (members, flaw?, rest) := match skipBlanks rest with
          | '"' :: rest => scanMembers fuel rest
          | [] => ([(⟨[], some .truncated⟩, .broken .nothing .truncated)], none, [])
          | _ :: _ => ([(⟨[], some .malformed⟩, .broken .nothing .malformed)], none, [])
        ((key, value) :: members, flaw?, rest)
      | _ :: _ => ([(key, value)], some .malformed, [])
    | _ :: _ => ([(key, .broken .nothing .malformed)], none, [])

end

/-- The tree of a text, and the text after it. Every level of a tree and every item takes at least one
character, so the fuel lasts. -/
def ofText (s : List Char) : Node × List Char :=
  scan (2 * s.length + 2) s

/-! ## Flaws -/

/-- An end with or without a flaw. -/
def ending : Option Flaw → Except Flaw Unit
  | some flaw => .error flaw
  | none => .ok ()

mutual

/-- The first flaw of a tree that is read with room for so many levels of lists and objects. -/
def check (room : Nat) : Node → Except Flaw Unit
  | .null | .bool _ => .ok ()
  | .num n => n.read.map fun _ => ()
  | .str q => q.read.map fun _ => ()
  | .arr items flaw? => do
    if room = 0 then throw .malformed
    checkItems (room - 1) items
    ending flaw?
  | .obj members flaw? => do
    if room = 0 then throw .malformed
    checkMembers (room - 1) members
    ending flaw?
  | .keyless => .error .malformed
  | .broken _ flaw => .error flaw

/-- The first flaw of the items of a list. -/
def checkItems (room : Nat) : List Node → Except Flaw Unit
  | [] => .ok ()
  | item :: rest => do
    check room item
    checkItems room rest

/-- The first flaw of the members of an object. -/
def checkMembers (room : Nat) : List (Quoted × Node) → Except Flaw Unit
  | [] => .ok ()
  | (key, value) :: rest => do
    let _ ← key.read
    check room value
    checkMembers room rest

end

mutual

/-- The first flaw of a tree that is passed over. Nesting is free, numbers may be too large and code
units need not pair up; a number that breaks off is malformed. -/
def skip : Node → Except Flaw Unit
  | .null | .bool _ | .num _ => .ok ()
  | .str q => q.skip
  | .arr items flaw? => do
    skipItems items
    ending flaw?
  | .obj members flaw? => do
    skipMembers members
    ending flaw?
  | .keyless => .error .malformed
  | .broken .number _ => .error .malformed
  | .broken _ flaw => .error flaw

/-- The first flaw of items that are passed over. -/
def skipItems : List Node → Except Flaw Unit
  | [] => .ok ()
  | item :: rest => do
    skip item
    skipItems rest

/-- The first flaw of members that are passed over. -/
def skipMembers : List (Quoted × Node) → Except Flaw Unit
  | [] => .ok ()
  | (key, value) :: rest => do
    key.skip
    skip value
    skipMembers rest

end

end Node

end ModContracts.Json
