import ModContracts.Json.Numeral

/-!
# JSON strings

A string as it is written, and the text it stands for. An escape by code unit is kept as the unit:
whether units pair up matters only when the string is read.

* `Piece`, `Quoted`, `Quoted.scan` — what stands between the quotes, taken from a text;
* `Quoted.read` — the text of a string; `Quoted.skip` — passing over one.
-/

namespace ModContracts.Json

/-- A part of a written string. -/
inductive Piece where
  /-- A character, written plainly or by a short escape. -/
  | char (c : Char)
  /-- A code unit of sixteen bits, written by four hexadecimal digits. -/
  | unit (code : Nat)
  deriving DecidableEq, Repr

/-- A string as it is written, up to its closing quote or to where it breaks off. -/
structure Quoted where
  pieces : List Piece
  flaw? : Option Flaw := none
  deriving DecidableEq, Repr

/-- The value of a hexadecimal digit. -/
def hexDigit? (c : Char) : Option Nat :=
  if '0' ≤ c && c ≤ '9' then some (c.toNat - '0'.toNat)
  else if 'a' ≤ c && c ≤ 'f' then some (c.toNat - 'a'.toNat + 10)
  else if 'A' ≤ c && c ≤ 'F' then some (c.toNat - 'A'.toNat + 10)
  else none

/-- The value of four hexadecimal digits. -/
def hexUnit? (a b c d : Char) : Option Nat := do
  return (((← hexDigit? a) * 16 + (← hexDigit? b)) * 16 + (← hexDigit? c)) * 16 + (← hexDigit? d)

/-- The character a short escape stands for. -/
def shortEscape? : Char → Option Char
  | '"' => some '"'
  | '\\' => some '\\'
  | '/' => some '/'
  | 'b' => some '\x08'
  | 'f' => some '\x0c'
  | 'n' => some '\n'
  | 'r' => some '\r'
  | 't' => some '\t'
  | _ => none

namespace Quoted

/-- Puts a piece in front of a string. -/
def cons (piece : Piece) (q : Quoted) : Quoted :=
  { q with pieces := piece :: q.pieces }

/-- A string that breaks off at once. -/
def flawed (flaw : Flaw) : Quoted × List Char :=
  (⟨[], some flaw⟩, [])

/-- What an escape without its four digits is: a text with fewer than four bytes left has ended
inside of it. -/
def unitFlaw (rest : List Char) : Flaw :=
  if (String.ofList rest).utf8ByteSize < 4 then .truncated else .malformed

/-- A string after its opening quote, and the text after its closing quote. -/
def scan : List Char → Quoted × List Char
  | [] => flawed .truncated
  | '"' :: rest => (⟨[], none⟩, rest)
  | ['\\'] => flawed .truncated
  | '\\' :: 'u' :: a :: b :: c :: d :: rest =>
    match hexUnit? a b c d with
    | some code => let (q, after) := scan rest; (q.cons (.unit code), after)
    | none => flawed .malformed
  | '\\' :: 'u' :: rest => flawed (unitFlaw rest)
  | '\\' :: e :: rest =>
    match shortEscape? e with
    | some c => let (q, after) := scan rest; (q.cons (.char c), after)
    | none => flawed .malformed
  | c :: rest =>
    if c < ' ' then flawed .malformed
    else let (q, after) := scan rest; (q.cons (.char c), after)

/-- Whether a code unit is the first of a pair. -/
def isHigh (code : Nat) : Bool := 0xD800 ≤ code && code < 0xDC00

/-- Whether a code unit is the second of a pair. -/
def isLow (code : Nat) : Bool := 0xDC00 ≤ code && code < 0xE000

/-- The characters of some pieces that end with or without a flaw. A code unit that is half of a pair
is malformed without its other half. -/
def readPieces (flaw? : Option Flaw) : List Piece → Except Flaw (List Char)
  | [] =>
    match flaw? with
    | some flaw => .error flaw
    | none => .ok []
  | .char c :: rest => (readPieces flaw? rest).map (c :: ·)
  | .unit high :: rest =>
    if isLow high then .error .malformed
    else if isHigh high then
      match rest with
      | .unit low :: rest =>
        if isLow low then
          let code := 0x10000 + (high - 0xD800) * 0x400 + (low - 0xDC00)
          (readPieces flaw? rest).map (Char.ofNat code :: ·)
        else .error .malformed
      | .char _ :: _ => .error .malformed
      | [] => .error (flaw?.getD .malformed)
    else (readPieces flaw? rest).map (Char.ofNat high :: ·)

/-- The text of a string. -/
def read (q : Quoted) : Except Flaw String :=
  (readPieces q.flaw? q.pieces).map String.ofList

/-- A string is skipped if it is closed; its code units need not pair up. -/
def skip (q : Quoted) : Except Flaw Unit :=
  match q.flaw? with
  | some flaw => .error flaw
  | none => .ok ()

end Quoted

end ModContracts.Json
