import ModContracts.Json.Node
import ModContracts.Decimal.Shortest
import ModContracts.Keyed
import ModContracts.Text.Escaped

/-!
# Reading typed data from JSON

Readers take a tree apart in the order of its text, so of several problems the first in the text
is met.

* `Mismatch` — JSON of another shape than wanted, with its `message`; `Problem` — that, or a flaw;
* `readString`, `readOffset`, `readOptional`, `readList`, `readTable`, `readKeyword` — readers;
* `RecordFormat`, `readRecord` — records, written as an object with the record's fields in any
  order, or as a list of them in the order of the format.

A reader that enters a list or object is told the room: how many more levels may follow it.
-/

namespace ModContracts.Json

/-! ## Problems -/

/-- What stands where something else is wanted. -/
inductive Found where
  | null
  | bool (value : Bool)
  | number (n : Number)
  | string (text : String)
  | sequence
  | map
  deriving DecidableEq, Repr

/-- Why JSON is not of the wanted shape. -/
inductive Mismatch where
  | missingField (name : String)
  | duplicateField (name : String)
  | unknownField (name : String) (known : List String)
  /-- A word that is none of those that may stand there. -/
  | unknownVariant (name : String) (known : List String)
  | invalidType (found : Found) (wanted : String)
  /-- A negative number where an offset is wanted. -/
  | negativeOffset (value : Int64)
  /-- A record written as a list that is too short. -/
  | invalidLength (length : Nat) (wanted : String)
  /-- A value that is none of the forms of a value. -/
  | noForm (wanted : String)
  deriving DecidableEq, Repr

/-- Why reading fails. -/
inductive Problem where
  | flaw (flaw : Flaw)
  | mismatch (mismatch : Mismatch)
  deriving DecidableEq, Repr

/-- Words to choose from. -/
def choiceText (known : List String) : String :=
  match known.map fun word => s!"`{word}`" with
  | [] => "nothing"
  | [a] => a
  | [a, b] => a ++ " or " ++ b
  | words => "one of " ++ ", ".intercalate words

/-- What is found, in words. -/
def Found.text : Found → String
  | .null => "null"
  | .bool value => s!"boolean `{value}`"
  | .number (.natural n) => s!"integer `{n.toNat}`"
  | .number (.negative i) => s!"integer `{i.toInt}`"
  | .number (.float negative magnitude) => s!"floating point `{magnitude.text negative}`"
  | .string text => "string " ++ Text.escaped text
  | .sequence => "sequence"
  | .map => "map"

/-- The text of a mismatch. -/
def Mismatch.message : Mismatch → String
  | .missingField name => s!"missing field `{name}`"
  | .duplicateField name => s!"duplicate field `{name}`"
  | .unknownField name known => s!"unknown field `{name}`, expected {choiceText known}"
  | .unknownVariant name known => s!"unknown variant `{name}`, expected {choiceText known}"
  | .invalidType found wanted => s!"invalid type: {found.text}, expected {wanted}"
  | .negativeOffset value => s!"invalid value: integer `{value.toInt}`, expected usize"
  | .invalidLength length wanted => s!"invalid length {length}, expected {wanted}"
  | .noForm wanted => s!"data did not match any variant of untagged enum {wanted}"

/-- The text of a problem. -/
def Problem.message : Problem → String
  | .flaw .malformed => "this is no JSON"
  | .flaw .truncated => "the JSON breaks off"
  | .mismatch m => m.message

/-- The result of reading. -/
abbrev Read (α : Type) := Except Problem α

/-- A part of a text that has to be without flaw. -/
def sound {α : Type} (x : Except Flaw α) : Read α :=
  x.mapError .flaw

/-- The problem with a value that is not of the wanted type. A value that breaks off is a flaw. -/
def wrongType (n : Node) (wanted : String) : Problem :=
  let invalid (found : Found) : Problem := .mismatch (.invalidType found wanted)
  match n with
  | .null => invalid .null
  | .bool value => invalid (.bool value)
  | .num numeral =>
    match numeral.read with
    | .ok number => invalid (.number number)
    | .error flaw => .flaw flaw
  | .str q =>
    match q.read with
    | .ok text => invalid (.string text)
    | .error flaw => .flaw flaw
  | .arr .. => invalid .sequence
  | .obj .. | .keyless => invalid .map
  | .broken _ flaw => .flaw flaw

/-! ## Plain values -/

/-- A string. -/
def readString : Node → Read String
  | .str q => sound q.read
  | n => .error (wrongType n "a string")

/-- A byte offset. -/
def readOffset : Node → Read UInt64
  | .num numeral =>
    match numeral.read with
    | .ok (.natural n) => .ok n
    | .ok (.negative i) => .error (.mismatch (.negativeOffset i))
    | _ => .error (wrongType (.num numeral) "usize")
  | n => .error (wrongType n "usize")

/-- A value that may be `null` instead. -/
def readOptional {α : Type} (item : Node → Read α) : Node → Read (Option α)
  | .null => .ok none
  | n => (item n).map some

/-! ## Lists and tables -/

/-- The items of a list, and its end. -/
def readItems {α : Type} (item : Node → Read α) : List Node → Option Flaw → Read (List α)
  | [], flaw? => do
    sound (Node.ending flaw?)
    return []
  | n :: rest, flaw? => do
    let x ← item n
    let xs ← readItems item rest flaw?
    return x :: xs

/-- A list. -/
def readList {α : Type} (room : Nat) (item : Node → Read α) : Node → Read (List α)
  | .arr items flaw? => if room = 0 then .error (.flaw .malformed) else readItems item items flaw?
  | n => .error (wrongType n "a sequence")

/-- The entries of a table after those read before, and its end. -/
def readEntries {α : Type} (item : Node → Read α) (read : Keyed String α) :
    List (Quoted × Node) → Option Flaw → Read (Keyed String α)
  | [], flaw? => do
    sound (Node.ending flaw?)
    return read
  | (key, n) :: rest, flaw? => do
    let name ← sound key.read
    let x ← item n
    readEntries item (read.put name x) rest flaw?

/-- A table, in the order of its keys. -/
def readTable {α : Type} (room : Nat) (item : Node → Read α) : Node → Read (Keyed String α)
  | .obj members flaw? =>
    if room = 0 then .error (.flaw .malformed) else readEntries item [] members flaw?
  | .keyless => .error (.flaw .malformed)
  | n => .error (wrongType n "a map")

/-! ## Words -/

/-- The nothing that a word may be followed by. -/
def readNothing : Node → Read Unit
  | .null => .ok ()
  | n => .error (wrongType n "unit")

/-- One of some words, as a string, or as the only key of an object whose value is nothing. -/
def readKeyword {α : Type} (room : Nat) (known : List String) (find : String → Option α)
    (n : Node) : Read α :=
  let choose (word : String) : Read α :=
    match find word with
    | some x => .ok x
    | none => .error (.mismatch (.unknownVariant word known))
  match n with
  | .str q => do choose (← sound q.read)
  | .obj [] flaw? => .error (.flaw (if room = 0 then .malformed else flaw?.getD .malformed))
  | .obj ((key, value) :: rest) flaw? => do
    if room = 0 then throw (.flaw .malformed)
    let x ← choose (← sound key.read)
    readNothing value
    if ! rest.isEmpty then throw (.flaw .malformed)
    sound (Node.ending flaw?)
    return x
  | .broken .nothing flaw => .error (.flaw flaw)
  | _ => .error (.flaw .malformed)

/-! ## Records -/

/-- How a record is written. -/
structure RecordFormat where
  /-- The name of the record in messages. -/
  name : String
  /-- The fields, in the order in which a list gives them. -/
  fields : List String
  /-- The fields that have to be there; they come first. -/
  required : List String
  /-- Whether fields of other names are passed over. -/
  lenient : Bool := false

namespace RecordFormat

variable {σ : Type}

/-- The name of a record as something that is wanted. -/
def wanted (f : RecordFormat) : String := "struct " ++ f.name

/-- Reads fields from an object. `seen` are the fields read so far. -/
def readMembers (f : RecordFormat) (set : σ → String → Node → Read σ) :
    List (Quoted × Node) → List String → σ → Read (List String × σ)
  | [], seen, r => .ok (seen, r)
  | (key, value) :: rest, seen, r => do
    let name ← sound key.read
    if name ∉ f.fields then
      if f.lenient then
        sound value.skip
        readMembers f set rest seen r
      else throw (.mismatch (.unknownField name f.fields))
    else if name ∈ seen then throw (.mismatch (.duplicateField name))
    else
      let next ← set r name value
      readMembers f set rest (name :: seen) next

/-- Reads fields from a list in the order of the format; items beyond the last field are left. -/
def readRow (set : σ → String → Node → Read σ) :
    List String → List Node → σ → Read σ
  | name :: names, value :: rest, r => do
    let next ← set r name value
    readRow set names rest next
  | _, _, r => .ok r

/-- The first required field that was not read. -/
def missing? (f : RecordFormat) (seen : List String) : Option String :=
  f.required.find? (· ∉ seen)

end RecordFormat

/-- A record. `set` gives a record one field, starting from `blank`. -/
def readRecord {σ : Type} (f : RecordFormat) (blank : σ) (set : σ → String → Node → Read σ) :
    Node → Read σ
  | .obj members flaw? => do
    let (seen, r) ← f.readMembers set members [] blank
    sound (Node.ending flaw?)
    match f.missing? seen with
    | some name => throw (.mismatch (.missingField name))
    | none => return r
  | .arr items flaw? => do
    let r ← RecordFormat.readRow set f.fields items blank
    if items.length < f.fields.length then
      sound (Node.ending flaw?)
      if items.length < f.required.length then
        throw (.mismatch (.invalidLength items.length
          s!"{f.wanted} with {f.fields.length} elements"))
    else if f.fields.length < items.length then throw (.flaw .malformed)
    else sound (Node.ending flaw?)
    return r
  | .keyless => .error (.flaw .malformed)
  | n => .error (wrongType n f.wanted)

/-- What stands where there is no room for a list or object. -/
def noRoom (n : Node) (wanted : String) : Problem :=
  match n with
  | .arr .. | .obj .. | .keyless => .flaw .malformed
  | n => wrongType n wanted

end ModContracts.Json
