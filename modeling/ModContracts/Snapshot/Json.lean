import ModContracts.Snapshot
import ModContracts.Json.Reader

/-!
# Snapshots as JSON

How a snapshot is written down. Fields that have a default may be left out, and records may be
written as lists of their fields.

* `readValueForm` — the forms of a value, tried in order;
* `readAttachment`, `readDecl`, `readSnapshot` — the records;
* `Snapshot.ofJson` — the snapshot that a text describes.
-/

namespace ModContracts

open Json

/-! ## Formats -/

/-- The format of a location. -/
def locationFormat : RecordFormat where
  name := "SourceLocation"
  fields := ["file", "start", "end"]
  required := ["file", "start", "end"]
  lenient := true

/-- The format of an annotation. -/
def attachmentFormat : RecordFormat where
  name := "AnnotationSpec"
  fields := ["type", "values", "location", "value_locations"]
  required := ["type"]

/-- The format of a library type. -/
def typeFormat : RecordFormat where
  name := "TypeSpec"
  fields := ["name", "supertypes"]
  required := ["name"]

/-- The format of a declaration. -/
def declFormat : RecordFormat where
  name := "DeclSpec"
  fields := ["kind", "name", "modifiers", "supertypes", "type", "parameters", "returns",
    "annotations", "members", "location"]
  required := ["kind", "name"]

/-- The format of a snapshot. -/
def snapshotFormat : RecordFormat where
  name := "Snapshot"
  fields := ["types", "declarations"]
  required := []

/-- How many lists and objects may be open at once. -/
def nestingLimit : Nat := 127

/-! ## Locations -/

/-- A location. -/
def readLocation (room : Nat) (n : Node) : Read Location :=
  if room = 0 then .error (noRoom n locationFormat.wanted)
  else readRecord locationFormat ⟨"", 0, 0⟩ (fun r field value =>
    match field with
    | "file" => return { r with file := ← readString value }
    | "start" => return { r with start := ← readOffset value }
    | _ => return { r with stop := ← readOffset value }) n

/-! ## Values and annotations -/

/-- The value of a key that an object has exactly once. -/
def onlyMember? (name : String) (members : List (Quoted × Node)) : Option Node :=
  match members.filter fun (key, _) => key.read.toOption = some name with
  | [(_, value)] => some value
  | _ => none

/-- An integer of 64 bits. -/
def integerForm? (numeral : Numeral) : Option Int64 :=
  match numeral.read with
  | .ok (.natural n) => if n.toNat < Nat.pow 2 63 then some (Int64.ofNat n.toNat) else none
  | .ok (.negative i) => some i
  | _ => none

/-- The problem with a value of no known form. -/
def noValueForm : Problem := .mismatch (.noForm "ValueSpec")

mutual

/-- A value without flaw, by the first form that fits: a boolean, an integer, a string, a class
literal, an annotation, a list. -/
def readValueForm : Nat → Node → Option ValueSpec
  | _, .bool value => some (.bool value)
  | _, .num numeral => (integerForm? numeral).map .int
  | _, .str q => q.read.toOption.map .str
  | room + 1, .obj members _ =>
    match onlyMember? "class" members with
    | some (.str q) => q.read.toOption.map .classLiteral
    | _ =>
      match onlyMember? "annotation" members with
      | some value =>
        match readAttachment room value with
        | .ok a => some (.nested a.type a.values a.location? a.valueLocations)
        | .error _ => none
      | none => none
  | room + 1, .arr items _ => (items.mapM (readValueForm room)).map .list
  | _, _ => none

/-- An annotation. A value is taken as a whole before its form is looked for. -/
def readAttachment : Nat → Node → Read AttachmentSpec
  | 0, n => .error (noRoom n attachmentFormat.wanted)
  | room + 1, n =>
    readRecord attachmentFormat { type := "" } (fun r field value =>
      match field with
      | "type" => return { r with type := ← readString value }
      | "values" =>
        match room with
        | 0 => return { r with values := ← readTable 0 (fun _ => throw noValueForm) value }
        | inner + 1 => do
          let values ← readTable (inner + 1) (fun item => do
            sound (item.check inner)
            match readValueForm inner item with
            | some spec => return spec
            | none => throw noValueForm) value
          return { r with values }
      | "location" => return { r with location? := ← readOptional (readLocation room) value }
      | _ => return { r with
          valueLocations := ← readTable room (readLocation (room - 1)) value }) n

end

/-! ## Types and declarations -/

/-- A library type. -/
def readType (room : Nat) (n : Node) : Read TypeSpec :=
  if room = 0 then .error (noRoom n typeFormat.wanted)
  else readRecord typeFormat { name := "" } (fun r field value =>
    match field with
    | "name" => return { r with name := ← readString value }
    | _ => return { r with supertypes := ← readList (room - 1) readString value }) n

/-- A kind of declaration. -/
def readKind (room : Nat) : Node → Read Kind :=
  readKeyword room (Kind.all.map Kind.keyword) Kind.ofKeyword?

/-- A modifier. -/
def readModifier (room : Nat) : Node → Read Modifier :=
  readKeyword room (Modifier.all.map Modifier.keyword) Modifier.ofKeyword?

/-- A declaration. -/
def readDecl : Nat → Node → Read DeclSpec
  | 0, n => .error (noRoom n declFormat.wanted)
  | room + 1, n =>
    readRecord declFormat { kind := .classType, name := "" } (fun r field value =>
      match field with
      | "kind" => return { r with kind := ← readKind room value }
      | "name" => return { r with name := ← readString value }
      | "modifiers" => return { r with
          modifiers := ← readList room (readModifier (room - 1)) value }
      | "supertypes" => return { r with supertypes := ← readList room readString value }
      | "type" => return { r with type? := ← readOptional readString value }
      | "parameters" => return { r with parameters := ← readList room readString value }
      | "returns" => return { r with returns? := ← readOptional readString value }
      | "annotations" => return { r with
          attachments := ← readList room (readAttachment (room - 1)) value }
      | "members" =>
        match room with
        | 0 => return { r with members := ← readList 0 (fun _ => throw noValueForm) value }
        | inner + 1 => return { r with members := ← readList (inner + 1) (readDecl inner) value }
      | _ => return { r with location? := ← readOptional (readLocation room) value }) n

/-- A snapshot. -/
def readSnapshot (room : Nat) (n : Node) : Read Snapshot :=
  if room = 0 then .error (noRoom n snapshotFormat.wanted)
  else readRecord snapshotFormat {} (fun r field value =>
    match field with
    | "types" => return { r with types := ← readList (room - 1) (readType (room - 2)) value }
    | _ => return { r with
        declarations := ← readList (room - 1) (readDecl (room - 2)) value }) n

/-- The snapshot that a text describes; nothing but blanks may follow it. -/
def Snapshot.ofJson (text : String) : Read Snapshot := do
  let (n, rest) := Node.ofText text.toList
  let s ← readSnapshot nestingLimit n
  if ! (Node.skipBlanks rest).isEmpty then throw (.flaw .malformed)
  return s

end ModContracts
