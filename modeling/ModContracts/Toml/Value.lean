/-!
# TOML values

* `Value` — values as far as settings use them: numbers and dates are told apart from all else, but
  not from each other;
* `Form` — how a table came about, which decides whether it may still grow;
* `Value.putDotted`, `Value.openTable`, `Value.openTables`, `Value.growAt` — what the lines of a
  document add to its tables; `none` if a line repeats or reopens what is settled.
-/

namespace ModContracts.Toml

/-- How a table came about. -/
inductive Form where
  /-- By a header of its own. -/
  | header
  /-- By the header of a table inside of it. -/
  | implied
  /-- By a dotted key. -/
  | dotted
  /-- Between braces. -/
  | inline
  deriving DecidableEq, Repr

/-- A value. -/
inductive Value where
  | string (text : String)
  | boolean (value : Bool)
  /-- A number, a date or a time. -/
  | scalar
  /-- A list; `ofTables` if its items are tables with headers. -/
  | array (ofTables : Bool) (items : List Value)
  | table (form : Form) (entries : List (String × Value))

/-- The entries of a table. -/
abbrev Entries := List (String × Value)

/-- The entry of a key. -/
def Entries.find? (es : Entries) (key : String) : Option Value :=
  es.lookup key

/-- Changes the entry of a key in its place. -/
def Entries.replace (es : Entries) (key : String) (value : Value) : Entries :=
  es.map fun (k, v) => if k = key then (k, value) else (k, v)

namespace Value

/-- Adds a value under a dotted key. The tables on the way may be new, or must have come about without
a header of their own. -/
def putDotted (value : Value) : List String → Entries → Option Entries
  | [], _ => none
  | [key], es =>
    match es.find? key with
    | some _ => none
    | none => some (es ++ [(key, value)])
  | key :: rest, es =>
    match es.find? key with
    | none => do
      let inner ← putDotted value rest []
      return es ++ [(key, .table .dotted inner)]
    | some (.table form inner) =>
      if form = .implied || form = .dotted then do
        let grown ← putDotted value rest inner
        return es.replace key (.table form grown)
      else none
    | some _ => none

/-- Changes the table that a header path leads to, or the last table of a list of tables. Tables on the
way that are new are implied. -/
def growAt (change : Entries → Option Entries) : List String → Entries → Option Entries
  | [], es => change es
  | key :: rest, es =>
    match es.find? key with
    | none => do
      let inner ← growAt change rest []
      return es ++ [(key, .table .implied inner)]
    | some (.table form inner) =>
      if form = .inline then none
      else do
        let grown ← growAt change rest inner
        return es.replace key (.table form grown)
    | some (.array true items) =>
      match items.getLast? with
      | some (.table form inner) => do
        let grown ← growAt change rest inner
        return es.replace key (.array true (items.dropLast ++ [.table form grown]))
      | _ => none
    | some _ => none

/-- Opens the table of a header. A table that was only implied so far gets its header now. -/
def openTable (key : String) (es : Entries) : Option Entries :=
  match es.find? key with
  | none => some (es ++ [(key, .table .header [])])
  | some (.table .implied inner) => some (es.replace key (.table .header inner))
  | some _ => none

/-- Opens a further table of a list of tables. -/
def openTables (key : String) (es : Entries) : Option Entries :=
  match es.find? key with
  | none => some (es ++ [(key, .array true [.table .header []])])
  | some (.array true items) => some (es.replace key (.array true (items ++ [.table .header []])))
  | some _ => none

end Value

end ModContracts.Toml
