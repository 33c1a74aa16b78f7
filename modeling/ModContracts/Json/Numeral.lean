import ModContracts.Decimal.Binary

/-!
# JSON numbers

A number as it is written, and the value it is read as.

* `Flaw` — how a text can break off being JSON;
* `Numeral`, `Numeral.scan` — sign, digits and exponent, taken from a text;
* `Number`, `Numeral.read` — integers of 64 bits, and binary64 numbers for all else.
-/

namespace ModContracts.Json

/-- How a text breaks off being JSON. -/
inductive Flaw where
  /-- The text goes on in a way that JSON does not. -/
  | malformed
  /-- The text ends inside a value. -/
  | truncated
  deriving DecidableEq, Repr

/-- The value of a decimal digit. -/
def digit? (c : Char) : Option Nat :=
  if '0' ≤ c && c ≤ '9' then some (c.toNat - '0'.toNat) else none

/-- The digits at the start of a text, and the text after them. -/
def digits : List Char → List Nat × List Char
  | [] => ([], [])
  | c :: rest =>
    match digit? c with
    | some d => let (ds, after) := digits rest; (d :: ds, after)
    | none => ([], c :: rest)

/-- A number as it is written. -/
structure Numeral where
  negative : Bool
  /-- The digits before the point. -/
  whole : List Nat
  /-- The digits after the point. -/
  fraction? : Option (List Nat) := none
  /-- Whether the exponent is negative, and its digits. -/
  exponent? : Option (Bool × List Nat) := none
  deriving DecidableEq, Repr

namespace Numeral

/-- At least one digit. -/
def someDigits (s : List Char) : Except Flaw (List Nat × List Char) :=
  match digits s with
  | ([], []) => .error .truncated
  | ([], _ :: _) => .error .malformed
  | (ds, after) => .ok (ds, after)

/-- The digits before the point. A zero stands alone. -/
def scanWhole (s : List Char) : Except Flaw (List Nat × List Char) := do
  match ← someDigits s with
  | (0 :: _ :: _, _) => throw .malformed
  | found => return found

/-- The digits after the point, if there is one. -/
def scanFraction : List Char → Except Flaw (Option (List Nat) × List Char)
  | '.' :: rest => do
    let (ds, after) ← someDigits rest
    return (some ds, after)
  | s => .ok (none, s)

/-- The sign of an exponent, and the text after it. -/
def scanSign : List Char → Bool × List Char
  | '+' :: rest => (false, rest)
  | '-' :: rest => (true, rest)
  | s => (false, s)

/-- The exponent, if there is one. -/
def scanExponent (s : List Char) : Except Flaw (Option (Bool × List Nat) × List Char) :=
  match s with
  | c :: rest =>
    if c = 'e' || c = 'E' then do
      let (negative, unsigned) := scanSign rest
      let (ds, after) ← someDigits unsigned
      return (some (negative, ds), after)
    else .ok (none, s)
  | [] => .ok (none, s)

/-- A number at the start of a text, and the text after it. -/
def scan (s : List Char) : Except Flaw (Numeral × List Char) := do
  let (negative, unsigned) := match s with
    | '-' :: rest => (true, rest)
    | _ => (false, s)
  let (whole, s) ← scanWhole unsigned
  let (fraction?, s) ← scanFraction s
  let (exponent?, s) ← scanExponent s
  return ({ negative, whole, fraction?, exponent? }, s)

end Numeral

/-! ## Values -/

/-- The value of a number. -/
inductive Number where
  | natural (n : UInt64)
  /-- A negative integer. -/
  | negative (i : Int64)
  | float (negative : Bool) (magnitude : Decimal.Binary)
  deriving DecidableEq, Repr

namespace Numeral

/-- One more than the greatest integer that is read exactly. -/
def limit : Nat := Nat.pow 2 64

/-- Takes digits as long as the number they make stays below the limit: that number, and the digits
that are left. -/
def takeDigits (n : Nat) : List Nat → Nat × List Nat
  | [] => (n, [])
  | d :: rest => if 10 * n + d < limit then takeDigits (10 * n + d) rest else (n, d :: rest)

/-- The greatest exponent that is read exactly. -/
def exponentLimit : Nat := Nat.pow 2 31

/-- Scales by a power of ten, in steps whose power is finite. -/
def scale : Nat → Decimal.Binary → Int → Except Flaw Decimal.Binary
  | 0, b, _ => .ok b
  | steps + 1, b, power =>
    if power.natAbs ≤ 308 then
      if 0 ≤ power then
        match b.mul? (.pow10 power.natAbs) with
        | some scaled => .ok scaled
        | none => .error .malformed
      else .ok (b.div (.pow10 power.natAbs))
    else if b.significand = 0 then .ok b
    else if 0 ≤ power then .error .malformed
    else scale steps (b.div (.pow10 308)) (power + 308)

/-- The number nearest to a natural number, scaled by a power of ten. A number divided often enough
is zero, which ends the scaling. -/
def toFloat (negative : Bool) (n : Nat) (power : Int) : Except Flaw Number :=
  (scale 8 ((Decimal.Binary.ofNat? n).getD .zero) power).map (.float negative)

/-- The value of a number. Integers of 64 bits are exact; the leading digits that fit in 64 bits
decide about all else. A number too large to be finite is malformed. -/
def read (n : Numeral) : Except Flaw Number :=
  let (taken, left) := takeDigits 0 n.whole
  let (significand, power) : Nat × Int := match n.fraction? with
    | none => (taken, left.length)
    | some fraction =>
      let (all, unread) := takeDigits taken fraction
      (all, (left.length : Int) - ((fraction.length : Int) - unread.length))
  match n.exponent? with
  | some (down, ds) =>
    let exponent := ds.foldl (fun acc d => 10 * acc + d) 0
    if exponentLimit ≤ exponent then
      if significand ≠ 0 && ! down then .error .malformed
      else .ok (.float n.negative .zero)
    else toFloat n.negative significand (if down then power - exponent else power + exponent)
  | none =>
    if n.fraction?.isSome || ! left.isEmpty then toFloat n.negative significand power
    else if ! n.negative then .ok (.natural (UInt64.ofNat significand))
    else if significand = 0 || Nat.pow 2 63 < significand then toFloat true significand 0
    else .ok (.negative (Int64.ofInt (-(significand : Int))))

end Numeral

end ModContracts.Json
