/-!
# TOML numbers, dates and times

A word is told to be a number by its first characters and then looked at as closely as its kind asks
for. A decimal integer is settled by an underscore behind its first digits: whatever follows belongs
to it, as long as every underscore stands between digits. No number is too large here.

* `isGrouped` — the underscores of a number stand between digits;
* `isFloat` — a number is written with a fraction or an exponent;
* `isMoment` — a word is written as a date, a time, or a date with a time;
* `isScalar` — a word is a number or one of these.
-/

namespace ModContracts.Toml

/-! ## Digits -/

/-- Whether a character is a sign. -/
def isSign (c : Char) : Bool := c = '+' || c = '-'

/-- Characters without a sign in front of them. -/
def dropSign : List Char → List Char
  | c :: rest => if isSign c then rest else c :: rest
  | [] => []

/-- A hexadecimal digit. -/
def isHexDigit (c : Char) : Bool :=
  c.isDigit || ('a' ≤ c && c ≤ 'f') || ('A' ≤ c && c ≤ 'F')

/-- An octal digit. -/
def isOctalDigit (c : Char) : Bool := '0' ≤ c && c ≤ '7'

/-- A binary digit. -/
def isBinaryDigit (c : Char) : Bool := c = '0' || c = '1'

/-- Whether the underscores behind a character stand between digits of a class. -/
def isGroupedAfter (isDigit : Char → Bool) : Char → List Char → Bool
  | before, '_' :: c :: rest => isDigit before && isDigit c && isGroupedAfter isDigit c rest
  | _, ['_'] => false
  | _, c :: rest => isGroupedAfter isDigit c rest
  | _, [] => true

/-- Whether the underscores of a number stand between digits of a class. A sign is not a digit. -/
def isGrouped (isDigit : Char → Bool) : List Char → Bool
  | c :: rest => c ≠ '_' && isGroupedAfter isDigit c rest
  | [] => true

/-! ## Numbers -/

/-- Digits and underscores at the start of a number. -/
def leadingDigits (cs : List Char) : List Char :=
  cs.takeWhile fun c => c.isDigit || c = '_'

/-- The text after digits and underscores, of which at least one is a digit. -/
def afterDigits? (cs : List Char) : Option (List Char) :=
  if (leadingDigits cs).any Char.isDigit then some (cs.drop (leadingDigits cs).length) else none

/-- The text after a number without a sign: its whole part, its fraction and its exponent. -/
def afterFloat? (cs : List Char) : Option (List Char) := do
  let rest ← afterDigits? cs
  let rest ← match rest with
    | '.' :: fraction => afterDigits? fraction
    | _ => some rest
  match rest with
  | 'e' :: exponent | 'E' :: exponent => afterDigits? (dropSign exponent)
  | _ => some rest

/-- A number without a sign that may have a fraction and an exponent. A zero does not stand before
other digits of the whole part. -/
def isFloat (cs : List Char) : Bool :=
  ! (cs.head? = some '0' && 1 < (leadingDigits cs).countP Char.isDigit) && afterFloat? cs = some []

/-- A number of another base, behind the letter of its base. -/
def isBased (isDigit : Char → Bool) (cs : List Char) : Bool :=
  cs.all (fun c => isDigit c || c = '_') && isGrouped isDigit cs

/-! ## Dates and times -/

/-- The number that exactly so many digits make. -/
def fixedNumber? (length : Nat) (cs : List Char) : Option Nat :=
  if cs.length = length && cs.all Char.isDigit then
    some (cs.foldl (fun n c => 10 * n + (c.toNat - '0'.toNat)) 0)
  else none

/-- The number of days of a month. -/
def daysOf (year month : Nat) : Nat :=
  if month = 2 then
    if year % 4 = 0 && (year % 100 ≠ 0 || year % 400 = 0) then 29 else 28
  else if month = 4 || month = 6 || month = 9 || month = 11 then 30
  else 31

/-- A date. -/
def isDate (cs : List Char) : Bool :=
  match fixedNumber? 4 (cs.take 4), fixedNumber? 2 ((cs.drop 5).take 2),
      fixedNumber? 2 (cs.drop 8) with
  | some year, some month, some day =>
    cs[4]? = some '-' && cs[7]? = some '-' && 1 ≤ month && month ≤ 12 && 1 ≤ day &&
      day ≤ daysOf year month
  | _, _, _ => false

/-- Hours and minutes. -/
def isClock (cs : List Char) : Bool :=
  match fixedNumber? 2 (cs.take 2), fixedNumber? 2 (cs.drop 3) with
  | some hour, some minute => cs[2]? = some ':' && hour ≤ 23 && minute ≤ 59
  | _, _ => false

/-- Seconds and their fraction, or nothing. -/
def isSeconds : List Char → Bool
  | [] => true
  | ':' :: rest =>
    match fixedNumber? 2 (rest.take 2) with
    | some second =>
      second ≤ 60 && match rest.drop 2 with
        | [] => true
        | '.' :: fraction => ! fraction.isEmpty && fraction.all Char.isDigit
        | _ => false
    | none => false
  | _ => false

/-- A time. -/
def isTime (cs : List Char) : Bool :=
  isClock (cs.take 5) && isSeconds (cs.drop 5)

/-- The part before a character that passes a test, and the part after it. -/
def cut? (test : Char → Bool) (cs : List Char) : Option (List Char × List Char) :=
  match cs.dropWhile (! test ·) with
  | _ :: rest => some (cs.takeWhile (! test ·), rest)
  | [] => none

/-- A time, perhaps with its distance from universal time. -/
def isZonedTime (cs : List Char) : Bool :=
  match cut? (fun c => c = 'Z' || c = 'z') cs with
  | some (time, rest) => rest.isEmpty && isTime time
  | none =>
    match cut? isSign cs with
    | some (time, zone) => isTime time && isClock zone
    | none => isTime cs

/-- A date, a blank or the letter T, and a time. -/
def isDateTime (cs : List Char) : Bool :=
  isDate (cs.take 10) &&
    (cs[10]? = some 'T' || cs[10]? = some 't' || cs[10]? = some ' ') && isZonedTime (cs.drop 11)

/-- A date, a time, or both. -/
def isMoment (cs : List Char) : Bool :=
  isDate cs || isTime cs || isDateTime cs

/-! ## Words -/

/-- A decimal number, a date or a time, told apart by what follows the first digits. Of these only a
date with a time may hold a space; an integer that is settled may go on over tabs. -/
def isDecimalOrMoment (cs : List Char) : Bool :=
  let unsigned := dropSign cs
  let isLeadingZero := unsigned.head? = some '0' && unsigned ≠ ['0']
  match unsigned.dropWhile Char.isDigit with
  | [] => ! unsigned.isEmpty && ! isLeadingZero
  | c :: rest =>
    if c = '-' || c = ':' then isMoment cs
    else if ' ' ∈ rest then false
    else if (c :: rest).any fun c => c = '.' || c = 'e' || c = 'E' then
      isFloat unsigned && isGrouped Char.isDigit cs
    else c = '_' && ! isLeadingZero && isGrouped isHexDigit cs

/-- A number, a date or a time. -/
def isScalar (cs : List Char) : Bool :=
  match cs with
  | '0' :: 'x' :: digits => isBased isHexDigit digits
  | '0' :: 'o' :: digits => isBased isOctalDigit digits
  | '0' :: 'b' :: digits => isBased isBinaryDigit digits
  | _ =>
    dropSign cs = ['i', 'n', 'f'] || dropSign cs = ['n', 'a', 'n'] || isDecimalOrMoment cs

end ModContracts.Toml
