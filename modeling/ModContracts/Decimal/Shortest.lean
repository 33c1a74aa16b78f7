import ModContracts.Decimal.Binary

/-!
# Shortest decimals

The shortest decimal that reads back as a binary64 number.

* `Binary.readsBack` — a decimal lies among the reals that round to the number;
* `Binary.shortest` — of the decimals with the fewest digits that read back, the nearest;
* `Binary.text` — that decimal as it is written in messages.
-/

namespace ModContracts.Decimal

namespace Binary

/-- A decimal: `digits * 10 ^ power` as a quotient. -/
def decimalRatio (digits : Nat) (power : Int) : Nat × Nat :=
  if 0 ≤ power then (digits * Nat.pow 10 power.toNat, 1) else (digits, Nat.pow 10 (-power).toNat)

/-- Whether a decimal lies among the reals that round to a number. The bounds lie half way to the
neighbours; they belong to the number exactly when its significand is even. -/
def readsBack (b : Binary) (digits : Nat) (power : Int) : Bool :=
  let (n, d) := decimalRatio digits power
  let below := if b.significand = Nat.pow 2 52 && minExponent < b.exponent then 1 else 2
  let (lowNum, lowDen) := toRatio ⟨4 * b.significand - below, b.exponent - 2⟩
  let (highNum, highDen) := toRatio ⟨4 * b.significand + 2, b.exponent - 2⟩
  if b.significand % 2 = 0 then
    decide (lowNum * d ≤ n * lowDen) && decide (n * highDen ≤ highNum * d)
  else decide (lowNum * d < n * lowDen) && decide (n * highDen < highNum * d)

/-- The exponent of the greatest power of ten that is not above a positive quotient. -/
def floorLog10 (num den : Nat) : Int :=
  if den ≤ num then ((Nat.toDigits 10 (num / den)).length : Int) - 1
  else
    let up := (Nat.toDigits 10 (den / num)).length
    if den ≤ num * Nat.pow 10 (up - 1) then -((up : Int) - 1) else -(up : Int)

/-- The decimals with some number of digits next to a number, below and above it, that read back;
the nearer one first. The one above may be the next power of ten, which needs a single digit. -/
def candidates (b : Binary) (length : Nat) : List (Nat × Int) :=
  let (num, den) := b.toRatio
  let power := floorLog10 num den - (length : Int) + 1
  let (n, d) := if 0 ≤ power then (num, den * Nat.pow 10 power.toNat)
    else (num * Nat.pow 10 (-power).toNat, den)
  let low := n / d
  let nearLow := 2 * (n % d) < d || (2 * (n % d) = d && low % 2 = 0)
  let ordered := if nearLow then [low, low + 1] else [low + 1, low]
  let decimals : List (Nat × Int) := ordered.map fun digits =>
    if digits = Nat.pow 10 length then (1, power + length) else (digits, power)
  decimals.filter fun (digits, p) => b.readsBack digits p

/-- The shortest decimal that reads back, the nearest of those; zero has the digit zero. -/
def shortest (b : Binary) : Nat × Int :=
  if b.significand = 0 then (0, 0)
  else (((List.range 17).flatMap fun n => b.candidates (n + 1)).head?).getD (0, 0)

/-- Decimals from `10 ^ -5` to below `10 ^ 16` are written with a point and at least one place
after it; the others with one digit before the point and a signed exponent. -/
def text (negative : Bool) (b : Binary) : String :=
  let (digits, power) := b.shortest
  let ds := Nat.toDigits 10 digits
  let sign := if negative then "-" else ""
  if digits = 0 then sign ++ "0.0"
  else
    let exponent : Int := (ds.length : Int) - 1 + power
    let body : List Char :=
      if -5 ≤ exponent && exponent ≤ 15 then
        if 0 ≤ power then ds ++ List.replicate power.toNat '0' ++ ['.', '0']
        else if 0 ≤ exponent then
          ds.take (exponent.toNat + 1) ++ '.' :: ds.drop (exponent.toNat + 1)
        else '0' :: '.' :: List.replicate ((-exponent).toNat - 1) '0' ++ ds
      else
        let tail := if ds.length = 1 then [] else '.' :: ds.drop 1
        let mark := if 0 ≤ exponent then '+' else '-'
        ds.take 1 ++ tail ++ 'e' :: mark :: Nat.toDigits 10 exponent.natAbs
    sign ++ String.ofList body

end Binary

end ModContracts.Decimal
