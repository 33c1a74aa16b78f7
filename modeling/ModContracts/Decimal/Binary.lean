/-!
# Binary floating point

Non-negative binary64 numbers as a significand times a power of two, with exact rounding.

* `Binary` — the numbers; `Binary.ofRatio?` — the one nearest to a quotient of naturals;
* `Binary.mul?`, `Binary.div` — products and quotients, rounded to nearest;
* `Binary.pow10` — the number nearest to a power of ten.

A tie goes to the even significand. `none` stands for a result too large to be finite.
-/

namespace ModContracts.Decimal

/-- A finite non-negative binary64 number: `significand * 2 ^ exponent`. -/
structure Binary where
  significand : Nat
  exponent : Int
  deriving DecidableEq, Repr

namespace Binary

/-- The least exponent. -/
def minExponent : Int := -1074

/-- The greatest exponent. -/
def maxExponent : Int := 971

/-- The number zero. -/
def zero : Binary := ⟨0, minExponent⟩

/-- A quotient rounded to the nearest natural number, a tie to the even one. -/
def roundQuotient (num den : Nat) : Nat :=
  let q := num / den
  let r := num % den
  if 2 * r < den then q
  else if den < 2 * r then q + 1
  else if q % 2 = 0 then q else q + 1

/-- A quotient with one of its sides scaled by a power of two. -/
def scaleDown (num den : Nat) (exponent : Int) : Nat × Nat :=
  if 0 ≤ exponent then (num, den * Nat.pow 2 exponent.toNat)
  else (num * Nat.pow 2 (-exponent).toNat, den)

/-- The exponent of the greatest power of two that is not above a positive quotient. -/
def floorLog2 (num den : Nat) : Int :=
  let guess : Int := (Nat.log2 num : Int) - (Nat.log2 den : Int)
  let (n, d) := scaleDown num den guess
  if d ≤ n then guess else guess - 1

/-- The number nearest to a quotient. -/
def ofRatio? (num den : Nat) : Option Binary :=
  if num = 0 || den = 0 then some zero
  else
    let exponent := max (floorLog2 num den - 52) minExponent
    let (n, d) := scaleDown num den exponent
    let rounded := roundQuotient n d
    let found : Binary :=
      if rounded = Nat.pow 2 53 then ⟨Nat.pow 2 52, exponent + 1⟩ else ⟨rounded, exponent⟩
    if found.exponent ≤ maxExponent then some found else none

/-- A number as a quotient. -/
def toRatio (b : Binary) : Nat × Nat :=
  if 0 ≤ b.exponent then (b.significand * Nat.pow 2 b.exponent.toNat, 1)
  else (b.significand, Nat.pow 2 (-b.exponent).toNat)

/-- The number nearest to a natural number. -/
def ofNat? (n : Nat) : Option Binary := ofRatio? n 1

/-- The number nearest to a power of ten, for powers that are finite. -/
def pow10 (k : Nat) : Binary := (ofNat? (Nat.pow 10 k)).getD zero

/-- The number nearest to a product. -/
def mul? (a b : Binary) : Option Binary :=
  let (an, ad) := a.toRatio
  let (bn, bd) := b.toRatio
  ofRatio? (an * bn) (ad * bd)

/-- The number nearest to a quotient; the divisor is at least one. -/
def div (a b : Binary) : Binary :=
  let (an, ad) := a.toRatio
  let (bn, bd) := b.toRatio
  (ofRatio? (an * bd) (ad * bn)).getD zero

end Binary

end ModContracts.Decimal
