/-!
# Numbers of double precision

Binary numbers with 53 significant bits and a bounded exponent, held exactly, and the rounding of
ratios to them.  All arithmetic is on natural numbers; no machine floating point takes part.

## Main definitions

* `Double` — a sign, a significand and a power of two;
* `Double.ofRatio?` — the nearest double of a ratio, a tie going to the even significand;
* `Double.ofParts?` — the double of decimal digits and a power of ten, in two roundings.
-/

namespace AddressTrace.Decimal

/-- **A double.**  Its value is the significand times two to the exponent, with its sign.  The
significand has 53 bits, or fewer at the least exponent. -/
structure Double where
  negative : Bool
  significand : Nat
  exponent : Int
deriving Repr, DecidableEq

namespace Double

/-- The number of bits of a significand. -/
def precision : Nat := 53

/-- The exponent of the smallest doubles. -/
def minExponent : Int := -1074

/-- The exponent of the greatest doubles. -/
def maxExponent : Int := 971

/-- The double zero. -/
def zero : Double := ⟨false, 0, minExponent⟩

/-- Numerator and denominator of the value, without its sign. -/
def ratio (d : Double) : Nat × Nat :=
  (d.significand * Nat.pow 2 d.exponent.toNat, Nat.pow 2 (-d.exponent).toNat)

/-- A quotient rounded to the nearest natural number, a tie going to the even one. -/
def roundQuotient (num den : Nat) : Nat :=
  let q := num / den
  let twice := 2 * (num % den)
  if twice < den then q
  else if den < twice then q + 1
  else if q % 2 = 0 then q
  else q + 1

/-- A ratio divided by a power of two, rounded. -/
def scaled (num den : Nat) (e : Int) : Nat :=
  roundQuotient (num * Nat.pow 2 (-e).toNat) (den * Nat.pow 2 e.toNat)

/-- The exponent at which a ratio has 53 significant bits before rounding, unless that is below
the least exponent. -/
def exponentFor (num den : Nat) : Int :=
  let guess : Int := (num.log2 : Int) - (den.log2 : Int) - 52
  -- The quotient of the two leading bits may be one bit short.
  let short :=
    num * Nat.pow 2 (-guess).toNat < den * Nat.pow 2 guess.toNat * Nat.pow 2 52
  max minExponent (if short then guess - 1 else guess)

/-- **The nearest double of a ratio**, unless it is beyond the greatest one. -/
def ofRatio? (negative : Bool) (num den : Nat) : Option Double :=
  if num = 0 then some ⟨negative, 0, minExponent⟩
  else
    let e := exponentFor num den
    let m := scaled num den e
    -- Rounding up may carry into a 54th bit.
    let d : Double :=
      if m = Nat.pow 2 precision then ⟨negative, Nat.pow 2 52, e + 1⟩ else ⟨negative, m, e⟩
    if maxExponent < d.exponent then none else some d

/-- The nearest double of a product. -/
def mul? (a b : Double) : Option Double :=
  let (n, d) := a.ratio
  let (n', d') := b.ratio
  ofRatio? (a.negative != b.negative) (n * n') (d * d')

/-- The nearest double of a quotient by a double that is not zero. -/
def div? (a b : Double) : Option Double :=
  let (n, d) := a.ratio
  let (n', d') := b.ratio
  ofRatio? (a.negative != b.negative) (n * d') (d * n')

/-- The double nearest to a power of ten, for powers up to 308. -/
def powerOfTen? (n : Nat) : Option Double :=
  ofRatio? false (Nat.pow 10 n) 1

/-- The greatest power of ten that is a double. -/
def maxPower : Nat := 308

/-- Divides by powers of ten no greater than the greatest one until `down` places are made up
for; `steps` bounds the number of divisions. -/
def scaleDown? : Nat → Double → Nat → Option Double
  | 0, _, _ => none
  | steps + 1, d, down =>
    if d.significand = 0 then some d
    else if down ≤ maxPower then (powerOfTen? down).bind d.div?
    else ((powerOfTen? maxPower).bind d.div?).bind fun d' => scaleDown? steps d' (down - maxPower)

/-- **The double of decimal digits**: the digits are rounded to a double, and so is its product
with, or quotient by, the power of ten.  There is none if the result is too great.  Four divisions
bring any significand of 64 bits down to zero. -/
def ofParts? (negative : Bool) (digits : Nat) (exponent : Int) : Option Double :=
  (ofRatio? negative digits 1).bind fun d =>
    if 0 ≤ exponent then
      if exponent ≤ maxPower then (powerOfTen? exponent.toNat).bind d.mul?
      else if d.significand = 0 then some d
      else none
    else scaleDown? 4 d (-exponent).toNat

end Double

end AddressTrace.Decimal
