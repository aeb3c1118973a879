import AddressTrace.Decimal.Double

/-!
# Shortest decimal text

The decimal text of a double that has the fewest digits among all that read back as it, and of
those the one nearest to it.

## Main definitions

* `Double.readsBack` — is a decimal among those whose nearest double is this one?
* `shortest` — digits and power of ten;
* `Double.text` — the text: positional between 10⁻⁵ and 10¹⁶, with an exponent beyond.
-/

namespace AddressTrace.Decimal

/-- **A positive decimal**: digits times a power of ten. -/
structure Scaled where
  digits : Nat
  exponent : Int
deriving Repr, DecidableEq

namespace Double

/-- Is `a / 4` times two to the exponent of `d` less than, equal to, or greater than a decimal? -/
def compareQuarters (d : Double) (a : Nat) (x : Scaled) : Ordering :=
  compare (a * Nat.pow 2 d.exponent.toNat * Nat.pow 10 (-x.exponent).toNat)
    (4 * x.digits * Nat.pow 10 x.exponent.toNat * Nat.pow 2 (-d.exponent).toNat)

/-- **Does a decimal read back as this double?**  It does if it lies no further from it than half
way to the neighbouring doubles; a decimal half way between two is read as the even one.  Below
the least significand of 53 bits the neighbour is nearer. -/
def readsBack (d : Double) (x : Scaled) : Bool :=
  let m := d.significand
  let down := if m = Nat.pow 2 52 ∧ minExponent < d.exponent then 1 else 2
  let low := d.compareQuarters (4 * m - down) x
  let high := d.compareQuarters (4 * m + 2) x
  let even := m % 2 = 0
  (low == .lt || (low == .eq && even)) && (high == .gt || (high == .eq && even))

/-- The greatest number of units of ten to the `e` that is no more than the double. -/
def floorAt (d : Double) (e : Int) : Nat :=
  let (num, den) := d.ratio
  num * Nat.pow 10 (-e).toNat / (den * Nat.pow 10 e.toNat)

/-- The first of the two neighbours of a double on the grid of ten to the `e` that reads back, if
one does; where both do, the nearer one, and of two equally near the even one. -/
def onGrid? (d : Double) (e : Int) : Option Scaled :=
  let q := d.floorAt e
  let lower : Scaled := ⟨q, e⟩
  let upper : Scaled := ⟨q + 1, e⟩
  match d.readsBack lower, d.readsBack upper with
  | true, false => some lower
  | false, true => some upper
  | false, false => none
  | true, true =>
    -- The middle of the two, in units of a tenth of the grid.
    match d.compareQuarters (4 * d.significand) ⟨10 * q + 5, e - 1⟩ with
    | .lt => some lower
    | .gt => some upper
    | .eq => if q % 2 = 0 then some lower else some upper

/-- The position of the first digit of a double that is not zero: the greatest power of ten that
is no more than it.  The search goes down from a power above all doubles. -/
def leadingPlace (d : Double) : Nat → Int → Int
  | 0, e => e
  | steps + 1, e => if d.floorAt e = 0 then leadingPlace d steps (e - 1) else e

/-- The coarsest grid with a decimal that reads back, from the one with one digit on. -/
def search (d : Double) : Nat → Int → Option Scaled
  | 0, _ => none
  | steps + 1, e => (d.onGrid? e).orElse fun _ => search d steps (e - 1)

/-- A decimal without the zeros at the end of its digits. -/
def trimZeros : Nat → Scaled → Scaled
  | 0, x => x
  | steps + 1, x =>
    if x.digits ≠ 0 ∧ x.digits % 10 = 0 then trimZeros steps ⟨x.digits / 10, x.exponent + 1⟩ else x

/-- **The shortest decimal of a double** that is not zero; seventeen digits always read back. -/
def shortest (d : Double) : Scaled :=
  let place := d.leadingPlace 640 309
  trimZeros 20 ((d.search 18 place).getD ⟨d.floorAt (place - 17), place - 17⟩)

/-! ### The text -/

/-- Digits with a point after the first `n` of them. -/
def withPoint (digits : List Char) (n : Nat) : List Char :=
  digits.take n ++ '.' :: digits.drop n

/-- **The text of digits whose first one stands at ten to the `place`.**  Positional from 10⁻⁵ up
to but not including 10¹⁶, a whole number with one zero after the point; otherwise one digit
before the point and an exponent with its sign. -/
def layout (digits : List Char) (place : Int) : List Char :=
  let n := digits.length
  if 0 ≤ place ∧ place < 16 then
    let whole := place.toNat + 1
    if n ≤ whole then digits ++ List.replicate (whole - n) '0' ++ ['.', '0']
    else withPoint digits whole
  else if -5 ≤ place ∧ place < 0 then
    ['0', '.'] ++ List.replicate ((-place).toNat - 1) '0' ++ digits
  else
    (if n = 1 then digits else withPoint digits 1)
      ++ ['e', if place < 0 then '-' else '+'] ++ (toString place.natAbs).toList

/-- **The shortest text of a double.** -/
def text (d : Double) : String :=
  let sign := if d.negative then ['-'] else []
  if d.significand = 0 then String.ofList (sign ++ ['0', '.', '0'])
  else
    let x := d.shortest
    let digits := (toString x.digits).toList
    String.ofList (sign ++ layout digits (x.exponent + digits.length - 1))

end Double

end AddressTrace.Decimal
