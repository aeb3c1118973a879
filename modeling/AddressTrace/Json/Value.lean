import AddressTrace.Data.SortedMap
import AddressTrace.Decimal.Shortest

/-!
# JSON values

Two views of a JSON text.  A `Form` is what the grammar finds in it: numbers as written, members
in the order written, strings that may hold half of a surrogate pair.  A `Value` is what a program
keeps of it: numbers as integers of 64 bits or doubles, members in ascending order of their
names.  Not every form has a value, and parts that a reader passes over need none.

## Main definitions

* `Numeral`, `Form` — a text as written;
* `Number`, `Value` — a text as kept;
* `Form.valueWithin?` — the value of a form nested at most so deep.
-/

namespace AddressTrace.Json

open Decimal

/-- **A number as written.** -/
structure Numeral where
  negative : Bool
  /-- The digits before the point. -/
  whole : List Char
  /-- The digits after the point, none without a point. -/
  fraction : List Char
  /-- Whether the exponent is negative, and its digits. -/
  exponent : Option (Bool × List Char)
deriving Repr, DecidableEq

/-- **A text as the grammar sees it.**  A string or a member name has no text when it holds half
of a surrogate pair. -/
inductive Form
  | null
  | bool (value : Bool)
  | number (numeral : Numeral)
  | string (text : Option String)
  | array (items : List Form)
  | object (members : List (Option String × Form))

/-- **A number as kept.** -/
inductive Number
  | integer (value : Int)
  | double (value : Double)
deriving Repr, DecidableEq

/-- **A value.** -/
inductive Value
  | null
  | bool (value : Bool)
  | number (value : Number)
  | string (text : String)
  | array (items : List Value)
  | object (members : List (String × Value))

instance : Inhabited Value := ⟨.null⟩

/-- A natural number as a value. -/
def Value.ofNat (n : Nat) : Value := .number (.integer n)

/-! ### Numbers -/

/-- The value of some digits. -/
def natOfDigits (digits : List Char) : Nat :=
  digits.foldl (fun n c => 10 * n + (c.toNat - '0'.toNat)) 0

/-- One more than the greatest natural number of 64 bits. -/
def wordBound : Nat := Nat.pow 2 64

/-- The value of as many digits from the left as keep it in 64 bits, and the digits left over.
The first digit that would carry it beyond them ends it. -/
def leadingWord (n : Nat) : List Char → Nat × List Char
  | [] => (n, [])
  | c :: cs =>
    let n' := 10 * n + (c.toNat - '0'.toNat)
    if n' < wordBound then leadingWord n' cs else (n, c :: cs)

/-- The greatest exponent that is told apart from greater ones. -/
def maxExponent : Nat := Nat.pow 2 31 - 1

namespace Numeral

/-- **The double of a numeral.**  Digits beyond 64 bits are dropped, those before the point
counting as places; the result is nothing when it is too great. -/
def double? (x : Numeral) : Option Double :=
  let (n, left) := leadingWord 0 x.whole
  let (n, places) : Nat × Int :=
    if left.isEmpty then
      let (m, rest) := leadingWord n x.fraction
      (m, -((x.fraction.length - rest.length : Nat) : Int))
    else
      -- After a digit was dropped, further ones still fit only if a fraction brings them.
      let (m, rest) := leadingWord n x.fraction
      (m, (left.length : Int) - ((x.fraction.length - rest.length : Nat) : Int))
  match x.exponent with
  | none => Double.ofParts? x.negative n places
  | some (down, digits) =>
    let e := natOfDigits digits
    if maxExponent < e then
      if n = 0 ∨ down then some ⟨x.negative, 0, Double.minExponent⟩ else none
    else Double.ofParts? x.negative n (if down then places - e else places + e)

/-- **The number of a numeral.**  Without point and exponent it is an integer if it fits into 64
bits, with or without a sign; the negative zero is a double. -/
def number? (x : Numeral) : Option Number :=
  let n := natOfDigits x.whole
  if x.fraction.isEmpty ∧ x.exponent.isNone ∧
      (if x.negative then 0 < n ∧ n ≤ Nat.pow 2 63 else n < wordBound) then
    some (.integer (if x.negative then -(n : Int) else n))
  else x.double?.map .double

end Numeral

/-! ### From forms to values -/

/-- Sets a member among members in ascending order of their names. -/
def setMember (name : String) (value : Value) (members : List (String × Value)) :
    List (String × Value) :=
  SortedMap.insertIn name value members

mutual

/-- **The value of a form that nests at most so deep.**  Of members with one name the last
counts. -/
def Form.valueWithin? (levels : Nat) : Form → Option Value
  | .null => some .null
  | .bool b => some (.bool b)
  | .number x => x.number?.map .number
  | .string text => text.map .string
  | .array items => if levels = 0 then none else (valuesWithin? (levels - 1) items).map .array
  | .object members =>
    if levels = 0 then none else (membersWithin? (levels - 1) [] members).map .object

/-- The values of some forms. -/
def valuesWithin? (levels : Nat) : List Form → Option (List Value)
  | [] => some []
  | f :: fs => do
    let v ← f.valueWithin? levels
    let vs ← valuesWithin? levels fs
    return v :: vs

/-- The members of an object laid over members read before. -/
def membersWithin? (levels : Nat) (before : List (String × Value)) :
    List (Option String × Form) → Option (List (String × Value))
  | [] => some before
  | (name, f) :: rest => do
    let name ← name
    let v ← f.valueWithin? levels
    membersWithin? levels (setMember name v before) rest

end

/-- How deep a text may nest. -/
def maxLevels : Nat := 127

/-- The value of a whole text. -/
def Form.value? (f : Form) : Option Value := f.valueWithin? maxLevels

end AddressTrace.Json
