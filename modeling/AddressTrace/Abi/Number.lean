import AddressTrace.Abi.Datum
import AddressTrace.Abi.Problem
import AddressTrace.Text.Blank

/-!
# Numbers in arguments

How the text of an argument is read as a number of 256 bits: in hexadecimal at full length, in
decimal, or in decimal with a unit of currency.

## Main definitions

* `readDecimal` — a decimal number;
* `readAmount` — a decimal number, or an amount with a unit;
* `readUint`, `readInt` — the number of an argument;
* `readHexUint` — a number behind a hexadecimal marker.
-/

namespace AddressTrace.Abi

open Text

/-! ### Decimal numbers -/

/-- Reads digits behind a number that was read already.  What is wrong first is reported. -/
def readDecimalFrom (n : Nat) : List Char → Except Problem Nat
  | [] => .ok n
  | c :: cs =>
    if !c.isDigit then .error .notDigit
    else
      let n := 10 * n + (c.toNat - '0'.toNat)
      if wordLimit ≤ n then .error .tooLong else readDecimalFrom n cs

/-- **A decimal number.**  No digits at all stand for zero. -/
def readDecimal (cs : List Char) : Except Problem Nat := readDecimalFrom 0 cs

/-! ### Amounts -/

/-- The units of currency with the number of decimal places that each has. -/
def units : List (String × Nat) :=
  [("ether", 18), ("gwei", 9), ("nanoether", 9), ("nano", 9), ("wei", 0)]

/-- **An amount as written**: the digits before the point, those behind it, and the places of the
unit. -/
structure Amount where
  whole : List Char
  /-- Nothing if there is no point. -/
  fraction : Option (List Char)
  places : Nat
deriving Repr, DecidableEq

/-- The amount that a text has the form of. -/
def Amount.ofChars? (cs : List Char) : Option Amount := do
  let (whole, rest) := cs.span Char.isDigit
  let (fraction, rest) : Option (List Char) × List Char :=
    match rest with
    | '.' :: behind =>
      let (digits, rest') := behind.span Char.isDigit
      if digits.isEmpty then (none, rest) else (some digits, rest')
    | _ => (none, rest)
  let unit := String.ofList (rest.dropWhile isBlank)
  let (_, places) ← units.find? fun u => u.1 == unit
  if whole.isEmpty then none else return { whole, fraction, places }

/-- **The number of an amount** in the smallest unit.  `plain` is the problem that the text has as
a plain number; it is reported where the amount has none of its own. -/
def Amount.value (plain : Problem) (a : Amount) : Except Problem Nat := do
  let whole ← readDecimal a.whole
  let scaled := whole * Nat.pow 10 a.places
  match a.fraction with
  | none => if scaled < wordLimit then .ok scaled else .error plain
  | some digits =>
    if a.places < digits.length then .error plain
    else
      let part ← readDecimal digits
      let n := scaled + part * Nat.pow 10 (a.places - digits.length)
      if n < wordLimit then .ok n else .error .amountTooLarge

/-- **A decimal number, or an amount with a unit.** -/
def readAmount (cs : List Char) : Except Problem Nat :=
  match readDecimal cs with
  | .ok n => .ok n
  | .error plain =>
    match Amount.ofChars? cs with
    | some a => a.value plain
    | none => .error plain

/-! ### Arguments -/

/-- The number that some bytes denote, the highest byte first. -/
def bytesNat (bytes : List UInt8) : Nat := bytes.foldl (fun n b => 256 * n + b.toNat) 0

/-- The number of a text of exactly 64 hexadecimal digits. -/
def fullHex? (text : String) : Option Nat :=
  match decodeHex text with
  | .ok bytes => if bytes.length = 32 then some (bytesNat bytes) else none
  | .error _ => none

/-- **A number without a sign.** -/
def readUint (text : String) : Except Problem Nat :=
  match fullHex? text with
  | some n => .ok n
  | none => readAmount text.toList

/-- **A number with a sign**, in two's complement.  All minus signs in front are taken off, and
any number of them makes the number negative. -/
def readInt (text : String) : Except Problem Nat :=
  match fullHex? text with
  | some n => .ok n
  | none => do
    let n ← readDecimal (text.toList.dropWhile (· == '-'))
    if text.toList.head? = some '-' then
      if n = 0 then .ok 0
      else if Nat.pow 2 255 < n then .error .underflow
      else .ok (wordLimit - n)
    else if Nat.pow 2 255 ≤ n then .error .overflow
    else .ok n

/-- A text without one marker of hexadecimal numbers in front. -/
def withoutMarker (text : String) : String :=
  match text.toList with
  | '0' :: 'x' :: rest => String.ofList rest
  | _ => text

/-- **A number in hexadecimal**, of at most 64 digits behind another marker.  An odd number of
digits gets a zero in front, which counts in the places of errors. -/
def readHexUint (text : String) : Except HexError Nat :=
  let digits := withoutMarker text
  if 64 < digits.utf8ByteSize then .error .badLength
  else
    let even := if digits.utf8ByteSize % 2 = 0 then digits else "0" ++ digits
    (decodeHex even).map bytesNat

end AddressTrace.Abi
