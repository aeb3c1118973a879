/-!
# Hexadecimal text

Bytes written as pairs of hexadecimal digits.  Reading accepts digits of either case and says
why a text is refused; writing uses lower case.

## Main definitions

* `hexValue?` — the value of a digit;
* `encodeHex` — two lower-case digits for each byte;
* `decodeHex` — the bytes of a text, or a `HexError`.
-/

namespace AddressTrace.Text

/-- The value of a hexadecimal digit of either case. -/
def hexValue? (c : Char) : Option Nat :=
  if '0' ≤ c ∧ c ≤ '9' then some (c.toNat - '0'.toNat)
  else if 'a' ≤ c ∧ c ≤ 'f' then some (c.toNat - 'a'.toNat + 10)
  else if 'A' ≤ c ∧ c ≤ 'F' then some (c.toNat - 'A'.toNat + 10)
  else none

/-- Is this a hexadecimal digit of either case? -/
def isHexDigit (c : Char) : Bool :=
  (hexValue? c).isSome

/-- The lower-case digit for a value below sixteen. -/
def hexDigit (n : Nat) : Char :=
  if n < 10 then Char.ofNat ('0'.toNat + n) else Char.ofNat ('a'.toNat + (n - 10))

/-- The two digits of a byte, the high one first. -/
def hexPair (b : UInt8) : List Char :=
  [hexDigit (b.toNat / 16), hexDigit (b.toNat % 16)]

/-- **Bytes in hexadecimal**, two lower-case digits each. -/
def encodeHex (bytes : List UInt8) : String :=
  String.ofList (bytes.flatMap hexPair)

/-- Digits without the markers in front of them, however many there are. -/
def withoutMarkers : List Char → List Char
  | '0' :: 'x' :: cs => withoutMarkers cs
  | cs => cs

/-- Why a text is not hexadecimal. -/
inductive HexError
  /-- The number of bytes is odd. -/
  | oddLength
  /-- The byte at this index is no digit. -/
  | badByte (byte : UInt8) (index : Nat)
  /-- The text is too long for the number wanted. -/
  | badLength
deriving Repr, DecidableEq

/-- A byte between single quotes, as the character of that code point, with the escapes that
keep it on one line: the quote, the backslash, the three common controls, and a code in braces
for the other characters that do not print. -/
def quoteByte (b : UInt8) : List Char :=
  let body :=
    match b.toNat with
    | 0 => ['\\', '0']
    | 9 => ['\\', 't']
    | 10 => ['\\', 'n']
    | 13 => ['\\', 'r']
    | 39 => ['\\', Char.ofNat 39]
    | 92 => ['\\', '\\']
    | n =>
      if n < 0x20 ∨ (0x7F ≤ n ∧ n < 0xA1) ∨ n = 0xAD then
        ['\\', 'u', Char.ofNat 0x7B] ++ (if n < 16 then [hexDigit n] else hexPair b)
          ++ [Char.ofNat 0x7D]
      else [Char.ofNat n]
  [Char.ofNat 39] ++ body ++ [Char.ofNat 39]

/-- The wording of a refusal. -/
def HexError.message : HexError → String
  | .oddLength => "Odd number of digits"
  | .badByte b i =>
    "Invalid character " ++ String.ofList (quoteByte b) ++ " at position " ++ toString i
  | .badLength => "Invalid string length"

/-- The value of a byte that is a hexadecimal digit in ASCII. -/
def hexByteValue? (b : UInt8) : Option Nat :=
  hexValue? (Char.ofNat b.toNat)

/-- Reads pairs of digits; `i` is the index of the first byte. -/
def decodePairs (i : Nat) : List UInt8 → Except HexError (List UInt8)
  | [] => .ok []
  | [_] => .error .oddLength
  | a :: b :: rest =>
    match hexByteValue? a, hexByteValue? b with
    | none, _ => .error (.badByte a i)
    | some _, none => .error (.badByte b (i + 1))
    | some x, some y => (decodePairs (i + 2) rest).map (UInt8.ofNat (16 * x + y) :: ·)

/-- **Bytes from hexadecimal.**  An odd length is reported before any bad digit, and the first
bad digit before the others. -/
def decodeHex (text : String) : Except HexError (List UInt8) :=
  let bytes := text.toUTF8.toList
  if bytes.length % 2 = 1 then .error .oddLength else decodePairs 0 bytes

/-- The number that some digits denote in base sixteen, the first digit being the highest. -/
def hexNat? (cs : List Char) : Option Nat :=
  cs.foldlM (fun n c => (hexValue? c).map (16 * n + ·)) 0

end AddressTrace.Text
