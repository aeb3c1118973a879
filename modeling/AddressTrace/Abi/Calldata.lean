import AddressTrace.Abi.Datum
import AddressTrace.Abi.Interface
import AddressTrace.Digest.Keccak

/-!
# Call data

The bytes that call a function with some values: the selector of the function, then the values in
a fixed part, in which dynamic values are only pointed at, and the dynamic values behind it.

## Main definitions

* `Datum.encode` — the bytes of a value;
* `encodeSequence` — the bytes of some values, with the pointers between them;
* `Method.selector`, `Method.calldata` — the bytes of a call.
-/

namespace AddressTrace.Abi

open Digest

/-- **A number in 32 bytes**, the highest byte first. -/
def wordBytes (n : Nat) : List UInt8 :=
  (List.range 32).map fun i => UInt8.ofNat (n / Nat.pow 256 (31 - i))

/-- Bytes filled up with zeros to a multiple of 32. -/
def padded (bytes : List UInt8) : List UInt8 :=
  bytes ++ List.replicate ((32 - bytes.length % 32) % 32) 0

/-- Bytes with their number in front, filled up. -/
def withLength (bytes : List UInt8) : List UInt8 := wordBytes bytes.length ++ padded bytes

/-- A value in a sequence: its bytes, and whether they go behind the fixed part. -/
structure Part where
  bytes : List UInt8
  isDynamic : Bool
deriving Repr, DecidableEq

/-- How many bytes of the fixed part a value takes. -/
def Part.headSize (p : Part) : Nat := if p.isDynamic then 32 else p.bytes.length

/-- How many bytes the fixed part takes. -/
def headsSize : List Part → Nat
  | [] => 0
  | p :: ps => p.headSize + headsSize ps

/-- The fixed part, when the dynamic values begin at an offset. -/
def heads (offset : Nat) : List Part → List UInt8
  | [] => []
  | p :: ps =>
    if p.isDynamic then wordBytes offset ++ heads (offset + p.bytes.length) ps
    else p.bytes ++ heads offset ps

/-- The dynamic values. -/
def tails (parts : List Part) : List UInt8 :=
  (parts.filter Part.isDynamic).flatMap Part.bytes

/-- **The bytes of a sequence**: the fixed part, then the dynamic values. -/
def layOut (parts : List Part) : List UInt8 :=
  heads (headsSize parts) parts ++ tails parts

mutual

/-- **The bytes of a value.** -/
def Datum.encode : Datum → List UInt8
  | .address bytes => List.replicate 12 0 ++ bytes
  | .fixedBytes bytes => padded bytes
  | .bytes bytes => withLength bytes
  | .int word | .uint word => wordBytes word
  | .bool value => wordBytes (if value then 1 else 0)
  | .string text => withLength text.toUTF8.toList
  | .fixedArray items | .tuple items => layOut (parts items)
  | .array items => wordBytes items.length ++ layOut (parts items)

/-- Some values as the parts of a sequence. -/
def parts : List Datum → List Part
  | [] => []
  | d :: ds => ⟨d.encode, d.isDynamic⟩ :: parts ds

end

/-- The bytes of some values as a sequence. -/
def encodeSequence (data : List Datum) : List UInt8 := layOut (parts data)

/-- **The selector of a function**: the first four bytes of the digest of its signature. -/
def Method.selector (m : Method) : List UInt8 :=
  (keccak256 m.signature.toUTF8.toList).take 4

/-- **The bytes that call a function with some values.** -/
def Method.calldata (m : Method) (data : List Datum) : List UInt8 :=
  m.selector ++ encodeSequence data

end AddressTrace.Abi
