import AddressTrace.Abi.Interface
import AddressTrace.Abi.Number
import AddressTrace.Address

/-!
# Returned data

What a call returned, as far as an address is expected: every returned value must be there, and an
address is read from its word.

## Main definitions

* `Kind.scan` — checks the value at an offset and says where the next one is;
* `outputsFrom` — checks the values of some types, one after the other;
* `Method.returned` — the values that a function returned;
* `Method.returnedAddress` — the address that a function returned, in its checksummed spelling.
-/

namespace AddressTrace.Abi

open Text

/-- The 32 bytes at an offset. -/
def wordAt (data : List UInt8) (offset : Nat) : Except Problem (List UInt8) :=
  if offset + 32 ≤ data.length then .ok ((data.drop offset).take 32) else .error .invalidData

/-- The offset or length in the word at an offset; it must fit into 32 bits. -/
def pointerAt (data : List UInt8) (offset : Nat) : Except Problem Nat := do
  let n := bytesNat (← wordAt data offset)
  if n < Nat.pow 2 32 then .ok n else .error .invalidData

/-- So many bytes must be there from an offset on. -/
def needBytes (data : List UInt8) (offset size : Nat) : Except Problem Unit :=
  if offset + size ≤ data.length then .ok () else .error .invalidData

/-- Repeats a scan so often, each time from where the last one ended.  A scan that does not move
need not be repeated. -/
def scanItems (scan : Nat → Except Problem Nat) : Nat → Nat → Except Problem Nat
  | 0, offset => .ok offset
  | count + 1, offset => do
    let next ← scan offset
    if next = offset then .ok offset else scanItems scan count next

/-- Where a sequence of a fixed number of values begins: at the offset itself, or where the word
there points to if the sequence is dynamic. -/
def sequenceAt (isDynamic : Bool) (data : List UInt8) (offset : Nat) :
    Except Problem (List UInt8 × Nat) :=
  if isDynamic then do
    let start ← pointerAt data offset
    if start ≤ data.length then .ok (data.drop start, 0) else .error .invalidData
  else .ok (data, offset)

namespace Kind

mutual

/-- **Checks the value at an offset** and gives the offset of the next value. -/
def scan : Kind → List UInt8 → Nat → Except Problem Nat
  | address, data, offset | int _, data, offset | uint _, data, offset => do
    let _ ← wordAt data offset
    return offset + 32
  | bool, data, offset => do
    let word ← wordAt data offset
    if (word.take 31).all (· == 0) then return offset + 32 else throw .invalidData
  | fixedBytes size, data, offset => do
    needBytes data offset size
    return offset + 32
  | bytes, data, offset | string, data, offset => do
    let start ← pointerAt data offset
    let size ← pointerAt data start
    needBytes data (start + 32) size
    return offset + 32
  | array item, data, offset => do
    let start ← pointerAt data offset
    let count ← pointerAt data start
    let _ ← scanItems (item.scan (data.drop (start + 32))) count 0
    return offset + 32
  | fixedArray item size, data, offset => do
    let (body, start) ← sequenceAt item.isDynamic data offset
    let next ← scanItems (item.scan body) size start
    return if item.isDynamic then offset + 32 else next
  | tuple items, data, offset => do
    let (body, start) ← sequenceAt (anyDynamic items) data offset
    let next ← scanEach items body start
    return if anyDynamic items then offset + 32 else next

/-- Checks some values one after the other. -/
def scanEach : List Kind → List UInt8 → Nat → Except Problem Nat
  | [], _, offset => .ok offset
  | k :: ks, data, offset => do scanEach ks data (← k.scan data offset)

end

/-- Can a value be encoded in no bytes at all? -/
def isEmptyEncodable : Kind → Bool
  | fixedBytes size | fixedArray _ size => size == 0
  | tuple items => items.isEmpty
  | _ => false

end Kind

/-- A returned value: an address, or anything else. -/
inductive Output
  | address (bytes : List UInt8)
  | other
deriving Repr, DecidableEq

/-- The value at an offset that was checked. -/
def outputAt (k : Kind) (data : List UInt8) (offset : Nat) : Output :=
  if k.isAddress then .address (((data.drop offset).take 32).drop 12) else .other

/-- The values of some types from an offset on. -/
def outputsFrom (data : List UInt8) (offset : Nat) : List Kind → Except Problem (List Output)
  | [] => .ok []
  | k :: ks => do
    let next ← k.scan data offset
    return outputAt k data offset :: (← outputsFrom data next ks)

/-- **The values that a function returned.** -/
def Method.returned (m : Method) (data : List UInt8) : Except Problem (List Output) :=
  if data.isEmpty && !m.outputs.all Kind.isEmptyEncodable then .error .nothingReturned
  else outputsFrom data 0 m.outputs

/-- **Why no address was returned.** -/
inductive ReturnProblem
  | abi (problem : Problem)
  /-- The function returned an address that has no checksummed spelling. -/
  | badAddress (function : String)
  /-- The function returned something else than one address. -/
  | notOneAddress (function : String) (count : Nat)
deriving Repr, DecidableEq

/-- **The address that a function returned**, in its checksummed spelling. -/
def Method.returnedAddress (m : Method) (data : List UInt8) : Except ReturnProblem String :=
  match m.returned data with
  | .error problem => .error (.abi problem)
  | .ok [.address bytes] =>
    match Address.checksummed? ("0x" ++ encodeHex bytes) with
    | some address => .ok address
    | none => .error (.badAddress m.name)
  | .ok outputs => .error (.notOneAddress m.name outputs.length)

end AddressTrace.Abi
