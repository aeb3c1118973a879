import AddressTrace.Abi.Kind

/-!
# Values of interface types

A value that is passed to a function, apart from the type that it was read for.

## Main definitions

* `Datum` — a value;
* `Datum.isDynamic` — does its encoding go behind the fixed part?
-/

namespace AddressTrace.Abi

/-- One more than the greatest number of 256 bits. -/
def wordLimit : Nat := Nat.pow 2 256

/-- **A value.**  Numbers are below `wordLimit`, negative ones in two's complement. -/
inductive Datum
  | address (bytes : List UInt8)
  | fixedBytes (bytes : List UInt8)
  | bytes (bytes : List UInt8)
  | int (word : Nat)
  | uint (word : Nat)
  | bool (value : Bool)
  | string (text : String)
  | fixedArray (items : List Datum)
  | array (items : List Datum)
  | tuple (items : List Datum)
deriving Repr

instance : Inhabited Datum := ⟨.bool false⟩

mutual

/-- **Does the encoding of a value go behind the fixed part?**  An array or a tuple of fixed size
does so when one of its items does. -/
def Datum.isDynamic : Datum → Bool
  | .bytes _ | .string _ | .array _ => true
  | .fixedArray items | .tuple items => anyDynamicDatum items
  | _ => false

/-- Does the encoding of any of these values go behind the fixed part? -/
def anyDynamicDatum : List Datum → Bool
  | [] => false
  | d :: ds => d.isDynamic || anyDynamicDatum ds

end

end AddressTrace.Abi
