import AddressTrace.Abi.Brackets
import AddressTrace.Abi.Interface
import AddressTrace.Abi.Number

/-!
# Arguments

How the texts that stand for arguments in a source are read as values of the types that a function
takes.

## Main definitions

* `Kind.read` — the value of a text;
* `Kind.readArgument` — the value of a whole argument, which may be marked as hexadecimal;
* `Method.readArguments` — the values of all arguments of a call.
-/

namespace AddressTrace.Abi

open Text

/-- The bytes of a text in hexadecimal, with or without a marker. -/
def readBytes (text : String) : Except Problem (List UInt8) :=
  match decodeHex (withoutMarker text) with
  | .ok bytes => .ok bytes
  | .error cause => .error (.hexDigits cause)

/-- The bytes of a text that must be so many. -/
def readSizedBytes (size : Nat) (text : String) : Except Problem (List UInt8) := do
  let bytes ← readBytes text
  if bytes.length = size then .ok bytes else .error .invalidData

/-- The truth value of a text. -/
def readBool (text : String) : Except Problem Bool :=
  if text = "true" ∨ text = "1" then .ok true
  else if text = "false" ∨ text = "0" then .ok false
  else .error .invalidData

/-- The text of an item that was cut out of a list. -/
def itemText (bytes : List UInt8) : Except Problem String :=
  match String.fromUTF8? bytes.toByteArray with
  | some text => .ok text
  | none => .error .invalidData

/-- What was read of a list, unless the list has a fault. -/
def Cut.finish {α : Type} (c : Cut) (items : α) : Except Problem α :=
  if c.complete then .ok items else .error .invalidData

namespace Kind

mutual

/-- **The value of a text.**  The items of a list are read in their order, and the first problem
is reported. -/
def read : Kind → String → Except Problem Datum
  | address, text => (readSizedBytes 20 text).map .address
  | bytes, text => (readBytes text).map .bytes
  | int _, text => (readInt text).map .int
  | uint _, text => (readUint text).map .uint
  | bool, text => (readBool text).map .bool
  | string, text => .ok (.string text)
  | fixedBytes size, text => (readSizedBytes size text).map .fixedBytes
  | array item, text => do
    let cut := Brackets.array.cut text
    let items ← cut.items.mapM fun piece => do item.read (← itemText piece)
    return .array (← cut.finish items)
  | fixedArray item size, text => do
    let cut := Brackets.array.cut text
    let items ← cut.items.mapM fun piece => do item.read (← itemText piece)
    let items ← cut.finish items
    if items.length = size then return .fixedArray items else throw .invalidData
  | tuple kinds, text => do
    let cut := Brackets.tuple.cut text
    let items ← readEach kinds cut.items
    return .tuple (← cut.finish items)

/-- The values of the items of a tuple, which may be fewer than its types. -/
def readEach : List Kind → List (List UInt8) → Except Problem (List Datum)
  | _, [] => .ok []
  | [], _ :: _ => .error .invalidData
  | k :: ks, piece :: pieces => do
    let datum ← k.read (← itemText piece)
    return datum :: (← readEach ks pieces)

end

end Kind

/-! ### Whole arguments -/

/-- **Why an argument is refused.** -/
inductive ArgumentProblem
  /-- The text has not the form of the type. -/
  | abi (problem : Problem)
  /-- The digits behind a hexadecimal marker are wrong. -/
  | hexNumber (argument : String) (cause : HexError)
  /-- There are too few or too many arguments. -/
  | count (function : String) (expected given : Nat)
deriving Repr, DecidableEq

/-- The text behind a marker of hexadecimal numbers, in either case. -/
def behindMarker? (text : String) : Option String :=
  match text.toList with
  | '0' :: 'x' :: rest | '0' :: 'X' :: rest => some (String.ofList rest)
  | _ => none

/-- **The value of a whole argument.**  Addresses and bytes may have one more marker than other
texts; a marked number is hexadecimal. -/
def Kind.readArgument (k : Kind) (text : String) : Except ArgumentProblem Datum :=
  match k, behindMarker? text with
  | .address, some rest | .bytes, some rest | .fixedBytes _, some rest =>
    (k.read rest).mapError .abi
  | .uint _, some rest => ((readHexUint rest).map .uint).mapError (.hexNumber text)
  | _, _ => (k.read text).mapError .abi

/-- The values of some arguments, the first problem being reported. -/
def readArgumentList : List Kind → List String → Except ArgumentProblem (List Datum)
  | k :: ks, text :: texts => do
    let datum ← k.readArgument text
    return datum :: (← readArgumentList ks texts)
  | _, _ => .ok []

/-- **The values of the arguments of a call**, as many as the function takes. -/
def Method.readArguments (m : Method) (arguments : List String) :
    Except ArgumentProblem (List Datum) :=
  if m.inputs.length = arguments.length then readArgumentList m.inputs arguments
  else .error (.count m.name m.inputs.length arguments.length)

end AddressTrace.Abi
