import AddressTrace.Text.Hex

/-!
# Problems with interfaces

Why an interface, an argument or the data that a call returned cannot be used.

## Main definitions

* `Abi.Problem` — the causes;
* `Abi.Problem.message` — their wording.
-/

namespace AddressTrace.Abi

open Text

/-- **Why an interface or a value is refused.** -/
inductive Problem
  /-- The text of the interface is not one. -/
  | unreadable
  /-- A value does not have the form of its type. -/
  | invalidData
  /-- The digits of some bytes are wrong. -/
  | hexDigits (cause : HexError)
  /-- A character of a number is no digit. -/
  | notDigit
  /-- A number does not fit into 256 bits. -/
  | tooLong
  /-- An amount in a unit does not fit into 256 bits. -/
  | amountTooLarge
  /-- A negative number does not fit into 256 bits. -/
  | underflow
  /-- A positive number does not fit into 255 bits. -/
  | overflow
  /-- A call that should return something returned nothing. -/
  | nothingReturned
deriving Repr, DecidableEq

/-- The wording of a problem; an unreadable interface has none of its own. -/
def Problem.message : Problem → String
  | .unreadable => "unreadable"
  | .invalidData => "Invalid data"
  | .hexDigits cause => "Hex parsing error: " ++ cause.message
  | .notDigit => "Uint parse error: InvalidCharacter"
  | .tooLong => "Uint parse error: InvalidLength"
  | .amountTooLarge => "a character is not in the range 0-9"
  | .underflow => "int256 parse error: Underflow"
  | .overflow => "int256 parse error: Overflow"
  | .nothingReturned =>
    "Invalid name: please ensure the contract and method you're calling exist! "
      ++ "failed to decode empty bytes. "
      ++ "if you're using jsonrpc this is likely due to jsonrpc returning "
      ++ String.ofList [Char.ofNat 0x60, '0', 'x', Char.ofNat 0x60]
      ++ " in case contract or method don't exist"

end AddressTrace.Abi
