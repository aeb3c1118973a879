import AddressTrace.Digest.Keccak
import AddressTrace.Text.Hex

/-!
# Addresses

Account addresses as texts: which texts are taken for one, the leading `0x`, and the spelling
that carries a checksum in the case of its letters.

## Main definitions

* `isAddressLike` — is this number token taken for an address?
* `withMarker` — an address with `0x` in front;
* `checksummed?` — the checksummed spelling of an address.
-/

namespace AddressTrace.Address

open Text Digest

/-- **Tokens taken for an address**: 42 bytes that begin with `0x`.  Neither the digits nor the
checksum are looked at. -/
def isAddressLike (token : String) : Bool :=
  token.utf8ByteSize == 42 && token.toList.take 2 == ['0', 'x']

/-- Does a text begin with `0x` or `0X`? -/
def hasMarker (address : String) : Bool :=
  let head := address.toList.take 2
  head == ['0', 'x'] || head == ['0', 'X']

/-- **An address with its marker**: `0x` is put in front unless it is there, in either case. -/
def withMarker (address : String) : String :=
  if hasMarker address then address else "0x" ++ address

/-- The lower-case form of the letters of ASCII, all else unchanged. -/
def foldCase (s : String) : String :=
  String.ofList (s.toList.map Char.toLower)

/-- The four bits at an index of some bytes, the high half of each byte first. -/
def nibble (bytes : List UInt8) (i : Nat) : Nat :=
  let byte := (bytes[i / 2]?.getD 0).toNat
  if i % 2 = 0 then byte / 16 else byte % 16

/-- The digits of an address in the case that the bits of a digest give them: a letter is upper
case exactly when its four bits are at least eight.  `i` is the index of the first digit. -/
def caseByDigest (digest : List UInt8) (i : Nat) : List Char → List Char
  | [] => []
  | c :: cs =>
    (if 8 ≤ nibble digest i then c.toUpper else c) :: caseByDigest digest (i + 1) cs

/-- **The checksummed spelling**, for `0x` and forty hexadecimal digits only.  The case of the
letters is taken from the digest of the digits in lower case. -/
def checksummed? (address : String) : Option String :=
  match address.toList with
  | '0' :: 'x' :: digits =>
    if digits.length = 40 ∧ digits.all isHexDigit then
      let folded := digits.map Char.toLower
      let digest := keccak256 (String.ofList folded).toUTF8.toList
      some (String.ofList ('0' :: 'x' :: caseByDigest digest 0 folded))
    else none
  | _ => none

end AddressTrace.Address
