import AddressTrace.Address
import AddressTrace.Data.SortedMap
import AddressTrace.Text.Blank
import AddressTrace.Text.Split

/-!
# Linkage descriptors

The text that says which libraries a contract is linked with: pairs `name:address` separated by
semicolons.

## Main definitions

* `Linkage` — the addresses of libraries by name;
* `Linkage.ofDescriptor` — what a descriptor says;
* `Linkage.descriptor` — a descriptor that says it.
-/

namespace AddressTrace

open Text

/-- **Libraries by name**, each with its address. -/
abbrev Linkage := SortedMap String String

namespace Linkage

/-- The link that a trimmed pair stands for: the name before the last colon and the address behind
it, with its marker.  A pair without a colon, a name or an address is no link. -/
def link? (pair : List Char) : Option (String × String) :=
  match splitLast? ':' pair with
  | some (name, address) =>
    if name.isEmpty ∨ address.isEmpty then none
    else some (String.ofList name, Address.withMarker (String.ofList address))
  | none => none

/-- The links of a descriptor, in the order written. -/
def links (descriptor : List Char) : List (String × String) :=
  (pieces ';' descriptor).filterMap fun pair => link? (trimChars pair)

/-- **What a descriptor says.**  Malformed pairs are passed over; of pairs with one name the last
counts. -/
def ofDescriptor (descriptor : String) : Linkage := .ofList (links descriptor.toList)

/-- The pair that stands for a link. -/
def pair (link : String × String) : List Char := link.1.toList ++ ':' :: link.2.toList

/-- **The descriptor of some links.** -/
def descriptor (links : List (String × String)) : String :=
  String.ofList (unsplit ';' (links.map pair))

end Linkage

end AddressTrace
