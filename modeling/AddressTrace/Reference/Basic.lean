import AddressTrace.Json.Value
import AddressTrace.Text.LineIndex
import AddressTrace.Tree.Basic

/-!
# References to addresses

A place in a source file where an address is produced, what is known of the address, and the
form in which both are reported.

## Main definitions

* `Origin` — the kind of code that produces an address;
* `CallRequest`, `Resolution` — an address that is known, or the call that will tell it;
* `Reference` — one place;
* `Reference.report` — the record that is given out for it.
-/

namespace AddressTrace

open Text Json

/-- **What kind of code produced an address.** -/
inductive Origin
  /-- A number literal. -/
  | hardcoded
  /-- A local variable declared with a literal, or a use of one. -/
  | variable
  /-- A state variable declared with a literal, or a use of one. -/
  | state
  /-- A call of another contract that returns an address. -/
  | publicFunction
deriving Repr, DecidableEq

/-- The word for an origin in reports. -/
def Origin.word : Origin → String
  | .hardcoded => "hardcoded"
  | .variable => "variable"
  | .state => "state"
  | .publicFunction => "public_function"

/-- **A call that returns the address of a reference.**  The arguments are texts as written in the
source, or as found for its variables. -/
structure CallRequest where
  target : String
  function : String
  arguments : List String
deriving Repr, DecidableEq

/-- The call in the notation of the source language. -/
def CallRequest.text (r : CallRequest) : String :=
  r.target ++ "." ++ r.function ++ "(" ++ ", ".intercalate r.arguments ++ ")"

/-- **What is known of an address.** -/
inductive Resolution
  | resolved (address : String)
  | pending (request : CallRequest)
deriving Repr, DecidableEq

/-- The address, empty while its call is pending. -/
def Resolution.address : Resolution → String
  | .resolved address => address
  | .pending _ => ""

/-- Is the call still to be made? -/
def Resolution.isPending : Resolution → Bool
  | .resolved _ => false
  | .pending _ => true

/-- **One place where an address is produced.** -/
structure Reference where
  contractPath : String
  contractName : String
  resolution : Resolution
  first : Position
  last : Position
  span : Span
  origin : Origin
  /-- The node around the place. -/
  parent : Option NodeId
deriving Repr, DecidableEq

namespace Reference

/-- The address, empty while its call is pending. -/
def address (r : Reference) : String := r.resolution.address

/-- Is the call for the address still to be made? -/
def isPending (r : Reference) : Bool := r.resolution.isPending

/-- The call for the address, while it is pending. -/
def request? (r : Reference) : Option CallRequest :=
  match r.resolution with
  | .resolved _ => none
  | .pending request => some request

/-- **The record of a reference**, its fields in the order of reports.  The node around the place
is not reported. -/
def report (r : Reference) : Value :=
  .object [("contractPath", .string r.contractPath), ("contractName", .string r.contractName),
    ("address", .string r.address), ("locStartLine", .ofNat r.first.line),
    ("locStartCol", .ofNat r.first.column), ("locEndLine", .ofNat r.last.line),
    ("locEndCol", .ofNat r.last.column), ("rangeFrom", .ofNat r.span.start),
    ("rangeTo", .ofNat r.span.stop), ("source", .string r.origin.word)]

end Reference

end AddressTrace
