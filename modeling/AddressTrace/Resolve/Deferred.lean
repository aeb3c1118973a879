import AddressTrace.Network.Basic
import AddressTrace.Reference.Basic

/-!
# Deferred addresses

The address that a pending call returns.  The contract's interface must have an overload that
returns one address; looking it up and calling it share one limit of time.

## Main definitions

* `exceeds` — is a limit of time exceeded?
* `deferredAddress` — the address that a request asks for.
-/

namespace AddressTrace

open Abi

/-- **Is a limit of time exceeded?**  What takes no time at all is never too late. -/
def exceeds (limit elapsed : Nat) : Bool := elapsed != 0 && limit ≤ elapsed

variable {m : Type → Type} [Monad m]

/-- The failure of a request that took too long. -/
def CallRequest.timeout (r : CallRequest) : Failure := .timeout r.target r.function

/-- The failure of a request for a function that the contract does not have. -/
def CallRequest.notFound (r : CallRequest) (chain : String) : Failure :=
  .functionNotFound r.target chain r.function

/-- **The address that a request asks for.**  No call is made when the lookup alone takes too
long, fails, or finds no overload that returns one address. -/
def deferredAddress (net : Network m) (chain : String) (request : CallRequest) (limit : Nat) :
    m (Except Failure String) := do
  let found ← net.addressMethod request.target chain request.function
  if exceeds limit found.delay then return .error request.timeout
  else
    match found.outcome with
    | .error failure => return .error failure
    | .ok none => return .error (request.notFound chain)
    | .ok (some method) =>
      let called ← net.call chain request.target method request.arguments
      if exceeds limit (found.delay + called.delay) then return .error request.timeout
      else return called.outcome

end AddressTrace
