import AddressTrace.Abi.Calldata
import AddressTrace.Config.Basic
import AddressTrace.Http.Transport
import AddressTrace.Json.Fields

/-!
# Calls

Calls of deployed contracts that change nothing, made at the endpoint of a chain.

## Main definitions

* `Rpc.request` — what is sent for a call;
* `Rpc.result` — the data that a response brings;
* `Rpc.callAddress` — the address that a function of a contract returns.
-/

namespace AddressTrace.Rpc

open Abi Http Json Text

/-- **What is sent for a call.** -/
def request (address : String) (calldata : List UInt8) : Value :=
  .object [("id", .ofNat 1), ("jsonrpc", .string "2.0"), ("method", .string "eth_call"),
    ("params", .array [
      .object [("data", .string ("0x" ++ encodeHex calldata)), ("to", .string address)],
      .string "latest"])]

/-- The bytes of a result. -/
def resultBytes : Value → Except Failure (List UInt8)
  | .string text =>
    (decodeHex (String.ofList (withoutMarkers text.toList))).mapError fun cause =>
      .rpc (.resultDigits cause)
  | value => .error (.rpc (.unexpectedResult value.compact))

/-- The value of a member, if the value has members. -/
def member? (name : String) : Value → Option Value
  | .object members => memberOf? name members
  | _ => none

/-- **The data that a response brings.**  A reported error counts before a result. -/
def result (body : String) : Except Failure (List UInt8) :=
  match Value.parse? body with
  | none => .error .http
  | some response =>
    match member? "error" response, member? "result" response with
    | some error, _ => .error (.rpc (.reported error.compact))
    | none, some value => resultBytes value
    | none, none => .error (.rpc .noResult)

variable {m : Type → Type} [Monad m]

/-- The response to a call, whatever its status. -/
def send (transport : Transport m) (endpoint address : String) (calldata : List UInt8) :
    m (Except Failure Response) := do
  match Url.parse? endpoint with
  | none => return .error .http
  | some url =>
    match ← transport (.post url (request address calldata)) with
    | none => return .error .http
    | some response => return .ok response

/-- The endpoint and the data of a call. -/
def prepare (config : Config) (name : String) (method : Method) (arguments : List String) :
    Except Failure (String × List UInt8) := do
  let chain ← config.chain name
  let data ← (method.readArguments arguments).mapError .ofArgument
  return (chain.rpc, method.calldata data)

/-- **The address that a function of a contract returns** for some arguments. -/
def callAddress (transport : Transport m) (config : Config) (name address : String)
    (method : Method) (arguments : List String) : m (Except Failure String) := do
  match prepare config name method arguments with
  | .error failure => return .error failure
  | .ok (endpoint, calldata) =>
    let response ← send transport endpoint address calldata
    return (response.bind fun r => result r.body).bind fun data =>
      (method.returnedAddress data).mapError .ofReturn

end AddressTrace.Rpc
