import AddressTrace.Abi.Argument
import AddressTrace.Abi.Returned
import AddressTrace.Json.Writer

/-!
# Failures

Why an answer cannot be given, from a chain that nobody configured to a call that took too long.

## Main definitions

* `FileProblem`, `ConfigProblem`, `RpcProblem` — the causes in one part of the program;
* `Failure` — all causes;
* `Failure.message` — their wording.
-/

namespace AddressTrace

open Abi Text

/-- **Why a file cannot be read.** -/
inductive FileProblem
  | missing
  | isDirectory
  /-- The bytes of the file are no text. -/
  | notText
  /-- Anything else, in the words of the system. -/
  | other (text : String)
deriving Repr, DecidableEq

/-- The wording of a problem with a file. -/
def FileProblem.message : FileProblem → String
  | .missing => "No such file or directory (os error 2)"
  | .isDirectory => "Is a directory (os error 21)"
  | .notText => "stream did not contain valid UTF-8"
  | .other text => text

/-- **Why there is no usable configuration.** -/
inductive ConfigProblem
  /-- The file cannot be read. -/
  | unreadable (path : String) (cause : FileProblem)
  /-- The text is no configuration. -/
  | malformed
  /-- The explorer of a chain needs a key, and there is none. -/
  | noApiKey (chain : String)
deriving Repr, DecidableEq

/-- **Why a call did not give an address.** -/
inductive RpcProblem
  /-- The digits of a hexadecimal argument are wrong. -/
  | argument (text : String) (cause : HexError)
  /-- There are too few or too many arguments. -/
  | argumentCount (function : String) (expected given : Nat)
  /-- No calls are made without a network. -/
  | offline (chain address function : String)
  /-- The endpoint, or whoever makes the calls, reports an error. -/
  | reported (text : String)
  /-- The response holds no result. -/
  | noResult
  /-- The result is no string; this is its text. -/
  | unexpectedResult (text : String)
  /-- The digits of the result are wrong. -/
  | resultDigits (cause : HexError)
  /-- The function returned an address that has no checksummed spelling. -/
  | badAddress (function : String)
  /-- The function returned something else than one address. -/
  | notOneAddress (function : String) (count : Nat)
deriving Repr, DecidableEq

/-- The wording of a problem with a call. -/
def RpcProblem.message : RpcProblem → String
  | .argument text cause => "'" ++ text ++ "': " ++ cause.message
  | .argumentCount function expected given =>
    function ++ " takes " ++ toString expected ++ " arguments, " ++ toString given ++ " given"
  | .offline chain address function =>
    "not calling " ++ address ++ "." ++ function ++ " on " ++ chain ++ " offline"
  | .reported text => text
  | .noResult => "no result in eth_call response"
  | .unexpectedResult text => "unexpected eth_call result " ++ text
  | .resultDigits cause => "eth_call result: " ++ cause.message
  | .badAddress function => function ++ " returned invalid address"
  | .notOneAddress function count =>
    function ++ " returned " ++ toString count ++ " values, expected one address"

/-- **Why an answer cannot be given.** -/
inductive Failure
  /-- There is no verified contract at the address. -/
  | contractNotFound (address chain : String)
  | unknownChain (name : String)
  /-- The interface of the contract has no such function that returns one address. -/
  | functionNotFound (address chain function : String)
  | abi (problem : Problem)
  | rpc (problem : RpcProblem)
  /-- A request could not be made or was answered with an error. -/
  | http
  /-- A response is not the JSON that was expected. -/
  | json
  /-- The explorer reports an error. -/
  | explorer (text : String)
  /-- Looking up a function and calling it took too long. -/
  | timeout (address function : String)
  | config (problem : ConfigProblem)
  | file (problem : FileProblem)
deriving Repr, DecidableEq

/-- **The wording of a failure.** -/
def Failure.message : Failure → String
  | .contractNotFound address chain => "no contract found at " ++ address ++ " on " ++ chain
  | .unknownChain name => "chain '" ++ name ++ "' is not configured"
  | .functionNotFound address chain function =>
    "no function '" ++ function ++ "' returning a single address in the ABI of " ++ address
      ++ " on " ++ chain
  | .abi problem => "abi: " ++ problem.message
  | .rpc problem => "rpc: " ++ problem.message
  | .http => "http"
  | .json => "json"
  | .explorer text => "explorer: " ++ text
  | .timeout address function => "call to " ++ function ++ " on " ++ address ++ " timed out"
  | .config (.unreadable path cause) =>
    "config: cannot read '" ++ path ++ "': " ++ cause.message
  | .config .malformed => "config"
  | .config (.noApiKey chain) => "config: no API key for the explorer of " ++ chain
  | .file problem => problem.message

/-- A refused argument as a failure. -/
def Failure.ofArgument : ArgumentProblem → Failure
  | .abi problem => .abi problem
  | .hexNumber text cause => .rpc (.argument text cause)
  | .count function expected given => .rpc (.argumentCount function expected given)

/-- A refused result as a failure. -/
def Failure.ofReturn : ReturnProblem → Failure
  | .abi problem => .abi problem
  | .badAddress function => .rpc (.badAddress function)
  | .notOneAddress function count => .rpc (.notOneAddress function count)

end AddressTrace
