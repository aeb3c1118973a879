import AddressTrace.Contract.Record
import AddressTrace.Failure
import AddressTrace.Text.Blank

/-!
# Etherscan responses

What an explorer of the Etherscan kind answers when it is asked for the source of a contract.

## Main definitions

* `Etherscan.sources` — the files that the source text of a contract holds;
* `Etherscan.records` — the records of a response.

The source text has one of three forms: compiler input in a second pair of braces, a map from paths
to files, or a single file.
-/

namespace AddressTrace.Etherscan

open Json Text

/-- How deep the value of a member may nest. -/
def memberLevels : Nat := maxLevels - 1

/-- **Files by path**, each with its text. -/
abbrev Files := SortedMap String String

/-- The text of a file. -/
def file? (form : Form) : Option String := do
  match ← form.fields? ["content"] with
  | [content] => required Form.text? content
  | _ => none

/-- The files of a map from paths to files. -/
def files? (form : Form) : Option Files := form.entries? file?

/-- The files of compiler input, all else of which is passed over. -/
def compilerInput? (form : Form) : Option Files := do
  match ← form.fields? ["sources"] with
  | [sources] => required files? sources
  | _ => none

/-- The text between an opening and a closing brace. -/
def insideBraces? (cs : List Char) : Option (List Char) :=
  match cs with
  | first :: rest =>
    if first = openBrace ∧ rest.getLast? = some closeBrace then some rest.dropLast else none
  | [] => none

/-- The files of a source text that is compiler input in a second pair of braces. -/
def wrappedInput? (source : List Char) : Option Files := do
  let inner ← insideBraces? (trimChars source)
  compilerInput? (← Form.parseChars? inner)

/-- The files of a source text that is a map from paths to files. -/
def fileMap? (source : List Char) : Option Files := do
  let _ ← insideBraces? (trimChars source)
  files? (← Form.parseChars? (trimChars source))

/-- **The files of a source text**, in ascending order of their paths.  What has neither of the
two structured forms is a single file, named for the contract. -/
def sources (contractName source : String) : List (String × String) :=
  match (wrappedInput? source.toList).or (fileMap? source.toList) with
  | some files => files.toList
  | none => [("/" ++ contractName ++ ".sol", source)]

/-- **A contract as the explorer lists it.** -/
structure Contract where
  sourceCode : String
  abi : String
  name : String
  library : String
deriving Repr, DecidableEq

/-- The contract that a value describes; the library may be missing. -/
def contract? (value : Value) : Option Contract := do
  match ← value.fields? ["SourceCode", "ABI", "ContractName", "Library"] with
  | [sourceCode, abi, name, library] =>
    return {
      sourceCode := ← required Value.text? sourceCode
      abi := ← required Value.text? abi
      name := ← required Value.text? name
      library := ← optional "" Value.text? library }
  | _ => none

/-- The contracts that a value lists. -/
def contracts? : Value → Option (List Contract)
  | .array items => items.mapM contract?
  | _ => none

/-- The records of a contract, one for each of its files; none if it is not verified. -/
def Contract.records (address chain : String) (c : Contract) : List ContractRecord :=
  if c.sourceCode.isEmpty then []
  else (sources c.name c.sourceCode).map fun (path, sourceCode) =>
    { address, chain, path, name := c.name, sourceCode, library := c.library, abi := some c.abi }

/-- The status and the result of a response. -/
def response? (form : Form) : Option (String × Value) := do
  match ← form.fields? ["status", "result"] with
  | [status, result] =>
    return (← required Form.text? status, ← required (Form.valueWithin? memberLevels) result)
  | _ => none

/-- The text of an error that a response reports. -/
def errorText : Value → String
  | .string text => text
  | value => value.compact

/-- **The records of a response.**  Only the first contract that it lists counts. -/
def records (address chain response : String) : Except Failure (List ContractRecord) :=
  match (Form.parse? response).bind response? with
  | none => .error .json
  | some (status, result) =>
    if status ≠ "1" then .error (.explorer (errorText result))
    else
      match contracts? result with
      | none => .error .json
      | some [] => .ok []
      | some (c :: _) => .ok (c.records address chain)

end AddressTrace.Etherscan
