import AddressTrace.Json.Fields
import AddressTrace.Json.Writer

/-!
# Contract records

One verified source file of a deployed contract, with what the explorer knows of the contract,
and its JSON form.

## Main definitions

* `ContractRecord` — the record;
* `ContractRecord.ofJson?` — the record that a JSON text holds;
* `ContractRecord.value`, `ContractRecord.json` — the JSON form of a record.
-/

namespace AddressTrace

open Json

/-- **One verified source file of a deployed contract.** -/
structure ContractRecord where
  address : String
  chain : String
  path : String
  name : String
  sourceCode : String
  /-- The descriptor of the libraries that the contract is linked with. -/
  library : String
  /-- The interface of the contract as a JSON text. -/
  abi : Option String
deriving Repr, DecidableEq

namespace ContractRecord

/-- The names of the fields in JSON, in their order. -/
def fieldNames : List String :=
  ["address", "chain", "contractPath", "contractName", "sourceCode", "library", "abi"]

/-- The record that a form describes.  The library may be missing and is empty then; the interface
may be missing or null. -/
def ofForm? (form : Form) : Option ContractRecord := do
  match ← form.fields? fieldNames with
  | [address, chain, path, name, sourceCode, library, abi] =>
    let address ← required Form.text? address
    let chain ← required Form.text? chain
    let path ← required Form.text? path
    let name ← required Form.text? name
    let sourceCode ← required Form.text? sourceCode
    let library ← optional "" Form.text? library
    let abi ← optional none (Form.nullable? Form.text?) abi
    return { address, chain, path, name, sourceCode, library, abi }
  | _ => none

/-- **The record of a JSON text.** -/
def ofJson? (text : String) : Option ContractRecord := (Form.parse? text).bind ofForm?

/-- A record as a JSON value, its fields in order. -/
def value (r : ContractRecord) : Value :=
  .object [("address", .string r.address), ("chain", .string r.chain),
    ("contractPath", .string r.path), ("contractName", .string r.name),
    ("sourceCode", .string r.sourceCode), ("library", .string r.library),
    ("abi", (r.abi.map Value.string).getD .null)]

/-- **The JSON text of a record.** -/
def json (r : ContractRecord) : String := r.value.compact

end ContractRecord

end AddressTrace
