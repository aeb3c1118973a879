import AddressTrace.Contract.Record
import AddressTrace.Failure
import AddressTrace.Linkage.Descriptor

/-!
# Blockscout responses

What an explorer of the Blockscout kind answers when it is asked for a contract.

## Main definitions

* `Blockscout.Contract` — a contract as the explorer describes it;
* `Blockscout.records` — the records of a response.
-/

namespace AddressTrace.Blockscout

open Json Text

/-- How deep the value of a member may nest. -/
def memberLevels : Nat := maxLevels - 1

/-- **A contract as the explorer describes it.** -/
structure Contract where
  name : String
  path : Option String
  /-- Nothing for a contract that is not verified. -/
  sourceCode : Option String
  abi : Option Value
  /-- The paths and texts of further files. -/
  additional : List (String × String)
  /-- The names and addresses of linked libraries. -/
  libraries : List (String × String)

/-- A pair of texts. -/
def pair? (first second : String) (form : Form) : Option (String × String) := do
  match ← form.fields? [first, second] with
  | [a, b] => return (← required Form.text? a, ← required Form.text? b)
  | _ => none

/-- The contract that a form describes; only its name must be there. -/
def contract? (form : Form) : Option Contract := do
  match ← form.fields?
    ["name", "file_path", "source_code", "abi", "additional_sources", "external_libraries"] with
  | [name, path, sourceCode, abi, additional, libraries] =>
    return {
      name := ← required Form.text? name
      path := ← optional none (Form.nullable? Form.text?) path
      sourceCode := ← optional none (Form.nullable? Form.text?) sourceCode
      abi := ← optional none (Form.nullable? (Form.valueWithin? memberLevels)) abi
      additional := ← optional [] (Form.list? (pair? "file_path" "source_code")) additional
      libraries := ← optional [] (Form.list? (pair? "name" "address_hash")) libraries }
  | _ => none

/-- A library as it is written into a linkage descriptor. -/
def link (library : String × String) : String × String :=
  (library.1, String.ofList (withoutMarkers library.2.toList))

/-- **The records of a contract**, its main file first; none if it is not verified. -/
def Contract.records (address chain : String) (c : Contract) : List ContractRecord :=
  match c.sourceCode with
  | none => []
  | some sourceCode =>
    let main := c.path.getD ("/" ++ c.name ++ ".sol")
    ((main, sourceCode) :: c.additional).map fun (path, sourceCode) =>
      { address, chain, path, name := c.name, sourceCode
        library := Linkage.descriptor (c.libraries.map link)
        abi := c.abi.map Value.compact }

/-- **The records of a response.** -/
def records (address chain response : String) : Except Failure (List ContractRecord) :=
  match (Form.parse? response).bind contract? with
  | none => .error .json
  | some c => .ok (c.records address chain)

end AddressTrace.Blockscout
