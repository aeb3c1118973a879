import AddressTrace.Abi.Kind
import AddressTrace.Abi.Problem
import AddressTrace.Json.Fields

/-!
# Interfaces of contracts

The functions that a contract can be called by, as its interface lists them in JSON.  The other
entries of an interface are read too, since a malformed one makes the whole unreadable.

## Main definitions

* `Method`, `Interface` — a function with the types of its parameters, and all functions;
* `Interface.ofJson` — the interface that a JSON text holds;
* `Interface.addressMethod?` — the overload of a name that returns one address;
* `Interface.method?` — that overload, or else the first one.
-/

namespace AddressTrace.Abi

open Json Text

/-- **A function** with the types of what it takes and returns. -/
structure Method where
  name : String
  inputs : List Kind
  outputs : List Kind
deriving Repr

instance : Inhabited Method := ⟨⟨"", [], []⟩⟩

namespace Method

/-- **The signature that tells overloads apart.** -/
def signature (m : Method) : String := m.name ++ (Kind.tuple m.inputs).name

/-- The signature with the returned types behind it, if there are any. -/
def fullSignature (m : Method) : String :=
  if m.outputs.isEmpty then m.signature else m.signature ++ ":" ++ (Kind.tuple m.outputs).name

/-- Does the function return one address and nothing else? -/
def returnsAddress (m : Method) : Bool :=
  match m.outputs with
  | [output] => output.isAddress
  | _ => false

end Method

/-- **The functions of a contract** by name, the overloads of a name as written. -/
structure Interface where
  overloads : SortedMap String (List Method)

namespace Interface

/-- The interface without functions. -/
def empty : Interface := ⟨.empty⟩

/-- The interface with one more function, behind the overloads of its name. -/
def push (i : Interface) (m : Method) : Interface :=
  ⟨i.overloads.insert m.name ((i.overloads.find? m.name).getD [] ++ [m])⟩

/-- The overloads of a name. -/
def named (i : Interface) (name : String) : List Method := (i.overloads.find? name).getD []

/-- All functions, in ascending order of their names. -/
def methods (i : Interface) : List Method := i.overloads.values.flatten

/-- **The overload that returns one address**, the first one if there are several. -/
def addressMethod? (i : Interface) (name : String) : Option Method :=
  (i.named name).find? Method.returnsAddress

/-- The overload that returns one address, or else the first one of the name. -/
def method? (i : Interface) (name : String) : Option Method :=
  (i.addressMethod? name).or (i.named name).head?

/-- **The names of functions that return one address**, in ascending order. -/
def addressFunctions (i : Interface) : List String :=
  (i.overloads.toList.filter fun e => e.2.any Method.returnsAddress).map Prod.fst

end Interface

/-! ### Reading -/

/-- A truth value. -/
def flag? : Form → Option Bool
  | .bool b => some b
  | _ => none

/-- The type of a parameter whose description nests at most so deep.  A parameter has a name unless
it is a component of a tuple.  Where its innermost type is a tuple, the components are added to
it. -/
def kindWithin? (levels : Nat) (named : Bool) : Form → Option Kind
  | .object members => do
    let name ← onlyMember? "name" members
    let _ ← if named then required Form.text? name else optional "" Form.text? name
    let kind ← required (fun f => f.text?.bind Kind.ofName?) (← onlyMember? "type" members)
    let _ ← optional "" Form.text? (← onlyMember? "internalType" members)
    let components ← onlyMember? "components" members
    match levels with
    | 0 => if components.isSome || kind.endsInTuple then none else some kind
    | levels + 1 =>
      let components ←
        optional none (fun f => (f.list? (kindWithin? levels false)).map some) components
      if kind.endsInTuple then components.map fun more => kind.extend more else some kind
  | _ => none

/-- The types of some parameters. -/
def kinds? (form : Form) : Option (List Kind) := form.list? (kindWithin? maxLevels true)

/-- A parameter of an event, whose type may be given as for other parameters. -/
def eventParameter? : Form → Option Kind
  | .object members => do
    let _ ← optional false flag? (← onlyMember? "indexed" members)
    kindWithin? maxLevels true (.object (members.filter fun m => m.1 != some "internalType"))
  | _ => none

/-- An alternative, written as a word, or as the only member of an object with nothing as its
value. -/
def alternative? : Form → Option String
  | .string word => word
  | .object [(word, .null)] => word
  | .object [(word, .object [])] => word
  | _ => none

/-- How a function treats the state of its contract. -/
def mutability? (form : Form) : Option String := do
  let word ← alternative? form
  if ["pure", "view", "nonpayable", "payable"].contains word then return word else none

/-- The name of an entry up to its first parenthesis. -/
def entryName? (form : Form) : Option String :=
  form.text?.map fun name => String.ofList (name.toList.takeWhile (· != '('))

/-- The function that an entry describes. -/
def method? (members : List (Option String × Form)) : Option Method := do
  let name ← required entryName? (← onlyMember? "name" members)
  let inputs ← required kinds? (← onlyMember? "inputs" members)
  let outputs ← required kinds? (← onlyMember? "outputs" members)
  let _ ← optional none (Form.nullable? flag?) (← onlyMember? "constant" members)
  let _ ← optional "nonpayable" mutability? (← onlyMember? "stateMutability" members)
  return { name, inputs, outputs }

/-- **An entry of an interface**, as the function that it describes if it describes one. -/
def entry? : Form → Option (Option Method)
  | .object members => do
    match ← required Form.text? (← onlyMember? "type" members) with
    | "function" => (method? members).map some
    | "constructor" =>
      let _ ← required kinds? (← onlyMember? "inputs" members)
      return none
    | "event" =>
      let _ ← required entryName? (← onlyMember? "name" members)
      let _ ← required (Form.list? eventParameter?) (← onlyMember? "inputs" members)
      let _ ← required flag? (← onlyMember? "anonymous" members)
      return none
    | "error" =>
      let _ ← required entryName? (← onlyMember? "name" members)
      let _ ← required kinds? (← onlyMember? "inputs" members)
      return none
    | "fallback" | "receive" => return none
    | _ => none
  | _ => none

/-- **The interface of a JSON text**: an array of entries, in which every part has a value. -/
def Interface.ofJson (text : String) : Except Problem Interface :=
  let read : Option (List (Option Method)) := do
    let form ← Form.parse? text
    let _ ← form.value?
    form.list? entry?
  match read with
  | some entries => .ok ((entries.filterMap id).foldl Interface.push .empty)
  | none => .error .unreadable

end AddressTrace.Abi
