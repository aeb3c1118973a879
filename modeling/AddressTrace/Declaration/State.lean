import AddressTrace.Data.Assoc
import AddressTrace.Declaration.Basic

/-!
# State variables

The table of the variables in the storage of contracts.  It knows offsets only: an identifier
stands for the variable of its name that was declared last before it, whatever contract that is
in.

## Main definitions

* `StateTable` — the table;
* `StateTable.find?` — the variable that an identifier at an offset stands for;
* `stateDeclarations`, `StateTable.ofTree` — the declarations of a tree and their table.
-/

namespace AddressTrace

open Text

/-- **Addresses of state variables**, by the name and the offset of their declarations. -/
structure StateTable where
  entries : Assoc (String × Nat) String
deriving Repr, DecidableEq

namespace StateTable

/-- The table without variables. -/
def empty : StateTable := ⟨.empty⟩

/-- The number of variables. -/
def size (table : StateTable) : Nat := table.entries.size

/-- Is there no variable at all? -/
def isEmpty (table : StateTable) : Bool := table.entries.isEmpty

/-- Enters a variable, in place of one of the same name at the same offset. -/
def add (table : StateTable) (name : String) (offset : Nat) (address : String) : StateTable :=
  ⟨table.entries.insert (name, offset) address⟩

/-- Of two candidates the one at the greater offset. -/
def later (best : Option (Nat × String)) (offset : Nat) (address : String) :
    Option (Nat × String) :=
  match best with
  | none => some (offset, address)
  | some b => if b.1 ≤ offset then some (offset, address) else some b

/-- **The variable that an identifier at an offset stands for**: of the variables of its name
declared at or before the offset the one declared last, with the offset of its declaration. -/
def find? (table : StateTable) (name : String) (offset : Nat) : Option (Nat × String) :=
  table.entries.entries.foldl
    (fun best ((n, o), address) => if n = name ∧ o ≤ offset then later best o address else best)
    none

/-- Enters a declaration whose identifier has a known place. -/
def addDeclaration (t : SyntaxTree) (table : StateTable) (d : Declaration) : StateTable :=
  match t.span? d.identifier with
  | some span => table.add d.name span.start d.address
  | none => table

end StateTable

/-- The declaration that a node is, if it is one of a state variable with an address. -/
def stateDeclaration? (t : SyntaxTree) (id : NodeId) : Option Declaration :=
  match t.kind? id with
  | some (.stateDeclaration declared value) =>
    addressDeclaration? t (t.parent? id) [declared] value
  | _ => none

/-- **The state variables declared with an address**, in the order of a walk. -/
def stateDeclarations (t : SyntaxTree) : List Declaration :=
  t.walk.filterMap (stateDeclaration? t)

/-- **The table of the state variables of a tree.** -/
def StateTable.ofTree (t : SyntaxTree) : StateTable :=
  (stateDeclarations t).foldl (StateTable.addDeclaration t) .empty

end AddressTrace
