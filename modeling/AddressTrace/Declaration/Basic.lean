import AddressTrace.Address
import AddressTrace.Tree.Basic

/-!
# Declarations of addresses

Variables that are declared with an address literal as their value.  A declaration counts when it
declares exactly one variable, with a name, and its value is a number that looks like an address.

## Main definitions

* `Declaration` — such a declaration;
* `addressDeclaration?` — is this one?
-/

namespace AddressTrace

open Text

/-- **A variable declared with an address literal.** -/
structure Declaration where
  name : String
  /-- The identifier that declares it. -/
  identifier : NodeId
  /-- The node around the declaration. -/
  parent : Option NodeId
  /-- The literal as written. -/
  address : String
deriving Repr, DecidableEq

/-- The address that a node writes down, if it is a number that looks like one. -/
def addressLiteral? (t : SyntaxTree) (id : NodeId) : Option String :=
  match t.kind? id with
  | some (.number text) => if Address.isAddressLike text then some text else none
  | _ => none

/-- The name of a declared variable and its declaring identifier. -/
def declaredName? (t : SyntaxTree) (id : NodeId) : Option (String × NodeId) :=
  match t.kind? id with
  | some (.declared (some name) (some identifier)) => some (name, identifier)
  | _ => none

/-- **The declaration of an address** that some variables and a value make up: the value is an
address literal and the variables are exactly one. -/
def addressDeclaration? (t : SyntaxTree) (parent : Option NodeId) (declared : List NodeId)
    (value : Option NodeId) : Option Declaration :=
  match value.bind (addressLiteral? t), declared with
  | some address, [declared] =>
    (declaredName? t declared).map fun (name, identifier) => ⟨name, identifier, parent, address⟩
  | _, _ => none

end AddressTrace
